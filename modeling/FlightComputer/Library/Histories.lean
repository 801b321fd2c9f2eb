import FlightComputer.Library.Dialogues

/-!
# Dialogues and their histories

The world that gives any reply to any operation and keeps the history: the operations that have
been performed so far, with their replies, in order. What holds of a dialogue in this world is
what it does whatever it is told, and the guard of an operation is a condition on everything that
has happened before it.
-/

set_option autoImplicit false

namespace FlightComputer.Library

/-- An operation with its reply. -/
abbrev Exchange (Op : Type) (Reply : Op → Type) : Type := (operation : Op) × Reply operation

/-- The exchanges of a dialogue so far. -/
abbrev History (Op : Type) (Reply : Op → Type) : Type := List (Exchange Op Reply)

/-- What a dialogue returns if every operation has one reply. -/
def Dialogue.replied {Op : Type} {Reply : Op → Type} {α : Type}
    (replies : (operation : Op) → Reply operation) : Dialogue Op Reply α → α
  | .done value => value
  | .call operation next => (next (replies operation)).replied replies

namespace World

variable {Op : Type} {Reply : Op → Type} {ε α β : Type}

/-- **The world that replies anything** and keeps the history. Nobody else moves. -/
def recording (Op : Type) (Reply : Op → Type) : World (History Op Reply) Empty Op Reply where
  moves _ _ _ := False
  replies history operation reply history' := history' = history ++ [⟨operation, reply⟩]

/-- Between two operations nothing happens. -/
theorem stable_recording (assertion : History Op Reply → Prop) :
    (recording Op Reply).Stable assertion :=
  fun _ _ _ _ moved => moved.elim

variable {guard : History Op Reply → Op → Prop} {before : History Op Reply → Prop}
  {raised : ε → History Op Reply → Prop}

namespace Holds

/-- **One operation** is added to the history, with any reply. -/
theorem recorded {operation : Op} {after : Reply operation → History Op Reply → Prop}
    (allowed : ∀ history, before history → guard history operation)
    (effect : ∀ history reply, before history → after reply (history ++ [⟨operation, reply⟩])) :
    (recording Op Reply).Holds guard before
      (ExceptT.lift (Dialogue.operation operation) : RaisingDialogue ε Op Reply _).run
      (Raising.Outcome after raised) := by
  refine Holds.lift (fun _ => stable_recording _)
    (Holds.operation (stable_recording _) (fun _ => stable_recording _) allowed ?_)
  rintro history reply _ holds rfl
  exact effect history reply holds

/-- **One dialogue after the other**, if no exception is raised. -/
theorem andThen {first : RaisingDialogue ε Op Reply α} {rest : α → RaisingDialogue ε Op Reply β}
    {between : α → History Op Reply → Prop} {after : β → History Op Reply → Prop}
    (holds : (recording Op Reply).Holds guard before first.run (Raising.Outcome between raised))
    (later : ∀ value, (recording Op Reply).Holds guard (between value) (rest value).run
      (Raising.Outcome after raised)) :
    (recording Op Reply).Holds guard before (first >>= rest).run (Raising.Outcome after raised) :=
  Holds.raisingBind (fun _ => stable_recording _) holds later

/-- The result has been settled. -/
theorem ended {result : Except ε α} {after : α → History Op Reply → Prop}
    (holds : ∀ history, before history → Raising.Outcome after raised result history) :
    (recording Op Reply).Holds guard before (RaisingDialogue.settle result).run
      (Raising.Outcome after raised) :=
  Holds.settle (stable_recording _) holds

end Holds

/-- **With a reply to every operation, a dialogue ends.** -/
theorem exists_run_of_replied (replies : (operation : Op) → Reply operation)
    (dialogue : Dialogue Op Reply α) (history : History Op Reply) :
    ∃ turns history', Run (recording Op Reply).Step (history, dialogue) turns
      (history', .done (dialogue.replied replies)) := by
  induction dialogue generalizing history with
  | done value => exact ⟨[], history, .refl _⟩
  | call operation next ih =>
      obtain ⟨turns, history', run⟩ :=
        ih (replies operation) (history ++ [⟨operation, replies operation⟩])
      exact ⟨_, history', .head (.own rfl) run⟩

end World

end FlightComputer.Library
