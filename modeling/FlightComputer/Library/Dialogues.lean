import FlightComputer.Library.Raising
import FlightComputer.Library.Runs
import Mathlib.Control.Lawful

/-!
# Dialogues with a world that moves on its own

A dialogue is a program that performs operations and continues with the replies. It may be
performed in any monad that has the operations (`Dialogue.perform`). Or it is one of two parties:
it performs its operations on a state that the other party, the world, changes between any two of
them (`World.Step`), and both take their steps in every possible order.

`Holds` says that a dialogue, whatever the world does, performs its operations under a condition
only and ends in states of a kind. Its rules follow the dialogue and ask that what is assumed
between two operations is stable, that is, kept by the world. What holds of a dialogue is true in
every run of the two parties (`Holds.of_run`).
-/

set_option autoImplicit false

namespace FlightComputer.Library

/-- A program that performs operations and continues with the replies. -/
inductive Dialogue (Op : Type) (Reply : Op → Type) (α : Type) : Type where
  | done (value : α)
  | call (operation : Op) (next : Reply operation → Dialogue Op Reply α)

namespace Dialogue

variable {Op : Type} {Reply : Op → Type} {α β : Type}

/-- One dialogue after the other. -/
def bind : Dialogue Op Reply α → (α → Dialogue Op Reply β) → Dialogue Op Reply β
  | .done value, rest => rest value
  | .call operation next, rest => .call operation fun reply => (next reply).bind rest

instance : Monad (Dialogue Op Reply) where
  pure := .done
  bind := bind

theorem done_bind (value : α) (rest : α → Dialogue Op Reply β) :
    ((Dialogue.done value : Dialogue Op Reply α) >>= rest) = rest value := rfl

theorem call_bind (operation : Op) (next : Reply operation → Dialogue Op Reply α)
    (rest : α → Dialogue Op Reply β) :
    ((Dialogue.call operation next : Dialogue Op Reply α) >>= rest) =
      .call operation fun reply => next reply >>= rest := rfl

instance : LawfulMonad (Dialogue Op Reply) :=
  LawfulMonad.mk' (Dialogue Op Reply)
    (fun dialogue => by
      induction dialogue with
      | done value => rfl
      | call operation next ih => exact congrArg (Dialogue.call operation) (funext ih))
    (fun _ _ => rfl)
    (fun dialogue first second => by
      induction dialogue with
      | done value => rfl
      | call operation next ih => exact congrArg (Dialogue.call operation) (funext ih))

/-- A single operation. -/
def operation (operation : Op) : Dialogue Op Reply (Reply operation) := .call operation .done

/-- **What a dialogue may return**, with some replies to its operations. -/
inductive Returns : Dialogue Op Reply α → α → Prop where
  | done (value : α) : Returns (.done value) value
  | call {operation : Op} {next : Reply operation → Dialogue Op Reply α} {reply : Reply operation}
      {value : α} (later : Returns (next reply) value) : Returns (.call operation next) value

/-- The dialogue that comes second starts with what the first one may return. -/
theorem Returns.of_bind {first : Dialogue Op Reply α} {rest : α → Dialogue Op Reply β} {value : β}
    (returns : Returns (first >>= rest) value) :
    ∃ between, Returns first between ∧ Returns (rest between) value := by
  induction first with
  | done between => exact ⟨between, .done between, returns⟩
  | call operation next ih =>
      rw [call_bind] at returns
      cases returns with
      | call later =>
          obtain ⟨between, earlier, later⟩ := ih _ later
          exact ⟨between, .call earlier, later⟩

/-! ## Performing a dialogue -/

section Perform

variable {m : Type → Type} [Monad m] (handle : (operation : Op) → m (Reply operation))

/-- A dialogue performed with the operations of a monad. -/
def perform : Dialogue Op Reply α → m α
  | .done value => pure value
  | .call operation next => handle operation >>= fun reply => (next reply).perform

@[simp] theorem perform_done (value : α) :
    (Dialogue.done value : Dialogue Op Reply α).perform handle = pure value := rfl

theorem perform_call (operation : Op) (next : Reply operation → Dialogue Op Reply α) :
    (Dialogue.call operation next).perform handle =
      handle operation >>= fun reply => (next reply).perform handle := rfl

variable [LawfulMonad m]

@[simp] theorem perform_operation (operation : Op) :
    (Dialogue.operation operation : Dialogue Op Reply _).perform handle = handle operation := by
  show (handle operation >>= fun reply => pure reply) = handle operation
  exact bind_pure _

/-- **Performing respects the order.** -/
@[simp] theorem perform_bind (first : Dialogue Op Reply α) (rest : α → Dialogue Op Reply β) :
    (first >>= rest).perform handle =
      first.perform handle >>= fun value => (rest value).perform handle := by
  induction first with
  | done value =>
      rw [done_bind, perform_done, pure_bind]
  | call operation next ih =>
      rw [call_bind, perform_call, perform_call, bind_assoc]
      exact congrArg _ (funext ih)

end Perform

end Dialogue

/-! ## The two parties -/

/-- What surrounds a dialogue: the moves of the other party, with their labels, and the replies
to the operations, with what they do to the state. -/
structure World (σ ι Op : Type) (Reply : Op → Type) where
  moves : σ → ι → σ → Prop
  replies : σ → (operation : Op) → Reply operation → σ → Prop

/-- Whose turn it was. -/
inductive Turn (ι Op : Type) where
  | other (label : ι)
  | own (operation : Op)

namespace World

variable {σ ι Op : Type} {Reply : Op → Type} {α β : Type} (world : World σ ι Op Reply)

/-- **A step of the two parties**: the other one moves, or the dialogue performs its next
operation. -/
inductive Step : σ × Dialogue Op Reply α → Turn ι Op → σ × Dialogue Op Reply α → Prop where
  | other {s t : σ} {label : ι} {dialogue : Dialogue Op Reply α} (moved : world.moves s label t) :
      Step (s, dialogue) (.other label) (t, dialogue)
  | own {s t : σ} {operation : Op} {next : Reply operation → Dialogue Op Reply α}
      {reply : Reply operation} (replied : world.replies s operation reply t) :
      Step (s, .call operation next) (.own operation) (t, next reply)

/-- What the moves of the other party keep. -/
def Stable (assertion : σ → Prop) : Prop :=
  ∀ s label t, assertion s → world.moves s label t → assertion t

/-- A world that moves and replies under conditions only. -/
def restricted (mayMove : σ → ι → Prop) (mayPerform : σ → Op → Prop) : World σ ι Op Reply where
  moves s label t := world.moves s label t ∧ mayMove s label
  replies s operation reply t := world.replies s operation reply t ∧ mayPerform s operation

/-- What several moves lead to. -/
def Reaches (s t : σ) : Prop := ∃ labels, Run world.moves s labels t

variable {world}

/-- What holds under a premise. -/
theorem Stable.imp {premise : Prop} {assertion : σ → Prop}
    (stable : premise → world.Stable assertion) : world.Stable fun s => premise → assertion s :=
  fun s label t holds moved premise => stable premise s label t (holds premise) moved

theorem Stable.reaches {assertion : σ → Prop} (stable : world.Stable assertion) {s t : σ}
    (holds : assertion s) (reaches : world.Reaches s t) : assertion t := by
  obtain ⟨labels, run⟩ := reaches
  exact run.invariant stable holds

theorem Stable.true : world.Stable fun _ => True := fun _ _ _ _ _ => trivial

theorem Stable.exists {ι' : Type} {assertion : ι' → σ → Prop}
    (stable : ∀ index, world.Stable (assertion index)) :
    world.Stable fun s => ∃ index, assertion index s := by
  rintro s label t ⟨index, holds⟩ moved
  exact ⟨index, stable index s label t holds moved⟩

/-- What holds beside a fact. -/
theorem Stable.beside {fact : Prop} {assertion : σ → Prop} (stable : world.Stable assertion) :
    world.Stable fun s => fact ∧ assertion s :=
  fun s label t holds moved => ⟨holds.1, stable s label t holds.2 moved⟩

theorem Reaches.refl (s : σ) : world.Reaches s s := ⟨[], .refl s⟩

theorem Reaches.head {s t u : σ} {label : ι} (moved : world.moves s label t)
    (reaches : world.Reaches t u) : world.Reaches s u := by
  obtain ⟨labels, run⟩ := reaches
  exact ⟨label :: labels, .head moved run⟩

variable (world)

/-! ## What holds of a dialogue -/

/-- A dialogue started in a state performs its operations under the guard only, and what it ends
with meets the condition, whatever the other party does. -/
def Keeps (guard : σ → Op → Prop) (after : α → σ → Prop) : Dialogue Op Reply α → σ → Prop
  | .done value, s => ∀ t, world.Reaches s t → after value t
  | .call operation next, s => ∀ t, world.Reaches s t →
      guard t operation ∧ ∀ reply u, world.replies t operation reply u →
        Keeps guard after (next reply) u

/-- **What holds of a dialogue** that is started under a condition. -/
def Holds (guard : σ → Op → Prop) (before : σ → Prop) (dialogue : Dialogue Op Reply α)
    (after : α → σ → Prop) : Prop :=
  ∀ s, before s → world.Keeps guard after dialogue s

variable {world} {guard : σ → Op → Prop} {after : α → σ → Prop} {dialogue : Dialogue Op Reply α}

/-- The guard, when an operation comes next. -/
theorem Keeps.guard_of_call {operation : Op} {next : Reply operation → Dialogue Op Reply α} {s : σ}
    (keeps : world.Keeps guard after (.call operation next) s) : guard s operation :=
  (keeps s (.refl s)).1

theorem Keeps.after_of_done {value : α} {s : σ}
    (keeps : world.Keeps guard after (.done value) s) : after value s :=
  keeps s (.refl s)

theorem Keeps.moved {s t : σ} {label : ι} (keeps : world.Keeps guard after dialogue s)
    (moved : world.moves s label t) : world.Keeps guard after dialogue t := by
  cases dialogue with
  | done value => exact fun u reaches => keeps u (.head moved reaches)
  | call operation next => exact fun u reaches => keeps u (.head moved reaches)

/-- **Every step keeps it.** -/
theorem Keeps.step {s t : σ × Dialogue Op Reply α} {turn : Turn ι Op}
    (keeps : world.Keeps guard after s.2 s.1) (step : world.Step s turn t) :
    world.Keeps guard after t.2 t.1 := by
  cases step with
  | other moved => exact keeps.moved moved
  | own replied => exact (keeps _ (.refl _)).2 _ _ replied

theorem Keeps.mono {after' : α → σ → Prop} {s : σ} (keeps : world.Keeps guard after dialogue s)
    (last : ∀ value t, after value t → after' value t) : world.Keeps guard after' dialogue s := by
  induction dialogue generalizing s with
  | done value => exact fun t reaches => last value t (keeps t reaches)
  | call operation next ih =>
      intro t reaches
      obtain ⟨allowed, later⟩ := keeps t reaches
      exact ⟨allowed, fun reply u replied => ih reply (later reply u replied)⟩

/-- **What holds of a dialogue is true in every run.** -/
theorem Holds.of_run {before : σ → Prop} (holds : world.Holds guard before dialogue after)
    {first : σ} (ready : before first) {turns : List (Turn ι Op)} {s : σ}
    {rest : Dialogue Op Reply α} (run : Run world.Step (first, dialogue) turns (s, rest)) :
    (∀ operation next, rest = .call operation next → guard s operation) ∧
      ∀ value, rest = .done value → after value s := by
  have keeps : world.Keeps guard after rest s :=
    run.invariant (I := fun s => world.Keeps guard after s.2 s.1)
      (fun _ _ _ keeps step => keeps.step step) (holds first ready)
  refine ⟨?_, ?_⟩
  · rintro operation next rfl
    exact keeps.guard_of_call
  · rintro value rfl
    exact keeps.after_of_done

namespace Holds

variable {before : σ → Prop}

theorem done {value : α} (stable : world.Stable (after value)) (holds : ∀ s, before s → after value s) :
    world.Holds guard before (.done value) after :=
  fun s first _ reaches => stable.reaches (holds s first) reaches

/-- **One operation**, and what follows every reply. -/
theorem call {operation : Op} {next : Reply operation → Dialogue Op Reply α}
    {between : Reply operation → σ → Prop} (stable : world.Stable before)
    (allowed : ∀ s, before s → guard s operation)
    (effect : ∀ s reply t, before s → world.replies s operation reply t → between reply t)
    (later : ∀ reply, world.Holds guard (between reply) (next reply) after) :
    world.Holds guard before (.call operation next) after := by
  intro s first t reaches
  have now := stable.reaches first reaches
  exact ⟨allowed t now, fun reply u replied => later reply u (effect t reply u now replied)⟩

/-- **One dialogue after the other.** -/
theorem bind {rest : α → Dialogue Op Reply β} {between : α → σ → Prop} {after : β → σ → Prop}
    (first : world.Holds guard before dialogue between)
    (second : ∀ value, world.Holds guard (between value) (rest value) after) :
    world.Holds guard before (dialogue >>= rest) after := by
  intro s ready
  replace first := first s ready
  clear ready
  induction dialogue generalizing s with
  | done value => exact second value s first.after_of_done
  | call operation next ih =>
      intro t reaches
      obtain ⟨allowed, later⟩ := first t reaches
      exact ⟨allowed, fun reply u replied => ih reply u (later reply u replied)⟩

/-- **A single operation.** -/
theorem operation {operation : Op} {after : Reply operation → σ → Prop}
    (stable : world.Stable before) (stable' : ∀ reply, world.Stable (after reply))
    (allowed : ∀ s, before s → guard s operation)
    (effect : ∀ s reply t, before s → world.replies s operation reply t → after reply t) :
    world.Holds guard before (Dialogue.operation operation) after :=
  Holds.call stable allowed effect fun reply => Holds.done (stable' reply) fun _ holds => holds

/-- What holds from each of several conditions. -/
theorem exists_before {ι' : Type} {before : ι' → σ → Prop}
    (holds : ∀ index, world.Holds guard (before index) dialogue after) :
    world.Holds guard (fun s => ∃ index, before index s) dialogue after := by
  rintro s ⟨index, ready⟩
  exact holds index s ready

/-- What holds if a fact does. -/
theorem of_fact {fact : Prop} (holds : fact → world.Holds guard before dialogue after) :
    world.Holds guard (fun s => fact ∧ before s) dialogue after :=
  fun s ready => holds ready.1 s ready.2

/-- Weaker before, stronger after. -/
theorem mono {before' : σ → Prop} {after' : α → σ → Prop}
    (holds : world.Holds guard before dialogue after) (first : ∀ s, before' s → before s)
    (last : ∀ value s, after value s → after' value s) :
    world.Holds guard before' dialogue after' :=
  fun s ready => (holds s (first s ready)).mono last

end Holds

end World

/-! ## Dialogues that may raise exceptions -/

/-- A dialogue that returns a value or raises an exception. -/
abbrev RaisingDialogue (ε Op : Type) (Reply : Op → Type) (α : Type) : Type :=
  ExceptT ε (Dialogue Op Reply) α

namespace RaisingDialogue

variable {ε Op : Type} {Reply : Op → Type} {α β : Type}

/-- Return a value or raise an exception. -/
def settle (result : Except ε α) : RaisingDialogue ε Op Reply α := ExceptT.mk (.done result)

/-- End a dialogue with what another one ended with: `try`. -/
def attempt (dialogue : RaisingDialogue ε Op Reply α) :
    RaisingDialogue ε Op Reply (Except ε α) :=
  ExceptT.mk (dialogue.run >>= fun result => .done (.ok result))

/-- What a dialogue may return, if it raises no exception. -/
def Returns (dialogue : RaisingDialogue ε Op Reply α) (value : α) : Prop :=
  Dialogue.Returns dialogue.run (.ok value)

theorem returns_pure {value value' : α}
    (returns : Returns (pure value : RaisingDialogue ε Op Reply α) value') : value' = value := by
  cases returns
  rfl

theorem returns_settle {result : Except ε α} {value : α}
    (returns : Returns (settle result : RaisingDialogue ε Op Reply α) value) :
    result = .ok value := by
  cases returns
  rfl

theorem Returns.of_bind {first : RaisingDialogue ε Op Reply α}
    {rest : α → RaisingDialogue ε Op Reply β} {value : β} (returns : Returns (first >>= rest) value) :
    ∃ between, Returns first between ∧ Returns (rest between) value := by
  obtain ⟨result, earlier, later⟩ := Dialogue.Returns.of_bind returns
  cases result with
  | ok between => exact ⟨between, earlier, later⟩
  | error error => cases later

section Perform

variable {m : Type → Type} [Monad m] (handle : (operation : Op) → m (Reply operation))

/-- A dialogue performed with the operations of a monad. -/
def perform (dialogue : RaisingDialogue ε Op Reply α) : ExceptT ε m α :=
  ExceptT.mk (dialogue.run.perform handle)

variable [LawfulMonad m]

/-- **Performing respects the order**, exceptions included. -/
theorem perform_bind (first : RaisingDialogue ε Op Reply α)
    (rest : α → RaisingDialogue ε Op Reply β) :
    perform handle (first >>= rest) = perform handle first >>= fun value =>
      perform handle (rest value) := by
  show (first.run >>= ExceptT.bindCont rest).perform handle =
    first.run.perform handle >>= ExceptT.bindCont fun value => perform handle (rest value)
  rw [Dialogue.perform_bind]
  refine congrArg _ (funext fun result => ?_)
  cases result with
  | ok value => rfl
  | error error => rfl

end Perform

end RaisingDialogue

namespace World

open Raising (Outcome)

variable {σ ι ε Op : Type} {Reply : Op → Type} {α β : Type} {world : World σ ι Op Reply}
  {guard : σ → Op → Prop} {before : σ → Prop} {after : α → σ → Prop} {raised : ε → σ → Prop}

/-- What a dialogue raises stays true. -/
theorem Stable.outcome (stable : ∀ value, world.Stable (after value))
    (failing : ∀ error, world.Stable (raised error)) (result : Except ε α) :
    world.Stable (Outcome after raised result) := by
  cases result with
  | ok value => exact stable value
  | error error => exact failing error

namespace Holds

/-- **One dialogue after the other**, if no exception is raised. -/
theorem raisingBind {first : RaisingDialogue ε Op Reply α}
    {rest : α → RaisingDialogue ε Op Reply β} {between : α → σ → Prop} {after : β → σ → Prop}
    (failing : ∀ error, world.Stable (raised error))
    (holds : world.Holds guard before first (Outcome between raised))
    (later : ∀ value, world.Holds guard (between value) (rest value) (Outcome after raised)) :
    world.Holds guard before (first >>= rest : RaisingDialogue ε Op Reply β)
      (Outcome after raised) := by
  refine Holds.bind holds fun result => ?_
  cases result with
  | ok value => exact later value
  | error error => exact Holds.done (failing error) fun _ raised => raised

theorem settle {result : Except ε α} (stable : world.Stable (Outcome after raised result))
    (holds : ∀ s, before s → Outcome after raised result s) :
    world.Holds guard before (RaisingDialogue.settle result) (Outcome after raised) :=
  Holds.done stable holds

theorem returns {value : α} (stable : world.Stable (after value))
    (holds : ∀ s, before s → after value s) :
    world.Holds guard before (pure value : RaisingDialogue ε Op Reply α) (Outcome after raised) :=
  fun s first _ reaches => stable.reaches (holds s first) reaches

/-- A dialogue that raises no exception. -/
theorem lift {dialogue : Dialogue Op Reply α} (stable : ∀ value, world.Stable (after value))
    (holds : world.Holds guard before dialogue after) :
    world.Holds guard before (ExceptT.lift dialogue : RaisingDialogue ε Op Reply α)
      (Outcome after raised) :=
  Holds.bind holds fun value _ now _ reaches => (stable value).reaches now reaches

/-- Both outcomes of a dialogue are handled. -/
theorem attempt {dialogue : RaisingDialogue ε Op Reply α}
    {between : Except ε α → σ → Prop} (stable : ∀ result, world.Stable (between result))
    (holds : world.Holds guard before dialogue between) :
    world.Holds guard before (RaisingDialogue.attempt dialogue) (Outcome between raised) :=
  Holds.bind holds fun result _ now _ reaches => (stable result).reaches now reaches

end Holds

end World

end FlightComputer.Library
