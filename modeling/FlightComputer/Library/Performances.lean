import FlightComputer.Library.Dialogues

/-!
# What a dialogue performs

The operations that a dialogue performs until it returns, in their order, with some replies
(`Performs`). A dialogue that comes second performs its operations after those of the first one
(`Performs.of_bind`). In a run of the two parties the turns of the dialogue are such operations,
whatever the world does between them (`performs_of_run`).
-/

set_option autoImplicit false

namespace FlightComputer.Library

variable {Op : Type} {Reply : Op → Type} {α β : Type}

namespace Dialogue

/-- **What a dialogue may perform** until it returns a value. -/
inductive Performs : Dialogue Op Reply α → List Op → α → Prop where
  | done (value : α) : Performs (.done value) [] value
  | call {operation : Op} {next : Reply operation → Dialogue Op Reply α} {reply : Reply operation}
      {operations : List Op} {value : α} (later : Performs (next reply) operations value) :
      Performs (.call operation next) (operation :: operations) value

/-- **One dialogue after the other.** -/
theorem Performs.of_bind {first : Dialogue Op Reply α} {rest : α → Dialogue Op Reply β}
    {operations : List Op} {value : β} (performs : Performs (first >>= rest) operations value) :
    ∃ between earlier later, operations = earlier ++ later ∧ Performs first earlier between ∧
      Performs (rest between) later value := by
  induction first generalizing operations with
  | done between => exact ⟨between, [], operations, rfl, .done between, performs⟩
  | call operation next ih =>
      rw [call_bind] at performs
      cases performs with
      | call performs =>
          obtain ⟨between, earlier, later, rfl, first, second⟩ := ih _ performs
          exact ⟨between, operation :: earlier, later, rfl, .call first, second⟩

/-- A single operation performs itself. -/
theorem Performs.of_operation {operation : Op} {operations : List Op} {reply : Reply operation}
    (performs : Performs (Dialogue.operation operation) operations reply) :
    operations = [operation] := by
  cases performs with
  | call later =>
      cases later
      rfl

/-- **A dialogue that is performed in another one** performs what its operations are made of, and
returns what it may return. -/
theorem Performs.of_perform {Op' : Type} {Reply' : Op' → Type}
    {handle : (operation : Op') → Dialogue Op Reply (Reply' operation)} {made : Op → Prop}
    (each : ∀ operation operations reply, Performs (handle operation) operations reply →
      ∀ performed ∈ operations, made performed)
    {dialogue : Dialogue Op' Reply' α} {operations : List Op} {value : α}
    (performs : Performs (dialogue.perform handle) operations value) :
    (∀ performed ∈ operations, made performed) ∧ Returns dialogue value := by
  induction dialogue generalizing operations with
  | done result =>
      cases performs
      exact ⟨fun _ listed => absurd listed List.not_mem_nil, .done value⟩
  | call operation next ih =>
      obtain ⟨reply, earlier, later, rfl, first, second⟩ := performs.of_bind
      obtain ⟨rest, returns⟩ := ih reply second
      refine ⟨fun performed listed => ?_, .call returns⟩
      rcases List.mem_append.mp listed with inside | inside
      · exact each operation earlier reply first performed inside
      · exact rest performed inside

end Dialogue

/-! ## Dialogues that may raise exceptions -/

namespace RaisingDialogue

variable {ε : Type}

/-- What a dialogue may perform until it returns a value, if it raises no exception. -/
def Performs (dialogue : RaisingDialogue ε Op Reply α) (operations : List Op) (value : α) : Prop :=
  Dialogue.Performs dialogue.run operations (.ok value)

theorem performs_pure {value value' : α} {operations : List Op}
    (performs : Performs (pure value : RaisingDialogue ε Op Reply α) operations value') :
    operations = [] ∧ value' = value := by
  cases performs
  exact ⟨rfl, rfl⟩

theorem not_performs_throw {error : ε} {value : α} {operations : List Op} :
    ¬Performs (throw error : RaisingDialogue ε Op Reply α) operations value := by
  intro performs
  cases performs

theorem Performs.of_bind {first : RaisingDialogue ε Op Reply α}
    {rest : α → RaisingDialogue ε Op Reply β} {operations : List Op} {value : β}
    (performs : Performs (first >>= rest) operations value) :
    ∃ between earlier later, operations = earlier ++ later ∧ Performs first earlier between ∧
      Performs (rest between) later value := by
  obtain ⟨result, earlier, later, same, first, second⟩ := Dialogue.Performs.of_bind performs
  cases result with
  | ok between => exact ⟨between, earlier, later, same, first, second⟩
  | error error => cases second

/-- A dialogue whose exceptions are caught. -/
theorem Performs.of_attempt {dialogue : RaisingDialogue ε Op Reply α} {operations : List Op}
    {result : Except ε α} (performs : Performs (attempt dialogue) operations result) :
    Dialogue.Performs dialogue.run operations result := by
  obtain ⟨between, earlier, later, rfl, first, second⟩ := Dialogue.Performs.of_bind performs
  cases second
  rw [List.append_nil]
  exact first

/-- An operation that raises no exception. -/
theorem performs_lift {operation : Op} {operations : List Op} {reply : Reply operation}
    (performs : Performs (ExceptT.lift (Dialogue.operation operation) :
      RaisingDialogue ε Op Reply (Reply operation)) operations reply) : operations = [operation] := by
  cases performs with
  | call later =>
      cases later
      rfl

end RaisingDialogue

/-! ## The turns of a run -/

/-- The operation of a turn of the dialogue. -/
def Turn.own? {ι : Type} : Turn ι Op → Option Op
  | .other _ => none
  | .own operation => some operation

/-- **The turns of a dialogue that has returned** are what it may perform. -/
theorem World.performs_of_run {σ ι : Type} {world : World σ ι Op Reply}
    {dialogue : Dialogue Op Reply α} {s t : σ} {turns : List (Turn ι Op)} {value : α}
    (run : Run world.Step (s, dialogue) turns (t, .done value)) :
    dialogue.Performs (turns.filterMap Turn.own?) value := by
  suffices continued : ∀ last operations,
      Run world.Step (s, dialogue) turns last → last.2.Performs operations value →
        dialogue.Performs (turns.filterMap Turn.own? ++ operations) value by
    have performs := continued (t, .done value) [] run (.done value)
    rwa [List.append_nil] at performs
  intro last operations run performs
  clear *- run performs
  induction run generalizing operations with
  | refl => exact performs
  | tail earlier step ih =>
      rw [List.filterMap_append, List.append_assoc]
      cases step with
      | other moved => exact ih operations performs
      | own replied => exact ih _ (.call performs)

end FlightComputer.Library
