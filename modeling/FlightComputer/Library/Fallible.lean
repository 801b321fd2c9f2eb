import Mathlib.Data.Option.Basic
import Mathlib.Tactic.SplitIfs

/-!
# Calls that may fail, and rules for them

A call works on a state. It has not returned, or it has returned: with a value, or
with a failure, and in both cases the state is what the call has made of it. This is
the shape of C functions that return `bool` and work on static variables and on
hardware.

`Triple before call after failed` says what holds when a call returns, and `Keeps` is
the special case of an invariant. There is one rule for each way calls are composed
(`Triple.bind`, `Triple.orElse`, ...), so that a fact about a function follows from facts
about the functions that it calls.
-/

set_option autoImplicit false

namespace FlightComputer.Library

/-- A call: nothing while it has not returned, else its value, or none for a failure,
with the state. -/
def Fallible (σ α : Type) : Type := σ → Option (Option α × σ)

namespace Fallible

variable {σ α β : Type}

/-- Return a value. -/
def succeed (value : α) : Fallible σ α := fun s => some (some value, s)

/-- One call after the other, if the first one succeeds. -/
def andThen (first : Fallible σ α) (next : α → Fallible σ β) : Fallible σ β := fun s =>
  match first s with
  | none => none
  | some (none, t) => some (none, t)
  | some (some value, t) => next value t

instance : Monad (Fallible σ) where
  pure := succeed
  bind := andThen

/-- Return a failure. -/
def failure : Fallible σ α := fun s => some (none, s)

/-- A call that does not return. -/
def never : Fallible σ α := fun _ => none

/-- Continue with another call if the first one fails. -/
def orElse (first handler : Fallible σ α) : Fallible σ α := fun s =>
  match first s with
  | none => none
  | some (none, t) => handler t
  | some (some value, t) => some (some value, t)

/-- Change the state. -/
def change (update : σ → σ) : Fallible σ Unit := fun s => some (some (), update s)

/-- Read from the state. -/
def ask (field : σ → α) : Fallible σ α := fun s => some (some (field s), s)

/-- Go on if a condition holds, else fail. -/
def check (condition : Bool) : Fallible σ Unit := if condition then pure () else failure

/-- Take the next answer from a list of them; without one, the call does not return. -/
def receive (answers : σ → List α) (rest : List α → σ → σ) : Fallible σ α := fun s =>
  match answers s with
  | [] => none
  | answer :: later => some (some answer, rest later s)

/-- A call that works on a part of the state. -/
def within {τ : Type} (field : σ → τ) (put : τ → σ → σ) (call : Fallible τ α) : Fallible σ α :=
  fun s => (call (field s)).map fun returned => (returned.1, put returned.2 s)

/-- After a call that has succeeded, the other one follows. -/
theorem bind_of_succeeded {first : Fallible σ α} {next : α → Fallible σ β} {s t : σ} {value : α}
    (succeeded : first s = some (some value, t)) : (first >>= next) s = next value t := by
  show andThen first next s = _
  rw [andThen, succeeded]

/-! ## Triples -/

/-- What holds of the result and the state that a call returned. -/
def Outcome (after : α → σ → Prop) (failed : σ → Prop) : Option α → σ → Prop
  | some value, t => after value t
  | none, t => failed t

/-- What holds when a call has returned, if something held before it. -/
def Triple (before : σ → Prop) (call : Fallible σ α) (after : α → σ → Prop)
    (failed : σ → Prop) : Prop :=
  ∀ s result t, before s → call s = some (result, t) → Outcome after failed result t

/-- A call keeps an invariant when it succeeds. -/
def Keeps (invariant failed : σ → Prop) (call : Fallible σ α) : Prop :=
  Triple invariant call (fun _ => invariant) failed

namespace Triple

variable {before : σ → Prop} {after : α → σ → Prop} {failed : σ → Prop}

theorem success {call : Fallible σ α} (triple : Triple before call after failed) {s t : σ}
    {value : α} (holds : before s) (returned : call s = some (some value, t)) : after value t :=
  triple s (some value) t holds returned

theorem fails {call : Fallible σ α} (triple : Triple before call after failed) {s t : σ}
    (holds : before s) (returned : call s = some (none, t)) : failed t :=
  triple s none t holds returned

/-- A call whose outcome is known. -/
theorem of_returns {call : Fallible σ α} {result : σ → Option α} {next : σ → σ}
    (returns : ∀ s, call s = some (result s, next s))
    (holds : ∀ s, before s → Outcome after failed (result s) (next s)) :
    Triple before call after failed := by
  intro s result' t first returned
  rw [returns] at returned
  obtain ⟨rfl, rfl⟩ := Prod.mk.inj (Option.some.inj returned)
  exact holds s first

/-- Weaker before, stronger after. -/
theorem mono {call : Fallible σ α} (triple : Triple before call after failed)
    {before' : σ → Prop} {after' : α → σ → Prop} {failed' : σ → Prop}
    (first : ∀ s, before' s → before s) (last : ∀ value s, after value s → after' value s)
    (failing : ∀ s, failed s → failed' s) : Triple before' call after' failed' := by
  intro s result t holds returned
  cases result with
  | none => exact failing t (triple.fails (first s holds) returned)
  | some value => exact last value t (triple.success (first s holds) returned)

/-- A fact that does not depend on the state. -/
theorem fact {call : Fallible σ α} {p : Prop} (holds : ∀ s, before s → p) :
    Triple before call (fun _ _ => p) fun _ => True := by
  intro s result t first _
  cases result with
  | none => exact True.intro
  | some value => exact holds s first

/-- Nothing is said about a call. -/
theorem any {call : Fallible σ α} : Triple before call (fun _ _ => True) fun _ => True :=
  fact fun _ _ => True.intro

theorem pure {value : α} (holds : ∀ s, before s → after value s) :
    Triple before (Pure.pure value : Fallible σ α) after failed :=
  of_returns (fun _ => rfl) holds

theorem failure (holds : ∀ s, before s → failed s) :
    Triple before (Fallible.failure : Fallible σ α) after failed :=
  of_returns (fun _ => rfl) holds

theorem never : Triple before (Fallible.never : Fallible σ α) after failed := by
  intro s result t _ returned
  exact absurd returned.symm (Option.some_ne_none _)

theorem change {update : σ → σ} {after : Unit → σ → Prop}
    (holds : ∀ s, before s → after () (update s)) :
    Triple before (Fallible.change update) after failed :=
  of_returns (fun _ => rfl) holds

theorem ask {field : σ → α} (holds : ∀ s, before s → after (field s) s) :
    Triple before (Fallible.ask field) after failed :=
  of_returns (fun _ => rfl) holds

theorem receive {answers : σ → List α} {rest : List α → σ → σ}
    (holds : ∀ s answer later, before s → answers s = answer :: later →
      after answer (rest later s)) :
    Triple before (Fallible.receive answers rest) after failed := by
  intro s result t first returned
  rw [Fallible.receive] at returned
  cases held : answers s with
  | nil =>
      rw [held] at returned
      exact absurd returned.symm (Option.some_ne_none _)
  | cons answer later =>
      rw [held] at returned
      obtain ⟨rfl, rfl⟩ := Prod.mk.inj (Option.some.inj returned)
      exact holds s answer later first held

/-- **Sequence.** -/
theorem bind {call : Fallible σ α} {next : α → Fallible σ β} {M : α → σ → Prop}
    {after : β → σ → Prop} (first : Triple before call M failed)
    (second : ∀ value, Triple (M value) (next value) after failed) :
    Triple before (call >>= next) after failed := by
  intro s result u holds whole
  replace whole : andThen call next s = some (result, u) := whole
  rw [andThen] at whole
  cases returned : call s with
  | none =>
      rw [returned] at whole
      exact absurd whole.symm (Option.some_ne_none _)
  | some answer =>
      obtain ⟨value, t⟩ := answer
      rw [returned] at whole
      cases value with
      | none =>
          obtain ⟨rfl, rfl⟩ := Prod.mk.inj (Option.some.inj whole)
          exact first.fails holds returned
      | some value => exact second value t result u (first.success holds returned) whole

/-- **Alternative.** -/
theorem orElse {call handler : Fallible σ α} {M : σ → Prop}
    (first : Triple before call after M) (second : Triple M handler after failed) :
    Triple before (call.orElse handler) after failed := by
  intro s result u holds whole
  rw [Fallible.orElse] at whole
  cases returned : call s with
  | none =>
      rw [returned] at whole
      exact absurd whole.symm (Option.some_ne_none _)
  | some answer =>
      obtain ⟨value, t⟩ := answer
      rw [returned] at whole
      cases value with
      | none => exact second t result u (first.fails holds returned) whole
      | some value =>
          obtain ⟨rfl, rfl⟩ := Prod.mk.inj (Option.some.inj whole)
          exact first.success holds returned

/-- **A call on a part of the state**, by what it makes of each part. -/
theorem within {τ : Type} {field : σ → τ} {put : τ → σ → σ} {call : Fallible τ α}
    {after' : τ → α → τ → Prop} {failed' : τ → τ → Prop}
    (triple : ∀ x, Triple (fun x' => x' = x) call (after' x) (failed' x))
    (last : ∀ s value t, before s → after' (field s) value t → after value (put t s))
    (failing : ∀ s t, before s → failed' (field s) t → failed (put t s)) :
    Triple before (Fallible.within field put call) after failed := by
  intro s result u holds whole
  obtain ⟨⟨answer, t⟩, returned, same⟩ := Option.map_eq_some_iff.mp whole
  obtain ⟨rfl, rfl⟩ := Prod.mk.inj same
  cases answer with
  | none => exact failing s t holds ((triple (field s)).fails rfl returned)
  | some value => exact last s value t holds ((triple (field s)).success rfl returned)

theorem ite {condition : Prop} [Decidable condition] {first second : Fallible σ α}
    (positive : condition → Triple before first after failed)
    (negative : ¬condition → Triple before second after failed) :
    Triple before (if condition then first else second) after failed := by
  split_ifs with holds
  · exact positive holds
  · exact negative holds

theorem check {condition : Bool} {after : Unit → σ → Prop}
    (positive : condition = true → ∀ s, before s → after () s)
    (negative : condition = false → ∀ s, before s → failed s) :
    Triple before (Fallible.check condition) after failed := by
  cases condition with
  | false => exact Triple.failure (negative rfl)
  | true => exact Triple.pure (positive rfl)

end Triple

end Fallible

end FlightComputer.Library
