import Mathlib.Data.Option.Basic
import Mathlib.Tactic.SplitIfs

/-!
# Calls that may raise exceptions, and rules for them

A call works on a state. It has not returned, or it has returned a value, or it has
raised an exception, and in both cases the state is what the call has made of it. This is
the shape of programs that work on files and devices and handle exceptions
(`attempt`, `ensuring`).

`Triple before call after raised` says what holds when a call has ended. There is one rule
for each way calls are composed.
-/

set_option autoImplicit false

namespace FlightComputer.Library

/-- A call: nothing while it has not ended, else its value or the exception that it has
raised, with the state. -/
abbrev Raising (ε σ α : Type) : Type := ExceptT ε (StateT σ Option) α

namespace Raising

variable {ε σ α β : Type}

/-- Return a value or raise an exception. -/
def settle (result : Except ε α) : Raising ε σ α := fun s => some (result, s)

/-- End a call with what another one ended with: `try`. -/
def attempt (call : Raising ε σ α) : Raising ε σ (Except ε α) := fun s =>
  (call s : Option (Except ε α × σ)).map fun ended => (.ok ended.1, ended.2)

/-- Make another call at the end, whatever has happened: `finally`. -/
def ensuring (body : Raising ε σ α) (last : Raising ε σ Unit) : Raising ε σ α := do
  let result ← attempt body
  last
  settle result

/-- A call that works on a part of the state. -/
def within {τ : Type} (field : σ → τ) (put : τ → σ → σ) (call : Raising ε τ α) : Raising ε σ α :=
  fun s => (call (field s) : Option (Except ε α × τ)).map fun ended => (ended.1, put ended.2 s)

/-! ## One call after the other -/

section Bind

variable {first : Raising ε σ α} {next : α → Raising ε σ β} {s t : σ}

/-- The first call has returned. -/
theorem bind_returned {value : α} (ended : first s = some (.ok value, t)) :
    (first >>= next) s = next value t :=
  congrArg (fun ended : Option (Except ε α × σ) =>
    ended.bind fun both => ExceptT.bindCont next both.1 both.2) ended

/-- The first call has raised an exception. -/
theorem bind_raised {error : ε} (ended : first s = some (.error error, t)) :
    (first >>= next) s = some (.error error, t) :=
  congrArg (fun ended : Option (Except ε α × σ) =>
    ended.bind fun both => ExceptT.bindCont next both.1 both.2) ended

end Bind

/-! ## Triples -/

/-- What holds of the result and the state that a call ended with. -/
def Outcome (after : α → σ → Prop) (raised : ε → σ → Prop) : Except ε α → σ → Prop
  | .ok value, t => after value t
  | .error error, t => raised error t

/-- What holds when a call has ended, if something held before it. -/
def Triple (before : σ → Prop) (call : Raising ε σ α) (after : α → σ → Prop)
    (raised : ε → σ → Prop) : Prop :=
  ∀ s result t, before s → call s = some (result, t) → Outcome after raised result t

namespace Triple

variable {before : σ → Prop} {after : α → σ → Prop} {raised : ε → σ → Prop}

theorem returns {call : Raising ε σ α} (triple : Triple before call after raised) {s t : σ}
    {value : α} (holds : before s) (ended : call s = some (.ok value, t)) : after value t :=
  triple s (.ok value) t holds ended

/-- Weaker before, stronger after. -/
theorem mono {call : Raising ε σ α} (triple : Triple before call after raised)
    {before' : σ → Prop} {after' : α → σ → Prop} {raised' : ε → σ → Prop}
    (first : ∀ s, before' s → before s) (last : ∀ value s, after value s → after' value s)
    (failing : ∀ error s, raised error s → raised' error s) :
    Triple before' call after' raised' := by
  intro s result t holds ended
  have outcome := triple s result t (first s holds) ended
  cases result with
  | ok value => exact last value t outcome
  | error error => exact failing error t outcome

/-- What holds before may be used as a fact about one state. -/
theorem of_state {call : Raising ε σ α}
    (triple : ∀ s, before s → Triple (fun x => x = s) call after raised) :
    Triple before call after raised :=
  fun s result t holds ended => triple s holds s result t rfl ended

theorem pure {value : α} (holds : ∀ s, before s → after value s) :
    Triple before (Pure.pure value : Raising ε σ α) after raised := by
  intro s result t first ended
  obtain ⟨rfl, rfl⟩ := Prod.mk.inj (Option.some.inj ended)
  exact holds s first

theorem throw {error : ε} (holds : ∀ s, before s → raised error s) :
    Triple before (MonadExcept.throw error : Raising ε σ α) after raised := by
  intro s result t first ended
  obtain ⟨rfl, rfl⟩ := Prod.mk.inj (Option.some.inj ended)
  exact holds s first

theorem settle {result : Except ε α} (holds : ∀ s, before s → Outcome after raised result s) :
    Triple before (settle result) after raised := by
  intro s result t first ended
  obtain ⟨rfl, rfl⟩ := Prod.mk.inj (Option.some.inj ended)
  exact holds s first

theorem change {update : σ → σ} {after : PUnit → σ → Prop}
    (holds : ∀ s, before s → after ⟨⟩ (update s)) :
    Triple before (modify update : Raising ε σ PUnit) after raised := by
  intro s result t first ended
  obtain ⟨rfl, rfl⟩ := Prod.mk.inj (Option.some.inj ended)
  exact holds s first

theorem get {after : σ → σ → Prop} (holds : ∀ s, before s → after s s) :
    Triple before (MonadState.get : Raising ε σ σ) after raised := by
  intro s result t first ended
  obtain ⟨rfl, rfl⟩ := Prod.mk.inj (Option.some.inj ended)
  exact holds s first

/-- **One call after the other.** -/
theorem bind {first : Raising ε σ α} {next : α → Raising ε σ β} {M : α → σ → Prop}
    {last : β → σ → Prop} (one : Triple before first M raised)
    (two : ∀ value, Triple (M value) (next value) last raised) :
    Triple before (first >>= next) last raised := by
  intro s result t holds ended
  obtain ⟨⟨answer, middle⟩, called, rest⟩ := Option.bind_eq_some_iff.mp ended
  have outcome := one s answer middle holds called
  cases answer with
  | ok value => exact two value middle result t outcome rest
  | error error =>
      obtain ⟨rfl, rfl⟩ := Prod.mk.inj (Option.some.inj rest)
      exact outcome

/-- **`try`** -/
theorem attempt {call : Raising ε σ α} (triple : Triple before call after raised) :
    Triple before (attempt call) (Outcome after raised) fun _ _ => False := by
  intro s result t holds ended
  obtain ⟨⟨answer, last⟩, called, same⟩ := Option.map_eq_some_iff.mp ended
  obtain ⟨rfl, rfl⟩ := Prod.mk.inj same
  exact triple s answer last holds called

/-- **`finally`** -/
theorem ensuring {body : Raising ε σ α} {last : Raising ε σ Unit} {M : α → σ → Prop}
    {R : ε → σ → Prop} (one : Triple before body M R)
    (two : ∀ result, Triple (Outcome M R result) last (fun _ => Outcome after raised result)
      raised) :
    Triple before (ensuring body last) after raised := by
  refine bind ((attempt one).mono (fun _ holds => holds) (fun _ _ holds => holds)
    fun _ _ none => none.elim) fun result => ?_
  exact bind (two result) fun _ => settle fun _ holds => holds

theorem within {τ : Type} {field : σ → τ} {put : τ → σ → σ} {call : Raising ε τ α}
    {before' : τ → Prop} {after' : α → τ → Prop} {raised' : ε → τ → Prop}
    (triple : Triple before' call after' raised') (enters : ∀ s, before s → before' (field s))
    (leaves : ∀ s t value, before s → after' value t → after value (put t s))
    (fails : ∀ s t error, before s → raised' error t → raised error (put t s)) :
    Triple before (within field put call) after raised := by
  intro s result t holds ended
  obtain ⟨⟨answer, last⟩, called, same⟩ := Option.map_eq_some_iff.mp ended
  obtain ⟨rfl, rfl⟩ := Prod.mk.inj same
  have outcome := triple (field s) answer last (enters s holds) called
  cases answer with
  | ok value => exact leaves s last value holds outcome
  | error error => exact fails s last error holds outcome

/-- Whatever a call does to a part of the state, what does not depend on this part is kept. -/
theorem within_keeps {τ : Type} {field : σ → τ} {put : τ → σ → σ} {call : Raising ε τ α}
    (keeps : ∀ s t, before s → before (put t s)) :
    Triple before (Raising.within field put call) (fun _ => before) fun _ => before := by
  intro s result t holds ended
  obtain ⟨⟨answer, last⟩, _, same⟩ := Option.map_eq_some_iff.mp ended
  obtain ⟨rfl, rfl⟩ := Prod.mk.inj same
  cases answer with
  | ok value => exact keeps s last holds
  | error error => exact keeps s last holds

theorem ite {condition : Prop} [Decidable condition] {first second : Raising ε σ α}
    (one : condition → Triple before first after raised)
    (two : ¬condition → Triple before second after raised) :
    Triple before (if condition then first else second) after raised := by
  by_cases holds : condition
  · rw [if_pos holds]
    exact one holds
  · rw [if_neg holds]
    exact two holds

end Triple

/-! ## Calls that end -/

/-- The call always ends, and keeps an invariant whatever it ends with. -/
def Ends (invariant : σ → Prop) (call : Raising ε σ α) : Prop :=
  ∀ s, invariant s → ∃ result t, call s = some (result, t) ∧ invariant t

namespace Ends

variable {invariant : σ → Prop}

theorem pure (value : α) : Ends invariant (Pure.pure value : Raising ε σ α) :=
  fun s holds => ⟨_, s, rfl, holds⟩

theorem throw (error : ε) : Ends invariant (MonadExcept.throw error : Raising ε σ α) :=
  fun s holds => ⟨_, s, rfl, holds⟩

theorem settle (result : Except ε α) : Ends invariant (settle result : Raising ε σ α) :=
  fun s holds => ⟨_, s, rfl, holds⟩

theorem change {update : σ → σ} (keeps : ∀ s, invariant s → invariant (update s)) :
    Ends invariant (modify update : Raising ε σ PUnit) :=
  fun s holds => ⟨_, _, rfl, keeps s holds⟩

theorem get : Ends invariant (MonadState.get : Raising ε σ σ) :=
  fun s holds => ⟨_, s, rfl, holds⟩

theorem bind {first : Raising ε σ α} {next : α → Raising ε σ β} (one : Ends invariant first)
    (two : ∀ value, Ends invariant (next value)) : Ends invariant (first >>= next) := by
  intro s holds
  obtain ⟨answer, middle, called, kept⟩ := one s holds
  cases answer with
  | ok value =>
      obtain ⟨result, t, rest, last⟩ := two value middle kept
      exact ⟨result, t, Option.bind_eq_some_iff.mpr ⟨_, called, rest⟩, last⟩
  | error error => exact ⟨_, middle, Option.bind_eq_some_iff.mpr ⟨_, called, rfl⟩, kept⟩

theorem attempt {call : Raising ε σ α} (ends : Ends invariant call) :
    Ends invariant (attempt call) := by
  intro s holds
  obtain ⟨result, t, called, kept⟩ := ends s holds
  exact ⟨_, t, Option.map_eq_some_iff.mpr ⟨_, called, rfl⟩, kept⟩

theorem ensuring {body : Raising ε σ α} {last : Raising ε σ Unit} (one : Ends invariant body)
    (two : Ends invariant last) : Ends invariant (ensuring body last) :=
  bind (attempt one) fun _ => bind two fun _ => settle _

theorem within {τ : Type} {field : σ → τ} {put : τ → σ → σ} {call : Raising ε τ α}
    {inside : τ → Prop} (ends : Ends inside call) (enters : ∀ s, invariant s → inside (field s))
    (leaves : ∀ s t, invariant s → inside t → invariant (put t s)) :
    Ends invariant (within field put call) := by
  intro s holds
  obtain ⟨result, t, called, kept⟩ := ends (field s) (enters s holds)
  exact ⟨result, _, Option.map_eq_some_iff.mpr ⟨_, called, rfl⟩, leaves s t holds kept⟩

theorem ite {condition : Prop} [Decidable condition] {first second : Raising ε σ α}
    (one : Ends invariant first) (two : Ends invariant second) :
    Ends invariant (if condition then first else second) := by
  split_ifs
  · exact one
  · exact two

end Ends

end Raising

end FlightComputer.Library
