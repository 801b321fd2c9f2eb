import Mathlib.Tactic.SplitIfs

/-!
# Programs that record what they do

A run of a program leaves a record of its accesses, in order. The program is still running when
its loops have used up their iterations, or it has ended, with an error or with a value.

`Performs allowed program result` says that the program ends with that result, and that every
access it has made on the way is allowed. There is one rule for each way programs are composed,
and two for the iterations of a loop, so that a proof follows the program and its result together.
-/

set_option autoImplicit false

namespace FlightComputer.Library

/-- A run: the accesses made, and what it has ended with, if it has ended. -/
structure Recording (τ ε α : Type) where
  trace : List τ
  outcome : Option (Except ε α)

namespace Recording

variable {τ ε ε' α β σ : Type}

/-- Return a value. -/
def succeed (value : α) : Recording τ ε α := ⟨[], some (.ok value)⟩

/-- End with an error. -/
def stop (error : ε) : Recording τ ε α := ⟨[], some (.error error)⟩

/-- One program after the other, if the first one returns. -/
def andThen (first : Recording τ ε α) (next : α → Recording τ ε β) : Recording τ ε β :=
  match first.outcome with
  | none => ⟨first.trace, none⟩
  | some (.error error) => ⟨first.trace, some (.error error)⟩
  | some (.ok value) => ⟨first.trace ++ (next value).trace, (next value).outcome⟩

instance : Monad (Recording τ ε) where
  pure := succeed
  bind := andThen

/-- Make accesses. -/
def notes (accesses : List τ) : Recording τ ε Unit := ⟨accesses, some (.ok ())⟩

/-- Make an access. -/
def note (access : τ) : Recording τ ε Unit := notes [access]

/-- Change the error. -/
def mapError (change : ε → ε') (program : Recording τ ε α) : Recording τ ε' α :=
  ⟨program.trace, program.outcome.map (Except.mapError change)⟩

/-- A loop: each iteration goes on from a state or ends the loop. -/
def loop (body : σ → Recording τ ε (σ ⊕ α)) : Nat → σ → Recording τ ε α
  | 0, _ => ⟨[], none⟩
  | iterations + 1, state => do
      match ← body state with
      | .inl next => loop body iterations next
      | .inr value => pure value

/-! ## What a program performs -/

/-- The program ends with a result, and makes allowed accesses only. -/
structure Performs (allowed : τ → Prop) (program : Recording τ ε α) (result : Except ε α) :
    Prop where
  ends : program.outcome = some result
  safe : ∀ access ∈ program.trace, allowed access

namespace Performs

variable {allowed : τ → Prop}

theorem succeed (value : α) :
    Performs allowed (pure value : Recording τ ε α) (.ok value) :=
  ⟨rfl, fun _ listed => absurd listed List.not_mem_nil⟩

theorem stop (error : ε) : Performs allowed (stop error : Recording τ ε α) (.error error) :=
  ⟨rfl, fun _ listed => absurd listed List.not_mem_nil⟩

theorem notes {accesses : List τ} (safe : ∀ access ∈ accesses, allowed access) :
    Performs allowed (notes accesses : Recording τ ε Unit) (.ok ()) :=
  ⟨rfl, safe⟩

theorem note {access : τ} (safe : allowed access) :
    Performs allowed (note access : Recording τ ε Unit) (.ok ()) :=
  notes (List.forall_mem_singleton.mpr safe)

section Bind

variable {first : Recording τ ε α} {next : α → Recording τ ε β}

/-- The first program returns. -/
theorem bind {value : α} {result : Except ε β} (returns : Performs allowed first (.ok value))
    (goes : Performs allowed (next value) result) : Performs allowed (first >>= next) result := by
  have same : first >>= next =
      ⟨first.trace ++ (next value).trace, (next value).outcome⟩ := by
    show andThen first next = _
    rw [andThen, returns.ends]
  rw [same]
  refine ⟨goes.ends, fun access listed => ?_⟩
  rcases List.mem_append.mp listed with early | late
  · exact returns.safe access early
  · exact goes.safe access late

/-- The first program ends with an error. -/
theorem bind_error {error : ε} (fails : Performs allowed first (.error error)) :
    Performs allowed (first >>= next) (.error error) := by
  have same : first >>= next = ⟨first.trace, some (.error error)⟩ := by
    show andThen first next = _
    rw [andThen, fails.ends]
  rw [same]
  exact ⟨rfl, fails.safe⟩

/-- **One program after the other** performs one result after the other. -/
theorem bind_except {value : Except ε α} {result : α → Except ε β}
    (performs : Performs allowed first value)
    (goes : ∀ a, value = .ok a → Performs allowed (next a) (result a)) :
    Performs allowed (first >>= next) (value.bind result) := by
  cases value with
  | error error => exact bind_error performs
  | ok a => exact bind performs (goes a rfl)

end Bind

/-- Something is done with the value. -/
theorem map {program : Recording τ ε α} {result : Except ε α} (change : α → β)
    (performs : Performs allowed program result) :
    Performs allowed (do let value ← program; pure (change value)) (result.map change) := by
  cases result with
  | error error => exact bind_error performs
  | ok value => exact bind performs (succeed _)

theorem mapError {program : Recording τ ε α} {result : Except ε α} (change : ε → ε')
    (performs : Performs allowed program result) :
    Performs allowed (program.mapError change) (result.mapError change) := by
  refine ⟨?_, performs.safe⟩
  rw [Recording.mapError, performs.ends]
  rfl

/-- A branch on a condition that both sides have. -/
theorem ite {condition : Prop} [Decidable condition] {yes no : Recording τ ε α}
    {result other : Except ε α} (holds : condition → Performs allowed yes result)
    (fails : ¬condition → Performs allowed no other) :
    Performs allowed (if condition then yes else no) (if condition then result else other) := by
  split_ifs with same
  · exact holds same
  · exact fails same

/-! ## Loops -/

section Loop

variable {body : σ → Recording τ ε (σ ⊕ α)} {iterations : Nat} {state : σ}

theorem loop_goes {next : σ} {result : Except ε α}
    (step : Performs allowed (body state) (.ok (.inl next)))
    (goes : Performs allowed (loop body iterations next) result) :
    Performs allowed (loop body (iterations + 1) state) result :=
  bind step goes

theorem loop_ends {value : α} (step : Performs allowed (body state) (.ok (.inr value))) :
    Performs allowed (loop body (iterations + 1) state) (.ok value) :=
  bind step (succeed value)

theorem loop_stops {error : ε} (step : Performs allowed (body state) (.error error)) :
    Performs allowed (loop body (iterations + 1) state) (.error error) :=
  bind_error step

end Loop

end Performs

end Recording

end FlightComputer.Library
