import Mathlib.Logic.Basic

/-!
# Results of calls that check their input

A loader or a decoder makes one check after the other and stops with an error at the
first one that fails. What it has accepted is read off its text, one call at a
time (`except_bind_eq_ok_iff`, `exists_ok_bind_iff`).
-/

set_option autoImplicit false

namespace FlightComputer.Library

variable {ε α β : Type}

/-- What one call after the other returns. -/
theorem except_bind_eq_ok_iff (first : Except ε α) (next : α → Except ε β) (result : β) :
    (first >>= next) = .ok result ↔ ∃ value, first = .ok value ∧ next value = .ok result := by
  cases first with
  | error error =>
      refine iff_of_false (fun failed => by cases failed) ?_
      rintro ⟨value, failed, _⟩
      cases failed
  | ok value =>
      constructor
      · exact fun returned => ⟨value, rfl, returned⟩
      · rintro ⟨_, ⟨⟩, returned⟩
        exact returned

/-- Which error one call after the other raises. -/
theorem except_bind_eq_error_iff (first : Except ε α) (next : α → Except ε β) (error : ε) :
    (first >>= next) = .error error ↔
      first = .error error ∨ ∃ value, first = .ok value ∧ next value = .error error := by
  cases first with
  | error other =>
      constructor
      · exact fun raised => .inl (congrArg Except.error (Except.error.inj raised))
      · rintro (raised | ⟨value, failed, _⟩)
        · exact congrArg Except.error (Except.error.inj raised)
        · cases failed
  | ok value =>
      constructor
      · exact fun raised => .inr ⟨value, rfl, raised⟩
      · rintro (failed | ⟨_, ⟨⟩, raised⟩)
        · cases failed
        · exact raised

/-- What a call returns whose value is changed. -/
theorem except_map_eq_ok_iff (f : α → β) (first : Except ε α) (result : β) :
    first.map f = .ok result ↔ ∃ value, first = .ok value ∧ f value = result := by
  cases first with
  | error error =>
      refine iff_of_false (fun failed => by cases failed) ?_
      rintro ⟨value, failed, _⟩
      cases failed
  | ok value =>
      constructor
      · exact fun returned => ⟨value, rfl, Except.ok.inj returned⟩
      · rintro ⟨_, ⟨⟩, rfl⟩
        rfl

theorem exists_ok_bind_iff (first : Except ε α) (next : α → Except ε β) :
    (∃ result, (first >>= next) = .ok result) ↔
      ∃ value, first = .ok value ∧ ∃ result, next value = .ok result := by
  simp only [except_bind_eq_ok_iff]
  rw [exists_comm]
  simp only [exists_and_left]

theorem exists_ok_map_iff (f : α → β) (first : Except ε α) :
    (∃ result, first.map f = .ok result) ↔ ∃ value, first = .ok value := by
  simp only [except_map_eq_ok_iff]
  constructor
  · rintro ⟨_, value, returned, _⟩
    exact ⟨value, returned⟩
  · rintro ⟨value, returned⟩
    exact ⟨f value, value, returned, rfl⟩

theorem exists_ok_ok (value : α) : (∃ result, (.ok value : Except ε α) = .ok result) ↔ True :=
  iff_of_true ⟨value, rfl⟩ trivial

end FlightComputer.Library
