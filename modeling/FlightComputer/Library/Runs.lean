import Mathlib.Data.List.Basic

/-!
# Runs of a labelled transition relation

A run of a step relation is a finite sequence of labelled steps. A property
that holds of the first state and is preserved by every step holds of the last
one (`Run.invariant`). Runs compose (`Run.trans`), and a run whose steps all
meet a side condition is a run of the restricted relation (`Restricted`).
-/

set_option autoImplicit false

namespace FlightComputer.Library

universe u v

variable {σ : Type u} {ι : Type v}

/-- A finite run, its labels listed in the order of the steps. -/
inductive Run (step : σ → ι → σ → Prop) : σ → List ι → σ → Prop where
  | refl (s : σ) : Run step s [] s
  | tail {s t u : σ} {labels : List ι} {label : ι} :
      Run step s labels t → step t label u → Run step s (labels ++ [label]) u

/-- The steps of a relation that are taken from a state and under a label
meeting a side condition. -/
def Restricted (step : σ → ι → σ → Prop) (condition : σ → ι → Prop) (s : σ) (label : ι)
    (t : σ) : Prop :=
  step s label t ∧ condition s label

namespace Run

variable {step : σ → ι → σ → Prop}

/-- A single step is a run. -/
theorem single {s t : σ} {label : ι} (h : step s label t) : Run step s [label] t :=
  .tail (.refl s) h

/-- **Runs compose.** -/
theorem trans {s t u : σ} {first second : List ι} (h : Run step s first t)
    (h' : Run step t second u) : Run step s (first ++ second) u := by
  induction h' with
  | refl => simpa using h
  | tail _ last ih =>
      rw [← List.append_assoc]
      exact .tail ih last

/-- A run whose first step is known. -/
theorem head {s t u : σ} {label : ι} {labels : List ι} (first : step s label t)
    (rest : Run step t labels u) : Run step s (label :: labels) u :=
  (single first).trans rest

/-- A run without steps. -/
theorem of_nil {s t : σ} (h : Run step s [] t) : t = s := by
  generalize whole : ([] : List ι) = all at h
  cases h with
  | refl => rfl
  | tail earlier last => exact absurd whole.symm (List.append_ne_nil_of_right_ne_nil _ (List.cons_ne_nil _ _))

/-- The last step of a run. -/
theorem of_concat {s u : σ} {labels : List ι} {label : ι} (h : Run step s (labels ++ [label]) u) :
    ∃ t, Run step s labels t ∧ step t label u := by
  generalize whole : labels ++ [label] = all at h
  cases h with
  | refl => exact absurd whole (List.append_ne_nil_of_right_ne_nil _ (List.cons_ne_nil _ _))
  | tail earlier last =>
      obtain ⟨rfl, same⟩ := List.append_inj' whole rfl
      obtain ⟨rfl, _⟩ := List.cons.inj same
      exact ⟨_, earlier, last⟩

/-- A run splits where its labels do. -/
theorem of_append {s u : σ} {first second : List ι} (h : Run step s (first ++ second) u) :
    ∃ t, Run step s first t ∧ Run step t second u := by
  generalize whole : first ++ second = all at h
  induction h generalizing second with
  | refl =>
      obtain ⟨rfl, rfl⟩ := List.append_eq_nil_iff.mp whole
      exact ⟨_, .refl _, .refl _⟩
  | tail earlier last ih =>
      rcases List.eq_nil_or_concat second with rfl | ⟨before, final, rfl⟩
      · rw [List.append_nil] at whole
        exact ⟨_, whole ▸ .tail earlier last, .refl _⟩
      · rw [List.concat_eq_append] at whole ⊢
        rw [← List.append_assoc] at whole
        obtain ⟨same, tail⟩ := List.append_inj' whole rfl
        obtain ⟨rfl, _⟩ := List.cons.inj tail
        obtain ⟨t, front, back⟩ := ih same
        exact ⟨t, front, .tail back last⟩

/-- **An invariant of the first state that every step preserves holds of the
last state.** -/
theorem invariant {I : σ → Prop} (preserved : ∀ s label t, I s → step s label t → I t)
    {s t : σ} {labels : List ι} (h : Run step s labels t) (first : I s) : I t := by
  induction h with
  | refl => exact first
  | tail _ last ih => exact preserved _ _ _ ih last

/-- **What the same step, taken so often, establishes.** -/
theorem of_replicate {I : Nat → σ → Prop} {label : ι}
    (preserved : ∀ count s t, I count s → step s label t → I (count + 1) t) {s : σ}
    (first : I 0 s) {count : Nat} :
    ∀ {t : σ}, Run step s (List.replicate count label) t → I count t := by
  induction count with
  | zero =>
      intro t h
      rw [h.of_nil]
      exact first
  | succ count ih =>
      intro t h
      rw [List.replicate_succ'] at h
      obtain ⟨before, earlier, last⟩ := h.of_concat
      exact preserved count before t (ih earlier) last

/-- Steps that can be performed one after the other are a run. -/
theorem of_performed {perform : σ → ι → Option σ}
    (sound : ∀ s label t, perform s label = some t → step s label t) {labels : List ι} {s t : σ}
    (performed : labels.foldlM perform s = some t) : Run step s labels t := by
  induction labels generalizing s with
  | nil =>
      obtain rfl := Option.some.inj performed
      exact .refl s
  | cons label labels ih =>
      obtain ⟨next, first, rest⟩ := Option.bind_eq_some_iff.mp performed
      exact .head (sound s label next first) (ih rest)

/-- A run of the restricted relation is a run. -/
theorem of_restricted {condition : σ → ι → Prop} {s t : σ} {labels : List ι}
    (h : Run (Restricted step condition) s labels t) : Run step s labels t := by
  induction h with
  | refl => exact .refl _
  | tail _ last ih => exact .tail ih last.1

end Run

end FlightComputer.Library
