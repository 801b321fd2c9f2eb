import Mathlib.Data.List.Perm.Basic
import Mathlib.Data.List.Nodup

/-!
# Items that may come once each

A reader goes through a list of items, each of some kind, refuses a kind that it
has seen, and lets every other item act on its state. When items of different
kinds act on different parts of the state, the order of the items does not
matter (`OnceOnly.foldlM_perm`), and a list that is read through has no kind
twice (`OnceOnly.nodup_of_foldlM`).
-/

set_option autoImplicit false

namespace FlightComputer.Library

/-- A reader: what it has seen, and how an item acts, if it is acceptable. -/
structure OnceOnly (State Item Kind : Type) where
  kind : Item → Kind
  seen : State → Kind → Bool
  effect : Item → Option (State → State)
  /-- An item marks its own kind as seen and no other. -/
  seen_effect : ∀ {item : Item} {act : State → State}, effect item = some act →
    ∀ (state : State) (other : Kind),
      seen (act state) other = true ↔ other = kind item ∨ seen state other = true
  /-- Items of different kinds do not interfere. -/
  effect_comm : ∀ {first second : Item} {act act' : State → State},
    kind first ≠ kind second → effect first = some act → effect second = some act' →
      ∀ state : State, act' (act state) = act (act' state)

namespace OnceOnly

variable {State Item Kind : Type} (reader : OnceOnly State Item Kind)

/-- Read one item. -/
def read (state : State) (item : Item) : Option State :=
  if reader.seen state (reader.kind item) then none
  else (reader.effect item).map fun act => act state

variable {reader}

theorem read_eq_some_iff {state after : State} {item : Item} :
    reader.read state item = some after ↔
      reader.seen state (reader.kind item) = false ∧
        ∃ act, reader.effect item = some act ∧ act state = after := by
  rw [read]
  cases reader.seen state (reader.kind item) <;> simp

theorem seen_read {state after : State} {item : Item}
    (reads : reader.read state item = some after) (other : Kind) :
    reader.seen after other = true ↔ other = reader.kind item ∨ reader.seen state other = true := by
  obtain ⟨_, act, acts, rfl⟩ := read_eq_some_iff.mp reads
  exact reader.seen_effect acts state other

/-- Two items that are read in one order are read in the other. -/
theorem read_swap {state between after : State} {first second : Item}
    (readFirst : reader.read state first = some between)
    (readSecond : reader.read between second = some after) :
    ∃ between', reader.read state second = some between' ∧
      reader.read between' first = some after := by
  have seenBetween := seen_read readFirst
  obtain ⟨unseenFirst, act, acts, rfl⟩ := read_eq_some_iff.mp readFirst
  obtain ⟨unseenSecond, act', acts', rfl⟩ := read_eq_some_iff.mp readSecond
  have apart : reader.kind second ≠ reader.kind first := by
    intro same
    have := (seenBetween (reader.kind second)).mpr (.inl same)
    rw [unseenSecond] at this
    cases this
  have unseen : reader.seen state (reader.kind second) = false := by
    by_contra seen
    have := (seenBetween (reader.kind second)).mpr (.inr (Bool.not_eq_false _ ▸ seen))
    rw [unseenSecond] at this
    cases this
  have unseen' : reader.seen (act' state) (reader.kind first) = false := by
    by_contra seen
    rcases (reader.seen_effect acts' state (reader.kind first)).mp (Bool.not_eq_false _ ▸ seen) with
      same | before
    · exact apart same.symm
    · rw [unseenFirst] at before
      cases before
  exact ⟨act' state, read_eq_some_iff.mpr ⟨unseen, act', acts', rfl⟩,
    read_eq_some_iff.mpr ⟨unseen', act, acts, (reader.effect_comm apart.symm acts acts' state).symm⟩⟩

theorem read_comm (state : State) (first second : Item) :
    ((reader.read state first).bind fun between => reader.read between second) =
      (reader.read state second).bind fun between => reader.read between first := by
  refine Option.ext fun after => ?_
  rw [Option.bind_eq_some_iff, Option.bind_eq_some_iff]
  exact ⟨fun ⟨_, one, two⟩ => read_swap one two, fun ⟨_, one, two⟩ => read_swap one two⟩

/-- **The order of the items does not matter.** -/
theorem foldlM_perm {items items' : List Item} (perm : items.Perm items') (state : State) :
    items.foldlM reader.read state = items'.foldlM reader.read state := by
  induction perm generalizing state with
  | nil => rfl
  | cons item _ ih =>
      rw [List.foldlM_cons, List.foldlM_cons]
      cases reader.read state item with
      | none => rfl
      | some between => exact ih between
  | swap first second items =>
      simp only [List.foldlM_cons, Option.bind_eq_bind, ← Option.bind_assoc]
      rw [read_comm]
  | trans _ _ ih ih' => exact (ih state).trans (ih' state)

/-- **A list that is read through has no kind twice**, and marks its kinds. -/
theorem nodup_of_foldlM {items : List Item} {state after : State}
    (folds : items.foldlM reader.read state = some after) :
    (items.map reader.kind).Nodup ∧
      (∀ kind ∈ items.map reader.kind, reader.seen state kind = false) ∧
        ∀ kind, reader.seen after kind = true ↔
          kind ∈ items.map reader.kind ∨ reader.seen state kind = true := by
  induction items generalizing state with
  | nil =>
      obtain rfl := Option.some.inj folds
      exact ⟨List.nodup_nil, nofun, fun kind => by simp⟩
  | cons item items ih =>
      rw [List.foldlM_cons] at folds
      obtain ⟨between, reads, later⟩ := Option.bind_eq_some_iff.mp folds
      obtain ⟨nodup, unseen, marks⟩ := ih later
      have seen := seen_read reads
      obtain ⟨fresh, _⟩ := read_eq_some_iff.mp reads
      refine ⟨List.nodup_cons.mpr ⟨fun again => ?_, nodup⟩,
        List.forall_mem_cons.mpr ⟨fresh, fun kind listed => ?_⟩, fun kind => ?_⟩
      · have := (seen _).mpr (.inl rfl)
        rw [unseen _ again] at this
        cases this
      · by_contra before
        have := (seen kind).mpr (.inr (Bool.not_eq_false _ ▸ before))
        rw [unseen kind listed] at this
        cases this
      · rw [marks, seen, List.map_cons, List.mem_cons]
        tauto

end OnceOnly

/-- Items whose kinds are known up to order are known up to order. -/
theorem exists_perm_of_map_perm {Item Kind : Type} {kind : Item → Kind} {items : List Item}
    {kinds : List Kind} (perm : (items.map kind).Perm kinds) :
    ∃ items', items.Perm items' ∧ items'.map kind = kinds := by
  have composed : Relation.Comp (fun l => (l = List.map kind ·)) List.Perm kinds items := by
    rw [List.eq_map_comp_perm]
    exact perm.symm
  obtain ⟨items', same, permuted⟩ := composed
  exact ⟨items', permuted.symm, same.symm⟩

end FlightComputer.Library
