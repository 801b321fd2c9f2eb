import Mathlib.Logic.Function.Basic
import Mathlib.Data.List.Basic
import Mathlib.Data.Nat.ModEq

/-!
# Circular buffers

A circular buffer of a fixed capacity keeps its elements in an array of slots,
written at `head` and read at `tail`, with a separate element count. Its
contents are the `count` slots from `tail` on, read around the end of the array.

While the indices and the count agree (`Consistent`), a push appends to the
contents (`contents_push`), a pop removes their first element
(`contents_eq_cons`), and both keep the agreement. A push writes no slot that
holds an element (`slots_push`).
-/

set_option autoImplicit false

namespace FlightComputer.Library

universe u

/-- Slots with a write index, a read index and an element count. -/
structure CircularBuffer (α : Type u) (capacity : Nat) where
  slots : Nat → α
  head : Nat
  tail : Nat
  count : Nat

namespace CircularBuffer

variable {α : Type u} {capacity : Nat}

/-- The buffer after a reset; the slots keep whatever they held. -/
def empty (slots : Nat → α) : CircularBuffer α capacity where
  slots := slots
  head := 0
  tail := 0
  count := 0

/-- The element that leaves first. -/
def front (b : CircularBuffer α capacity) : α := b.slots b.tail

/-- Write one element at the write index. -/
def push (b : CircularBuffer α capacity) (x : α) : CircularBuffer α capacity where
  slots := Function.update b.slots b.head x
  head := (b.head + 1) % capacity
  tail := b.tail
  count := b.count + 1

/-- Forget the element at the read index. -/
def pop (b : CircularBuffer α capacity) : CircularBuffer α capacity where
  slots := b.slots
  head := b.head
  tail := (b.tail + 1) % capacity
  count := b.count - 1

/-- The elements held, oldest first. -/
def contents (b : CircularBuffer α capacity) : List α :=
  (List.range b.count).map fun offset => b.slots ((b.tail + offset) % capacity)

/-- The write index is `count` slots after the read index, around the end. -/
structure Consistent (b : CircularBuffer α capacity) : Prop where
  head_eq : b.head = (b.tail + b.count) % capacity
  tail_lt : b.tail < capacity
  count_le : b.count ≤ capacity

@[simp] theorem length_contents (b : CircularBuffer α capacity) :
    b.contents.length = b.count := by
  simp [contents]

theorem consistent_empty (positive : 0 < capacity) (slots : Nat → α) :
    (empty slots : CircularBuffer α capacity).Consistent where
  head_eq := by simp [empty]
  tail_lt := positive
  count_le := Nat.zero_le _

/-- Two offsets below the capacity that reach the same slot are equal. -/
theorem offset_injective {start i j : Nat} (hi : i < capacity) (hj : j < capacity)
    (same : (start + i) % capacity = (start + j) % capacity) : i = j := by
  have congruent : i ≡ j [MOD capacity] := Nat.ModEq.add_left_cancel' start same
  rwa [Nat.ModEq, Nat.mod_eq_of_lt hi, Nat.mod_eq_of_lt hj] at congruent

namespace Consistent

variable {b : CircularBuffer α capacity}

/-- While the buffer is not full, the write index is no occupied slot. -/
theorem head_ne_occupied (h : b.Consistent) (room : b.count < capacity) {offset : Nat}
    (occupied : offset < b.count) : (b.tail + offset) % capacity ≠ b.head := by
  rw [h.head_eq]
  intro same
  exact occupied.ne (offset_injective (occupied.trans room) room same)

theorem push (h : b.Consistent) (room : b.count < capacity) (x : α) :
    (b.push x).Consistent where
  head_eq := by
    show (b.head + 1) % capacity = (b.tail + (b.count + 1)) % capacity
    rw [h.head_eq, Nat.mod_add_mod, Nat.add_assoc]
  tail_lt := h.tail_lt
  count_le := room

theorem pop (h : b.Consistent) (occupied : 0 < b.count) : b.pop.Consistent where
  head_eq := by
    show b.head = ((b.tail + 1) % capacity + (b.count - 1)) % capacity
    rw [Nat.mod_add_mod, h.head_eq]
    congr 1
    omega
  tail_lt := Nat.mod_lt _ (Nat.lt_of_le_of_lt (Nat.zero_le _) h.tail_lt)
  count_le := (Nat.sub_le _ _).trans h.count_le

/-- **A push appends to the contents.** -/
theorem contents_push (h : b.Consistent) (room : b.count < capacity) (x : α) :
    (b.push x).contents = b.contents ++ [x] := by
  have written : (b.push x).slots ((b.tail + b.count) % capacity) = x := by
    rw [← h.head_eq]
    exact Function.update_self ..
  have kept : ∀ offset ∈ List.range b.count,
      (b.push x).slots ((b.tail + offset) % capacity)
        = b.slots ((b.tail + offset) % capacity) := by
    intro offset member
    exact Function.update_of_ne (h.head_ne_occupied room (List.mem_range.mp member)) ..
  show (List.range (b.count + 1)).map
      (fun offset => (b.push x).slots ((b.tail + offset) % capacity)) = _
  rw [List.range_succ, List.map_append, List.map_singleton, written, List.map_congr_left kept]
  rfl

/-- **A pop removes the first element of the contents.** -/
theorem contents_eq_cons (h : b.Consistent) (occupied : 0 < b.count) :
    b.contents = b.front :: b.pop.contents := by
  obtain ⟨rest, more⟩ : ∃ rest, b.count = rest + 1 := ⟨b.count - 1, by omega⟩
  have first : b.slots ((b.tail + 0) % capacity) = b.front := by
    rw [Nat.add_zero, Nat.mod_eq_of_lt h.tail_lt]
    rfl
  have later : b.pop.contents = (List.range rest).map fun offset =>
      b.slots ((b.tail + (offset + 1)) % capacity) := by
    show (List.range (b.count - 1)).map
        (fun offset => b.slots (((b.tail + 1) % capacity + offset) % capacity)) = _
    rw [more, Nat.add_sub_cancel]
    refine List.map_congr_left fun offset _ => ?_
    rw [Nat.mod_add_mod]
    congr 2
    omega
  rw [later, contents, more, List.range_succ_eq_map, List.map_cons, first, List.map_map]
  rfl

end Consistent

/-- A push writes only the slot at the write index. -/
theorem slots_push (b : CircularBuffer α capacity) (x : α) {index : Nat}
    (other : index ≠ b.head) : (b.push x).slots index = b.slots index :=
  Function.update_of_ne other ..

end CircularBuffer

end FlightComputer.Library
