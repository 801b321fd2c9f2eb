import Mathlib.Data.Nat.Digits.Defs

/-!
# Bit fields of a register

A register is transmitted most significant byte first, and its fields are given by the
positions of their bits: bit 0 is the least significant bit of the last byte. A field is not
affected by the bytes that it does not touch (`bitField_window`), so what it holds can be read off
the bytes that it straddles.
-/

set_option autoImplicit false

namespace FlightComputer.Library

/-- The number that bytes spell, the most significant one first. -/
def bigEndian (bytes : List UInt8) : Nat := Nat.ofDigits 256 (bytes.reverse.map UInt8.toNat)

/-- The bits of a number from `low` through `high`. -/
def bitField (number high low : Nat) : Nat := number / 2 ^ low % 2 ^ (high + 1 - low)

theorem bigEndian_append (first second : List UInt8) :
    bigEndian (first ++ second) = bigEndian first * 2 ^ (8 * second.length) + bigEndian second := by
  rw [bigEndian, bigEndian, bigEndian, List.reverse_append, List.map_append, Nat.ofDigits_append,
    List.length_map, List.length_reverse, Nat.pow_mul, Nat.add_comm, Nat.mul_comm]

theorem bigEndian_lt (bytes : List UInt8) : bigEndian bytes < 2 ^ (8 * bytes.length) := by
  have digits : ∀ digit ∈ bytes.reverse.map UInt8.toNat, digit < 256 := by
    intro digit listed
    obtain ⟨byte, _, rfl⟩ := List.mem_map.mp listed
    exact byte.toNat_lt
  have bound := Nat.ofDigits_lt_base_pow_length (by decide : 1 < 256) digits
  rw [List.length_map, List.length_reverse] at bound
  rw [Nat.pow_mul]
  exact bound

/-- Bits below a field do not matter. -/
theorem bitField_shift {number rest shift : Nat} (bounded : rest < 2 ^ shift) (high low : Nat) :
    bitField (number * 2 ^ shift + rest) (high + shift) (low + shift) = bitField number high low := by
  have width : high + shift + 1 - (low + shift) = high + 1 - low := by omega
  have whole : (number * 2 ^ shift + rest) / 2 ^ shift = number := by
    rw [Nat.add_comm, Nat.add_mul_div_right _ _ (Nat.two_pow_pos shift), Nat.div_eq_of_lt bounded,
      Nat.zero_add]
  rw [bitField, bitField, width, Nat.add_comm low shift, Nat.pow_add, ← Nat.div_div_eq_div_mul,
    whole]

/-- Bits above a field do not matter. -/
theorem bitField_below {number rest shift : Nat} {high low : Nat} (inside : high < shift)
    (ordered : low ≤ high + 1) :
    bitField (number * 2 ^ shift + rest) high low = bitField rest high low := by
  have split : 2 ^ shift = 2 ^ low * (2 ^ (high + 1 - low) * 2 ^ (shift - (high + 1))) := by
    rw [← Nat.pow_add, ← Nat.pow_add]
    congr 1
    omega
  rw [bitField, bitField, split, Nat.mul_left_comm, Nat.mul_add_div (Nat.two_pow_pos low),
    Nat.mul_left_comm, Nat.mul_add_mod]

/-- **A field is read off the bytes that it straddles.** -/
theorem bitField_window (before window after : List UInt8) {high low : Nat}
    (inside : high < 8 * window.length) (ordered : low ≤ high + 1) :
    bitField (bigEndian (before ++ window ++ after)) (high + 8 * after.length)
      (low + 8 * after.length) = bitField (bigEndian window) high low := by
  rw [bigEndian_append, bitField_shift (bigEndian_lt after), bigEndian_append,
    bitField_below inside ordered]

end FlightComputer.Library
