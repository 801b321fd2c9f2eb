import FlightComputer.Library.Decimal

/-!
# Short texts

A text of bounded length without control characters (`IsShort`). Concatenation
adds the bounds, so the size of a text that is put together from literals, numbers
and names follows from the sizes of the parts (`isShort_flatten`).
-/

set_option autoImplicit false

namespace FlightComputer.Library

/-- A text of at most `bound` bytes, none of them a control character. -/
structure IsShort (bound : Nat) (text : Bytes) : Prop where
  length_le : text.length ≤ bound
  printable : ∀ byte ∈ text, 32 ≤ byte.toNat

namespace IsShort

variable {bound : Nat} {text : Bytes}

theorem mono (short : IsShort bound text) {larger : Nat} (le : bound ≤ larger) :
    IsShort larger text :=
  ⟨Nat.le_trans short.length_le le, short.printable⟩

theorem lineFeed_notMem (short : IsShort bound text) : lineFeed ∉ text := by
  intro listed
  exact absurd (short.printable _ listed) (by decide)

theorem carriageReturn_notMem (short : IsShort bound text) : carriageReturn ∉ text := by
  intro listed
  exact absurd (short.printable _ listed) (by decide)

/-- Texts add up. -/
theorem append (short : IsShort bound text) {bound' : Nat} {text' : Bytes}
    (short' : IsShort bound' text') : IsShort (bound + bound') (text ++ text') where
  length_le := by
    rw [List.length_append]
    exact Nat.add_le_add short.length_le short'.length_le
  printable := by
    intro byte listed
    rcases List.mem_append.mp listed with first | second
    · exact short.printable byte first
    · exact short'.printable byte second

end IsShort

theorem isShort_nil : IsShort 0 [] := ⟨Nat.le_refl 0, fun _ listed => absurd listed List.not_mem_nil⟩

/-- **A text is as short as its parts together.** -/
theorem isShort_flatten {bounds : List Nat} {pieces : List Bytes}
    (short : List.Forall₂ IsShort bounds pieces) :
    IsShort (bounds.foldr (· + ·) 0) pieces.flatten := by
  induction short with
  | nil => exact isShort_nil
  | cons first _ ih =>
      rw [List.foldr_cons, List.flatten_cons]
      exact first.append ih

/-- A literal without control characters. -/
theorem isShort_ascii {text : String}
    (printable : ((ascii text).all fun byte => decide (32 ≤ byte.toNat)) = true) :
    IsShort (ascii text).length (ascii text) where
  length_le := Nat.le_refl _
  printable := by
    intro byte listed
    exact of_decide_eq_true (List.all_eq_true.mp printable byte listed)

/-- A number below `10 ^ bound`. -/
theorem isShort_decimalText {n bound : Nat} (positive : 0 < bound) (bounded : n < 10 ^ bound) :
    IsShort bound (decimalText n) where
  length_le := length_decimalText_le positive bounded
  printable := by
    intro byte listed
    have digit := isDecimalDigit_of_mem_decimalText byte listed
    simp only [isDecimalDigit, Bool.and_eq_true, decide_eq_true_eq] at digit
    omega

/-- A 32-bit number. -/
theorem isShort_uint32 (value : UInt32) : IsShort 10 (decimalText value.toNat) :=
  isShort_decimalText (by decide) (Nat.lt_trans value.toNat_lt (by decide))

/-- A number with its sign. -/
theorem isShort_signedDecimalText {value : Int} {bound : Nat} (positive : 0 < bound)
    (bounded : value.natAbs < 10 ^ bound) : IsShort (bound + 1) (signedDecimalText value) := by
  cases value with
  | ofNat n => exact (isShort_decimalText positive bounded).mono (Nat.le_succ bound)
  | negSucc n =>
      have sign : IsShort 1 ['-'.toUInt8] := by
        refine ⟨by decide, ?_⟩
        intro byte listed
        rw [List.mem_singleton.mp listed]
        decide
      rw [Nat.add_comm]
      exact sign.append (isShort_decimalText positive bounded)

end FlightComputer.Library
