import FlightComputer.Library.Ascii
import Mathlib.Data.Nat.Basic

/-!
# Decimal numerals

A numeral is a list of character codes, so that the same functions read bytes
and code points. `decimalText` spells a natural number, `signedDecimalText` an
integer with a sign where it is negative; reading a spelled number gives the
number back (`numeralValue_decimalText`), and the spelling of a positive number
does not start with a zero (`decimalText_eq_cons`).
-/

set_option autoImplicit false

namespace FlightComputer.Library

/-- Whether a code is that of a decimal digit. -/
def isDecimalDigit (code : Nat) : Bool := decide (48 ≤ code) && decide (code ≤ 57)

/-- The value of a numeral. -/
def numeralValue (codes : List Nat) : Nat :=
  codes.foldl (fun value code => value * 10 + (code - 48)) 0

/-- The codes of a byte string. -/
def codes (text : Bytes) : List Nat := text.map UInt8.toNat

/-- A natural number in decimal. -/
def decimalText (n : Nat) : Bytes := (Nat.toDigits 10 n).map Char.toUInt8

/-- An integer in decimal. -/
def signedDecimalText : Int → Bytes
  | .ofNat n => decimalText n
  | .negSucc n => '-'.toUInt8 :: decimalText (n + 1)

@[simp] theorem codes_nil : codes [] = [] := rfl

@[simp] theorem codes_cons (byte : UInt8) (text : Bytes) :
    codes (byte :: text) = byte.toNat :: codes text := rfl

@[simp] theorem codes_append (first second : Bytes) :
    codes (first ++ second) = codes first ++ codes second := List.map_append ..

@[simp] theorem length_codes (text : Bytes) : (codes text).length = text.length :=
  List.length_map ..

theorem codes_injective {first second : Bytes} (same : codes first = codes second) :
    first = second :=
  List.map_injective_iff.mpr (fun _ _ => UInt8.toNat_inj.mp) same

theorem numeralValue_concat (codes : List Nat) (code : Nat) :
    numeralValue (codes ++ [code]) = numeralValue codes * 10 + (code - 48) := by
  simp [numeralValue, List.foldl_append]

/-- A digit of a number is spelled by the byte of its character. -/
theorem toNat_digitChar {d : Nat} (small : d < 10) :
    (Nat.digitChar d).toUInt8.toNat = 48 + d := by
  have each : ∀ d < 10, (Nat.digitChar d).toUInt8.toNat = 48 + d := by decide
  exact each d small

theorem decimalText_of_lt {n : Nat} (small : n < 10) :
    decimalText n = [(Nat.digitChar n).toUInt8] := by
  rw [decimalText, Nat.toDigits_of_lt_base small]
  rfl

theorem decimalText_of_le {n : Nat} (large : 10 ≤ n) :
    decimalText n = decimalText (n / 10) ++ [(Nat.digitChar (n % 10)).toUInt8] := by
  rw [decimalText, Nat.toDigits_of_base_le (by decide) large, List.map_append]
  rfl

theorem decimalText_ne_nil (n : Nat) : decimalText n ≠ [] := by
  simp [decimalText]

/-- A number below `10 ^ k` has at most `k` digits. -/
theorem length_decimalText_le {n k : Nat} (positive : 0 < k) (bounded : n < 10 ^ k) :
    (decimalText n).length ≤ k := by
  rw [decimalText, List.length_map]
  exact (Nat.length_toDigits_le_iff (by decide) positive).mpr bounded

/-- **Reading a spelled number gives the number back.** -/
theorem numeralValue_decimalText (n : Nat) : numeralValue (codes (decimalText n)) = n := by
  induction n using Nat.strong_induction_on with
  | _ n ih =>
      by_cases small : n < 10
      · rw [decimalText_of_lt small, codes_cons, codes_nil, toNat_digitChar small]
        simp [numeralValue]
      · have large : 10 ≤ n := Nat.not_lt.mp small
        have last : n % 10 < 10 := Nat.mod_lt n (by decide)
        rw [decimalText_of_le large, codes_append, codes_cons, codes_nil, numeralValue_concat,
          ih (n / 10) (by omega), toNat_digitChar last]
        omega

/-- The spelling of a number consists of digits. -/
theorem isDecimalDigit_of_mem_decimalText {n : Nat} :
    ∀ byte ∈ decimalText n, isDecimalDigit byte.toNat = true := by
  induction n using Nat.strong_induction_on with
  | _ n ih =>
      have digit : ∀ d < 10, isDecimalDigit (Nat.digitChar d).toUInt8.toNat = true := by
        intro d small
        rw [toNat_digitChar small]
        simp only [isDecimalDigit, Bool.and_eq_true, decide_eq_true_eq]
        omega
      by_cases small : n < 10
      · rw [decimalText_of_lt small]
        intro byte member
        rw [List.mem_singleton.mp member]
        exact digit n small
      · have large : 10 ≤ n := Nat.not_lt.mp small
        rw [decimalText_of_le large]
        intro byte member
        rcases List.mem_append.mp member with early | last
        · exact ih (n / 10) (by omega) byte early
        · rw [List.mem_singleton.mp last]
          exact digit (n % 10) (Nat.mod_lt n (by decide))

/-- The spelling of a positive number does not start with a zero. -/
theorem decimalText_eq_cons {n : Nat} (positive : 0 < n) :
    ∃ first others, decimalText n = first :: others ∧ first ≠ '0'.toUInt8 := by
  induction n using Nat.strong_induction_on with
  | _ n ih =>
      by_cases small : n < 10
      · refine ⟨_, [], decimalText_of_lt small, ?_⟩
        intro zero
        have code := toNat_digitChar small
        rw [zero] at code
        have : 48 = 48 + n := code
        omega
      · have large : 10 ≤ n := Nat.not_lt.mp small
        obtain ⟨first, others, spelled, nonzero⟩ := ih (n / 10) (by omega) (by omega)
        refine ⟨first, others ++ [(Nat.digitChar (n % 10)).toUInt8], ?_, nonzero⟩
        rw [decimalText_of_le large, spelled]
        rfl

end FlightComputer.Library
