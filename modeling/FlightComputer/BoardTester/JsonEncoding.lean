import FlightComputer.Library.Json

/-!
# `json.dumps`

The values that the tester encodes and the text that `json.dumps` makes of them
with compact separators and `ensure_ascii`. The text is a JSON text, always
(`isJsonText_dumps`), and printable ASCII (`printable_dumps`); printable ASCII
without quotes and backslashes stands for itself in it (`escapeText_of_plain`).
-/

set_option autoImplicit false

namespace FlightComputer.BoardTester

open Library

/-- A Python string: its code points. -/
abbrev PyStr : Type := List Nat

/-- The string literal with the given ASCII text. -/
def pyStr (text : String) : PyStr := codes (ascii text)

/-- A value that is encoded. -/
inductive PyValue where
  | int (value : Int)
  | str (text : PyStr)
  | dict (members : List (PyStr × PyValue))

/-- A hexadecimal digit in lower case. -/
def hexDigitByte (digit : Nat) : UInt8 := (Nat.digitChar (digit % 16)).toUInt8

/-- `\uXXXX` -/
def unicodeEscape (unit : Nat) : Bytes :=
  [backslash, 'u'.toUInt8, hexDigitByte (unit / 4096), hexDigitByte (unit / 256),
    hexDigitByte (unit / 16), hexDigitByte unit]

/-- What `py_encode_basestring_ascii` makes of one code point: code points from
0x10000 on become two surrogates. -/
def escapeCodePoint (code : Nat) : Bytes :=
  if code = 34 then [backslash, quote]
  else if code = 92 then [backslash, backslash]
  else if code = 8 then [backslash, 'b'.toUInt8]
  else if code = 12 then [backslash, 'f'.toUInt8]
  else if code = 10 then [backslash, 'n'.toUInt8]
  else if code = 13 then [backslash, 'r'.toUInt8]
  else if code = 9 then [backslash, 't'.toUInt8]
  else if 32 ≤ code ∧ code ≤ 126 then [UInt8.ofNat code]
  else if code < 0x10000 then unicodeEscape code
  else
    unicodeEscape (0xd800 + (code - 0x10000) / 1024) ++
      unicodeEscape (0xdc00 + (code - 0x10000) % 1024)

/-- What stands between the quotes. -/
def escapeText (text : PyStr) : Bytes := text.flatMap escapeCodePoint

mutual

/-- `json.dumps(value, separators=(",", ":")).encode("ascii")` -/
def dumps : PyValue → Bytes
  | .int value => signedDecimalText value
  | .str text => quote :: (escapeText text ++ [quote])
  | .dict [] => [leftBrace, rightBrace]
  | .dict ((key, value) :: members) =>
      leftBrace :: (quote :: (escapeText key ++ [quote]) ++ colon :: (dumps value ++
        dumpsFurther members))

/-- The text after the first member of a dictionary. -/
def dumpsFurther : List (PyStr × PyValue) → Bytes
  | [] => [rightBrace]
  | (key, value) :: members =>
      comma :: (quote :: (escapeText key ++ [quote]) ++ colon :: (dumps value ++
        dumpsFurther members))

end

/-! ## The tree of a value -/

mutual

/-- The tree that is spelled. -/
def dumpsTree : PyValue → JsonTree
  | .int value => .literal (signedDecimalText value)
  | .str text => .string (escapeText text)
  | .dict members => .object (dumpsMembers members)

/-- The members that are spelled. -/
def dumpsMembers : List (PyStr × PyValue) → List (Bytes × JsonTree)
  | [] => []
  | (key, value) :: members => (escapeText key, dumpsTree value) :: dumpsMembers members

end

mutual

theorem dumps_eq : ∀ value : PyValue, dumps value = compactText (dumpsTree value).lexemes
  | .int value => by simp [dumps, dumpsTree, JsonTree.lexemes, Lexeme.text]
  | .str text => by simp [dumps, dumpsTree, JsonTree.lexemes, Lexeme.text]
  | .dict [] => rfl
  | .dict ((key, value) :: members) => by
      rw [dumps, dumps_eq value, dumpsFurther_eq members, dumpsTree, dumpsMembers,
        JsonTree.lexemes]
      simp [Lexeme.text]

theorem dumpsFurther_eq : ∀ members : List (PyStr × PyValue),
    dumpsFurther members = compactText (furtherMembers (dumpsMembers members))
  | [] => rfl
  | (key, value) :: members => by
      rw [dumpsFurther, dumps_eq value, dumpsFurther_eq members, dumpsMembers, furtherMembers]
      simp [Lexeme.text]

end

/-! ## Escapes -/

theorem isHexDigit_hexDigitByte (digit : Nat) : isHexDigit (hexDigitByte digit) = true := by
  have each : ∀ digit < 16, isHexDigit (Nat.digitChar digit).toUInt8 = true := by decide
  exact each (digit % 16) (Nat.mod_lt _ (by decide))

theorem isStringContent_unicodeEscape (unit : Nat) {rest : Bytes} (legal : IsStringContent rest) :
    IsStringContent (unicodeEscape unit ++ rest) :=
  .unicode (by simp only [isHexDigit_hexDigitByte, Bool.and_self]) legal

/-- What becomes of a code point: an escape of one letter, itself, or one or two
units in hexadecimal. -/
theorem escapeCodePoint_cases (code : Nat) :
    (∃ letter, escapeCodePoint code = [backslash, letter] ∧ isEscapeLetter letter = true ∧
        32 ≤ letter.toNat ∧ letter.toNat ≤ 126) ∨
      (escapeCodePoint code = [UInt8.ofNat code] ∧ (32 ≤ code ∧ code ≤ 126) ∧ code ≠ 34 ∧
        code ≠ 92) ∨
      (∃ unit, escapeCodePoint code = unicodeEscape unit) ∨
      ∃ high low, escapeCodePoint code = unicodeEscape high ++ unicodeEscape low := by
  rw [escapeCodePoint]
  by_cases isQuote : code = 34
  · exact .inl ⟨quote, if_pos isQuote, by decide⟩
  rw [if_neg isQuote]
  by_cases isBackslash : code = 92
  · exact .inl ⟨backslash, if_pos isBackslash, by decide⟩
  rw [if_neg isBackslash]
  by_cases backspace : code = 8
  · exact .inl ⟨'b'.toUInt8, if_pos backspace, by decide⟩
  rw [if_neg backspace]
  by_cases formFeed : code = 12
  · exact .inl ⟨'f'.toUInt8, if_pos formFeed, by decide⟩
  rw [if_neg formFeed]
  by_cases newline : code = 10
  · exact .inl ⟨'n'.toUInt8, if_pos newline, by decide⟩
  rw [if_neg newline]
  by_cases carriage : code = 13
  · exact .inl ⟨'r'.toUInt8, if_pos carriage, by decide⟩
  rw [if_neg carriage]
  by_cases tab : code = 9
  · exact .inl ⟨'t'.toUInt8, if_pos tab, by decide⟩
  rw [if_neg tab]
  by_cases printable : 32 ≤ code ∧ code ≤ 126
  · exact .inr (.inl ⟨if_pos printable, printable, isQuote, isBackslash⟩)
  rw [if_neg printable]
  by_cases basic : code < 0x10000
  · exact .inr (.inr (.inl ⟨code, if_pos basic⟩))
  · exact .inr (.inr (.inr ⟨_, _, if_neg basic⟩))

theorem toNat_ofNat_of_printable {code : Nat} (printable : 32 ≤ code ∧ code ≤ 126) :
    (UInt8.ofNat code).toNat = code :=
  UInt8.toNat_ofNat_of_lt' (Nat.lt_of_le_of_lt printable.2 (by decide))

theorem isStringContent_escapeText (text : PyStr) : IsStringContent (escapeText text) := by
  induction text with
  | nil => exact .nil
  | cons code text ih =>
      change IsStringContent (escapeCodePoint code ++ escapeText text)
      rcases escapeCodePoint_cases code with ⟨letter, escaped, known, _⟩ |
        ⟨itself, printable, unquoted, unescaped⟩ | ⟨unit, escaped⟩ | ⟨high, low, escaped⟩
      · rw [escaped]
        exact .escape known ih
      · rw [itself]
        refine .plain ((isPlainStringByte_iff _).mpr ?_) ih
        rw [toNat_ofNat_of_printable printable]
        exact ⟨printable.1, unquoted, unescaped⟩
      · rw [escaped]
        exact isStringContent_unicodeEscape unit ih
      · rw [escaped, List.append_assoc]
        exact isStringContent_unicodeEscape _ (isStringContent_unicodeEscape _ ih)

/-- **Plain text stands for itself.** -/
theorem escapeText_of_plain {text : Bytes}
    (plain : ∀ byte ∈ text, isPlainStringByte byte = true ∧ byte.toNat ≤ 126) :
    escapeText (codes text) = text := by
  induction text with
  | nil => rfl
  | cons byte text ih =>
      obtain ⟨itself, high⟩ := plain byte List.mem_cons_self
      obtain ⟨low, unquoted, unescaped⟩ := (isPlainStringByte_iff byte).mp itself
      have first : escapeCodePoint byte.toNat = [byte] := by
        rw [escapeCodePoint, if_neg unquoted, if_neg unescaped, if_neg (by omega),
          if_neg (by omega), if_neg (by omega), if_neg (by omega), if_neg (by omega),
          if_pos ⟨low, high⟩, UInt8.ofNat_toNat]
      rw [codes_cons, escapeText, List.flatMap_cons, first]
      exact congrArg (byte :: ·) (ih fun other listed => plain other (.tail _ listed))

/-- **Escaped text is printable ASCII.** -/
theorem printable_escapeText (text : PyStr) :
    ∀ byte ∈ escapeText text, 32 ≤ byte.toNat ∧ byte.toNat ≤ 126 := by
  have unit : ∀ unit, ∀ byte ∈ unicodeEscape unit, 32 ≤ byte.toNat ∧ byte.toNat ≤ 126 := by
    have digits : ∀ digit < 16, 32 ≤ (Nat.digitChar digit).toUInt8.toNat ∧
        (Nat.digitChar digit).toUInt8.toNat ≤ 126 := by decide
    have digit : ∀ number, 32 ≤ (hexDigitByte number).toNat ∧ (hexDigitByte number).toNat ≤ 126 :=
      fun number => digits (number % 16) (Nat.mod_lt _ (by decide))
    intro unit
    simp only [unicodeEscape, List.forall_mem_cons, List.not_mem_nil, false_implies, implies_true,
      and_true]
    exact ⟨by decide, by decide, digit _, digit _, digit _, digit _⟩
  intro byte listed
  obtain ⟨code, _, spelled⟩ := List.mem_flatMap.mp listed
  rcases escapeCodePoint_cases code with ⟨letter, escaped, _, printable⟩ |
    ⟨itself, printable, _⟩ | ⟨number, escaped⟩ | ⟨high, low, escaped⟩
  · rw [escaped, List.mem_cons, List.mem_singleton] at spelled
    rcases spelled with rfl | rfl
    · decide
    · exact printable
  · rw [itself, List.mem_singleton] at spelled
    rw [spelled, toNat_ofNat_of_printable printable]
    exact printable
  · exact unit number byte (escaped ▸ spelled)
  · rw [escaped, List.mem_append] at spelled
    exact spelled.elim (unit high byte) (unit low byte)

mutual

theorem wellFormed_dumpsTree : ∀ value : PyValue, (dumpsTree value).WellFormed
  | .int value => .inr (.inr (.inr (isNumber_signedDecimalText value)))
  | .str text => isStringContent_escapeText text
  | .dict members => wellFormed_dumpsMembers members

theorem wellFormed_dumpsMembers : ∀ members : List (PyStr × PyValue),
    membersWellFormed (dumpsMembers members)
  | [] => trivial
  | (key, value) :: members =>
      ⟨isStringContent_escapeText key, wellFormed_dumpsTree value, wellFormed_dumpsMembers members⟩

end

theorem printable_signedDecimalText (z : Int) :
    ∀ byte ∈ signedDecimalText z, 32 ≤ byte.toNat ∧ byte.toNat ≤ 126 := by
  have digits : ∀ n, ∀ byte ∈ decimalText n, 32 ≤ byte.toNat ∧ byte.toNat ≤ 126 := by
    intro n byte listed
    have digit := isDecimalDigit_of_mem_decimalText byte listed
    simp only [isDecimalDigit, Bool.and_eq_true, decide_eq_true_eq] at digit
    omega
  cases z with
  | ofNat n => exact digits n
  | negSucc n => exact List.forall_mem_cons.mpr ⟨by decide, digits (n + 1)⟩

/-- The text of a name or a string in its quotes is printable. -/
theorem printable_quoted (text : PyStr) {rest : Bytes}
    (later : ∀ byte ∈ rest, 32 ≤ byte.toNat ∧ byte.toNat ≤ 126) :
    ∀ byte ∈ quote :: (escapeText text ++ [quote]) ++ rest,
      32 ≤ byte.toNat ∧ byte.toNat ≤ 126 := by
  rw [List.forall_mem_append, List.forall_mem_cons, List.forall_mem_append,
    List.forall_mem_singleton]
  exact ⟨⟨by decide, printable_escapeText text, by decide⟩, later⟩

mutual

theorem printable_dumps : ∀ value : PyValue,
    ∀ byte ∈ dumps value, 32 ≤ byte.toNat ∧ byte.toNat ≤ 126
  | .int value => by
      rw [dumps]
      exact printable_signedDecimalText value
  | .str text => by
      rw [dumps, ← List.append_nil (quote :: _)]
      exact printable_quoted text (by simp)
  | .dict [] => by
      rw [dumps, List.forall_mem_cons, List.forall_mem_singleton]
      exact ⟨by decide, by decide⟩
  | .dict ((key, value) :: members) => by
      rw [dumps, List.forall_mem_cons]
      refine ⟨by decide, printable_quoted key ?_⟩
      rw [List.forall_mem_cons, List.forall_mem_append]
      exact ⟨by decide, printable_dumps value, printable_dumpsFurther members⟩

theorem printable_dumpsFurther : ∀ members : List (PyStr × PyValue),
    ∀ byte ∈ dumpsFurther members, 32 ≤ byte.toNat ∧ byte.toNat ≤ 126
  | [] => by
      rw [dumpsFurther, List.forall_mem_singleton]
      decide
  | (key, value) :: members => by
      rw [dumpsFurther, List.forall_mem_cons]
      refine ⟨by decide, printable_quoted key ?_⟩
      rw [List.forall_mem_cons, List.forall_mem_append]
      exact ⟨by decide, printable_dumps value, printable_dumpsFurther members⟩

end

/-- **What `json.dumps` makes is a JSON text.** -/
theorem isJsonText_dumps (value : PyValue) : IsJsonText (dumps value) (dumpsTree value) := by
  rw [dumps_eq]
  exact isJsonText_compactText (wellFormed_dumpsTree value)

end FlightComputer.BoardTester
