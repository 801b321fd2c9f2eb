import FlightComputer.Library.Decimal

/-!
# JSON texts

The grammar of RFC 8259 in two steps. A tree determines its lexemes: the six
punctuation bytes, string literals and the other literals. A text lays lexemes
out with whitespace between them (`LaidOut`). Strings and literals are kept as
they are spelled, so that a tree says how its text is written up to whitespace.

`IsJsonText` is the grammar; `compactText` is the layout without whitespace.
Bytes from 0x80 on belong to the UTF-8 encoding, which the grammar does not look
into.
-/

set_option autoImplicit false

namespace FlightComputer.Library

/-- A JSON value as it is spelled: strings between their quotes, numbers and the
three names as literals. -/
inductive JsonTree where
  | literal (text : Bytes)
  | string (content : Bytes)
  | array (elements : List JsonTree)
  | object (members : List (Bytes × JsonTree))

/-- What a text consists of, apart from whitespace. -/
inductive Lexeme where
  | punctuation (byte : UInt8)
  | string (content : Bytes)
  | literal (text : Bytes)
  deriving DecidableEq

/-- `"` -/
def quote : UInt8 := '"'.toUInt8

/-- `\` -/
def backslash : UInt8 := '\\'.toUInt8

def leftBrace : UInt8 := '{'.toUInt8

def rightBrace : UInt8 := '}'.toUInt8

def leftBracket : UInt8 := '['.toUInt8

def rightBracket : UInt8 := ']'.toUInt8

def colon : UInt8 := ':'.toUInt8

def comma : UInt8 := ','.toUInt8

/-- Space, tab, line feed and carriage return. -/
def isJsonWhitespace (byte : UInt8) : Bool :=
  byte == ' '.toUInt8 || byte == '\t'.toUInt8 || byte == lineFeed || byte == carriageReturn

/-- The bytes of a lexeme. -/
def Lexeme.text : Lexeme → Bytes
  | .punctuation byte => [byte]
  | .string content => quote :: (content ++ [quote])
  | .literal text => text

mutual

/-- The lexemes of a tree. -/
def JsonTree.lexemes : JsonTree → List Lexeme
  | .literal text => [.literal text]
  | .string content => [.string content]
  | .array [] => [.punctuation leftBracket, .punctuation rightBracket]
  | .array (element :: elements) =>
      .punctuation leftBracket :: (element.lexemes ++ furtherElements elements)
  | .object [] => [.punctuation leftBrace, .punctuation rightBrace]
  | .object ((name, value) :: members) =>
      .punctuation leftBrace :: .string name :: .punctuation colon ::
        (value.lexemes ++ furtherMembers members)

/-- The lexemes after the first element of an array. -/
def furtherElements : List JsonTree → List Lexeme
  | [] => [.punctuation rightBracket]
  | element :: elements =>
      .punctuation comma :: (element.lexemes ++ furtherElements elements)

/-- The lexemes after the first member of an object. -/
def furtherMembers : List (Bytes × JsonTree) → List Lexeme
  | [] => [.punctuation rightBrace]
  | (name, value) :: members =>
      .punctuation comma :: .string name :: .punctuation colon ::
        (value.lexemes ++ furtherMembers members)

end

/-- A text that spells lexemes in order, with whitespace before, between and
after them. -/
inductive LaidOut : List Lexeme → Bytes → Prop where
  | blank {gap : Bytes} (space : ∀ byte ∈ gap, isJsonWhitespace byte = true) : LaidOut [] gap
  | lexeme {gap : Bytes} {lexeme : Lexeme} {lexemes : List Lexeme} {text : Bytes}
      (space : ∀ byte ∈ gap, isJsonWhitespace byte = true) (later : LaidOut lexemes text) :
      LaidOut (lexeme :: lexemes) (gap ++ (lexeme.text ++ text))

/-- The text of lexemes without whitespace. -/
def compactText (lexemes : List Lexeme) : Bytes := (lexemes.map Lexeme.text).flatten

@[simp] theorem compactText_nil : compactText [] = [] := rfl

@[simp] theorem compactText_cons (lexeme : Lexeme) (lexemes : List Lexeme) :
    compactText (lexeme :: lexemes) = lexeme.text ++ compactText lexemes := rfl

@[simp] theorem compactText_append (first second : List Lexeme) :
    compactText (first ++ second) = compactText first ++ compactText second := by
  simp [compactText]

theorem laidOut_compactText (lexemes : List Lexeme) : LaidOut lexemes (compactText lexemes) := by
  induction lexemes with
  | nil => exact .blank (by simp)
  | cons lexeme lexemes ih =>
      exact @LaidOut.lexeme [] lexeme lexemes _ (by simp) ih

/-! ## Well-formed spellings -/

/-- Decimal digits. -/
def AllDigits (text : Bytes) : Prop := ∀ byte ∈ text, isDecimalDigit byte.toNat = true

/-- The integer part of a number: a zero, or digits that do not start with one. -/
def IsIntegerPart (text : Bytes) : Prop :=
  AllDigits text ∧ ∃ first others, text = first :: others ∧ (first = '0'.toUInt8 → others = [])

/-- The fraction of a number. -/
def IsFraction (text : Bytes) : Prop :=
  ∃ digits, text = '.'.toUInt8 :: digits ∧ digits ≠ [] ∧ AllDigits digits

/-- The exponent of a number. -/
def IsExponent (text : Bytes) : Prop :=
  ∃ mark sign digits, text = mark :: (sign ++ digits) ∧
    (mark = 'e'.toUInt8 ∨ mark = 'E'.toUInt8) ∧
    (sign = [] ∨ sign = ['+'.toUInt8] ∨ sign = ['-'.toUInt8]) ∧ digits ≠ [] ∧ AllDigits digits

/-- A JSON number. -/
def IsNumber (text : Bytes) : Prop :=
  ∃ minus whole fraction exponent, text = minus ++ (whole ++ (fraction ++ exponent)) ∧
    (minus = [] ∨ minus = ['-'.toUInt8]) ∧ IsIntegerPart whole ∧
    (fraction = [] ∨ IsFraction fraction) ∧ (exponent = [] ∨ IsExponent exponent)

/-- A hexadecimal digit. -/
def isHexDigit (byte : UInt8) : Bool :=
  isDecimalDigit byte.toNat || (decide (97 ≤ byte.toNat) && decide (byte.toNat ≤ 102)) ||
    (decide (65 ≤ byte.toNat) && decide (byte.toNat ≤ 70))

/-- The bytes that may follow a backslash, other than `u`. -/
def isEscapeLetter (byte : UInt8) : Bool :=
  byte == quote || byte == backslash || byte == '/'.toUInt8 || byte == 'b'.toUInt8 ||
    byte == 'f'.toUInt8 || byte == 'n'.toUInt8 || byte == 'r'.toUInt8 || byte == 't'.toUInt8

/-- A byte that stands for itself in a string. -/
def isPlainStringByte (byte : UInt8) : Bool :=
  decide (32 ≤ byte.toNat) && byte != quote && byte != backslash

theorem isPlainStringByte_iff (byte : UInt8) :
    isPlainStringByte byte = true ↔ 32 ≤ byte.toNat ∧ byte.toNat ≠ 34 ∧ byte.toNat ≠ 92 := by
  have code : ∀ other : UInt8, byte ≠ other ↔ byte.toNat ≠ other.toNat := fun other =>
    UInt8.toNat_inj.not.symm
  rw [isPlainStringByte, Bool.and_eq_true, Bool.and_eq_true, decide_eq_true_eq, bne_iff_ne,
    bne_iff_ne, code, code, and_assoc]
  rfl

/-- What may stand between the quotes of a string. -/
inductive IsStringContent : Bytes → Prop where
  | nil : IsStringContent []
  | plain {byte : UInt8} {rest : Bytes} (itself : isPlainStringByte byte = true)
      (later : IsStringContent rest) : IsStringContent (byte :: rest)
  | escape {letter : UInt8} {rest : Bytes} (known : isEscapeLetter letter = true)
      (later : IsStringContent rest) : IsStringContent (backslash :: letter :: rest)
  | unicode {a b c d : UInt8} {rest : Bytes}
      (hex : (isHexDigit a && isHexDigit b && isHexDigit c && isHexDigit d) = true)
      (later : IsStringContent rest) :
      IsStringContent (backslash :: 'u'.toUInt8 :: a :: b :: c :: d :: rest)

mutual

/-- Every string and every literal of a tree is spelled as the grammar says. -/
def JsonTree.WellFormed : JsonTree → Prop
  | .literal text =>
      text = ascii "true" ∨ text = ascii "false" ∨ text = ascii "null" ∨ IsNumber text
  | .string content => IsStringContent content
  | .array elements => elementsWellFormed elements
  | .object members => membersWellFormed members

/-- All elements of an array are well formed. -/
def elementsWellFormed : List JsonTree → Prop
  | [] => True
  | element :: elements => element.WellFormed ∧ elementsWellFormed elements

/-- All members of an object are well formed. -/
def membersWellFormed : List (Bytes × JsonTree) → Prop
  | [] => True
  | (name, value) :: members =>
      IsStringContent name ∧ value.WellFormed ∧ membersWellFormed members

end

/-- **A JSON text of RFC 8259** that spells the given tree. -/
def IsJsonText (text : Bytes) (tree : JsonTree) : Prop :=
  tree.WellFormed ∧ LaidOut tree.lexemes text

theorem isJsonText_compactText {tree : JsonTree} (wellFormed : tree.WellFormed) :
    IsJsonText (compactText tree.lexemes) tree :=
  ⟨wellFormed, laidOut_compactText _⟩

/-- The decimal spelling of a natural number is a JSON number. -/
theorem isIntegerPart_decimalText (n : Nat) : IsIntegerPart (decimalText n) := by
  refine ⟨isDecimalDigit_of_mem_decimalText, ?_⟩
  rcases Nat.eq_zero_or_pos n with rfl | positive
  · exact ⟨_, [], decimalText_of_lt (by decide), fun _ => rfl⟩
  · obtain ⟨first, others, spelled, nonzero⟩ := decimalText_eq_cons positive
    exact ⟨first, others, spelled, fun zero => absurd zero nonzero⟩

theorem isNumber_decimalText (n : Nat) : IsNumber (decimalText n) :=
  ⟨[], decimalText n, [], [], by simp, .inl rfl, isIntegerPart_decimalText n, .inl rfl, .inl rfl⟩

theorem isNumber_signedDecimalText (z : Int) : IsNumber (signedDecimalText z) := by
  cases z with
  | ofNat n => exact isNumber_decimalText n
  | negSucc n =>
      exact ⟨['-'.toUInt8], decimalText (n + 1), [], [], by simp [signedDecimalText], .inr rfl,
        isIntegerPart_decimalText _, .inl rfl, .inl rfl⟩

/-- Bytes that stand for themselves need no escape. -/
theorem isStringContent_of_plain {content : Bytes}
    (plain : ∀ byte ∈ content, isPlainStringByte byte = true) : IsStringContent content := by
  induction content with
  | nil => exact .nil
  | cons byte content ih =>
      exact .plain (plain byte List.mem_cons_self)
        (ih fun other member => plain other (List.mem_cons_of_mem _ member))

end FlightComputer.Library
