import FlightComputer.BoardTester.JsonEncoding

/-!
# `json.loads`

The tester reads a line with `json.loads(line.decode("utf-8"))`. The decoder
(`scan_once` and its parts in the standard library) takes more than JSON: the
names `NaN`, `Infinity` and `-Infinity` are numbers, and of members with one
name the last one counts. Texts are lists of code points.

What `json.dumps` makes of a value whose strings are printable ASCII without
quotes and backslashes, and whose dictionaries name each key once, is read back
as that value (`loads_dumps`).
-/

set_option autoImplicit false

namespace FlightComputer.BoardTester

open Library

/-- A Python float, as the decimal number it was read from, not rounded. -/
inductive PyFloat where
  | decimal (significand exponent : Int)
  | nan
  | infinity (negative : Bool)
  deriving DecidableEq

/-- What `json.loads` returns. A dictionary keeps the order of insertion. -/
inductive PyJson where
  | none
  | bool (value : Bool)
  | int (value : Int)
  | float (value : PyFloat)
  | str (text : PyStr)
  | list (elements : List PyJson)
  | dict (members : List (PyStr × PyJson))

/-! ## `bytes.decode` -/

/-- A continuation byte of UTF-8. -/
def isUtf8Tail (byte : UInt8) : Bool := decide (0x80 ≤ byte.toNat) && decide (byte.toNat ≤ 0xBF)

/-- Whether two bytes may start a sequence of three: no overlong form and no
surrogate. -/
def startsThree (first second : UInt8) : Bool :=
  let lead := first.toNat
  decide (0xE0 ≤ lead) && decide (lead ≤ 0xEF) && isUtf8Tail second &&
    (lead != 0xE0 || decide (0xA0 ≤ second.toNat)) && (lead != 0xED || decide (second.toNat ≤ 0x9F))

/-- Whether two bytes may start a sequence of four: no overlong form and nothing
above 0x10FFFF. -/
def startsFour (first second : UInt8) : Bool :=
  let lead := first.toNat
  decide (0xF0 ≤ lead) && decide (lead ≤ 0xF4) && isUtf8Tail second &&
    (lead != 0xF0 || decide (0x90 ≤ second.toNat)) && (lead != 0xF4 || decide (second.toNat ≤ 0x8F))

/-- `line.decode("utf-8")` -/
def decodeUtf8 : Bytes → Option PyStr
  | [] => some []
  | first :: rest =>
      if first.toNat < 0x80 then (decodeUtf8 rest).map (first.toNat :: ·)
      else
        match rest with
        | [] => none
        | second :: rest =>
            if 0xC2 ≤ first.toNat ∧ first.toNat ≤ 0xDF ∧ isUtf8Tail second then
              (decodeUtf8 rest).map
                (((first.toNat - 0xC0) * 64 + (second.toNat - 0x80)) :: ·)
            else
              match rest with
              | [] => none
              | third :: rest =>
                  if startsThree first second && isUtf8Tail third then
                    (decodeUtf8 rest).map
                      ((((first.toNat - 0xE0) * 64 + (second.toNat - 0x80)) * 64 +
                        (third.toNat - 0x80)) :: ·)
                  else
                    match rest with
                    | [] => none
                    | fourth :: rest =>
                        if startsFour first second && isUtf8Tail third && isUtf8Tail fourth then
                          (decodeUtf8 rest).map
                            (((((first.toNat - 0xF0) * 64 + (second.toNat - 0x80)) * 64 +
                              (third.toNat - 0x80)) * 64 + (fourth.toNat - 0x80)) :: ·)
                        else none

/-! ## Numbers -/

/-- The integer part of a number: a zero, or all digits that follow. -/
def integerDigits : PyStr → Option (PyStr × PyStr)
  | [] => none
  | code :: rest =>
      if code = 48 then some ([48], rest)
      else if isDecimalDigit code then
        some ((code :: rest).takeWhile isDecimalDigit, (code :: rest).dropWhile isDecimalDigit)
      else none

/-- The digits after a decimal point, if there are any. -/
def fractionDigits (text : PyStr) : PyStr × PyStr :=
  match text with
  | point :: code :: rest =>
      if point = 46 ∧ isDecimalDigit code then
        ((code :: rest).takeWhile isDecimalDigit, (code :: rest).dropWhile isDecimalDigit)
      else ([], text)
  | _ => ([], text)

/-- The sign of an exponent. -/
def exponentSign : PyStr → Bool × PyStr
  | code :: rest => if code = 45 then (true, rest) else if code = 43 then (false, rest)
      else (false, code :: rest)
  | [] => (false, [])

/-- An exponent, if there is one with digits. -/
def exponentValue (text : PyStr) : Option Int × PyStr :=
  match text with
  | mark :: rest =>
      if mark = 101 ∨ mark = 69 then
        let (negative, digits) := exponentSign rest
        if (digits.takeWhile isDecimalDigit).isEmpty then (none, text)
        else
          let value : Int := numeralValue (digits.takeWhile isDecimalDigit)
          (some (if negative then -value else value), digits.dropWhile isDecimalDigit)
      else (none, text)
  | [] => (none, text)

/-- A sign in front of a value. -/
def signed (negative : Bool) (value : Nat) : Int := if negative then -value else value

/-- `_match_number_unicode`, behind the sign. -/
def matchUnsigned (negative : Bool) (text : PyStr) : Option (PyJson × PyStr) :=
  match integerDigits text with
  | none => none
  | some (whole, afterWhole) =>
      let (fraction, afterFraction) := fractionDigits afterWhole
      let (exponent, rest) := exponentValue afterFraction
      if fraction.isEmpty && exponent.isNone then
        some (.int (signed negative (numeralValue whole)), rest)
      else
        some (.float (.decimal (signed negative (numeralValue (whole ++ fraction)))
          (exponent.getD 0 - fraction.length)), rest)

/-- `_match_number_unicode` -/
def matchNumber : PyStr → Option (PyJson × PyStr)
  | [] => none
  | code :: rest => if code = 45 then matchUnsigned true rest else matchUnsigned false (code :: rest)

/-! ## Strings -/

/-- The value of a hexadecimal digit. -/
def hexDigitValue (code : Nat) : Option Nat :=
  if 48 ≤ code ∧ code ≤ 57 then some (code - 48)
  else if 97 ≤ code ∧ code ≤ 102 then some (code - 87)
  else if 65 ≤ code ∧ code ≤ 70 then some (code - 55)
  else none

/-- What an escape other than `\u` stands for. -/
def escapedCode (letter : Nat) : Option Nat :=
  if letter = 34 ∨ letter = 92 ∨ letter = 47 then some letter
  else if letter = 98 then some 8
  else if letter = 102 then some 12
  else if letter = 110 then some 10
  else if letter = 114 then some 13
  else if letter = 116 then some 9
  else none

/-- The units of a string up to its closing quote, each with whether it is
spelled as `\uXXXX`. -/
def scanUnits : PyStr → Option (List (Nat × Bool) × PyStr)
  | [] => none
  | code :: rest =>
      if code = 34 then some ([], rest)
      else if code = 92 then
        match rest with
        | [] => none
        | letter :: rest =>
            if letter = 117 then
              match rest with
              | a :: b :: c :: d :: rest =>
                  match hexDigitValue a, hexDigitValue b, hexDigitValue c, hexDigitValue d with
                  | some a, some b, some c, some d =>
                      (scanUnits rest).map fun (units, rest) =>
                        ((((a * 16 + b) * 16 + c) * 16 + d, true) :: units, rest)
                  | _, _, _, _ => none
              | _ => none
            else
              match escapedCode letter with
              | none => none
              | some code => (scanUnits rest).map fun (units, rest) => ((code, false) :: units, rest)
      else if code < 32 then none
      else (scanUnits rest).map fun (units, rest) => ((code, false) :: units, rest)

/-- Escaped surrogates that form a pair are joined. -/
def joinSurrogates : List (Nat × Bool) → PyStr
  | [] => []
  | [(unit, _)] => [unit]
  | (high, escaped) :: (low, escaped') :: units =>
      if escaped && escaped' && decide (0xd800 ≤ high) && decide (high ≤ 0xdbff) &&
          decide (0xdc00 ≤ low) && decide (low ≤ 0xdfff) then
        (0x10000 + (high - 0xd800) * 1024 + (low - 0xdc00)) :: joinSurrogates units
      else high :: joinSurrogates ((low, escaped') :: units)

/-- `scanstring`, behind the opening quote. -/
def scanString (text : PyStr) : Option (PyStr × PyStr) :=
  (scanUnits text).map fun (units, rest) => (joinSurrogates units, rest)

/-! ## Values -/

/-- Space, tab, line feed and carriage return. -/
def isPyJsonSpace (code : Nat) : Bool := code == 32 || code == 9 || code == 10 || code == 13

/-- The text behind its leading whitespace. -/
def skipSpace (text : PyStr) : PyStr := text.dropWhile isPyJsonSpace

/-- `dict[key] = value` -/
def dictSet (members : List (PyStr × PyJson)) (key : PyStr) (value : PyJson) :
    List (PyStr × PyJson) :=
  if members.any fun member => member.1 == key then
    members.map fun member => if member.1 == key then (member.1, value) else member
  else members ++ [(key, value)]

mutual

/-- `scan_once`. Each call consumes at least one code point, so that the length
of the text is a sufficient bound on their depth. -/
def scanOnce : Nat → PyStr → Option (PyJson × PyStr)
  | 0, _ => none
  | _ + 1, [] => none
  | bound + 1, code :: rest =>
      if code = 34 then (scanString rest).map fun (text, rest) => (.str text, rest)
      else if code = 123 then
        match skipSpace rest with
        | 125 :: rest => some (.dict [], rest)
        | text => scanMembers bound [] text
      else if code = 91 then
        match skipSpace rest with
        | 93 :: rest => some (.list [], rest)
        | text => scanElements bound [] text
      else if (pyStr "null").isPrefixOf (code :: rest) then some (.none, rest.drop 3)
      else if (pyStr "true").isPrefixOf (code :: rest) then some (.bool true, rest.drop 3)
      else if (pyStr "false").isPrefixOf (code :: rest) then some (.bool false, rest.drop 4)
      else if (pyStr "NaN").isPrefixOf (code :: rest) then some (.float .nan, rest.drop 2)
      else if (pyStr "Infinity").isPrefixOf (code :: rest) then
        some (.float (.infinity false), rest.drop 7)
      else if (pyStr "-Infinity").isPrefixOf (code :: rest) then
        some (.float (.infinity true), rest.drop 8)
      else matchNumber (code :: rest)

/-- The loop of `_parse_object_unicode`, from the name of a member on. -/
def scanMembers : Nat → List (PyStr × PyJson) → PyStr → Option (PyJson × PyStr)
  | bound + 1, members, 34 :: text =>
      match scanString text with
      | none => none
      | some (key, text) =>
          match skipSpace text with
          | [] => none
          | code :: text =>
              if code = 58 then
                match scanOnce bound (skipSpace text) with
                | none => none
                | some (value, text) =>
                    match skipSpace text with
                    | [] => none
                    | code :: text =>
                        if code = 125 then some (.dict (dictSet members key value), text)
                        else if code = 44 then
                          scanMembers bound (dictSet members key value) (skipSpace text)
                        else none
              else none
  | _, _, _ => none

/-- The loop of `_parse_array_unicode`, from an element on. -/
def scanElements : Nat → List PyJson → PyStr → Option (PyJson × PyStr)
  | 0, _, _ => none
  | bound + 1, elements, text =>
      match scanOnce bound text with
      | none => none
      | some (value, text) =>
          match skipSpace text with
          | [] => none
          | code :: text =>
              if code = 93 then some (.list (elements ++ [value]), text)
              else if code = 44 then scanElements bound (elements ++ [value]) (skipSpace text)
              else none

end

/-- `json.loads` of a string, unless it raises `JSONDecodeError`. -/
def loads (text : PyStr) : Option PyJson :=
  if text.head? = some 0xfeff then none
  else
    match scanOnce (text.length + 1) (skipSpace text) with
    | none => none
    | some (value, rest) => if skipSpace rest = [] then some value else none

/-! ## Plain values -/

/-- Printable ASCII without quotes and backslashes. -/
def IsPlainText (text : PyStr) : Prop :=
  ∀ code ∈ text, 32 ≤ code ∧ code ≤ 126 ∧ code ≠ 34 ∧ code ≠ 92

theorem isPlainText_pyStr {text : String}
    (plain : ((pyStr text).all fun code =>
      decide (32 ≤ code ∧ code ≤ 126 ∧ code ≠ 34 ∧ code ≠ 92)) = true) :
    IsPlainText (pyStr text) :=
  fun code listed => of_decide_eq_true (List.all_eq_true.mp plain code listed)

mutual

/-- The strings of a value are plain, and its keys distinct. -/
def PyValue.Plain : PyValue → Prop
  | .int _ => True
  | .str text => IsPlainText text
  | .dict members => (members.map Prod.fst).Nodup ∧ membersPlain members

/-- The strings of members are plain. -/
def membersPlain : List (PyStr × PyValue) → Prop
  | [] => True
  | (key, value) :: members => IsPlainText key ∧ value.Plain ∧ membersPlain members

end

mutual

/-- A value as it is loaded. -/
def PyValue.loaded : PyValue → PyJson
  | .int value => .int value
  | .str text => .str text
  | .dict members => .dict (loadedMembers members)

/-- Members as they are loaded. -/
def loadedMembers : List (PyStr × PyValue) → List (PyStr × PyJson)
  | [] => []
  | (key, value) :: members => (key, value.loaded) :: loadedMembers members

end

mutual

/-- A bound on the depth of the calls that read a value. -/
def PyValue.size : PyValue → Nat
  | .int _ => 1
  | .str _ => 1
  | .dict members => 1 + membersSize members

/-- A bound on the depth of the calls that read members. -/
def membersSize : List (PyStr × PyValue) → Nat
  | [] => 0
  | (_, value) :: members => 1 + value.size + membersSize members

end

/-! ## Reading plain text -/

theorem codes_escapeText_of_plain {text : PyStr} (plain : IsPlainText text) :
    codes (escapeText text) = text := by
  have spelled : codes (text.map UInt8.ofNat) = text := by
    rw [codes, List.map_map]
    refine (List.map_congr_left fun code listed => ?_).trans (List.map_id text)
    have small := (plain code listed).2.1
    exact UInt8.toNat_ofNat_of_lt' (Nat.lt_of_le_of_lt small (by decide))
  have itself := @escapeText_of_plain (text.map UInt8.ofNat) fun byte listed => by
    have code := plain byte.toNat (spelled ▸ List.mem_map_of_mem listed)
    exact ⟨(isPlainStringByte_iff byte).mpr ⟨code.1, code.2.2⟩, code.2.1⟩
  rw [spelled] at itself
  rw [itself, spelled]

theorem scanUnits_of_plain {text : PyStr} (plain : IsPlainText text) (rest : PyStr) :
    scanUnits (text ++ 34 :: rest) = some (text.map (·, false), rest) := by
  induction text with
  | nil =>
      rw [List.nil_append, scanUnits.eq_def]
      exact if_pos rfl
  | cons code text ih =>
      obtain ⟨printable, _, unquoted, unescaped⟩ := plain code List.mem_cons_self
      rw [List.cons_append, scanUnits.eq_def]
      dsimp only
      rw [if_neg unquoted, if_neg unescaped, if_neg (Nat.not_lt.mpr printable),
        ih fun other listed => plain other (List.mem_cons_of_mem _ listed)]
      rfl

theorem joinSurrogates_unescaped (text : PyStr) :
    joinSurrogates (text.map (·, false)) = text := by
  induction text with
  | nil => rfl
  | cons code text ih =>
      cases text with
      | nil => rfl
      | cons next text =>
          change (if false = true then _ else code :: joinSurrogates _) = _
          rw [if_neg Bool.false_ne_true]
          exact congrArg (code :: ·) ih

theorem scanString_of_plain {text : PyStr} (plain : IsPlainText text) (rest : PyStr) :
    scanString (text ++ 34 :: rest) = some (text, rest) := by
  rw [scanString, scanUnits_of_plain plain, Option.map_some]
  exact congrArg (fun units => some (units, rest)) (joinSurrogates_unescaped text)

/-- A text whose start does not continue a number. -/
def EndsNumber (rest : PyStr) : Prop :=
  ∀ code, rest.head? = some code →
    isDecimalDigit code = false ∧ code ≠ 46 ∧ code ≠ 101 ∧ code ≠ 69

theorem takeWhile_digits {digits rest : PyStr}
    (all : ∀ code ∈ digits, isDecimalDigit code = true) (ends : EndsNumber rest) :
    (digits ++ rest).takeWhile isDecimalDigit = digits ∧
      (digits ++ rest).dropWhile isDecimalDigit = rest := by
  induction digits with
  | nil =>
      cases rest with
      | nil => exact ⟨rfl, rfl⟩
      | cons code rest =>
          have other := (ends code rfl).1
          rw [List.nil_append, List.takeWhile_cons_of_neg (by simp [other]),
            List.dropWhile_cons_of_neg (by simp [other])]
          exact ⟨rfl, rfl⟩
  | cons code digits ih =>
      obtain ⟨taken, dropped⟩ := ih fun other listed => all other (List.mem_cons_of_mem _ listed)
      have digit := all code List.mem_cons_self
      rw [List.cons_append, List.takeWhile_cons_of_pos digit, List.dropWhile_cons_of_pos digit,
        taken, dropped]
      exact ⟨rfl, rfl⟩

/-- The digits of a number are its integer part. -/
theorem integerDigits_decimalText (n : Nat) {rest : PyStr} (ends : EndsNumber rest) :
    integerDigits (codes (decimalText n) ++ rest) = some (codes (decimalText n), rest) := by
  rcases Nat.eq_zero_or_pos n with rfl | positive
  · rfl
  · obtain ⟨first, others, spelled, nonzero⟩ := decimalText_eq_cons positive
    have all : ∀ code ∈ codes (decimalText n), isDecimalDigit code = true := by
      intro code listed
      obtain ⟨byte, member, rfl⟩ := List.mem_map.mp listed
      exact isDecimalDigit_of_mem_decimalText byte member
    obtain ⟨taken, dropped⟩ := takeWhile_digits all ends
    rw [spelled, codes_cons] at taken dropped all ⊢
    rw [List.cons_append] at taken dropped ⊢
    have notZero : first.toNat ≠ 48 := fun zero => nonzero (UInt8.toNat_inj.mp zero)
    rw [integerDigits, if_neg notZero, if_pos (all _ List.mem_cons_self), taken, dropped]

theorem matchUnsigned_decimalText (negative : Bool) (n : Nat) {rest : PyStr}
    (ends : EndsNumber rest) :
    matchUnsigned negative (codes (decimalText n) ++ rest) =
      some (.int (signed negative n), rest) := by
  have fraction : fractionDigits rest = ([], rest) := by
    rcases rest with _ | ⟨point, _ | ⟨code, rest⟩⟩
    · rfl
    · rfl
    · exact if_neg fun found => (ends point rfl).2.1 found.1
  have exponent : exponentValue rest = (none, rest) := by
    rcases rest with _ | ⟨mark, rest⟩
    · rfl
    · exact if_neg fun found => found.elim (ends mark rfl).2.2.1 (ends mark rfl).2.2.2
  rw [matchUnsigned, integerDigits_decimalText n ends]
  dsimp only
  rw [fraction]
  dsimp only
  rw [exponent, numeralValue_decimalText]
  rfl

/-- **A spelled integer is read back.** -/
theorem matchNumber_signedDecimalText (z : Int) {rest : PyStr} (ends : EndsNumber rest) :
    matchNumber (codes (signedDecimalText z) ++ rest) = some (.int z, rest) := by
  cases z with
  | ofNat n =>
      obtain ⟨first, others, spelled⟩ := List.exists_cons_of_ne_nil (decimalText_ne_nil n)
      have unsigned := matchUnsigned_decimalText false n ends
      have digit := isDecimalDigit_of_mem_decimalText first (spelled ▸ List.mem_cons_self)
      have notMinus : first.toNat ≠ 45 := by
        intro minus
        rw [minus] at digit
        exact absurd digit (by decide)
      rw [signedDecimalText]
      rw [spelled, codes_cons, List.cons_append] at unsigned ⊢
      rw [matchNumber, if_neg notMinus, unsigned]
      rfl
  | negSucc n =>
      rw [signedDecimalText, codes_cons, List.cons_append]
      exact matchUnsigned_decimalText true (n + 1) ends

/-! ## Reading dumped values -/

theorem skipSpace_cons {code : Nat} {rest : PyStr} (visible : isPyJsonSpace code = false) :
    skipSpace (code :: rest) = code :: rest :=
  List.dropWhile_cons_of_neg (by simp [visible])

/-- No name starts like a number. -/
theorem isPrefixOf_cons_of_ne {first code : Nat} {name rest : PyStr} (other : code ≠ first) :
    (first :: name).isPrefixOf (code :: rest) = false := by
  rw [List.isPrefixOf, beq_eq_false_iff_ne.mpr other.symm, Bool.false_and]

/-- An integer is read as the number it is. -/
theorem scanOnce_int (z : Int) (bound : Nat) {rest : PyStr} (ends : EndsNumber rest) :
    scanOnce (bound + 1) (codes (signedDecimalText z) ++ rest) = some (.int z, rest) := by
  have number := matchNumber_signedDecimalText z ends
  obtain ⟨first, second, others, spelled, either⟩ : ∃ first second others,
      codes (signedDecimalText z) ++ rest = first :: (second ++ others) ∧
        (isDecimalDigit first = true ∧ second = [] ∨
          first = 45 ∧ ∃ digit, second = [digit] ∧ isDecimalDigit digit = true) := by
    have digits : ∀ n, ∃ digit others, codes (decimalText n) ++ rest = digit :: others ∧
        isDecimalDigit digit = true := by
      intro n
      obtain ⟨digit, others, spelled⟩ := List.exists_cons_of_ne_nil (decimalText_ne_nil n)
      refine ⟨digit.toNat, codes others ++ rest, by rw [spelled]; rfl, ?_⟩
      exact isDecimalDigit_of_mem_decimalText digit (spelled ▸ List.mem_cons_self)
    cases z with
    | ofNat n =>
        obtain ⟨digit, others, spelled, isDigit⟩ := digits n
        exact ⟨digit, [], others, spelled, .inl ⟨isDigit, rfl⟩⟩
    | negSucc n =>
        obtain ⟨digit, others, spelled, isDigit⟩ := digits (n + 1)
        exact ⟨45, [digit], others, congrArg (45 :: ·) spelled, .inr ⟨rfl, digit, rfl, isDigit⟩⟩
  have among : first = 45 ∨ 48 ≤ first ∧ first ≤ 57 := by
    rcases either with ⟨digit, _⟩ | ⟨minus, _⟩
    · simp only [isDecimalDigit, Bool.and_eq_true, decide_eq_true_eq] at digit
      exact .inr digit
    · exact .inl minus
  have notInfinity : (pyStr "-Infinity").isPrefixOf (first :: (second ++ others)) = false := by
    rcases either with ⟨digit, _⟩ | ⟨rfl, digit, rfl, isDigit⟩
    · refine isPrefixOf_cons_of_ne ?_
      rintro rfl
      exact absurd digit (by decide)
    · have other : digit ≠ 73 := by
        rintro rfl
        exact absurd isDigit (by decide)
      change (45 :: 73 :: pyStr "nfinity").isPrefixOf (45 :: (digit :: others)) = false
      rw [List.isPrefixOf, isPrefixOf_cons_of_ne other, Bool.and_false]
  have notName : ∀ initial : Nat, ∀ name : PyStr, initial ≠ 45 → 57 < initial →
      (initial :: name).isPrefixOf (first :: (second ++ others)) = false := by
    intro initial name notMinus beyond
    exact isPrefixOf_cons_of_ne (by omega)
  rw [spelled] at number ⊢
  rw [scanOnce, if_neg (by omega), if_neg (by omega), if_neg (by omega),
    show (pyStr "null").isPrefixOf _ = false from notName 110 _ (by decide) (by decide),
    show (pyStr "true").isPrefixOf _ = false from notName 116 _ (by decide) (by decide),
    show (pyStr "false").isPrefixOf _ = false from notName 102 _ (by decide) (by decide),
    show (pyStr "NaN").isPrefixOf _ = false from notName 78 _ (by decide) (by decide),
    show (pyStr "Infinity").isPrefixOf _ = false from notName 73 _ (by decide) (by decide),
    notInfinity]
  exact number

/-- Text starts of dumped values are no whitespace. -/
theorem skipSpace_dumps (value : PyValue) (rest : PyStr) :
    skipSpace (codes (dumps value) ++ rest) = codes (dumps value) ++ rest := by
  obtain ⟨first, others, spelled, visible⟩ : ∃ first others,
      dumps value = first :: others ∧ isPyJsonSpace first.toNat = false := by
    cases value with
    | int z =>
        rw [dumps]
        cases z with
        | ofNat n =>
            obtain ⟨digit, others, spelled⟩ := List.exists_cons_of_ne_nil (decimalText_ne_nil n)
            refine ⟨digit, others, spelled, ?_⟩
            have isDigit :=
              isDecimalDigit_of_mem_decimalText digit (spelled ▸ List.mem_cons_self)
            simp only [isDecimalDigit, Bool.and_eq_true, decide_eq_true_eq] at isDigit
            simp only [isPyJsonSpace, Bool.or_eq_false_iff, beq_eq_false_iff_ne]
            omega
        | negSucc n => exact ⟨_, _, rfl, by decide⟩
    | str text =>
        rw [dumps]
        exact ⟨_, _, rfl, by decide⟩
    | dict members =>
        rcases members with _ | ⟨⟨key, value⟩, members⟩ <;> rw [dumps] <;>
          exact ⟨_, _, rfl, by decide⟩
  rw [spelled, codes_cons, List.cons_append]
  exact skipSpace_cons visible

theorem dictSet_of_notMem {members : List (PyStr × PyJson)} {key : PyStr} (value : PyJson)
    (fresh : key ∉ members.map Prod.fst) :
    dictSet members key value = members ++ [(key, value)] := by
  rw [dictSet, if_neg]
  simp only [List.any_eq_true, beq_iff_eq, not_exists, not_and]
  rintro member listed rfl
  exact fresh (List.mem_map_of_mem listed)

/-- What follows the first member of a dictionary ends a number. -/
theorem endsNumber_dumpsFurther (members : List (PyStr × PyValue)) (rest : PyStr) :
    EndsNumber (codes (dumpsFurther members) ++ rest) := by
  cases members with
  | nil =>
      rintro _ ⟨⟩
      decide
  | cons member members =>
      rintro _ ⟨⟩
      decide

theorem codes_dumps_str {text : PyStr} (plain : IsPlainText text) :
    codes (dumps (.str text)) = 34 :: (text ++ [34]) := by
  rw [dumps, codes_cons, codes_append, codes_escapeText_of_plain plain]
  rfl

theorem codes_dumps_dict {key : PyStr} (plain : IsPlainText key) (value : PyValue)
    (members : List (PyStr × PyValue)) (rest : PyStr) :
    codes (dumps (.dict ((key, value) :: members))) ++ rest =
      123 :: 34 :: (key ++ 34 :: 58 :: (codes (dumps value) ++
        (codes (dumpsFurther members) ++ rest))) := by
  simp only [dumps, codes_cons, codes_append, codes_escapeText_of_plain plain,
    List.cons_append, List.append_assoc, List.nil_append]
  rfl

theorem codes_dumpsFurther_cons {key : PyStr} (plain : IsPlainText key) (value : PyValue)
    (members : List (PyStr × PyValue)) (rest : PyStr) :
    codes (dumpsFurther ((key, value) :: members)) ++ rest =
      44 :: 34 :: (key ++ 34 :: 58 :: (codes (dumps value) ++
        (codes (dumpsFurther members) ++ rest))) := by
  simp only [dumpsFurther, codes_cons, codes_append, codes_escapeText_of_plain plain,
    List.cons_append, List.append_assoc, List.nil_append]
  rfl

/-- **The scanner reads what was dumped**, by induction on the bound. -/
theorem scan_dumps (bound : Nat) :
    (∀ (value : PyValue) (rest : PyStr), value.Plain → value.size ≤ bound → EndsNumber rest →
      scanOnce bound (codes (dumps value) ++ rest) = some (value.loaded, rest)) ∧
    (∀ (key : PyStr) (value : PyValue) (members : List (PyStr × PyValue))
      (earlier : List (PyStr × PyJson)) (rest : PyStr), IsPlainText key → value.Plain →
      membersPlain members → (earlier.map Prod.fst ++ key :: members.map Prod.fst).Nodup →
      1 + value.size + membersSize members ≤ bound →
      scanMembers bound earlier (34 :: (key ++ 34 :: 58 :: (codes (dumps value) ++
          (codes (dumpsFurther members) ++ rest)))) =
        some (.dict (earlier ++ (key, value.loaded) :: loadedMembers members), rest)) := by
  induction bound with
  | zero =>
      constructor
      · intro value rest plain small
        cases value <;> simp [PyValue.size] at small
      · intro key value members earlier rest _ _ _ _ small
        omega
  | succ bound ih =>
      obtain ⟨readsValue, readsMembers⟩ := ih
      constructor
      · intro value rest plain small ends
        cases value with
        | int z => exact scanOnce_int z bound ends
        | str text =>
            rw [codes_dumps_str plain, List.cons_append, List.append_assoc, List.singleton_append,
              scanOnce, if_pos rfl, scanString_of_plain plain]
            rfl
        | dict members =>
            cases members with
            | nil =>
                rw [dumps]
                rfl
            | cons member members =>
                obtain ⟨key, value⟩ := member
                obtain ⟨distinct, plainKey, plainValue, plainMembers⟩ := plain
                have fits : 1 + value.size + membersSize members ≤ bound := by
                  rw [PyValue.size, membersSize] at small
                  omega
                have read := readsMembers key value members [] rest plainKey plainValue
                  plainMembers distinct fits
                rw [codes_dumps_dict plainKey, scanOnce, if_neg (by decide), if_pos rfl,
                  skipSpace_cons (by decide)]
                exact read
      · intro key value members earlier rest plainKey plainValue plainMembers distinct small
        have fits : value.size ≤ bound := by omega
        have fresh : key ∉ earlier.map Prod.fst := by
          intro listed
          exact (List.nodup_append.mp distinct).2.2 key listed key List.mem_cons_self rfl
        rw [scanMembers, scanString_of_plain plainKey]
        dsimp only
        rw [skipSpace_cons (by decide)]
        dsimp only
        rw [if_pos rfl, skipSpace_dumps, readsValue value _ plainValue fits (endsNumber_dumpsFurther _ _)]
        dsimp only
        rw [dictSet_of_notMem _ fresh]
        cases members with
        | nil => rfl
        | cons member members =>
            obtain ⟨key', value'⟩ := member
            obtain ⟨plainKey', plainValue', plainMembers'⟩ := plainMembers
            have fits' : 1 + value'.size + membersSize members ≤ bound := by
              rw [membersSize] at small
              omega
            have distinct' : ((earlier ++ [(key, value.loaded)]).map Prod.fst ++
                key' :: members.map Prod.fst).Nodup := by
              simpa using distinct
            have read := readsMembers key' value' members (earlier ++ [(key, value.loaded)]) rest
              plainKey' plainValue' plainMembers' distinct' fits'
            rw [codes_dumpsFurther_cons plainKey', skipSpace_cons (by decide)]
            dsimp only
            rw [if_neg (by decide), if_pos rfl, skipSpace_cons (by decide), read, loadedMembers, List.append_assoc]
            rfl

/-- The text of a value is at least as long as its calls are deep. -/
theorem size_le_length_dumps (bound : Nat) :
    (∀ value : PyValue, value.size ≤ bound → value.size ≤ (dumps value).length + 1) ∧
      (∀ members : List (PyStr × PyValue), membersSize members ≤ bound →
        membersSize members ≤ (dumpsFurther members).length) := by
  induction bound with
  | zero =>
      constructor
      · intro value small
        omega
      · intro members small
        omega
  | succ bound ih =>
      have ofMembers : ∀ members : List (PyStr × PyValue), membersSize members ≤ bound + 1 →
          membersSize members ≤ (dumpsFurther members).length := by
        intro members small
        rcases members with _ | ⟨⟨key, value⟩, members⟩
        · exact Nat.zero_le _
        · rw [membersSize] at small ⊢
          have first := ih.1 value (by omega)
          have later := ih.2 members (by omega)
          simp only [dumpsFurther, List.length_cons, List.length_append, List.length_nil]
          omega
      refine ⟨fun value small => ?_, ofMembers⟩
      cases value with
      | int z => exact Nat.le_add_left 1 _
      | str text => exact Nat.le_add_left 1 _
      | dict members =>
          rcases members with _ | ⟨⟨key, value⟩, members⟩
          · exact Nat.le_add_left 1 _
          · rw [PyValue.size, membersSize] at small ⊢
            have first := ih.1 value (by omega)
            have later := ih.2 members (by omega)
            simp only [dumps, List.length_cons, List.length_append, List.length_nil]
            omega

/-- **`json.loads` reads back what `json.dumps` made** of a plain value. -/
theorem loads_dumps {value : PyValue} (plain : value.Plain) :
    loads (codes (dumps value)) = some value.loaded := by
  have noMark : (codes (dumps value)).head? ≠ some 0xfeff := by
    intro mark
    obtain ⟨others, spelled⟩ := List.head?_eq_some_iff.mp mark
    obtain ⟨byte, _, same⟩ := List.mem_map.mp
      (show 0xfeff ∈ codes (dumps value) from spelled ▸ List.mem_cons_self)
    have := byte.toNat_lt
    omega
  have deep := (size_le_length_dumps value.size).1 value (Nat.le_refl _)
  have read := (scan_dumps ((codes (dumps value)).length + 1)).1 value [] plain
    (by rwa [length_codes]) (by rintro _ ⟨⟩)
  have start := skipSpace_dumps value []
  rw [List.append_nil] at read start
  rw [loads, if_neg noMark, start, read]
  rfl

/-- Reading UTF-8, an ASCII text is its codes. -/
theorem decodeUtf8_of_ascii {text : Bytes} (low : ∀ byte ∈ text, byte.toNat < 128) :
    decodeUtf8 text = some (codes text) := by
  induction text with
  | nil => rfl
  | cons byte text ih =>
      rw [decodeUtf8.eq_def]
      dsimp only
      rw [if_pos (low byte List.mem_cons_self),
        ih fun other listed => low other (List.mem_cons_of_mem _ listed)]
      rfl

end FlightComputer.BoardTester
