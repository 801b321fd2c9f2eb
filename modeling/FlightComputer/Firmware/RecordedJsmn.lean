import FlightComputer.Firmware.JsonProtocol
import FlightComputer.Library.Recording

/-!
# The memory accesses of the tokenizer

The functions of `jsmn.h` again, on the memory that they read. The line is memory that goes on
behind its last byte, and the array of tokens is a part of the stack of which the tokenizer has
filled a part. Each read of the line and each access to a token is recorded, wherever it goes, and
a loop is given a number of iterations.

Reading a primitive and reading a string stop at the end of the line (`performs_primitiveLoop`,
`performs_stringLoop`).
-/

set_option autoImplicit false

namespace FlightComputer.Firmware

open Library Recording

/-- What the request parser does that could go wrong: it reads a byte of the line; the tokenizer
uses one of the tokens while so many of them are filled; the parser reads one of the tokens that
the tokenizer returned; it writes one of the two texts of the request; or it adds up a number in so
many bits. -/
inductive Access where
  | line (index : Int)
  | filling (index : Int) (filled : Nat)
  | token (index : Int)
  | testUuid (index : Nat)
  | testType (index : Nat)
  | sum (bits value : Nat)
  deriving DecidableEq

/-- An access that stays inside its buffer, or a sum that does not wrap, when the line has that
length and the tokenizer returns that many tokens. -/
def Access.IsSafe (length tokenCount : Nat) : Access → Prop
  | .line index => 0 ≤ index ∧ index < length
  | .filling index filled => 0 ≤ index ∧ index < filled ∧ filled ≤ jsonProtocolTokenCapacity
  | .token index => 0 ≤ index ∧ index < tokenCount
  | .testUuid index => index < jsonProtocolTestUuidLength + 1
  | .testType index => index < jsonProtocolTestTypeCapacity
  | .sum bits value => value < 2 ^ bits

/-- What the parser runs on: the memory from `line` on, `line_length`, what the array of tokens
holds before it is filled, and how many iterations each loop is given. -/
structure ParserInput where
  line : Nat → UInt8
  length : Nat
  stack : Nat → JsmnTok
  iterations : Nat

/-- The bytes of the line. -/
def ParserInput.text (input : ParserInput) : Bytes := (List.range input.length).map input.line

@[simp] theorem ParserInput.length_text (input : ParserInput) :
    input.text.length = input.length := by
  rw [ParserInput.text, List.length_map, List.length_range]

/-- An access that is safe with this line. -/
abbrev ParserInput.Safe (input : ParserInput) (tokenCount : Nat) : Access → Prop :=
  Access.IsSafe input.length tokenCount

/-- The loops are given enough iterations. -/
def ParserInput.Enough (input : ParserInput) : Prop :=
  input.length + jsonProtocolTokenCapacity < input.iterations

namespace Recorded

/-- A recorded program of the parser. -/
abbrev Program (ε α : Type) : Type := Recording Access ε α

/-- `line[index]`; a byte that is read twice in a row is recorded once. -/
def lineAt {ε : Type} (input : ParserInput) (index : Int) : Program ε UInt8 := do
  note (.line index)
  pure (input.line index.toNat)

/-- `tokens[index]`, among the tokens filled so far. -/
def filledToken {ε : Type} (input : ParserInput) (tokens : List JsmnTok) (index : Int) :
    Program ε JsmnTok := do
  note (.filling index tokens.length)
  pure (tokens[index.toNat]?.getD (input.stack index.toNat))

/-- `jsmn_alloc_token` and the assignments to the new token. -/
def jsmnAllocToken (tokenCapacity : Nat) (token : JsmnTok) (parser : JsmnParser) :
    Program JsmnError JsmnParser :=
  if tokenCapacity ≤ parser.tokens.length then stop .nomem
  else do
    note (.filling parser.tokens.length (parser.tokens.length + 1))
    pure { parser with tokens := parser.tokens ++ [token] }

/-- `tokens[parser->toksuper].size++` when there is a parent. -/
def jsmnCountChild (parser : JsmnParser) : Program JsmnError JsmnParser :=
  if parser.toksuper = -1 then pure parser
  else do
    note (.filling parser.toksuper parser.tokens.length)
    pure
      { parser with
        tokens := parser.tokens.modify parser.toksuper.toNat fun token =>
          { token with size := token.size + 1 } }

/-- An iteration of the loop of `jsmn_parse_primitive`. -/
def primitiveCharacter (input : ParserInput) (pos : Nat) : Program JsmnError (Nat ⊕ Nat) :=
  if input.length ≤ pos then pure (.inr pos)
  else do
    let character ← lineAt input pos
    if character = 0 ∨ endsPrimitive character = true then pure (.inr pos)
    else if character.toNat < 32 ∨ 127 ≤ character.toNat then stop .inval
    else pure (.inl (pos + 1))

/-- `jsmn_parse_primitive`; the decrement at its end is that of an unsigned number. -/
def jsmnParsePrimitive (input : ParserInput) (tokenCapacity : Nat) (parser : JsmnParser) :
    Program JsmnError JsmnParser := do
  let finish ← loop (primitiveCharacter input) input.iterations parser.pos
  let filled ← jsmnAllocToken tokenCapacity
    ⟨.primitive, parser.pos, finish, 0, parser.toksuper⟩ parser
  pure { filled with pos := (finish + (2 ^ 32 - 1)) % 2 ^ 32 }

/-- The loop over the digits behind `\u`: the position of the last one. -/
def unicodeDigits (input : ParserInput) : Nat → Nat → Program JsmnError Nat
  | 0, pos => pure pos
  | digits + 1, pos =>
      if input.length ≤ pos + 1 then stop .inval
      else do
        let character ← lineAt input (pos + 1 : Nat)
        if isHexDigit character = true then unicodeDigits input digits (pos + 1)
        else stop .inval

/-- An iteration of the loop of `jsmn_parse_string`. -/
def stringCharacter (input : ParserInput) (pos : Nat) : Program JsmnError (Nat ⊕ Nat) :=
  if input.length ≤ pos then stop .part
  else do
    let character ← lineAt input pos
    if character = 0 then stop .part
    else if character = quote then pure (.inr pos)
    else if character = backslash then
      if input.length ≤ pos + 1 then stop .part
      else do
        let letter ← lineAt input (pos + 1 : Nat)
        if letter = 'u'.toUInt8 then do
          let last ← unicodeDigits input 4 (pos + 1)
          pure (.inl (last + 1))
        else if isEscapeLetter letter = true then pure (.inl (pos + 2))
        else stop .inval
    else pure (.inl (pos + 1))

/-- `jsmn_parse_string` -/
def jsmnParseString (input : ParserInput) (tokenCapacity : Nat) (parser : JsmnParser) :
    Program JsmnError JsmnParser := do
  let finish ← loop (stringCharacter input) input.iterations (parser.pos + 1)
  let filled ← jsmnAllocToken tokenCapacity
    ⟨.string, parser.pos + 1, finish, 0, parser.toksuper⟩ parser
  pure { filled with pos := finish }

/-- The case of an opening brace or bracket. -/
def jsmnOpen (type : JsmnType) (tokenCapacity : Nat) (parser : JsmnParser) :
    Program JsmnError JsmnParser := do
  let opened ← jsmnAllocToken tokenCapacity ⟨type, parser.pos, -1, 0, parser.toksuper⟩ parser
  let counted ← jsmnCountChild opened
  pure { counted with toksuper := parser.tokens.length }

/-- An iteration of the search for an open token, down from the last one. -/
def closeToken (input : ParserInput) (type : JsmnType) (parser : JsmnParser) (index : Int) :
    Program JsmnError (Int ⊕ JsmnParser) :=
  if index < 0 then stop .inval
  else do
    let token ← filledToken input parser.tokens index
    if token.isOpen = true then
      if token.type ≠ type then stop .inval
      else
        pure (.inr
          { parser with
            tokens := parser.tokens.modify index.toNat fun token =>
              { token with end_ := (parser.pos : Int) + 1 }
            toksuper := token.parent })
    else pure (.inl (index - 1))

/-- The case of a closing brace or bracket. -/
def jsmnClose (input : ParserInput) (type : JsmnType) (parser : JsmnParser) :
    Program JsmnError JsmnParser :=
  loop (closeToken input type parser) input.iterations ((parser.tokens.length : Int) - 1)

/-- The body of the loop of `jsmn_parse`, at the byte `character`. -/
def jsmnParseCharacter (input : ParserInput) (tokenCapacity : Nat) (parser : JsmnParser)
    (character : UInt8) : Program JsmnError JsmnParser :=
  if character = leftBrace then jsmnOpen .object tokenCapacity parser
  else if character = leftBracket then jsmnOpen .array tokenCapacity parser
  else if character = rightBrace then jsmnClose input .object parser
  else if character = rightBracket then jsmnClose input .array parser
  else if character = quote then do
    let filled ← jsmnParseString input tokenCapacity parser
    jsmnCountChild filled
  else if (isJsonWhitespace character || character == colon || character == comma) = true then
    pure parser
  else do
    let filled ← jsmnParsePrimitive input tokenCapacity parser
    jsmnCountChild filled

/-- An iteration of the loop of `jsmn_parse`. -/
def jsmnCharacter (input : ParserInput) (tokenCapacity : Nat) (parser : JsmnParser) :
    Program JsmnError (JsmnParser ⊕ JsmnParser) :=
  if input.length ≤ parser.pos then pure (.inr parser)
  else do
    let character ← lineAt input parser.pos
    if character = 0 then pure (.inr parser)
    else do
      let next ← jsmnParseCharacter input tokenCapacity parser character
      pure (.inl { next with pos := next.pos + 1 })

/-- An iteration of the loop at the end of `jsmn_parse`. -/
def closedToken (input : ParserInput) (tokens : List JsmnTok) (index : Nat) :
    Program JsmnError (Nat ⊕ List JsmnTok) :=
  if tokens.length ≤ index then pure (.inr tokens)
  else do
    let token ← filledToken input tokens index
    if token.isOpen = true then stop .part else pure (.inl (index + 1))

/-- `jsmn_parse` -/
def jsmnParse (input : ParserInput) (tokenCapacity : Nat) : Program JsmnError (List JsmnTok) := do
  let parser ← loop (jsmnCharacter input tokenCapacity) input.iterations jsmnInit
  loop (closedToken input parser.tokens) input.iterations 0

/-! ## Reading the line -/

section Reading

variable {input : ParserInput} {tokenCount pos : Nat} {byte : UInt8} {rest : Bytes}

/-- A byte of the line that is still to be read. -/
theorem read_of_drop (here : input.text.drop pos = byte :: rest) :
    pos < input.length ∧ input.line pos = byte ∧ input.text.drop (pos + 1) = rest := by
  have found : input.text[pos]? = some byte := by
    rw [← List.head?_drop, here]
    rfl
  obtain ⟨inside, same⟩ := List.getElem?_eq_some_iff.mp found
  rw [input.length_text] at inside
  simp only [ParserInput.text, List.getElem_map, List.getElem_range] at same
  refine ⟨inside, same, ?_⟩
  rw [← List.drop_drop, here, List.drop_one, List.tail_cons]

/-- What is left of the line behind some bytes of it. -/
theorem drop_of_append (before : Bytes) {after : Bytes}
    (here : input.text.drop pos = before ++ after) :
    input.text.drop (pos + before.length) = after := by
  rw [← List.drop_drop, here, List.drop_left]

/-- Nothing is left of the line. -/
theorem end_of_drop (here : input.text.drop pos = []) : input.length ≤ pos := by
  have short := List.drop_eq_nil_iff.mp here
  rwa [input.length_text] at short

theorem performs_lineAt {ε : Type} (inside : pos < input.length) :
    Performs (input.Safe tokenCount) (lineAt (ε := ε) input pos) (.ok (input.line pos)) :=
  .bind (.note ⟨Int.natCast_nonneg pos, Int.ofNat_lt.mpr inside⟩) (.succeed _)

variable (tokenCount) in
/-- The loop of `jsmn_parse_primitive` -/
theorem performs_primitiveLoop {text : Bytes} {iterations : Nat}
    (here : input.text.drop pos = text) (enough : text.length < iterations) :
    Performs (input.Safe tokenCount) (loop (primitiveCharacter input) iterations pos)
      ((jsmnPrimitiveEnd pos text).elim (.error .inval) .ok) := by
  induction text generalizing pos iterations with
  | nil =>
      obtain ⟨iterations, rfl⟩ := Nat.exists_eq_add_one.mpr enough
      refine .loop_ends ?_
      rw [primitiveCharacter, if_pos (end_of_drop here)]
      exact .succeed _
  | cons byte rest ih =>
      obtain ⟨iterations, rfl⟩ := Nat.exists_eq_add_one.mpr (Nat.zero_lt_of_lt enough)
      obtain ⟨inside, same, there⟩ := read_of_drop here
      have body : primitiveCharacter input pos = _ := if_neg (Nat.not_le.mpr inside)
      rw [jsmnPrimitiveEnd]
      split_ifs with ends control
      · refine .loop_ends ?_
        rw [body]
        refine .bind (performs_lineAt inside) ?_
        rw [same, if_pos ends]
        exact .succeed _
      · refine .loop_stops ?_
        rw [body]
        refine .bind (performs_lineAt inside) ?_
        rw [same, if_neg ends, if_pos control]
        exact .stop _
      · refine .loop_goes ?_ (ih there (Nat.lt_of_succ_lt_succ enough))
        rw [body]
        refine .bind (performs_lineAt inside) ?_
        rw [same, if_neg ends, if_neg control]
        exact .succeed _

variable (tokenCount) in
/-- The digits behind `\u` -/
theorem performs_unicodeDigits {text : Bytes} (digits : Nat)
    (here : input.text.drop (pos + 1) = text) :
    Performs (input.Safe tokenCount) (unicodeDigits input digits pos)
      (if digits ≤ text.length ∧ (text.take digits).all isHexDigit = true then .ok (pos + digits)
        else .error .inval) := by
  induction digits generalizing pos text with
  | zero =>
      rw [if_pos ⟨Nat.zero_le _, rfl⟩]
      exact .succeed _
  | succ digits ih =>
      rw [unicodeDigits]
      cases text with
      | nil =>
          rw [if_pos (end_of_drop here), if_neg fun both => absurd both.1 (Nat.not_succ_le_zero _)]
          exact .stop _
      | cons byte rest =>
          obtain ⟨inside, same, there⟩ := read_of_drop here
          rw [if_neg (Nat.not_le.mpr inside)]
          refine .bind (performs_lineAt inside) ?_
          rw [same]
          by_cases hex : isHexDigit byte = true
          · have both : digits + 1 ≤ (byte :: rest).length ∧
                ((byte :: rest).take (digits + 1)).all isHexDigit = true ↔
                digits ≤ rest.length ∧ (rest.take digits).all isHexDigit = true := by
              rw [List.length_cons, Nat.add_le_add_iff_right, List.take_succ_cons, List.all_cons,
                hex, Bool.true_and]
            rw [if_pos hex, if_congr both rfl rfl, Nat.add_comm digits 1, ← Nat.add_assoc]
            exact ih there
          · rw [if_neg hex, if_neg]
            · exact .stop _
            · rintro ⟨_, all⟩
              rw [List.take_succ_cons, List.all_cons, Bool.and_eq_true] at all
              exact hex all.1

/-- Four digits at the beginning of a text. -/
theorem all_digits_iff (a b c d : UInt8) (rest : Bytes) :
    ((a :: b :: c :: d :: rest).take 4).all isHexDigit = true ↔
      (isHexDigit a && isHexDigit b && isHexDigit c && isHexDigit d) = true := by
  simp only [List.take_succ_cons, List.take_zero, List.all_cons, List.all_nil, Bool.and_true,
    Bool.and_assoc]

/-- One iteration in a string, at a byte of the line. -/
theorem performs_stringCharacter {result : Except JsmnError (Nat ⊕ Nat)}
    (here : input.text.drop pos = byte :: rest)
    (goes : Performs (input.Safe tokenCount)
      (if byte = 0 then stop .part
      else if byte = quote then pure (.inr pos)
      else if byte = backslash then
        if input.length ≤ pos + 1 then stop .part
        else do
          let letter ← lineAt input (pos + 1 : Nat)
          if letter = 'u'.toUInt8 then do
            let last ← unicodeDigits input 4 (pos + 1)
            pure (.inl (last + 1))
          else if isEscapeLetter letter = true then pure (.inl (pos + 2))
          else stop .inval
      else pure (.inl (pos + 1))) result) :
    Performs (input.Safe tokenCount) (stringCharacter input pos) result := by
  obtain ⟨inside, same, _⟩ := read_of_drop here
  rw [stringCharacter, if_neg (Nat.not_le.mpr inside)]
  refine .bind (performs_lineAt inside) ?_
  rw [same]
  exact goes

/-- One iteration in a string, at a backslash with a letter behind it. -/
theorem performs_escape {letter : UInt8} {result : Except JsmnError (Nat ⊕ Nat)}
    (here : input.text.drop pos = backslash :: letter :: rest)
    (goes : Performs (input.Safe tokenCount)
      (if letter = 'u'.toUInt8 then do
        let last ← unicodeDigits input 4 (pos + 1)
        pure (.inl (last + 1))
      else if isEscapeLetter letter = true then pure (.inl (pos + 2))
      else stop .inval) result) :
    Performs (input.Safe tokenCount) (stringCharacter input pos) result := by
  obtain ⟨_, _, there⟩ := read_of_drop here
  obtain ⟨inside, same, _⟩ := read_of_drop there
  refine performs_stringCharacter here ?_
  rw [if_neg (by decide), if_neg (by decide), if_pos rfl, if_neg (Nat.not_le.mpr inside)]
  refine .bind (performs_lineAt inside) ?_
  rw [same]
  exact goes

variable (tokenCount) in
/-- The loop of `jsmn_parse_string` -/
theorem performs_stringLoop {text : Bytes} {iterations : Nat}
    (here : input.text.drop pos = text) (enough : text.length < iterations) :
    Performs (input.Safe tokenCount) (loop (stringCharacter input) iterations pos)
      (jsmnStringEnd pos text) := by
  obtain ⟨iterations, rfl⟩ := Nat.exists_eq_add_one.mpr (Nat.zero_lt_of_lt enough)
  fun_induction jsmnStringEnd pos text generalizing iterations with
  | case1 pos =>
      refine .loop_stops ?_
      rw [stringCharacter, if_pos (end_of_drop here)]
      exact .stop _
  | case2 pos rest =>
      refine .loop_stops (performs_stringCharacter here ?_)
      rw [if_pos rfl]
      exact .stop _
  | case3 pos rest nonzero =>
      refine .loop_ends (performs_stringCharacter here ?_)
      rw [if_neg nonzero, if_pos rfl]
      exact .succeed _
  | case4 pos nonzero other =>
      refine .loop_stops (performs_stringCharacter here ?_)
      obtain ⟨_, _, there⟩ := read_of_drop here
      rw [if_neg nonzero, if_neg other, if_pos rfl, if_pos (end_of_drop there)]
      exact .stop _
  | case5 pos a b c d rest hex nonzero other ih =>
      have digits := performs_unicodeDigits tokenCount 4 (drop_of_append [_, _] here)
      rw [if_pos ⟨Nat.le_add_left 4 rest.length, (all_digits_iff a b c d rest).mpr hex⟩] at digits
      obtain ⟨iterations, rfl⟩ := Nat.exists_eq_add_one.mpr
        (show 0 < iterations by simp only [List.length_cons] at enough; omega)
      refine .loop_goes (performs_escape here ?_)
        (ih (drop_of_append [_, _, _, _, _, _] here) _ ?_)
      · rw [if_pos rfl]
        exact .bind digits (.succeed _)
      · simp only [List.length_cons] at enough
        omega
  | case6 pos a b c d rest hex nonzero other =>
      have digits := performs_unicodeDigits tokenCount 4 (drop_of_append [_, _] here)
      rw [if_neg fun both => hex ((all_digits_iff a b c d rest).mp both.2)] at digits
      refine .loop_stops (performs_escape here ?_)
      rw [if_pos rfl]
      exact .bind_error digits
  | case7 pos rest short nonzero other =>
      have digits := performs_unicodeDigits tokenCount 4 (drop_of_append [_, _] here)
      rw [if_neg fun both => ?_] at digits
      · refine .loop_stops (performs_escape here ?_)
        rw [if_pos rfl]
        exact .bind_error digits
      · obtain ⟨long, _⟩ := both
        obtain ⟨a, rest, rfl⟩ := List.exists_cons_of_length_pos (Nat.zero_lt_of_lt long)
        replace long := Nat.le_of_succ_le_succ long
        obtain ⟨b, rest, rfl⟩ := List.exists_cons_of_length_pos (Nat.zero_lt_of_lt long)
        replace long := Nat.le_of_succ_le_succ long
        obtain ⟨c, rest, rfl⟩ := List.exists_cons_of_length_pos (Nat.zero_lt_of_lt long)
        obtain ⟨d, rest, rfl⟩ := List.exists_cons_of_length_pos (Nat.le_of_succ_le_succ long)
        exact short a b c d rest rfl
  | case8 pos letter rest unlike known nonzero other ih =>
      obtain ⟨iterations, rfl⟩ := Nat.exists_eq_add_one.mpr
        (show 0 < iterations by simp only [List.length_cons] at enough; omega)
      refine .loop_goes (performs_escape here ?_) (ih (drop_of_append [_, _] here) _ ?_)
      · rw [if_neg unlike, if_pos known]
        exact .succeed _
      · simp only [List.length_cons] at enough
        omega
  | case9 pos letter rest unlike unknown nonzero other =>
      refine .loop_stops (performs_escape here ?_)
      rw [if_neg unlike, if_neg unknown]
      exact .stop _
  | case10 pos byte rest nonzero unquoted other ih =>
      obtain ⟨iterations, rfl⟩ := Nat.exists_eq_add_one.mpr
        (show 0 < iterations by simp only [List.length_cons] at enough; omega)
      refine .loop_goes (performs_stringCharacter here ?_) (ih (drop_of_append [_] here) _ ?_)
      · rw [if_neg nonzero, if_neg unquoted, if_neg other]
        exact .succeed _
      · simp only [List.length_cons] at enough
        omega

end Reading

end Recorded

end FlightComputer.Firmware
