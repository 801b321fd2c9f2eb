import FlightComputer.Library.Json

/-!
# The jsmn tokenizer

`jsmn.h` cuts a text into tokens that refer to it by position. It is permissive:
colons, commas and whitespace are skipped alike, a primitive is any run of
printable bytes, a closing brace may stand anywhere after its opening one, and a
NUL byte ends the text.

`JsmnReads` describes how a text falls into lexemes for this tokenizer, each with
its position, and `jsmnParse_of_reads` says that the tokenizer does nothing but feed
these lexemes to `jsmnReadLexeme`, one after the other. It fails on every text
that does not fall into lexemes (`exists_reads_of_jsmnParse`).
-/

set_option autoImplicit false

namespace FlightComputer.Firmware

open Library

/-- `jsmntype_t` -/
inductive JsmnType where
  | object
  | array
  | string
  | primitive
  deriving DecidableEq

/-- `enum jsmnerr` -/
inductive JsmnError where
  | nomem
  | inval
  | part
  deriving DecidableEq

/-- `jsmntok_t` -/
structure JsmnTok where
  type : JsmnType
  start : Int
  end_ : Int
  size : Nat
  parent : Int
  deriving DecidableEq

/-- `jsmn_parser` with the tokens allocated so far; their number is `toknext`. -/
structure JsmnParser where
  pos : Nat
  toksuper : Int
  tokens : List JsmnTok
  deriving DecidableEq

/-- `jsmn_init` -/
def jsmnInit : JsmnParser where
  pos := 0
  toksuper := -1
  tokens := []

/-- `jsmn_alloc_token` and the assignments to the new token. -/
def jsmnAllocToken (tokenCapacity : Nat) (token : JsmnTok) (parser : JsmnParser) :
    Except JsmnError JsmnParser :=
  if tokenCapacity ≤ parser.tokens.length then .error .nomem
  else .ok { parser with tokens := parser.tokens ++ [token] }

/-- `tokens[parser->toksuper].size++` when there is a parent. -/
def jsmnCountChild (parser : JsmnParser) : JsmnParser :=
  if parser.toksuper = -1 then parser
  else
    { parser with
      tokens := parser.tokens.modify parser.toksuper.toNat fun token =>
        { token with size := token.size + 1 } }

/-- The bytes that end a primitive. -/
def endsPrimitive (byte : UInt8) : Bool :=
  isJsonWhitespace byte || byte == comma || byte == rightBracket || byte == rightBrace

/-- The loop of `jsmn_parse_primitive`: the position that ends the primitive, or
none at a byte that cannot be part of one. -/
def jsmnPrimitiveEnd (pos : Nat) : Bytes → Option Nat
  | [] => some pos
  | byte :: rest =>
      if byte = 0 ∨ endsPrimitive byte = true then some pos
      else if byte.toNat < 32 ∨ 127 ≤ byte.toNat then none
      else jsmnPrimitiveEnd (pos + 1) rest

/-- `jsmn_parse_primitive` -/
def jsmnParsePrimitive (json : Bytes) (tokenCapacity : Nat) (parser : JsmnParser) :
    Except JsmnError JsmnParser :=
  match jsmnPrimitiveEnd parser.pos (json.drop parser.pos) with
  | none => .error .inval
  | some finish =>
      match jsmnAllocToken tokenCapacity
          ⟨.primitive, parser.pos, finish, 0, parser.toksuper⟩ parser with
      | .error error => .error error
      | .ok parser => .ok { parser with pos := finish - 1 }

/-- The loop of `jsmn_parse_string`: the position of the closing quote. -/
def jsmnStringEnd (pos : Nat) : Bytes → Except JsmnError Nat
  | [] => .error .part
  | byte :: rest =>
      if byte = 0 then .error .part
      else if byte = quote then .ok pos
      else if byte = backslash then
        match rest with
        | [] => .error .part
        | letter :: rest =>
            if letter = 'u'.toUInt8 then
              match rest with
              | a :: b :: c :: d :: rest =>
                  if isHexDigit a && isHexDigit b && isHexDigit c && isHexDigit d then
                    jsmnStringEnd (pos + 6) rest
                  else .error .inval
              | _ => .error .inval
            else if isEscapeLetter letter then jsmnStringEnd (pos + 2) rest
            else .error .inval
      else jsmnStringEnd (pos + 1) rest

/-- `jsmn_parse_string` -/
def jsmnParseString (json : Bytes) (tokenCapacity : Nat) (parser : JsmnParser) :
    Except JsmnError JsmnParser :=
  match jsmnStringEnd (parser.pos + 1) (json.drop (parser.pos + 1)) with
  | .error error => .error error
  | .ok finish =>
      match jsmnAllocToken tokenCapacity
          ⟨.string, parser.pos + 1, finish, 0, parser.toksuper⟩ parser with
      | .error error => .error error
      | .ok parser => .ok { parser with pos := finish }

/-- The case of an opening brace or bracket. -/
def jsmnOpen (type : JsmnType) (tokenCapacity : Nat) (parser : JsmnParser) :
    Except JsmnError JsmnParser :=
  match jsmnAllocToken tokenCapacity ⟨type, parser.pos, -1, 0, parser.toksuper⟩
      parser with
  | .error error => .error error
  | .ok opened =>
      .ok { jsmnCountChild opened with toksuper := parser.tokens.length }

/-- Whether a token was opened and not closed. -/
def JsmnTok.isOpen (token : JsmnTok) : Bool := decide (token.start ≠ -1 ∧ token.end_ = -1)

/-- The case of a closing brace or bracket: the search through the tokens, last
one first. -/
def jsmnCloseLast (type : JsmnType) (finish : Int) :
    List JsmnTok → Except JsmnError (List JsmnTok × Int)
  | [] => .error .inval
  | token :: earlier =>
      if token.isOpen then
        if token.type ≠ type then .error .inval
        else .ok ({ token with end_ := finish } :: earlier, token.parent)
      else
        match jsmnCloseLast type finish earlier with
        | .error error => .error error
        | .ok (closed, parent) => .ok (token :: closed, parent)

/-- The case of a closing brace or bracket. -/
def jsmnClose (type : JsmnType) (parser : JsmnParser) : Except JsmnError JsmnParser :=
  match jsmnCloseLast type (parser.pos + 1) parser.tokens.reverse with
  | .error error => .error error
  | .ok (closed, parent) => .ok { parser with tokens := closed.reverse, toksuper := parent }

/-- The body of the loop of `jsmn_parse`, at the byte `character`. -/
def jsmnParseCharacter (json : Bytes) (tokenCapacity : Nat) (parser : JsmnParser)
    (character : UInt8) : Except JsmnError JsmnParser :=
  if character = leftBrace then jsmnOpen .object tokenCapacity parser
  else if character = leftBracket then jsmnOpen .array tokenCapacity parser
  else if character = rightBrace then jsmnClose .object parser
  else if character = rightBracket then jsmnClose .array parser
  else if character = quote then
    (jsmnParseString json tokenCapacity parser).map jsmnCountChild
  else if isJsonWhitespace character || character == colon || character == comma then .ok parser
  else (jsmnParsePrimitive json tokenCapacity parser).map jsmnCountChild

/-- The loop of `jsmn_parse`, as long as its bound lasts. -/
def jsmnParseLoop (json : Bytes) (tokenCapacity : Nat) :
    Nat → JsmnParser → Except JsmnError JsmnParser
  | 0, parser => .ok parser
  | bound + 1, parser =>
      match json[parser.pos]? with
      | none => .ok parser
      | some character =>
          if character = 0 then .ok parser
          else
            match jsmnParseCharacter json tokenCapacity parser character with
            | .error error => .error error
            | .ok parser => jsmnParseLoop json tokenCapacity bound { parser with pos := parser.pos + 1 }

/-- `jsmn_parse`: every iteration moves on by at least one byte. -/
def jsmnParse (json : Bytes) (tokenCapacity : Nat) : Except JsmnError (List JsmnTok) :=
  match jsmnParseLoop json tokenCapacity json.length jsmnInit with
  | .error error => .error error
  | .ok parser =>
      if parser.tokens.any JsmnTok.isOpen then .error .part else .ok parser.tokens

/-! ## The lexemes of a text -/

/-- The six punctuation bytes. -/
def isJsmnPunctuation (byte : UInt8) : Bool :=
  byte == leftBrace || byte == rightBrace || byte == leftBracket || byte == rightBracket ||
    byte == colon || byte == comma

/-- A byte that a primitive may contain. -/
def isPrimitiveByte (byte : UInt8) : Bool :=
  byte != 0 && !endsPrimitive byte && decide (32 ≤ byte.toNat) && decide (byte.toNat < 127)

/-- A primitive: printable bytes that start none of the other lexemes. -/
def IsPrimitive (text : Bytes) : Prop :=
  (∀ byte ∈ text, isPrimitiveByte byte = true) ∧
    ∃ first others, text = first :: others ∧ isJsmnPunctuation first = false ∧ first ≠ quote

/-- What may stand between the quotes of a string: control characters may. -/
inductive IsJsmnString : Bytes → Prop where
  | nil : IsJsmnString []
  | plain {byte : UInt8} {rest : Bytes} (nonzero : byte ≠ 0) (open_ : byte ≠ quote)
      (itself : byte ≠ backslash) (later : IsJsmnString rest) : IsJsmnString (byte :: rest)
  | escape {letter : UInt8} {rest : Bytes} (known : isEscapeLetter letter = true)
      (later : IsJsmnString rest) : IsJsmnString (backslash :: letter :: rest)
  | unicode {a b c d : UInt8} {rest : Bytes}
      (hex : (isHexDigit a && isHexDigit b && isHexDigit c && isHexDigit d) = true)
      (later : IsJsmnString rest) :
      IsJsmnString (backslash :: 'u'.toUInt8 :: a :: b :: c :: d :: rest)

/-- A primitive ends before these texts. -/
def EndsPrimitive (rest : Bytes) : Prop :=
  ∀ byte later, rest = byte :: later → byte = 0 ∨ endsPrimitive byte = true

/-- How a text falls into lexemes, given the position of its first byte. -/
inductive JsmnReads : Nat → Bytes → List (Nat × Lexeme) → Prop where
  | finish (pos : Nat) : JsmnReads pos [] []
  | terminator (pos : Nat) (rest : Bytes) : JsmnReads pos (0 :: rest) []
  | blank {pos : Nat} {byte : UInt8} {rest : Bytes} {lexemes : List (Nat × Lexeme)}
      (space : isJsonWhitespace byte = true) (later : JsmnReads (pos + 1) rest lexemes) :
      JsmnReads pos (byte :: rest) lexemes
  | punctuation {pos : Nat} {byte : UInt8} {rest : Bytes} {lexemes : List (Nat × Lexeme)}
      (mark : isJsmnPunctuation byte = true) (later : JsmnReads (pos + 1) rest lexemes) :
      JsmnReads pos (byte :: rest) ((pos, .punctuation byte) :: lexemes)
  | string {pos : Nat} {content rest : Bytes} {lexemes : List (Nat × Lexeme)}
      (legal : IsJsmnString content)
      (later : JsmnReads (pos + (content.length + 2)) rest lexemes) :
      JsmnReads pos (quote :: (content ++ quote :: rest)) ((pos, .string content) :: lexemes)
  | literal {pos : Nat} {text rest : Bytes} {lexemes : List (Nat × Lexeme)}
      (legal : IsPrimitive text) (ended : EndsPrimitive rest)
      (later : JsmnReads (pos + text.length) rest lexemes) :
      JsmnReads pos (text ++ rest) ((pos, .literal text) :: lexemes)

/-- What the tokenizer does at one lexeme. -/
def jsmnReadLexeme (tokenCapacity : Nat) (parser : JsmnParser) :
    Nat × Lexeme → Except JsmnError JsmnParser
  | (pos, .punctuation byte) =>
      if byte = leftBrace then jsmnOpen .object tokenCapacity { parser with pos := pos }
      else if byte = leftBracket then jsmnOpen .array tokenCapacity { parser with pos := pos }
      else if byte = rightBrace then jsmnClose .object { parser with pos := pos }
      else if byte = rightBracket then jsmnClose .array { parser with pos := pos }
      else .ok { parser with pos := pos }
  | (pos, .string content) =>
      (jsmnAllocToken tokenCapacity
        ⟨.string, (pos : Int) + 1, (pos + 1 + content.length : Nat), 0, parser.toksuper⟩
          { parser with pos := pos + 1 + content.length }).map jsmnCountChild
  | (pos, .literal text) =>
      (jsmnAllocToken tokenCapacity
        ⟨.primitive, pos, (pos + text.length : Nat), 0, parser.toksuper⟩
          { parser with pos := pos + text.length - 1 }).map jsmnCountChild

/-! ## The scanning loops -/

theorem jsmnPrimitiveEnd_of_reads {text rest : Bytes} (pos : Nat)
    (inside : ∀ byte ∈ text, isPrimitiveByte byte = true) (ended : EndsPrimitive rest) :
    jsmnPrimitiveEnd pos (text ++ rest) = some (pos + text.length) := by
  induction text generalizing pos with
  | nil =>
      cases rest with
      | nil => rfl
      | cons byte rest =>
          simp only [List.nil_append, jsmnPrimitiveEnd]
          rw [if_pos (ended byte rest rfl)]
          rfl
  | cons byte text ih =>
      have legal := inside byte List.mem_cons_self
      simp only [isPrimitiveByte, Bool.and_eq_true, bne_iff_ne, Bool.not_eq_true',
        decide_eq_true_eq] at legal
      obtain ⟨⟨⟨nonzero, inner⟩, low⟩, high⟩ := legal
      simp only [List.cons_append, jsmnPrimitiveEnd, nonzero, inner, false_or, Bool.false_eq_true,
        if_false]
      rw [if_neg (by omega), ih (pos + 1) fun other member => inside other (by simp [member])]
      simp only [List.length_cons, Option.some.injEq]
      omega

theorem exists_of_jsmnPrimitiveEnd {pos finish : Nat} {text : Bytes}
    (found : jsmnPrimitiveEnd pos text = some finish) :
    ∃ inside rest, text = inside ++ rest ∧ (∀ byte ∈ inside, isPrimitiveByte byte = true) ∧
      EndsPrimitive rest ∧ finish = pos + inside.length := by
  induction text generalizing pos with
  | nil =>
      obtain rfl : pos = finish := by simpa [jsmnPrimitiveEnd] using found
      exact ⟨[], [], rfl, by simp, by simp [EndsPrimitive], rfl⟩
  | cons byte text ih =>
      rw [jsmnPrimitiveEnd] at found
      split_ifs at found with ends control
      · obtain rfl := Option.some.inj found
        refine ⟨[], byte :: text, rfl, by simp, ?_, rfl⟩
        rintro _ _ ⟨⟩
        exact ends
      · obtain ⟨inside, rest, rfl, legal, ended, rfl⟩ := ih found
        refine ⟨byte :: inside, rest, rfl, ?_, ended, by simp only [List.length_cons]; omega⟩
        intro other member
        rcases List.mem_cons.mp member with rfl | later
        · simp only [not_or, Nat.not_lt, Nat.not_le, Bool.not_eq_true] at ends control
          simp [isPrimitiveByte, ends, control]
        · exact legal other later

theorem jsmnStringEnd_of_reads {content : Bytes} (legal : IsJsmnString content) (rest : Bytes)
    (pos : Nat) : jsmnStringEnd pos (content ++ quote :: rest) = .ok (pos + content.length) := by
  have nonzero : backslash ≠ 0 := by decide
  have notQuote : backslash ≠ quote := by decide
  induction legal generalizing pos with
  | nil =>
      rw [List.nil_append, jsmnStringEnd.eq_def]
      rfl
  | plain plainNonzero open_ itself later ih =>
      rw [List.cons_append, jsmnStringEnd.eq_def]
      simp only [plainNonzero, open_, itself, if_false, ih, List.length_cons, Except.ok.injEq]
      omega
  | @escape letter content known later ih =>
      have notU : letter ≠ 'u'.toUInt8 := by
        rintro rfl
        revert known
        decide
      rw [List.cons_append, jsmnStringEnd.eq_def]
      simp only [List.cons_append, nonzero, notQuote, notU, known, if_false, if_true, ih,
        List.length_cons, Except.ok.injEq]
      omega
  | unicode hex later ih =>
      rw [List.cons_append, jsmnStringEnd.eq_def]
      simp only [List.cons_append, nonzero, notQuote, hex, if_false, if_true, ih,
        List.length_cons, Except.ok.injEq]
      omega

theorem exists_of_jsmnStringEnd {pos finish : Nat} {text : Bytes}
    (found : jsmnStringEnd pos text = .ok finish) :
    ∃ content rest, text = content ++ quote :: rest ∧ IsJsmnString content ∧
      finish = pos + content.length := by
  fun_induction jsmnStringEnd pos text with
  | case3 pos rest =>
      cases found
      exact ⟨[], rest, rfl, .nil, rfl⟩
  | case5 pos a b c d more hex _ _ ih =>
      obtain ⟨content, later, rfl, legal, rfl⟩ := ih found
      exact ⟨_, later, rfl, .unicode hex legal, by simp only [List.length_cons]; omega⟩
  | case8 pos letter more _ known _ _ ih =>
      obtain ⟨content, later, rfl, legal, rfl⟩ := ih found
      exact ⟨_, later, rfl, .escape known legal, by simp only [List.length_cons]; omega⟩
  | case10 pos byte rest nonzero notQuote notBackslash ih =>
      obtain ⟨content, later, rfl, legal, rfl⟩ := ih found
      exact ⟨_, later, rfl, .plain nonzero notQuote notBackslash legal,
        by simp only [List.length_cons]; omega⟩
  | _ => cases found

/-! ## One iteration of the loop -/

@[simp] theorem jsmnCountChild_pos (parser : JsmnParser) :
    (jsmnCountChild parser).pos = parser.pos := by
  unfold jsmnCountChild
  split_ifs <;> rfl

theorem jsmnAllocToken_eq_ok {tokenCapacity : Nat} {token : JsmnTok} {parser after : JsmnParser}
    (allocated : jsmnAllocToken tokenCapacity token parser = .ok after) :
    after = { parser with tokens := parser.tokens ++ [token] } ∧
      parser.tokens.length < tokenCapacity := by
  unfold jsmnAllocToken at allocated
  split_ifs at allocated with full
  · cases allocated
    exact ⟨rfl, Nat.not_le.mp full⟩

/-- Reading a lexeme leaves the parser at its last byte. -/
theorem jsmnReadLexeme_ok_pos {tokenCapacity pos : Nat} {parser after : JsmnParser}
    {lexeme : Lexeme} (nonempty : lexeme.text ≠ [])
    (read : jsmnReadLexeme tokenCapacity parser (pos, lexeme) = .ok after) :
    after.pos + 1 = pos + lexeme.text.length := by
  cases lexeme with
  | punctuation byte =>
      have opened : ∀ type after,
          jsmnOpen type tokenCapacity { parser with pos := pos } = .ok after →
            after.pos = pos := by
        intro type after done
        unfold jsmnOpen at done
        split at done
        · cases done
        · rename_i allocated
          cases done
          rw [jsmnCountChild_pos, (jsmnAllocToken_eq_ok allocated).1]
      have closed : ∀ type after,
          jsmnClose type { parser with pos := pos } = .ok after → after.pos = pos := by
        intro type after done
        unfold jsmnClose at done
        split at done
        · cases done
        · cases done
          rfl
      have here : after.pos = pos := by
        simp only [jsmnReadLexeme] at read
        split_ifs at read
        · exact opened _ _ read
        · exact opened _ _ read
        · exact closed _ _ read
        · exact closed _ _ read
        · cases read
          rfl
      rw [here]
      rfl
  | string content =>
      simp only [jsmnReadLexeme] at read
      cases allocated : jsmnAllocToken tokenCapacity
          ⟨.string, (pos : Int) + 1, (pos + 1 + content.length : Nat), 0, parser.toksuper⟩
          { parser with pos := pos + 1 + content.length } with
      | error error =>
          rw [allocated] at read
          cases read
      | ok token =>
          rw [allocated] at read
          cases read
          rw [jsmnCountChild_pos, (jsmnAllocToken_eq_ok allocated).1]
          simp only [Lexeme.text, List.length_cons, List.length_append, List.length_nil]
          omega
  | literal text =>
      simp only [jsmnReadLexeme] at read
      cases allocated : jsmnAllocToken tokenCapacity
          ⟨.primitive, pos, (pos + text.length : Nat), 0, parser.toksuper⟩
          { parser with pos := pos + text.length - 1 } with
      | error error =>
          rw [allocated] at read
          cases read
      | ok token =>
          rw [allocated] at read
          cases read
          rw [jsmnCountChild_pos, (jsmnAllocToken_eq_ok allocated).1]
          have positive : 0 < text.length := List.length_pos_iff.mpr nonempty
          simp only [Lexeme.text]
          omega

section Iteration

variable {json : Bytes} {pos : Nat} (tokenCapacity : Nat) (parser : JsmnParser)

theorem jsmnParseCharacter_blank {byte : UInt8} (space : isJsonWhitespace byte = true) :
    jsmnParseCharacter json tokenCapacity { parser with pos := pos } byte =
      .ok { parser with pos := pos } := by
  have other : ∀ mark : UInt8, isJsonWhitespace mark = false → byte ≠ mark := by
    rintro _ visible rfl
    rw [visible] at space
    cases space
  unfold jsmnParseCharacter
  rw [if_neg (other _ (by decide)), if_neg (other _ (by decide)), if_neg (other _ (by decide)),
    if_neg (other _ (by decide)), if_neg (other _ (by decide)), space]
  rfl

theorem jsmnParseCharacter_punctuation {byte : UInt8} (mark : isJsmnPunctuation byte = true) :
    jsmnParseCharacter json tokenCapacity { parser with pos := pos } byte =
      jsmnReadLexeme tokenCapacity parser (pos, .punctuation byte) := by
  unfold jsmnParseCharacter jsmnReadLexeme
  dsimp only
  split_ifs with _ _ _ _ quoted separator
  · rfl
  · rfl
  · rfl
  · rfl
  · subst quoted
    exact absurd mark (by decide)
  · rfl
  · simp_all [isJsmnPunctuation]

theorem jsmnParseCharacter_string {content rest : Bytes} (legal : IsJsmnString content)
    (here : json.drop pos = quote :: (content ++ quote :: rest)) :
    jsmnParseCharacter json tokenCapacity { parser with pos := pos } quote =
      jsmnReadLexeme tokenCapacity parser (pos, .string content) := by
  have after : json.drop (pos + 1) = content ++ quote :: rest := by
    rw [← List.drop_drop, here]
    rfl
  unfold jsmnParseCharacter jsmnReadLexeme
  rw [if_neg (by decide), if_neg (by decide), if_neg (by decide), if_neg (by decide), if_pos rfl]
  unfold jsmnParseString
  dsimp only
  rw [after, jsmnStringEnd_of_reads legal]
  dsimp only
  unfold jsmnAllocToken
  split_ifs <;> rfl

theorem jsmnParseCharacter_literal {text rest : Bytes} (legal : IsPrimitive text)
    (ended : EndsPrimitive rest) (here : json.drop pos = text ++ rest) {first : UInt8}
    {others : Bytes} (starts : text = first :: others) :
    jsmnParseCharacter json tokenCapacity { parser with pos := pos } first =
      jsmnReadLexeme tokenCapacity parser (pos, .literal text) := by
  obtain ⟨inside, _, _, same, unmarked, unquoted⟩ := legal
  obtain ⟨rfl, rfl⟩ := List.cons.inj (starts.symm.trans same)
  have printable := inside first (by rw [starts]; exact List.mem_cons_self)
  simp only [isJsmnPunctuation, Bool.or_eq_false_iff, beq_eq_false_iff_ne] at unmarked
  simp only [isPrimitiveByte, endsPrimitive, Bool.and_eq_true, Bool.not_eq_true',
    Bool.or_eq_false_iff] at printable
  unfold jsmnParseCharacter jsmnReadLexeme
  simp only [unmarked, unquoted, printable, if_false, beq_eq_false_iff_ne.mpr unmarked.1.2,
    Bool.or_self, Bool.false_eq_true]
  unfold jsmnParsePrimitive
  dsimp only
  rw [here, jsmnPrimitiveEnd_of_reads pos inside ended]
  dsimp only
  unfold jsmnAllocToken
  split_ifs <;> rfl

end Iteration

/-! ## The whole loop -/

/-- The lexemes of a text are fed to the tokenizer one after the other. -/
theorem jsmnParseLoop_of_reads {json : Bytes} {tokenCapacity pos : Nat} {text : Bytes}
    {lexemes : List (Nat × Lexeme)} (reads : JsmnReads pos text lexemes) (parser : JsmnParser)
    {bound : Nat} (here : json.drop pos = text) (enough : text.length ≤ bound) :
    ∃ finish, jsmnParseLoop json tokenCapacity bound { parser with pos := pos } =
      (lexemes.foldlM (jsmnReadLexeme tokenCapacity) parser).map fun parser =>
        { parser with pos := finish } := by
  -- one iteration, when a byte is left
  have iterate : ∀ {pos bound : Nat} {byte : UInt8} {rest : Bytes} (parser : JsmnParser),
      json.drop pos = byte :: rest → byte ≠ 0 →
        jsmnParseLoop json tokenCapacity (bound + 1) { parser with pos := pos } =
          match jsmnParseCharacter json tokenCapacity { parser with pos := pos } byte with
          | .error error => .error error
          | .ok parser =>
              jsmnParseLoop json tokenCapacity bound { parser with pos := parser.pos + 1 } := by
    intro pos bound byte rest parser here nonzero
    have found : json[pos]? = some byte := by rw [← List.head?_drop, here]; rfl
    simp only [jsmnParseLoop, found, nonzero, if_false]
  -- the rest after a lexeme
  have onward : ∀ {pos bound : Nat} {lexeme : Lexeme} {lexemes : List (Nat × Lexeme)}
      (parser : JsmnParser), lexeme.text ≠ [] →
      (∀ after : JsmnParser, ∃ finish, jsmnParseLoop json tokenCapacity bound
          { after with pos := pos + lexeme.text.length } =
        (lexemes.foldlM (jsmnReadLexeme tokenCapacity) after).map fun parser =>
          { parser with pos := finish }) →
      ∃ finish, (match jsmnReadLexeme tokenCapacity parser (pos, lexeme) with
          | .error error => .error error
          | .ok parser =>
              jsmnParseLoop json tokenCapacity bound { parser with pos := parser.pos + 1 }) =
        (((pos, lexeme) :: lexemes).foldlM (jsmnReadLexeme tokenCapacity) parser).map
          fun parser => { parser with pos := finish } := by
    intro pos bound lexeme lexemes parser nonempty later
    cases read : jsmnReadLexeme tokenCapacity parser (pos, lexeme) with
    | error error =>
        refine ⟨0, ?_⟩
        rw [List.foldlM_cons, read]
        rfl
    | ok after =>
        obtain ⟨finish, result⟩ := later after
        refine ⟨finish, ?_⟩
        rw [List.foldlM_cons, read]
        dsimp only
        rw [jsmnReadLexeme_ok_pos nonempty read, result]
        rfl
  induction reads generalizing parser bound with
  | finish pos =>
      have nothing : json[pos]? = none := by rw [← List.head?_drop, here]; rfl
      refine ⟨pos, ?_⟩
      cases bound with
      | zero => rfl
      | succ bound => simp [jsmnParseLoop, nothing, Except.map, pure, Except.pure]
  | terminator pos rest =>
      have found : json[pos]? = some 0 := by rw [← List.head?_drop, here]; rfl
      refine ⟨pos, ?_⟩
      cases bound with
      | zero => rfl
      | succ bound => simp [jsmnParseLoop, found, Except.map, pure, Except.pure]
  | @blank pos byte rest lexemes space later ih =>
      obtain ⟨bound, rfl⟩ : ∃ more, bound = more + 1 := ⟨bound - 1, by simp at enough; omega⟩
      have nonzero : byte ≠ 0 := by
        rintro rfl
        exact absurd space (by decide)
      have next : json.drop (pos + 1) = rest := by rw [← List.drop_drop, here]; rfl
      obtain ⟨finish, result⟩ := ih parser next (by simpa using enough)
      refine ⟨finish, ?_⟩
      rw [iterate parser here nonzero, jsmnParseCharacter_blank tokenCapacity parser space]
      exact result
  | @punctuation pos byte rest lexemes mark later ih =>
      obtain ⟨bound, rfl⟩ : ∃ more, bound = more + 1 := ⟨bound - 1, by simp at enough; omega⟩
      have nonzero : byte ≠ 0 := by
        rintro rfl
        exact absurd mark (by decide)
      have next : json.drop (pos + 1) = rest := by rw [← List.drop_drop, here]; rfl
      rw [iterate parser here nonzero, jsmnParseCharacter_punctuation tokenCapacity parser mark]
      exact onward parser (List.cons_ne_nil _ _) fun after =>
        ih after next (by simpa using enough)
  | @string pos content rest lexemes legal later ih =>
      obtain ⟨bound, rfl⟩ : ∃ more, bound = more + 1 := ⟨bound - 1, by simp at enough; omega⟩
      have next : json.drop (pos + (content.length + 2)) = rest := by
        rw [← List.drop_drop, here]
        simp
      rw [iterate parser here (by decide),
        jsmnParseCharacter_string tokenCapacity parser legal here]
      refine onward parser (List.cons_ne_nil _ _) fun after => ?_
      have length : (Lexeme.string content).text.length = content.length + 2 := by
        simp [Lexeme.text]
      rw [length]
      exact ih after next (by simp at enough; omega)
  | @literal pos text rest lexemes legal ended later ih =>
      obtain ⟨inside, first, others, starts, _, _⟩ := id legal
      obtain ⟨bound, rfl⟩ : ∃ more, bound = more + 1 :=
        ⟨bound - 1, by rw [starts] at enough; simp at enough; omega⟩
      have nonzero : first ≠ 0 := by
        rintro rfl
        exact absurd (inside 0 (by rw [starts]; exact List.mem_cons_self)) (by decide)
      have next : json.drop (pos + text.length) = rest := by
        rw [← List.drop_drop, here]
        simp
      have opened : json.drop pos = first :: (others ++ rest) := by rw [here, starts]; rfl
      rw [iterate parser opened nonzero,
        jsmnParseCharacter_literal tokenCapacity parser legal ended here starts]
      refine onward parser ?_ fun after => ?_
      · rw [Lexeme.text, starts]
        exact List.cons_ne_nil _ _
      · refine ih after next ?_
        rw [starts] at enough
        simp at enough
        omega

/-- A text that the loop gets through falls into lexemes. -/
theorem exists_reads_of_jsmnParseLoop {json : Bytes} {tokenCapacity bound : Nat}
    {parser after : JsmnParser} {text : Bytes} (here : json.drop parser.pos = text)
    (enough : text.length ≤ bound)
    (parsed : jsmnParseLoop json tokenCapacity bound parser = .ok after) :
    ∃ lexemes, JsmnReads parser.pos text lexemes := by
  induction bound generalizing parser text with
  | zero =>
      obtain rfl := List.length_eq_zero_iff.mp (Nat.le_zero.mp enough)
      exact ⟨[], .finish _⟩
  | succ bound ih =>
      cases text with
      | nil => exact ⟨[], .finish _⟩
      | cons byte rest =>
          have found : json[parser.pos]? = some byte := by rw [← List.head?_drop, here]; rfl
          rw [jsmnParseLoop, found] at parsed
          dsimp only at parsed
          split_ifs at parsed with zero
          · subst zero
            exact ⟨[], .terminator _ _⟩
          · cases step : jsmnParseCharacter json tokenCapacity parser byte with
            | error error =>
                rw [step] at parsed
                cases parsed
            | ok next =>
                rw [step] at parsed
                dsimp only at parsed
                -- what follows, once the position after the lexeme is known
                have onward : ∀ {length : Nat} {rest' : Bytes},
                    json.drop (parser.pos + length) = rest' → 0 < length →
                    (byte :: rest).length = length + rest'.length →
                    next.pos + 1 = parser.pos + length →
                      ∃ lexemes, JsmnReads (parser.pos + length) rest' lexemes := by
                  intro length rest' there positive total last
                  rw [← last] at there ⊢
                  refine @ih { next with pos := next.pos + 1 } rest' there ?_ parsed
                  rw [List.length_cons] at enough total
                  omega
                by_cases space : isJsonWhitespace byte = true
                · rw [show parser = { parser with pos := parser.pos } from rfl,
                    jsmnParseCharacter_blank tokenCapacity parser space] at step
                  obtain rfl := Except.ok.inj step
                  have there : json.drop (parser.pos + 1) = rest := by
                    rw [← List.drop_drop, here]
                    rfl
                  obtain ⟨lexemes, reads⟩ := onward there Nat.one_pos (by simp; omega) rfl
                  exact ⟨lexemes, .blank space reads⟩
                by_cases mark : isJsmnPunctuation byte = true
                · rw [show parser = { parser with pos := parser.pos } from rfl,
                    jsmnParseCharacter_punctuation tokenCapacity parser mark] at step
                  have there : json.drop (parser.pos + 1) = rest := by
                    rw [← List.drop_drop, here]
                    rfl
                  have nonempty : (Lexeme.punctuation byte).text ≠ [] := List.cons_ne_nil _ _
                  obtain ⟨lexemes, reads⟩ := onward there Nat.one_pos (by simp; omega)
                    (jsmnReadLexeme_ok_pos nonempty step)
                  exact ⟨_, .punctuation mark reads⟩
                by_cases quoted : byte = quote
                · subst quoted
                  obtain ⟨content, rest', same, legal⟩ : ∃ content rest',
                      rest = content ++ quote :: rest' ∧ IsJsmnString content := by
                    unfold jsmnParseCharacter at step
                    rw [if_neg (by decide), if_neg (by decide), if_neg (by decide),
                      if_neg (by decide), if_pos rfl, jsmnParseString, ← List.drop_drop, here,
                      List.drop_one, List.tail_cons] at step
                    cases scanned : jsmnStringEnd (parser.pos + 1) rest with
                    | error error =>
                        rw [scanned] at step
                        cases step
                    | ok finish =>
                        obtain ⟨content, rest', same, legal, _⟩ := exists_of_jsmnStringEnd scanned
                        exact ⟨content, rest', same, legal⟩
                  subst same
                  have there : json.drop (parser.pos + (content.length + 2)) = rest' := by
                    rw [← List.drop_drop, here]
                    simp
                  rw [show parser = { parser with pos := parser.pos } from rfl,
                    jsmnParseCharacter_string tokenCapacity parser legal here] at step
                  have nonempty : (Lexeme.string content).text ≠ [] := List.cons_ne_nil _ _
                  have last := jsmnReadLexeme_ok_pos nonempty step
                  have length : (Lexeme.string content).text.length = content.length + 2 := by
                    simp [Lexeme.text]
                  rw [length] at last
                  obtain ⟨lexemes, reads⟩ := onward there (by omega) (by simp; omega) last
                  exact ⟨_, .string legal reads⟩
                obtain ⟨text, rest', same, legal, ended⟩ : ∃ text rest',
                    byte :: rest = text ++ rest' ∧ IsPrimitive text ∧ EndsPrimitive rest' := by
                  have unmarked := mark
                  simp only [isJsmnPunctuation, Bool.or_eq_true, beq_iff_eq, not_or] at unmarked
                  unfold jsmnParseCharacter at step
                  rw [if_neg (by tauto), if_neg (by tauto), if_neg (by tauto), if_neg (by tauto),
                    if_neg quoted, if_neg (by simp [space, unmarked]), jsmnParsePrimitive,
                    here] at step
                  cases scanned : jsmnPrimitiveEnd parser.pos (byte :: rest) with
                  | none =>
                      rw [scanned] at step
                      cases step
                  | some finish =>
                      obtain ⟨inside, rest', same, legal, ended, _⟩ :=
                        exists_of_jsmnPrimitiveEnd scanned
                      refine ⟨inside, rest', same, ⟨legal, ?_⟩, ended⟩
                      cases inside with
                      | nil =>
                          have ends := ended byte rest same.symm
                          rw [endsPrimitive] at ends
                          simp [zero, space, unmarked] at ends
                      | cons first others =>
                          obtain ⟨rfl, _⟩ := List.cons.inj same
                          exact ⟨byte, others, rfl, Bool.eq_false_iff.mpr mark, quoted⟩
                obtain ⟨_, first, others, starts, _, _⟩ := id legal
                have there : json.drop (parser.pos + text.length) = rest' := by
                  rw [← List.drop_drop, here, same]
                  simp
                have head : byte = first := by
                  rw [starts] at same
                  exact (List.cons.inj same).1
                rw [show parser = { parser with pos := parser.pos } from rfl, head,
                  jsmnParseCharacter_literal tokenCapacity parser legal ended (here.trans same)
                    starts] at step
                have last := jsmnReadLexeme_ok_pos
                  (by rw [Lexeme.text, starts]; exact List.cons_ne_nil _ _) step
                obtain ⟨lexemes, reads⟩ := onward there (by rw [starts]; simp)
                  (by rw [same, List.length_append]) last
                rw [same]
                exact ⟨_, .literal legal ended reads⟩

/-- **The tokenizer feeds the lexemes of the text to `jsmnReadLexeme`**, and
fails on the open tokens that remain. -/
theorem jsmnParse_of_reads {json : Bytes} {lexemes : List (Nat × Lexeme)}
    (reads : JsmnReads 0 json lexemes) (tokenCapacity : Nat) :
    jsmnParse json tokenCapacity =
      (lexemes.foldlM (jsmnReadLexeme tokenCapacity) jsmnInit).bind fun parser =>
        if parser.tokens.any JsmnTok.isOpen then .error .part else .ok parser.tokens := by
  obtain ⟨finish, result⟩ :=
    jsmnParseLoop_of_reads reads jsmnInit (List.drop_zero (l := json)) (Nat.le_refl _)
  replace result : jsmnParseLoop json tokenCapacity json.length jsmnInit = _ := result
  rw [jsmnParse, result]
  cases lexemes.foldlM (jsmnReadLexeme tokenCapacity) jsmnInit <;> rfl

/-- A text that the tokenizer accepts falls into lexemes. -/
theorem exists_reads_of_jsmnParse {json : Bytes} {tokenCapacity : Nat} {tokens : List JsmnTok}
    (parsed : jsmnParse json tokenCapacity = .ok tokens) :
    ∃ lexemes, JsmnReads 0 json lexemes := by
  unfold jsmnParse at parsed
  cases loop : jsmnParseLoop json tokenCapacity json.length jsmnInit with
  | error error =>
      rw [loop] at parsed
      cases parsed
  | ok parser =>
      have whole : json.drop jsmnInit.pos = json := List.drop_zero
      exact exists_reads_of_jsmnParseLoop whole (Nat.le_refl _) loop

end FlightComputer.Firmware
