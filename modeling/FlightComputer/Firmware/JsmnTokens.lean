import Mathlib.Data.List.Forall2
import FlightComputer.Firmware.JsonProtocol

/-!
# The tokens of a text

What the request parser can tell about the tokens of a text, in terms of its
lexemes. Only the types and the spans of the tokens matter to it; `readSpan` is
the tokenizer reduced to these. Each string, primitive and opening bracket makes
one token, in order (`refers_of_foldlM`); the tokenizer accepts a text whose
brackets match and that has room for its tokens, and no other
(`jsmnParse_of_bracketsMatch`, `spans_of_jsmnParse`); and an object that contains no bracket ends
behind the first closing brace after it (`end_of_foldlM`).
-/

set_option autoImplicit false

namespace FlightComputer.Firmware

open Library

/-- Type, start and end of a token. -/
abbrev Span : Type := JsmnType × Int × Int

/-- What the request parser looks at in a token. -/
def JsmnTok.span (token : JsmnTok) : Span := (token.type, token.start, token.end_)

/-- Whether a span was opened and not closed. -/
def Span.isOpen (span : Span) : Bool := decide (span.2.1 ≠ -1 ∧ span.2.2 = -1)

/-- The search of a closing brace or bracket, on spans. -/
def closeLastSpan (type : JsmnType) (finish : Int) : List Span → Option (List Span)
  | [] => none
  | span :: earlier =>
      if Span.isOpen span then
        if span.1 ≠ type then none else some ((span.1, span.2.1, finish) :: earlier)
      else (closeLastSpan type finish earlier).map (span :: ·)

/-- What the tokenizer does to the spans at one lexeme. -/
def readSpan (spans : List Span) : Nat × Lexeme → Option (List Span)
  | (pos, .punctuation byte) =>
      if byte = leftBrace then some (spans ++ [(.object, (pos : Int), -1)])
      else if byte = leftBracket then some (spans ++ [(.array, (pos : Int), -1)])
      else if byte = rightBrace then
        (closeLastSpan .object ((pos : Int) + 1) spans.reverse).map List.reverse
      else if byte = rightBracket then
        (closeLastSpan .array ((pos : Int) + 1) spans.reverse).map List.reverse
      else some spans
  | (pos, .string content) =>
      some (spans ++ [(.string, (pos : Int) + 1, ((pos + 1 + content.length : Nat) : Int))])
  | (pos, .literal text) =>
      some (spans ++ [(.primitive, (pos : Int), ((pos + text.length : Nat) : Int))])

/-- Whether a lexeme makes a token. -/
def makesToken : Lexeme → Bool
  | .punctuation byte => byte == leftBrace || byte == leftBracket
  | .string _ => true
  | .literal _ => true

/-! ## The tokenizer, reduced to spans -/

@[simp] theorem spans_jsmnCountChild (parser : JsmnParser) :
    (jsmnCountChild parser).tokens.map JsmnTok.span = parser.tokens.map JsmnTok.span := by
  unfold jsmnCountChild
  split_ifs
  · rfl
  · refine List.ext_getElem? fun index => ?_
    simp only [List.getElem?_map, List.getElem?_modify]
    cases parser.tokens[index]? with
    | none => rfl
    | some token =>
        simp only [Option.map_some]
        split_ifs <;> rfl

theorem jsmnCloseLast_span (type : JsmnType) (finish : Int) (tokens : List JsmnTok) :
    closeLastSpan type finish (tokens.map JsmnTok.span) =
      match jsmnCloseLast type finish tokens with
      | .error _ => none
      | .ok (closed, _) => some (closed.map JsmnTok.span) := by
  induction tokens with
  | nil => rfl
  | cons token earlier ih =>
      have same : Span.isOpen token.span = token.isOpen := rfl
      have sameType : token.span.1 = token.type := rfl
      rw [List.map_cons, closeLastSpan, jsmnCloseLast, same, sameType]
      split_ifs with opened other
      · rfl
      · rfl
      · rw [ih]
        cases jsmnCloseLast type finish earlier <;> rfl

/-- **The tokenizer acts on the spans as `readSpan` does**, while tokens are
left. -/
theorem jsmnReadLexeme_spans {tokenCapacity : Nat} (parser : JsmnParser)
    (located : Nat × Lexeme)
    (room : makesToken located.2 = true → parser.tokens.length < tokenCapacity) :
    readSpan (parser.tokens.map JsmnTok.span) located =
      match jsmnReadLexeme tokenCapacity parser located with
      | .error _ => none
      | .ok after => some (after.tokens.map JsmnTok.span) := by
  obtain ⟨pos, byte | content | text⟩ := located
  · have opened : ∀ type, parser.tokens.length < tokenCapacity →
        some (parser.tokens.map JsmnTok.span ++ [(type, (pos : Int), -1)]) =
          match jsmnOpen type tokenCapacity { parser with pos := pos } with
          | .error _ => none
          | .ok after => some (after.tokens.map JsmnTok.span) := by
      intro type free
      unfold jsmnOpen jsmnAllocToken
      rw [if_neg (Nat.not_le.mpr free)]
      simp [JsmnTok.span]
    have closed : ∀ type, (closeLastSpan type ((pos : Int) + 1)
        (parser.tokens.map JsmnTok.span).reverse).map List.reverse =
          match jsmnClose type { parser with pos := pos } with
          | .error _ => none
          | .ok after => some (after.tokens.map JsmnTok.span) := by
      intro type
      rw [← List.map_reverse, jsmnCloseLast_span, jsmnClose]
      dsimp only
      cases jsmnCloseLast type ((pos : Int) + 1) parser.tokens.reverse with
      | error error => rfl
      | ok result => simp
    simp only [readSpan, jsmnReadLexeme]
    split_ifs with brace bracket
    · exact opened .object (room (by simp [makesToken, brace]))
    · exact opened .array (room (by simp [makesToken, bracket]))
    · exact closed .object
    · exact closed .array
    · rfl
  · have free := room rfl
    simp only [readSpan, jsmnReadLexeme, jsmnAllocToken]
    rw [if_neg (Nat.not_le.mpr free)]
    simp [Except.map, JsmnTok.span]
  · have free := room rfl
    simp only [readSpan, jsmnReadLexeme, jsmnAllocToken]
    rw [if_neg (Nat.not_le.mpr free)]
    simp [Except.map, JsmnTok.span]

/-- A lexeme that is read has found a free token if it makes one. -/
theorem room_of_jsmnReadLexeme {tokenCapacity : Nat} {parser after : JsmnParser}
    {located : Nat × Lexeme} (read : jsmnReadLexeme tokenCapacity parser located = .ok after)
    (makes : makesToken located.2 = true) : parser.tokens.length < tokenCapacity := by
  by_contra full
  obtain ⟨pos, byte | content | text⟩ := located
  · have opened : ∀ type, jsmnOpen type tokenCapacity { parser with pos := pos } = .error .nomem := by
      intro type
      unfold jsmnOpen jsmnAllocToken
      rw [if_pos (Nat.not_lt.mp full)]
    simp only [makesToken, Bool.or_eq_true, beq_iff_eq] at makes
    simp only [jsmnReadLexeme, opened] at read
    rcases makes with rfl | rfl
    · rw [if_pos rfl] at read
      cases read
    · rw [if_neg (by decide), if_pos rfl] at read
      cases read
  · simp only [jsmnReadLexeme, jsmnAllocToken] at read
    rw [if_pos (Nat.not_lt.mp full)] at read
    cases read
  · simp only [jsmnReadLexeme, jsmnAllocToken] at read
    rw [if_pos (Nat.not_lt.mp full)] at read
    cases read

/-- The lexemes that make a token. -/
def tokenLexemes (located : List (Nat × Lexeme)) : List (Nat × Lexeme) :=
  located.filter fun entry => makesToken entry.2

@[simp] theorem tokenLexemes_nil : tokenLexemes [] = [] := rfl

theorem tokenLexemes_cons (entry : Nat × Lexeme) (located : List (Nat × Lexeme)) :
    tokenLexemes (entry :: located) = tokenLexemes [entry] ++ tokenLexemes located := by
  simp only [tokenLexemes, List.filter_cons, List.filter_nil]
  split_ifs <;> rfl

@[simp] theorem tokenLexemes_append (first second : List (Nat × Lexeme)) :
    tokenLexemes (first ++ second) = tokenLexemes first ++ tokenLexemes second :=
  List.filter_append first second

/-! ## One token a lexeme -/

/-- That a token refers to a lexeme. The end of an object or array is left
open. -/
inductive Refers : Nat × Lexeme → Span → Prop where
  | string (pos : Nat) (content : Bytes) :
      Refers (pos, .string content)
        (.string, (pos : Int) + 1, ((pos + 1 + content.length : Nat) : Int))
  | literal (pos : Nat) (text : Bytes) :
      Refers (pos, .literal text) (.primitive, (pos : Int), ((pos + text.length : Nat) : Int))
  | object (pos : Nat) (finish : Int) :
      Refers (pos, .punctuation leftBrace) (.object, (pos : Int), finish)
  | array (pos : Nat) (finish : Int) :
      Refers (pos, .punctuation leftBracket) (.array, (pos : Int), finish)

/-- A closing bracket only ends a token that was open. -/
theorem refers_closeLastSpan {type : JsmnType} {finish : Int} {items : List (Nat × Lexeme)}
    {spans closed : List Span} (refer : List.Forall₂ Refers items spans)
    (close : closeLastSpan type finish spans = some closed) :
    List.Forall₂ Refers items closed := by
  induction refer generalizing closed with
  | nil => cases close
  | @cons item span items spans refers others ih =>
      rw [closeLastSpan] at close
      split_ifs at close with opened other
      · obtain rfl := Option.some.inj close
        refine .cons ?_ others
        cases refers with
        | string pos content =>
            simp only [Span.isOpen, decide_eq_true_eq] at opened
            omega
        | literal pos text =>
            simp only [Span.isOpen, decide_eq_true_eq] at opened
            omega
        | object pos => exact .object pos finish
        | array pos => exact .array pos finish
      · obtain ⟨later, found, rfl⟩ := Option.map_eq_some_iff.mp close
        exact .cons refers (ih found)

theorem refers_readSpan {items : List (Nat × Lexeme)} {spans after : List Span}
    {entry : Nat × Lexeme} (refer : List.Forall₂ Refers items spans)
    (read : readSpan spans entry = some after) :
    List.Forall₂ Refers (items ++ tokenLexemes [entry]) after := by
  have append : ∀ {item : Nat × Lexeme} {span : Span}, Refers item span →
      List.Forall₂ Refers (items ++ [item]) (spans ++ [span]) := fun refers =>
    List.rel_append refer (.cons refers .nil)
  have close : ∀ {type : JsmnType} {finish : Int},
      (closeLastSpan type finish spans.reverse).map List.reverse = some after →
        List.Forall₂ Refers items after := by
    intro type finish closes
    obtain ⟨closed, found, rfl⟩ := Option.map_eq_some_iff.mp closes
    have backwards := refers_closeLastSpan (List.forall₂_reverse_iff.mpr refer) found
    simpa using List.forall₂_reverse_iff.mpr backwards
  obtain ⟨pos, byte | content | text⟩ := entry
  · rw [readSpan] at read
    split_ifs at read with brace bracket endBrace endBracket
    · subst brace
      obtain rfl := Option.some.inj read
      exact append (.object pos (-1))
    · subst bracket
      obtain rfl := Option.some.inj read
      exact append (.array pos (-1))
    · simpa [tokenLexemes, makesToken, brace, bracket] using close read
    · simpa [tokenLexemes, makesToken, brace, bracket] using close read
    · obtain rfl := Option.some.inj read
      simpa [tokenLexemes, makesToken, brace, bracket] using refer
  · obtain rfl := Option.some.inj read
    exact append (.string pos content)
  · obtain rfl := Option.some.inj read
    exact append (.literal pos text)

/-- **Each string, primitive and opening bracket makes one token**, in order. -/
theorem refers_of_foldlM {located items : List (Nat × Lexeme)} {spans after : List Span}
    (refer : List.Forall₂ Refers items spans)
    (read : located.foldlM readSpan spans = some after) :
    List.Forall₂ Refers (items ++ tokenLexemes located) after := by
  induction located generalizing items spans with
  | nil =>
      obtain rfl := Option.some.inj read
      simpa using refer
  | cons entry located ih =>
      rw [List.foldlM_cons] at read
      obtain ⟨next, first, later⟩ := Option.bind_eq_some_iff.mp read
      rw [tokenLexemes_cons, ← List.append_assoc]
      exact ih (refers_readSpan refer first) later

theorem length_closeLastSpan {type : JsmnType} {finish : Int} {spans closed : List Span}
    (close : closeLastSpan type finish spans = some closed) : closed.length = spans.length := by
  induction spans generalizing closed with
  | nil => cases close
  | cons span earlier ih =>
      rw [closeLastSpan] at close
      split_ifs at close
      · obtain rfl := Option.some.inj close
        rfl
      · obtain ⟨later, found, rfl⟩ := Option.map_eq_some_iff.mp close
        rw [List.length_cons, List.length_cons, ih found]

theorem length_readSpan {entry : Nat × Lexeme} {spans after : List Span}
    (read : readSpan spans entry = some after) :
    after.length = spans.length + (tokenLexemes [entry]).length := by
  have close : ∀ {type : JsmnType} {finish : Int},
      (closeLastSpan type finish spans.reverse).map List.reverse = some after →
        after.length = spans.length := by
    intro type finish closes
    obtain ⟨closed, found, rfl⟩ := Option.map_eq_some_iff.mp closes
    simpa using length_closeLastSpan found
  obtain ⟨pos, byte | content | text⟩ := entry
  · rw [readSpan] at read
    split_ifs at read with brace bracket endBrace endBracket
    · obtain rfl := Option.some.inj read
      simp [tokenLexemes, makesToken, brace]
    · obtain rfl := Option.some.inj read
      simp [tokenLexemes, makesToken, bracket]
    · simpa [tokenLexemes, makesToken, brace, bracket] using close read
    · simpa [tokenLexemes, makesToken, brace, bracket] using close read
    · obtain rfl := Option.some.inj read
      simp [tokenLexemes, makesToken, brace, bracket]
  · obtain rfl := Option.some.inj read
    simp [tokenLexemes, makesToken]
  · obtain rfl := Option.some.inj read
    simp [tokenLexemes, makesToken]

theorem length_foldlM_readSpan {located : List (Nat × Lexeme)} {spans after : List Span}
    (read : located.foldlM readSpan spans = some after) :
    after.length = spans.length + (tokenLexemes located).length := by
  induction located generalizing spans with
  | nil =>
      obtain rfl := Option.some.inj read
      rfl
  | cons entry located ih =>
      rw [List.foldlM_cons] at read
      obtain ⟨next, first, later⟩ := Option.bind_eq_some_iff.mp read
      rw [ih later, length_readSpan first, tokenLexemes_cons entry located, List.length_append]
      omega

/-! ## Matching brackets -/

/-- Whether brackets match, given the types of the tokens that are open. -/
def bracketsMatch : List JsmnType → List Lexeme → Bool
  | opened, [] => opened.isEmpty
  | opened, .punctuation byte :: lexemes =>
      if byte = leftBrace then bracketsMatch (.object :: opened) lexemes
      else if byte = leftBracket then bracketsMatch (.array :: opened) lexemes
      else if byte = rightBrace then
        opened.head? == some .object && bracketsMatch opened.tail lexemes
      else if byte = rightBracket then
        opened.head? == some .array && bracketsMatch opened.tail lexemes
      else bracketsMatch opened lexemes
  | opened, .string _ :: lexemes => bracketsMatch opened lexemes
  | opened, .literal _ :: lexemes => bracketsMatch opened lexemes

/-- The types of the open tokens, given the last token first. -/
def openTypes (spans : List Span) : List JsmnType :=
  (spans.filter Span.isOpen).map Prod.fst

theorem openTypes_cons_of_open {span : Span} (opened : Span.isOpen span = true)
    (earlier : List Span) : openTypes (span :: earlier) = span.1 :: openTypes earlier := by
  simp [openTypes, opened]

theorem openTypes_cons_of_closed {span : Span} (closed : Span.isOpen span = false)
    (earlier : List Span) : openTypes (span :: earlier) = openTypes earlier := by
  simp [openTypes, closed]

theorem isOpen_finished (type : JsmnType) (start : Int) {finish : Int} (positive : 0 ≤ finish) :
    Span.isOpen (type, start, finish) = false := by
  simp only [Span.isOpen, decide_eq_false_iff_not]
  omega

theorem isOpen_started (type : JsmnType) (pos : Nat) :
    Span.isOpen (type, (pos : Int), -1) = true :=
  decide_eq_true ⟨show (pos : Int) ≠ -1 by omega, rfl⟩

theorem openTypes_closeLastSpan {type : JsmnType} {finish : Int} (positive : 0 ≤ finish)
    (spans : List Span) :
    (closeLastSpan type finish spans).map openTypes =
      if (openTypes spans).head? = some type then some (openTypes spans).tail else none := by
  induction spans with
  | nil => rfl
  | cons span earlier ih =>
      rw [closeLastSpan]
      cases opened : Span.isOpen span with
      | true =>
          rw [openTypes_cons_of_open opened, if_pos rfl, List.head?_cons, List.tail_cons]
          by_cases same : span.1 = type
          · rw [if_neg (not_not.mpr same), if_pos (congrArg some same), Option.map_some,
              openTypes_cons_of_closed (isOpen_finished _ _ positive)]
          · rw [if_pos same, if_neg fun equal => same (Option.some.inj equal)]
            rfl
      | false =>
          rw [openTypes_cons_of_closed opened, if_neg Bool.false_ne_true, ← ih]
          cases closeLastSpan type finish earlier with
          | none => rfl
          | some later => exact congrArg some (openTypes_cons_of_closed opened later)

/-- **Brackets match exactly when the tokenizer can close them**, and leaves none
open. -/
theorem bracketsMatch_iff (located : List (Nat × Lexeme)) (spans : List Span) :
    bracketsMatch (openTypes spans.reverse) (located.map Prod.snd) = true ↔
      ∃ after, located.foldlM readSpan spans = some after ∧ openTypes after.reverse = [] := by
  induction located generalizing spans with
  | nil =>
      rw [List.map_nil, bracketsMatch, List.isEmpty_iff]
      exact ⟨fun shut => ⟨spans, rfl, shut⟩, fun ⟨_, same, shut⟩ => Option.some.inj same ▸ shut⟩
  | cons entry located ih =>
      rw [List.foldlM_cons, List.map_cons]
      have onward : ∀ {next : List Span}, readSpan spans entry = some next →
          (bracketsMatch (openTypes next.reverse) (located.map Prod.snd) = true ↔
            ∃ after, (readSpan spans entry >>= fun next => located.foldlM readSpan next) =
              some after ∧ openTypes after.reverse = []) := by
        intro next read
        rw [read]
        exact ih next
      obtain ⟨pos, byte | content | text⟩ := entry
      · have opens : ∀ type, openTypes (spans ++ [(type, (pos : Int), -1)]).reverse =
            type :: openTypes spans.reverse := by
          intro type
          rw [List.reverse_append, List.reverse_singleton, List.singleton_append,
            openTypes_cons_of_open (isOpen_started type pos)]
        have closes : ∀ type, readSpan spans (pos, .punctuation byte) =
            (closeLastSpan type ((pos : Int) + 1) spans.reverse).map List.reverse →
              (((openTypes spans.reverse).head? == some type &&
                bracketsMatch (openTypes spans.reverse).tail (located.map Prod.snd)) = true ↔
                ∃ after, (readSpan spans (pos, .punctuation byte) >>= fun next =>
                  located.foldlM readSpan next) = some after ∧ openTypes after.reverse = []) := by
          intro type read
          have types := @openTypes_closeLastSpan type _
            (show 0 ≤ (pos : Int) + 1 by omega) spans.reverse
          rw [Bool.and_eq_true, beq_iff_eq]
          by_cases matched : (openTypes spans.reverse).head? = some type
          · rw [if_pos matched] at types
            obtain ⟨closed, found, tail⟩ := Option.map_eq_some_iff.mp types
            rw [found] at read
            rw [← tail, ← onward read, List.reverse_reverse]
            exact and_iff_right matched
          · rw [if_neg matched, Option.map_eq_none_iff] at types
            rw [types] at read
            rw [read]
            refine iff_of_false (fun both => matched both.1) ?_
            rintro ⟨_, impossible, _⟩
            cases impossible
        rw [bracketsMatch]
        by_cases brace : byte = leftBrace
        · rw [if_pos brace, ← opens]
          exact onward (by rw [readSpan, if_pos brace])
        rw [if_neg brace]
        by_cases bracket : byte = leftBracket
        · rw [if_pos bracket, ← opens]
          exact onward (by rw [readSpan, if_neg brace, if_pos bracket])
        rw [if_neg bracket]
        by_cases endBrace : byte = rightBrace
        · rw [if_pos endBrace]
          exact closes .object (by rw [readSpan, if_neg brace, if_neg bracket, if_pos endBrace])
        rw [if_neg endBrace]
        by_cases endBracket : byte = rightBracket
        · rw [if_pos endBracket]
          exact closes .array
            (by rw [readSpan, if_neg brace, if_neg bracket, if_neg endBrace, if_pos endBracket])
        rw [if_neg endBracket]
        exact onward
          (by rw [readSpan, if_neg brace, if_neg bracket, if_neg endBrace, if_neg endBracket])
      · have types : openTypes (spans ++ [((JsmnType.string, (pos : Int) + 1,
            ((pos + 1 + content.length : Nat) : Int)) : Span)]).reverse =
              openTypes spans.reverse := by
          rw [List.reverse_append, List.reverse_singleton, List.singleton_append,
            openTypes_cons_of_closed (isOpen_finished _ _ (Int.natCast_nonneg _))]
        rw [bracketsMatch, ← types]
        exact onward rfl
      · have types : openTypes (spans ++ [((JsmnType.primitive, (pos : Int),
            ((pos + text.length : Nat) : Int)) : Span)]).reverse = openTypes spans.reverse := by
          rw [List.reverse_append, List.reverse_singleton, List.singleton_append,
            openTypes_cons_of_closed (isOpen_finished _ _ (Int.natCast_nonneg _))]
        rw [bracketsMatch, ← types]
        exact onward rfl

/-! ## The tokenizer on a text that falls into lexemes -/

theorem spans_of_jsmnReadLexemes {tokenCapacity : Nat} {located : List (Nat × Lexeme)}
    {parser after : JsmnParser}
    (read : located.foldlM (jsmnReadLexeme tokenCapacity) parser = .ok after) :
    located.foldlM readSpan (parser.tokens.map JsmnTok.span) =
      some (after.tokens.map JsmnTok.span) := by
  induction located generalizing parser with
  | nil =>
      obtain rfl := Except.ok.inj read
      rfl
  | cons entry located ih =>
      rw [List.foldlM_cons] at read
      cases first : jsmnReadLexeme tokenCapacity parser entry with
      | error error =>
          rw [first] at read
          cases read
      | ok next =>
          rw [first] at read
          rw [List.foldlM_cons, jsmnReadLexeme_spans parser entry (room_of_jsmnReadLexeme first),
            first]
          exact ih read

theorem exists_jsmnReadLexemes {tokenCapacity : Nat} {located : List (Nat × Lexeme)}
    {parser : JsmnParser} {spans : List Span}
    (read : located.foldlM readSpan (parser.tokens.map JsmnTok.span) = some spans)
    (room : parser.tokens.length + (tokenLexemes located).length ≤ tokenCapacity) :
    ∃ after, located.foldlM (jsmnReadLexeme tokenCapacity) parser = .ok after := by
  induction located generalizing parser with
  | nil => exact ⟨parser, rfl⟩
  | cons entry located ih =>
      rw [tokenLexemes_cons, List.length_append] at room
      rw [List.foldlM_cons] at read
      obtain ⟨next, first, later⟩ := Option.bind_eq_some_iff.mp read
      have free : makesToken entry.2 = true → parser.tokens.length < tokenCapacity := by
        intro makes
        have one : (tokenLexemes [entry]).length = 1 := by simp [tokenLexemes, makes]
        omega
      have spansNext := jsmnReadLexeme_spans parser entry free
      rw [first] at spansNext
      cases step : jsmnReadLexeme tokenCapacity parser entry with
      | error error =>
          rw [step] at spansNext
          cases spansNext
      | ok after =>
          rw [step] at spansNext
          obtain rfl := Option.some.inj spansNext
          -- as many tokens as before and one for this lexeme
          have count := length_readSpan first
          rw [List.length_map, List.length_map] at count
          obtain ⟨last, result⟩ := ih later (by omega)
          refine ⟨last, ?_⟩
          rw [List.foldlM_cons, step]
          exact result

theorem any_isOpen_iff (tokens : List JsmnTok) :
    tokens.any JsmnTok.isOpen = true ↔ openTypes (tokens.map JsmnTok.span).reverse ≠ [] := by
  have same : ∀ token : JsmnTok, Span.isOpen token.span = token.isOpen := fun _ => rfl
  simp [openTypes, List.filter_eq_nil_iff, same]

/-- **The tokens of an accepted text**: its brackets match, and the tokens span
what `readSpan` says. -/
theorem spans_of_jsmnParse {json : Bytes} {tokenCapacity : Nat} {tokens : List JsmnTok}
    {located : List (Nat × Lexeme)} (reads : JsmnReads 0 json located)
    (parsed : jsmnParse json tokenCapacity = .ok tokens) :
    located.foldlM readSpan [] = some (tokens.map JsmnTok.span) ∧
      bracketsMatch [] (located.map Prod.snd) = true := by
  rw [jsmnParse_of_reads reads tokenCapacity] at parsed
  cases read : located.foldlM (jsmnReadLexeme tokenCapacity) jsmnInit with
  | error error =>
      rw [read] at parsed
      cases parsed
  | ok parser =>
      rw [read] at parsed
      replace parsed : (if parser.tokens.any JsmnTok.isOpen then Except.error JsmnError.part
        else .ok parser.tokens) = .ok tokens := parsed
      split_ifs at parsed with opened
      obtain rfl := Except.ok.inj parsed
      have spans : located.foldlM readSpan [] = _ := spans_of_jsmnReadLexemes read
      refine ⟨spans, (bracketsMatch_iff located []).mpr ⟨_, spans, ?_⟩⟩
      by_contra remaining
      exact opened ((any_isOpen_iff _).mpr remaining)

/-- **A text whose brackets match is accepted**, when there is room for its
tokens. -/
theorem jsmnParse_of_bracketsMatch {json : Bytes} {tokenCapacity : Nat}
    {located : List (Nat × Lexeme)} (reads : JsmnReads 0 json located)
    (matched : bracketsMatch [] (located.map Prod.snd) = true)
    (room : (tokenLexemes located).length ≤ tokenCapacity) :
    ∃ tokens, jsmnParse json tokenCapacity = .ok tokens := by
  obtain ⟨spans, read, shut⟩ := (bracketsMatch_iff located []).mp matched
  obtain ⟨parser, accepted⟩ := @exists_jsmnReadLexemes tokenCapacity located jsmnInit spans read
    (by simpa [jsmnInit] using room)
  have same : located.foldlM readSpan [] = _ := spans_of_jsmnReadLexemes accepted
  obtain rfl := Option.some.inj (read.symm.trans same)
  refine ⟨parser.tokens, ?_⟩
  rw [jsmnParse_of_reads reads tokenCapacity, accepted]
  exact if_neg fun opened => (any_isOpen_iff _).mp opened shut

/-! ## Where an object ends -/

theorem getElem?_closeLastSpan {type : JsmnType} {finish : Int} {spans closed : List Span}
    (close : closeLastSpan type finish spans = some closed) {index : Nat} {span : Span}
    (found : spans[index]? = some span) (shut : Span.isOpen span = false) :
    closed[index]? = some span := by
  induction spans generalizing closed index with
  | nil => cases close
  | cons first earlier ih =>
      rw [closeLastSpan] at close
      split_ifs at close with opened
      · obtain rfl := Option.some.inj close
        cases index with
        | zero =>
            obtain rfl := Option.some.inj found
            rw [shut] at opened
            cases opened
        | succ index => exact found
      · obtain ⟨later, there, rfl⟩ := Option.map_eq_some_iff.mp close
        cases index with
        | zero => exact found
        | succ index => exact ih there found

/-- A token that is not open stays as it is. -/
theorem getElem?_readSpan {entry : Nat × Lexeme} {spans after : List Span}
    (read : readSpan spans entry = some after) {index : Nat} {span : Span}
    (found : spans[index]? = some span) (shut : Span.isOpen span = false) :
    after[index]? = some span := by
  obtain ⟨inside, _⟩ := List.getElem?_eq_some_iff.mp found
  have append : ∀ more : List Span, (spans ++ more)[index]? = some span := fun more => by
    rw [List.getElem?_append_left inside, found]
  have close : ∀ {type : JsmnType} {finish : Int},
      (closeLastSpan type finish spans.reverse).map List.reverse = some after →
        after[index]? = some span := by
    intro type finish closes
    obtain ⟨closed, result, rfl⟩ := Option.map_eq_some_iff.mp closes
    have length := length_closeLastSpan result
    rw [List.length_reverse] at length
    have mirrored : spans.reverse[spans.length - 1 - index]? = some span := by
      rw [List.getElem?_reverse (by omega), ← found]
      congr 1
      omega
    rw [List.getElem?_reverse (by omega), length]
    exact getElem?_closeLastSpan result mirrored shut
  obtain ⟨pos, byte | content | text⟩ := entry
  · rw [readSpan] at read
    split_ifs at read
    · obtain rfl := Option.some.inj read
      exact append _
    · obtain rfl := Option.some.inj read
      exact append _
    · exact close read
    · exact close read
    · obtain rfl := Option.some.inj read
      exact found
  · obtain rfl := Option.some.inj read
    exact append _
  · obtain rfl := Option.some.inj read
    exact append _

theorem getElem?_foldlM_readSpan {located : List (Nat × Lexeme)} {spans after : List Span}
    (read : located.foldlM readSpan spans = some after) {index : Nat} {span : Span}
    (found : spans[index]? = some span) (shut : Span.isOpen span = false) :
    after[index]? = some span := by
  induction located generalizing spans with
  | nil =>
      obtain rfl := Option.some.inj read
      exact found
  | cons entry located ih =>
      rw [List.foldlM_cons] at read
      obtain ⟨next, first, later⟩ := Option.bind_eq_some_iff.mp read
      exact ih later (getElem?_readSpan first found shut)

/-- Braces and brackets. -/
def isBracket : Lexeme → Bool
  | .punctuation byte =>
      byte == leftBrace || byte == rightBrace || byte == leftBracket || byte == rightBracket
  | .string _ => false
  | .literal _ => false

/-- Lexemes that are no brackets add tokens that are not open. -/
theorem exists_made_of_foldlM {located : List (Nat × Lexeme)}
    (plain : ∀ entry ∈ located, isBracket entry.2 = false) {spans after : List Span}
    (read : located.foldlM readSpan spans = some after) :
    ∃ made, after = spans ++ made ∧ ∀ span ∈ made, Span.isOpen span = false := by
  induction located generalizing spans with
  | nil =>
      obtain rfl := Option.some.inj read
      exact ⟨[], by simp, by simp⟩
  | cons entry located ih =>
      rw [List.foldlM_cons] at read
      obtain ⟨next, first, later⟩ := Option.bind_eq_some_iff.mp read
      obtain ⟨made, rfl, shut⟩ := ih (fun other member => plain other (.tail _ member)) later
      have unbracketed := plain entry List.mem_cons_self
      obtain ⟨pos, byte | content | text⟩ := entry
      · simp only [isBracket, Bool.or_eq_false_iff, beq_eq_false_iff_ne] at unbracketed
        rw [readSpan, if_neg unbracketed.1.1.1, if_neg unbracketed.1.2, if_neg unbracketed.1.1.2,
          if_neg unbracketed.2] at first
        obtain rfl := Option.some.inj first
        exact ⟨made, rfl, shut⟩
      · obtain rfl := Option.some.inj first
        refine ⟨_ :: made, List.append_assoc _ _ _, ?_⟩
        exact List.forall_mem_cons.mpr ⟨isOpen_finished _ _ (Int.natCast_nonneg _), shut⟩
      · obtain rfl := Option.some.inj first
        refine ⟨_ :: made, List.append_assoc _ _ _, ?_⟩
        exact List.forall_mem_cons.mpr ⟨isOpen_finished _ _ (Int.natCast_nonneg _), shut⟩

theorem closeLastSpan_append {type : JsmnType} {finish : Int} {made : List Span}
    (shut : ∀ span ∈ made, Span.isOpen span = false) (earlier : List Span) :
    closeLastSpan type finish (made ++ earlier) =
      (closeLastSpan type finish earlier).map (made ++ ·) := by
  induction made with
  | nil => simp
  | cons span made ih =>
      rw [List.cons_append, closeLastSpan, shut span List.mem_cons_self,
        if_neg Bool.false_ne_true, ih fun other member => shut other (.tail _ member),
        Option.map_map]
      rfl

/-- **An object without inner brackets ends behind the next closing brace.** -/
theorem end_of_foldlM {before inside after : List (Nat × Lexeme)} {pos finish : Nat}
    {spans : List Span}
    (read : (before ++ (pos, .punctuation leftBrace) ::
      (inside ++ (finish, .punctuation rightBrace) :: after)).foldlM readSpan [] = some spans)
    (plain : ∀ entry ∈ inside, isBracket entry.2 = false) :
    spans[(tokenLexemes before).length]? =
      some (.object, (pos : Int), (finish : Int) + 1) := by
  rw [List.foldlM_append] at read
  obtain ⟨first, readBefore, read⟩ := Option.bind_eq_some_iff.mp read
  rw [List.foldlM_cons] at read
  obtain ⟨opened, readOpen, read⟩ := Option.bind_eq_some_iff.mp read
  rw [List.foldlM_append] at read
  obtain ⟨filled, readInside, read⟩ := Option.bind_eq_some_iff.mp read
  rw [List.foldlM_cons] at read
  obtain ⟨closed, readClose, read⟩ := Option.bind_eq_some_iff.mp read
  obtain rfl := Option.some.inj readOpen
  obtain ⟨made, rfl, shut⟩ := exists_made_of_foldlM plain readInside
  -- the closing brace passes over what the object contains
  have closes : closeLastSpan .object ((finish : Int) + 1)
      (first ++ [(JsmnType.object, (pos : Int), (-1 : Int))] ++ made).reverse =
        some (made.reverse ++ (JsmnType.object, (pos : Int), (finish : Int) + 1) ::
          first.reverse) := by
    rw [List.reverse_append, closeLastSpan_append (by simpa using shut), List.reverse_append,
      List.reverse_singleton, List.singleton_append, closeLastSpan,
      if_pos (isOpen_started _ pos), if_neg (not_not.mpr rfl)]
    rfl
  rw [readSpan, if_neg (by decide), if_neg (by decide), if_pos rfl, closes] at readClose
  obtain rfl := Option.some.inj readClose
  have length : first.length = (tokenLexemes before).length := by
    simpa using length_foldlM_readSpan readBefore
  refine getElem?_foldlM_readSpan read ?_ (isOpen_finished _ _ (by omega))
  simp [length]

/-! ## Where the lexemes stand -/

theorem JsmnReads.nonempty {pos : Nat} {text : Bytes} {located : List (Nat × Lexeme)}
    (reads : JsmnReads pos text located) : ∀ entry ∈ located, entry.2.text ≠ [] := by
  induction reads with
  | finish pos => simp
  | terminator pos rest => simp
  | blank space later ih => exact ih
  | punctuation mark later ih => exact List.forall_mem_cons.mpr ⟨List.cons_ne_nil _ _, ih⟩
  | string legal later ih => exact List.forall_mem_cons.mpr ⟨List.cons_ne_nil _ _, ih⟩
  | literal legal ended later ih =>
      obtain ⟨_, first, others, starts, _⟩ := legal
      refine List.forall_mem_cons.mpr ⟨?_, ih⟩
      rw [Lexeme.text, starts]
      exact List.cons_ne_nil _ _

theorem JsmnReads.pos_le {pos : Nat} {text : Bytes} {located : List (Nat × Lexeme)}
    (reads : JsmnReads pos text located) : ∀ entry ∈ located, pos ≤ entry.1 := by
  have further : ∀ {pos more : Nat} {located : List (Nat × Lexeme)},
      (∀ entry ∈ located, pos + more ≤ entry.1) → ∀ entry ∈ located, pos ≤ entry.1 :=
    fun ih entry member => Nat.le_trans (Nat.le_add_right _ _) (ih entry member)
  induction reads with
  | finish pos => simp
  | terminator pos rest => simp
  | blank space later ih => exact further ih
  | punctuation mark later ih => exact List.forall_mem_cons.mpr ⟨Nat.le_refl _, further ih⟩
  | string legal later ih => exact List.forall_mem_cons.mpr ⟨Nat.le_refl _, further ih⟩
  | literal legal ended later ih =>
      exact List.forall_mem_cons.mpr ⟨Nat.le_refl _, further ih⟩

/-- **Lexemes stand in order** and do not overlap. -/
theorem JsmnReads.pairwise {pos : Nat} {text : Bytes} {located : List (Nat × Lexeme)}
    (reads : JsmnReads pos text located) :
    located.Pairwise fun first second => first.1 + first.2.text.length ≤ second.1 := by
  induction reads with
  | finish pos => exact .nil
  | terminator pos rest => exact .nil
  | blank space later ih => exact ih
  | punctuation mark later ih => exact .cons later.pos_le ih
  | @string pos content rest located legal later ih =>
      refine .cons (fun entry member => ?_) ih
      have after := later.pos_le entry member
      simp only [Lexeme.text, List.length_cons, List.length_append, List.length_nil]
      omega
  | literal legal ended later ih => exact .cons later.pos_le ih

/-- **Each lexeme stands at its position.** -/
theorem JsmnReads.text_at {json : Bytes} {pos : Nat} {text : Bytes}
    {located : List (Nat × Lexeme)} (reads : JsmnReads pos text located)
    (here : json.drop pos = text) :
    ∀ entry ∈ located, ∃ rest, json.drop entry.1 = entry.2.text ++ rest := by
  induction reads with
  | finish pos => simp
  | terminator pos rest => simp
  | @blank pos byte rest located space later ih =>
      exact ih (by rw [← List.drop_drop, here]; rfl)
  | @punctuation pos byte rest located mark later ih =>
      exact List.forall_mem_cons.mpr ⟨⟨rest, here⟩, ih (by rw [← List.drop_drop, here]; rfl)⟩
  | @string pos content rest located legal later ih =>
      refine List.forall_mem_cons.mpr ⟨⟨rest, by simp [here, Lexeme.text]⟩, ih ?_⟩
      rw [← List.drop_drop, here]
      simp
  | @literal pos text rest located legal ended later ih =>
      refine List.forall_mem_cons.mpr ⟨⟨rest, here⟩, ih ?_⟩
      rw [← List.drop_drop, here]
      simp

/-- The lexeme that a token stands for. -/
def tokenLexeme (line : Bytes) (token : JsmnTok) : Lexeme :=
  match token.type with
  | .object => .punctuation leftBrace
  | .array => .punctuation leftBracket
  | .string => .string (tokenText line token)
  | .primitive => .literal (tokenText line token)

theorem tokenText_of_drop {line : Bytes} {token : JsmnTok} {start : Nat} {content rest : Bytes}
    (begins : token.start = (start : Int))
    (ends : token.end_ = ((start + content.length : Nat) : Int))
    (here : line.drop start = content ++ rest) : tokenText line token = content := by
  have length : (((start + content.length : Nat) : Int) - (start : Int)).toNat =
      content.length := by omega
  rw [tokenText, begins, ends, length, Int.toNat_natCast, here, List.take_left']
  rfl

/-- A token that refers to a lexeme of the line stands for it. -/
theorem tokenLexeme_of_refers {line : Bytes} {token : JsmnTok} {entry : Nat × Lexeme}
    (refers : Refers entry token.span) {rest : Bytes}
    (here : line.drop entry.1 = entry.2.text ++ rest) : tokenLexeme line token = entry.2 := by
  generalize same : token.span = span at refers
  have fields : token.type = span.1 ∧ token.start = span.2.1 ∧ token.end_ = span.2.2 := by
    rw [← same]
    exact ⟨rfl, rfl, rfl⟩
  obtain ⟨type, begins, ends⟩ := fields
  rw [tokenLexeme, type]
  cases refers with
  | string pos content =>
      have inner : line.drop (pos + 1) = content ++ quote :: rest := by
        rw [← List.drop_drop, here]
        simp [Lexeme.text]
      exact congrArg Lexeme.string (tokenText_of_drop begins ends inner)
  | literal pos text => exact congrArg Lexeme.literal (tokenText_of_drop begins ends here)
  | object pos finish => rfl
  | array pos finish => rfl

/-- **The tokens of an accepted text stand for its lexemes**, brackets and
separators aside. -/
theorem tokenLexemes_of_jsmnParse {json : Bytes} {tokenCapacity : Nat} {tokens : List JsmnTok}
    {located : List (Nat × Lexeme)} (reads : JsmnReads 0 json located)
    (parsed : jsmnParse json tokenCapacity = .ok tokens) :
    tokens.map (tokenLexeme json) = (tokenLexemes located).map Prod.snd := by
  have refer := refers_of_foldlM .nil (spans_of_jsmnParse reads parsed).1
  rw [List.nil_append, List.forall₂_map_right_iff] at refer
  have present : ∀ entry ∈ tokenLexemes located, ∃ rest, json.drop entry.1 = entry.2.text ++ rest :=
    fun entry member => reads.text_at List.drop_zero entry (List.mem_of_mem_filter member)
  clear parsed
  generalize tokenLexemes located = items at refer present ⊢
  induction refer with
  | nil => rfl
  | cons refers others ih =>
      obtain ⟨rest, here⟩ := present _ List.mem_cons_self
      rw [List.map_cons, List.map_cons, tokenLexeme_of_refers refers here,
        ih fun entry member => present entry (.tail _ member)]

/-- A token begins inside its lexeme. -/
theorem start_of_refers {entry : Nat × Lexeme} {span : Span} (refers : Refers entry span)
    (nonempty : entry.2.text ≠ []) :
    (entry.1 : Int) ≤ span.2.1 ∧ span.2.1 < ((entry.1 + entry.2.text.length : Nat) : Int) := by
  have length := List.length_pos_iff.mpr nonempty
  cases refers with
  | string pos content =>
      simp only [Lexeme.text, List.length_cons, List.length_append, List.length_nil]
      omega
  | literal pos text =>
      simp only at length ⊢
      omega
  | object pos finish =>
      simp only [Lexeme.text, List.length_cons, List.length_nil]
      omega
  | array pos finish =>
      simp only [Lexeme.text, List.length_cons, List.length_nil]
      omega

theorem exists_of_getElem? {α β : Type} {related : α → β → Prop} {first : List α}
    {second : List β} (pairs : List.Forall₂ related first second) {index : Nat} {b : β}
    (found : second[index]? = some b) : ∃ a, first[index]? = some a ∧ related a b := by
  induction pairs generalizing index with
  | nil => cases found
  | @cons a b' first second here later ih =>
      cases index with
      | zero =>
          obtain rfl := Option.some.inj found
          exact ⟨a, rfl, here⟩
      | succ index => exact ih found

/-- **What lies in an object is what starts before its end.** -/
theorem object_of_jsmnParse {json : Bytes} {tokenCapacity : Nat} {tokens : List JsmnTok}
    {before inside after : List (Nat × Lexeme)} {pos finish : Nat}
    (reads : JsmnReads 0 json (before ++ (pos, .punctuation leftBrace) ::
      (inside ++ (finish, .punctuation rightBrace) :: after)))
    (plain : ∀ entry ∈ inside, isBracket entry.2 = false)
    (parsed : jsmnParse json tokenCapacity = .ok tokens) :
    ∃ object, tokens[(tokenLexemes before).length]? = some object ∧ object.type = .object ∧
      ∀ index token, tokens[(tokenLexemes before).length + 1 + index]? = some token →
        (token.start < object.end_ ↔ index < (tokenLexemes inside).length) := by
  have spans := (spans_of_jsmnParse reads parsed).1
  have refer := refers_of_foldlM .nil spans
  have placed := end_of_foldlM spans plain
  rw [List.getElem?_map] at placed
  obtain ⟨object, found, same⟩ := Option.map_eq_some_iff.mp placed
  have type : object.type = .object := congrArg Prod.fst same
  have ends : object.end_ = (finish : Int) + 1 := congrArg (fun span : Span => span.2.2) same
  refine ⟨object, found, type, fun index token there => ?_⟩
  rw [List.nil_append, List.forall₂_map_right_iff] at refer
  -- the lexeme of the token
  have items : tokenLexemes (before ++ (pos, .punctuation leftBrace) ::
      (inside ++ (finish, .punctuation rightBrace) :: after)) =
        tokenLexemes before ++ (pos, .punctuation leftBrace) ::
          (tokenLexemes inside ++ tokenLexemes after) := by
    rw [tokenLexemes_append, tokenLexemes_cons, tokenLexemes_append, tokenLexemes_cons (finish, _)]
    rfl
  rw [items] at refer
  obtain ⟨entry, listed, refers⟩ := exists_of_getElem? refer there
  rw [Nat.add_assoc, List.getElem?_append_right (Nat.le_add_right _ _), Nat.add_sub_cancel_left,
    Nat.add_comm, List.getElem?_cons_succ] at listed
  have ordered := reads.pairwise
  rw [List.pairwise_append, List.pairwise_cons, List.pairwise_append, List.pairwise_cons] at ordered
  obtain ⟨_, ⟨_, _, ⟨later, _⟩, earlier⟩, _⟩ := ordered
  rw [ends]
  by_cases inner : index < (tokenLexemes inside).length
  · rw [List.getElem?_append_left inner] at listed
    have member := List.mem_of_mem_filter (List.mem_of_getElem? listed)
    have stands := earlier entry member (finish, _) List.mem_cons_self
    have begins := start_of_refers refers (reads.nonempty entry (by simp [member]))
    simp only [JsmnTok.span] at begins stands
    exact iff_of_true (by omega) inner
  · rw [List.getElem?_append_right (Nat.not_lt.mp inner)] at listed
    have member := List.mem_of_mem_filter (List.mem_of_getElem? listed)
    have stands := later entry member
    have begins := start_of_refers refers (reads.nonempty entry (by simp [member]))
    simp only [JsmnTok.span, Lexeme.text, List.length_cons, List.length_nil] at begins stands
    exact iff_of_false (by omega) inner

end FlightComputer.Firmware
