import FlightComputer.Firmware.RecordedJsmn

/-!
# The tokenizer stays inside its buffers

A token that is filled belongs to another one that is filled, or to none, and so does the token
that new tokens will belong to (`IsLinked`). Each case of the loop of `jsmn_parse` keeps this, so
that the counting of children and the search for an open token use filled tokens only.

The recorded tokenizer ends with what `jsmnParse` says (`performs_jsmnParse`).
-/

set_option autoImplicit false

namespace FlightComputer.Firmware

open Library Recording

namespace Recorded

/-! ## Links between tokens -/

/-- The token that new tokens belong to, and those that the tokens belong to. -/
def links (parser : JsmnParser) : List Int :=
  parser.toksuper :: parser.tokens.map JsmnTok.parent

/-- **The links lead to filled tokens**, and the tokens are not too many. -/
structure IsLinked (parser : JsmnParser) : Prop where
  few : parser.tokens.length ≤ jsonProtocolTokenCapacity
  links : ∀ link ∈ links parser, -1 ≤ link ∧ link < parser.tokens.length

theorem isLinked_jsmnInit : IsLinked jsmnInit where
  few := Nat.zero_le _
  links := List.forall_mem_singleton.mpr ⟨Int.le_refl _, by decide⟩

section Links

variable {parser next : JsmnParser}

theorem IsLinked.superior (linked : IsLinked parser) :
    -1 ≤ parser.toksuper ∧ parser.toksuper < parser.tokens.length :=
  linked.links _ List.mem_cons_self

theorem parents_jsmnCountChild (parser : JsmnParser) :
    (Firmware.jsmnCountChild parser).tokens.map JsmnTok.parent =
      parser.tokens.map JsmnTok.parent := by
  unfold Firmware.jsmnCountChild
  split_ifs
  · rfl
  · refine List.ext_getElem? fun index => ?_
    rw [List.getElem?_map, List.getElem?_map, List.getElem?_modify]
    cases parser.tokens[index]? with
    | none => rfl
    | some token =>
        simp only [Option.map_some]
        split_ifs <;> rfl

theorem length_jsmnCountChild (parser : JsmnParser) :
    (Firmware.jsmnCountChild parser).tokens.length = parser.tokens.length := by
  have parents := congrArg List.length (parents_jsmnCountChild parser)
  rwa [List.length_map, List.length_map] at parents

theorem pos_jsmnCountChild (parser : JsmnParser) :
    (Firmware.jsmnCountChild parser).pos = parser.pos := by
  rw [Firmware.jsmnCountChild]
  split_ifs <;> rfl

theorem IsLinked.jsmnCountChild (linked : IsLinked parser) :
    IsLinked (Firmware.jsmnCountChild parser) := by
  have parents := parents_jsmnCountChild parser
  have count := length_jsmnCountChild parser
  have superior : (Firmware.jsmnCountChild parser).toksuper = parser.toksuper := by
    rw [Firmware.jsmnCountChild]
    split_ifs <;> rfl
  refine ⟨count ▸ linked.few, ?_⟩
  rw [Recorded.links, parents, superior, count]
  exact linked.links

/-- A new token belongs to the current one. -/
theorem IsLinked.jsmnAllocToken (linked : IsLinked parser) {token : JsmnTok}
    (belongs : token.parent = parser.toksuper)
    (made : Firmware.jsmnAllocToken jsonProtocolTokenCapacity token parser = .ok next) :
    IsLinked next ∧ next.toksuper = parser.toksuper ∧ next.pos = parser.pos ∧
      next.tokens.length = parser.tokens.length + 1 := by
  rw [Firmware.jsmnAllocToken] at made
  split_ifs at made with full
  obtain rfl := Except.ok.inj made
  have count : (parser.tokens ++ [token]).length = parser.tokens.length + 1 := List.length_append
  refine ⟨⟨by dsimp only; omega, fun link listed => ?_⟩, rfl, rfl, count⟩
  have old : link ∈ Recorded.links parser := by
    rw [Recorded.links, List.map_append, List.mem_cons, List.mem_append, List.map_singleton,
      List.mem_singleton, belongs] at listed
    rw [Recorded.links, List.mem_cons]
    tauto
  have bounds := linked.links link old
  exact ⟨bounds.1, by dsimp only; omega⟩

theorem IsLinked.withPos (linked : IsLinked parser) (pos : Nat) :
    IsLinked { parser with pos := pos } :=
  ⟨linked.few, linked.links⟩

/-- Closing a token keeps the links, and goes back to the one it belongs to. -/
theorem parents_jsmnCloseLast {type : JsmnType} {finish parent : Int} {tokens closed : List JsmnTok}
    (found : jsmnCloseLast type finish tokens = .ok (closed, parent)) :
    closed.map JsmnTok.parent = tokens.map JsmnTok.parent ∧ parent ∈ tokens.map JsmnTok.parent := by
  induction tokens generalizing closed with
  | nil => cases found
  | cons token earlier ih =>
      rw [jsmnCloseLast] at found
      split_ifs at found with opened other
      · obtain ⟨rfl, rfl⟩ := Prod.mk.inj (Except.ok.inj found)
        exact ⟨rfl, List.mem_cons_self⟩
      · cases later : jsmnCloseLast type finish earlier with
        | error error =>
            rw [later] at found
            cases found
        | ok result =>
            obtain ⟨others, last⟩ := result
            rw [later] at found
            obtain ⟨rfl, rfl⟩ := Prod.mk.inj (Except.ok.inj found)
            obtain ⟨same, among⟩ := ih later
            exact ⟨congrArg (token.parent :: ·) same, List.mem_cons_of_mem _ among⟩

theorem IsLinked.jsmnClose {type : JsmnType} (linked : IsLinked parser)
    (closed : Firmware.jsmnClose type parser = .ok next) :
    IsLinked next ∧ next.pos = parser.pos := by
  rw [Firmware.jsmnClose] at closed
  cases found : jsmnCloseLast type (parser.pos + 1) parser.tokens.reverse with
  | error error =>
      rw [found] at closed
      cases closed
  | ok result =>
      obtain ⟨tokens, parent⟩ := result
      rw [found] at closed
      obtain rfl := Except.ok.inj closed
      obtain ⟨same, among⟩ := parents_jsmnCloseLast found
      have parents : tokens.reverse.map JsmnTok.parent = parser.tokens.map JsmnTok.parent := by
        rw [List.map_reverse, same, ← List.map_reverse, List.reverse_reverse]
      have count : tokens.reverse.length = parser.tokens.length := by
        have lengths := congrArg List.length parents
        rwa [List.length_map, List.length_map] at lengths
      refine ⟨⟨count ▸ linked.few, fun link listed => ?_⟩, rfl⟩
      dsimp only
      rw [count]
      refine linked.links link ?_
      rw [Recorded.links, parents] at listed
      rcases List.mem_cons.mp listed with rfl | inner
      · rw [List.map_reverse, List.mem_reverse] at among
        exact List.mem_cons_of_mem _ among
      · exact List.mem_cons_of_mem _ inner

end Links

/-! ## Filling and closing tokens -/

section Tokens

variable {input : ParserInput} {tokenCount : Nat} {parser : JsmnParser}

theorem performs_filledToken {ε : Type} {tokens : List JsmnTok} {index : Nat} {token : JsmnTok}
    (few : tokens.length ≤ jsonProtocolTokenCapacity) (found : tokens[index]? = some token) :
    Performs (input.Safe tokenCount) (filledToken (ε := ε) input tokens index) (.ok token) := by
  obtain ⟨filled, _⟩ := List.getElem?_eq_some_iff.mp found
  refine .bind (.note ⟨Int.natCast_nonneg index, Int.ofNat_lt.mpr filled, few⟩) ?_
  rw [Int.toNat_natCast, found]
  exact .succeed token

variable (input tokenCount) in
theorem performs_jsmnAllocToken (token : JsmnTok) (parser : JsmnParser) :
    Performs (input.Safe tokenCount) (jsmnAllocToken jsonProtocolTokenCapacity token parser)
      (Firmware.jsmnAllocToken jsonProtocolTokenCapacity token parser) := by
  refine .ite (fun _ => .stop _) fun room => .bind (.note ?_) (.succeed _)
  exact ⟨Int.natCast_nonneg _, Int.ofNat_lt.mpr (Nat.lt_succ_self _), Nat.not_le.mp room⟩

theorem performs_jsmnCountChild (linked : IsLinked parser) :
    Performs (ε := JsmnError) (input.Safe tokenCount) (jsmnCountChild parser)
      (.ok (Firmware.jsmnCountChild parser)) := by
  rw [jsmnCountChild, Firmware.jsmnCountChild]
  split_ifs with none
  · exact .succeed _
  · obtain ⟨low, high⟩ := linked.superior
    exact .bind (.note ⟨by omega, high, linked.few⟩) (.succeed _)

theorem performs_jsmnOpen (type : JsmnType) (linked : IsLinked parser) :
    Performs (input.Safe tokenCount) (jsmnOpen type jsonProtocolTokenCapacity parser)
      (Firmware.jsmnOpen type jsonProtocolTokenCapacity parser) := by
  have filling := performs_jsmnAllocToken input tokenCount
    ⟨type, parser.pos, -1, 0, parser.toksuper⟩ parser
  rw [Firmware.jsmnOpen]
  cases made : Firmware.jsmnAllocToken jsonProtocolTokenCapacity
      ⟨type, parser.pos, -1, 0, parser.toksuper⟩ parser with
  | error error => exact .bind_error (made ▸ filling)
  | ok opened =>
      obtain ⟨linked', _⟩ := linked.jsmnAllocToken rfl made
      exact .bind (made ▸ filling) (.bind (performs_jsmnCountChild linked') (.succeed _))

theorem isLinked_jsmnOpen {type : JsmnType} {next : JsmnParser} (linked : IsLinked parser)
    (opened : Firmware.jsmnOpen type jsonProtocolTokenCapacity parser = .ok next) :
    IsLinked next ∧ next.pos = parser.pos := by
  rw [Firmware.jsmnOpen] at opened
  cases made : Firmware.jsmnAllocToken jsonProtocolTokenCapacity
      ⟨type, parser.pos, -1, 0, parser.toksuper⟩ parser with
  | error error =>
      rw [made] at opened
      cases opened
  | ok filled =>
      rw [made] at opened
      obtain rfl := Except.ok.inj opened
      obtain ⟨linked', _, pos, count⟩ := linked.jsmnAllocToken rfl made
      have counted := linked'.jsmnCountChild
      have same := length_jsmnCountChild filled
      refine ⟨⟨counted.few, fun link listed => ?_⟩, (pos_jsmnCountChild filled).trans pos⟩
      dsimp only
      rcases List.mem_cons.mp listed with new | inner
      · have last : link = parser.tokens.length := new
        omega
      · exact counted.links link (List.mem_cons_of_mem _ inner)

/-- The search among the tokens before an index. -/
theorem performs_closeToken (type : JsmnType)
    (few : parser.tokens.length ≤ jsonProtocolTokenCapacity)
    {count iterations : Nat} (among : count ≤ parser.tokens.length) (enough : count < iterations) :
    Performs (input.Safe tokenCount)
      (loop (closeToken input type parser) iterations ((count : Int) - 1))
      ((jsmnCloseLast type (parser.pos + 1) (parser.tokens.take count).reverse).map fun result =>
        { parser with
          tokens := result.1.reverse ++ parser.tokens.drop count
          toksuper := result.2 }) := by
  induction count generalizing iterations with
  | zero =>
      obtain ⟨iterations, rfl⟩ := Nat.exists_eq_add_one.mpr enough
      refine .loop_stops ?_
      rw [closeToken, if_pos (by decide)]
      exact .stop _
  | succ count ih =>
      obtain ⟨iterations, rfl⟩ := Nat.exists_eq_add_one.mpr (Nat.zero_lt_of_lt enough)
      have found : parser.tokens[count]? = some parser.tokens[count] := List.getElem?_eq_getElem _
      generalize parser.tokens[count] = token at found
      have index : ((count + 1 : Nat) : Int) - 1 = (count : Int) := by omega
      have body : closeToken input type parser count = _ := if_neg (by omega)
      rw [List.take_add_one, found, Option.toList_some, List.reverse_append, List.reverse_singleton,
        List.singleton_append, jsmnCloseLast, index]
      split_ifs with opened other
      · refine .loop_stops ?_
        rw [body]
        refine .bind (performs_filledToken few found) ?_
        rw [if_pos opened, if_pos other]
        exact .stop _
      · refine .loop_ends ?_
        rw [body]
        refine .bind (performs_filledToken few found) ?_
        rw [if_pos opened, if_neg other]
        have closed : ({ token with end_ := (parser.pos : Int) + 1 } ::
              (parser.tokens.take count).reverse).reverse ++ parser.tokens.drop (count + 1) =
            parser.tokens.modify (count : Int).toNat fun token =>
              { token with end_ := (parser.pos : Int) + 1 } := by
          obtain ⟨inside, rfl⟩ := List.getElem?_eq_some_iff.mp found
          rw [Int.toNat_natCast, List.modify_eq_take_cons_drop inside, List.reverse_cons,
            List.reverse_reverse, List.append_assoc, List.singleton_append]
        dsimp only
        rw [closed]
        exact .succeed _
      · have later := ih (Nat.le_of_succ_le among) (Nat.lt_of_succ_lt_succ enough)
        have rest : parser.tokens.drop count = token :: parser.tokens.drop (count + 1) := by
          obtain ⟨inside, rfl⟩ := List.getElem?_eq_some_iff.mp found
          exact List.drop_eq_getElem_cons inside
        have goes : Performs (input.Safe tokenCount) (closeToken input type parser count)
            (.ok (.inl ((count : Int) - 1))) := by
          rw [body]
          refine .bind (performs_filledToken few found) ?_
          rw [if_neg opened]
          exact .succeed _
        rw [rest] at later
        cases earlier : jsmnCloseLast type (parser.pos + 1) (parser.tokens.take count).reverse with
        | error error =>
            rw [earlier] at later
            exact .loop_goes goes later
        | ok result =>
            obtain ⟨closed, parent⟩ := result
            rw [earlier] at later
            refine .loop_goes goes ?_
            dsimp only [Except.map] at later ⊢
            rw [List.reverse_cons, List.append_assoc, List.singleton_append]
            exact later

theorem performs_jsmnClose (type : JsmnType) (linked : IsLinked parser) (enough : input.Enough) :
    Performs (input.Safe tokenCount) (jsmnClose input type parser)
      (Firmware.jsmnClose type parser) := by
  have iterations : parser.tokens.length < input.iterations := by
    have few := linked.few
    rw [ParserInput.Enough] at enough
    omega
  have search : Performs (input.Safe tokenCount) (jsmnClose input type parser) _ :=
    performs_closeToken type linked.few (Nat.le_refl _) iterations
  rw [List.take_length, List.drop_length] at search
  rw [Firmware.jsmnClose]
  cases found : jsmnCloseLast type (parser.pos + 1) parser.tokens.reverse with
  | error error =>
      rw [found] at search
      exact search
  | ok result =>
      obtain ⟨closed, parent⟩ := result
      rw [found] at search
      dsimp only [Except.map] at search
      rw [List.append_nil] at search
      exact search

/-! ## Primitives and strings -/

variable {byte : UInt8} {rest : Bytes}

/-- A primitive that does not end where it begins. -/
theorem finish_of_primitive {finish : Nat} (here : input.text.drop parser.pos = byte :: rest)
    (begins : ¬(byte = 0 ∨ endsPrimitive byte = true))
    (found : jsmnPrimitiveEnd parser.pos (input.text.drop parser.pos) = some finish) :
    parser.pos < finish ∧ finish ≤ input.length := by
  obtain ⟨inside, rest', same, _, ended, rfl⟩ := exists_of_jsmnPrimitiveEnd found
  have length := congrArg List.length same
  rw [List.length_drop, input.length_text, List.length_append] at length
  obtain ⟨below, _⟩ := read_of_drop here
  cases inside with
  | nil =>
      rw [here] at same
      exact absurd (ended byte rest same.symm) begins
  | cons first others =>
      rw [List.length_cons] at length ⊢
      omega

theorem enough_of_drop (enough : input.Enough) (pos : Nat) :
    (input.text.drop pos).length < input.iterations := by
  rw [List.length_drop, input.length_text]
  rw [ParserInput.Enough] at enough
  omega

theorem performs_jsmnParsePrimitive (enough : input.Enough) (small : input.length < 2 ^ 32)
    (here : input.text.drop parser.pos = byte :: rest)
    (begins : ¬(byte = 0 ∨ endsPrimitive byte = true)) :
    Performs (input.Safe tokenCount) (jsmnParsePrimitive input jsonProtocolTokenCapacity parser)
      (Firmware.jsmnParsePrimitive input.text jsonProtocolTokenCapacity parser) := by
  have scans := performs_primitiveLoop tokenCount rfl (enough_of_drop enough parser.pos)
  rw [Firmware.jsmnParsePrimitive]
  cases found : jsmnPrimitiveEnd parser.pos (input.text.drop parser.pos) with
  | none =>
      rw [found] at scans
      exact .bind_error scans
  | some finish =>
      rw [found] at scans
      obtain ⟨onward, inside⟩ := finish_of_primitive here begins found
      have back : (finish + (2 ^ 32 - 1)) % 2 ^ 32 = finish - 1 := by omega
      have filling := performs_jsmnAllocToken input tokenCount
        ⟨.primitive, parser.pos, finish, 0, parser.toksuper⟩ parser
      refine .bind scans ?_
      dsimp only
      cases made : Firmware.jsmnAllocToken jsonProtocolTokenCapacity
          ⟨.primitive, parser.pos, finish, 0, parser.toksuper⟩ parser with
      | error error => exact .bind_error (made ▸ filling)
      | ok filled =>
          refine .bind (made ▸ filling) ?_
          rw [back]
          exact .succeed _

theorem performs_jsmnParseString (enough : input.Enough) :
    Performs (input.Safe tokenCount) (jsmnParseString input jsonProtocolTokenCapacity parser)
      (Firmware.jsmnParseString input.text jsonProtocolTokenCapacity parser) := by
  have scans := performs_stringLoop tokenCount rfl (enough_of_drop enough (parser.pos + 1))
  rw [Firmware.jsmnParseString]
  cases found : jsmnStringEnd (parser.pos + 1) (input.text.drop (parser.pos + 1)) with
  | error error => exact .bind_error (found ▸ scans)
  | ok finish =>
      have filling := performs_jsmnAllocToken input tokenCount
        ⟨.string, parser.pos + 1, finish, 0, parser.toksuper⟩ parser
      refine .bind (found ▸ scans) ?_
      dsimp only
      cases made : Firmware.jsmnAllocToken jsonProtocolTokenCapacity
          ⟨.string, parser.pos + 1, finish, 0, parser.toksuper⟩ parser with
      | error error => exact .bind_error (made ▸ filling)
      | ok filled => exact .bind (made ▸ filling) (.succeed _)

/-! ## The loop of the tokenizer -/

/-- **What a scanned token leaves**: linked tokens, and a position that is not before the first. -/
def Advances (parser next : JsmnParser) : Prop := IsLinked next ∧ parser.pos ≤ next.pos

variable {next : JsmnParser}

theorem advances_jsmnParsePrimitive (linked : IsLinked parser)
    (here : input.text.drop parser.pos = byte :: rest)
    (begins : ¬(byte = 0 ∨ endsPrimitive byte = true))
    (parsed : Firmware.jsmnParsePrimitive input.text jsonProtocolTokenCapacity parser = .ok next) :
    Advances parser next := by
  rw [Firmware.jsmnParsePrimitive] at parsed
  cases found : jsmnPrimitiveEnd parser.pos (input.text.drop parser.pos) with
  | none =>
      rw [found] at parsed
      cases parsed
  | some finish =>
      obtain ⟨onward, _⟩ := finish_of_primitive here begins found
      rw [found] at parsed
      dsimp only at parsed
      cases made : Firmware.jsmnAllocToken jsonProtocolTokenCapacity
          ⟨.primitive, parser.pos, finish, 0, parser.toksuper⟩ parser with
      | error error =>
          rw [made] at parsed
          cases parsed
      | ok filled =>
          rw [made] at parsed
          obtain rfl := Except.ok.inj parsed
          obtain ⟨linked', _⟩ := linked.jsmnAllocToken rfl made
          exact ⟨linked'.withPos _, Nat.le_sub_one_of_lt onward⟩

theorem advances_jsmnParseString {json : Bytes} (linked : IsLinked parser)
    (parsed : Firmware.jsmnParseString json jsonProtocolTokenCapacity parser = .ok next) :
    Advances parser next := by
  rw [Firmware.jsmnParseString] at parsed
  cases found : jsmnStringEnd (parser.pos + 1) (json.drop (parser.pos + 1)) with
  | error error =>
      rw [found] at parsed
      cases parsed
  | ok finish =>
      obtain ⟨content, _, _, _, rfl⟩ := exists_of_jsmnStringEnd found
      rw [found] at parsed
      dsimp only at parsed
      generalize finish_ : parser.pos + 1 + content.length = finish at parsed
      cases made : Firmware.jsmnAllocToken jsonProtocolTokenCapacity
          ⟨.string, parser.pos + 1, finish, 0, parser.toksuper⟩ parser with
      | error error =>
          rw [made] at parsed
          cases parsed
      | ok filled =>
          rw [made] at parsed
          obtain rfl := Except.ok.inj parsed
          obtain ⟨linked', _⟩ := linked.jsmnAllocToken rfl made
          exact ⟨linked'.withPos _, by dsimp only; omega⟩

theorem Advances.map_jsmnCountChild {result : Except JsmnError JsmnParser}
    (advances : ∀ filled, result = .ok filled → Advances parser filled)
    (counted : result.map Firmware.jsmnCountChild = .ok next) : Advances parser next := by
  cases result with
  | error error => cases counted
  | ok filled =>
      obtain rfl := Except.ok.inj counted
      obtain ⟨linked, onward⟩ := advances filled rfl
      exact ⟨linked.jsmnCountChild, (pos_jsmnCountChild filled).symm ▸ onward⟩

theorem performs_map_jsmnCountChild {program : Program JsmnError JsmnParser}
    {result : Except JsmnError JsmnParser}
    (performs : Performs (input.Safe tokenCount) program result)
    (advances : ∀ filled, result = .ok filled → Advances parser filled) :
    Performs (input.Safe tokenCount) (do let filled ← program; jsmnCountChild filled)
      (result.map Firmware.jsmnCountChild) := by
  cases result with
  | error error => exact .bind_error performs
  | ok filled => exact .bind performs (performs_jsmnCountChild (advances filled rfl).1)

/-- The bytes that no other case of the loop takes. -/
theorem begins_primitive (nonzero : byte ≠ 0) (brace : byte ≠ rightBrace)
    (bracket : byte ≠ rightBracket)
    (separator : ¬(isJsonWhitespace byte || byte == colon || byte == comma) = true) :
    ¬(byte = 0 ∨ endsPrimitive byte = true) := by
  simp only [Bool.or_eq_true, beq_iff_eq, not_or] at separator
  simp only [endsPrimitive, Bool.or_eq_true, beq_iff_eq, not_or]
  exact ⟨nonzero, ⟨⟨separator.1.1, separator.2⟩, bracket⟩, brace⟩

section Character

variable (linked : IsLinked parser) (here : input.text.drop parser.pos = byte :: rest)
  (nonzero : byte ≠ 0)
include linked here nonzero

variable (tokenCount) in
/-- **One byte of the loop**, recorded. -/
theorem performs_jsmnParseCharacter (enough : input.Enough) (small : input.length < 2 ^ 32) :
    Performs (input.Safe tokenCount)
      (jsmnParseCharacter input jsonProtocolTokenCapacity parser byte)
      (Firmware.jsmnParseCharacter input.text jsonProtocolTokenCapacity parser byte) := by
  refine .ite (fun _ => performs_jsmnOpen _ linked) fun _ =>
    .ite (fun _ => performs_jsmnOpen _ linked) fun _ => .ite (fun _ => performs_jsmnClose _ linked enough) fun brace =>
    .ite (fun _ => performs_jsmnClose _ linked enough) fun bracket => .ite (fun _ => ?_) fun _ =>
    .ite (fun _ => .succeed _) fun separator => ?_
  · exact performs_map_jsmnCountChild (performs_jsmnParseString enough) fun _ parsed =>
      advances_jsmnParseString linked parsed
  · have begins := begins_primitive nonzero brace bracket separator
    exact performs_map_jsmnCountChild (performs_jsmnParsePrimitive enough small here begins)
      fun _ parsed => advances_jsmnParsePrimitive linked here begins parsed

theorem advances_jsmnParseCharacter
    (parsed : Firmware.jsmnParseCharacter input.text jsonProtocolTokenCapacity parser byte =
      .ok next) : Advances parser next := by
  rw [Firmware.jsmnParseCharacter] at parsed
  split_ifs at parsed with open_ openArray close closeArray quoted separator
  · obtain ⟨linked', same⟩ := isLinked_jsmnOpen linked parsed
    exact ⟨linked', Nat.le_of_eq same.symm⟩
  · obtain ⟨linked', same⟩ := isLinked_jsmnOpen linked parsed
    exact ⟨linked', Nat.le_of_eq same.symm⟩
  · obtain ⟨linked', same⟩ := linked.jsmnClose parsed
    exact ⟨linked', Nat.le_of_eq same.symm⟩
  · obtain ⟨linked', same⟩ := linked.jsmnClose parsed
    exact ⟨linked', Nat.le_of_eq same.symm⟩
  · exact Advances.map_jsmnCountChild (fun _ parsed => advances_jsmnParseString linked parsed)
      parsed
  · obtain rfl := Except.ok.inj parsed
    exact ⟨linked, Nat.le_refl _⟩
  · have begins := begins_primitive nonzero close closeArray separator
    exact Advances.map_jsmnCountChild
      (fun _ parsed => advances_jsmnParsePrimitive linked here begins parsed) parsed

end Character

variable (tokenCount) in
/-- The loop of `jsmn_parse` -/
theorem performs_jsmnParseLoop {bound iterations : Nat} (linked : IsLinked parser)
    (enough : input.Enough) (small : input.length < 2 ^ 32)
    (left : input.length ≤ parser.pos + bound) (more : bound < iterations) :
    Performs (input.Safe tokenCount)
      (loop (jsmnCharacter input jsonProtocolTokenCapacity) iterations parser)
      (jsmnParseLoop input.text jsonProtocolTokenCapacity bound parser) := by
  induction bound generalizing parser iterations with
  | zero =>
      obtain ⟨iterations, rfl⟩ := Nat.exists_eq_add_one.mpr more
      refine .loop_ends ?_
      rw [jsmnCharacter, if_pos (show input.length ≤ parser.pos from left)]
      exact .succeed _
  | succ bound ih =>
      obtain ⟨iterations, rfl⟩ := Nat.exists_eq_add_one.mpr (Nat.zero_lt_of_lt more)
      rw [jsmnParseLoop]
      cases here : input.text.drop parser.pos with
      | nil =>
          have found : input.text[parser.pos]? = none := by rw [← List.head?_drop, here]; rfl
          rw [found]
          refine .loop_ends ?_
          rw [jsmnCharacter, if_pos (end_of_drop here)]
          exact .succeed _
      | cons byte rest =>
          have found : input.text[parser.pos]? = some byte := by rw [← List.head?_drop, here]; rfl
          obtain ⟨inside, same, _⟩ := read_of_drop here
          -- one iteration, after the byte has been read
          have body : ∀ {result : Except JsmnError (JsmnParser ⊕ JsmnParser)},
              Performs (input.Safe tokenCount)
                (if byte = 0 then pure (.inr parser)
                else do
                  let next ← jsmnParseCharacter input jsonProtocolTokenCapacity parser byte
                  pure (.inl { next with pos := next.pos + 1 })) result →
              Performs (input.Safe tokenCount)
                (jsmnCharacter input jsonProtocolTokenCapacity parser) result := by
            intro result goes
            rw [jsmnCharacter, if_neg (Nat.not_le.mpr inside)]
            refine .bind (performs_lineAt inside) ?_
            rw [same]
            exact goes
          rw [found]
          dsimp only
          split_ifs with zero
          · refine .loop_ends (body ?_)
            rw [if_pos zero]
            exact .succeed _
          · have step := performs_jsmnParseCharacter tokenCount linked here zero enough small
            cases parsed :
                Firmware.jsmnParseCharacter input.text jsonProtocolTokenCapacity parser byte with
            | error error =>
                rw [parsed] at step
                refine .loop_stops (body ?_)
                rw [if_neg zero]
                exact .bind_error step
            | ok next =>
                rw [parsed] at step
                obtain ⟨linked', onward⟩ := advances_jsmnParseCharacter linked here zero parsed
                refine .loop_goes (body ?_)
                  (ih (linked'.withPos _) ?_ (Nat.lt_of_succ_lt_succ more))
                · rw [if_neg zero]
                  exact .bind step (.succeed _)
                · dsimp only
                  omega

theorem isLinked_jsmnParseLoop {bound : Nat} (linked : IsLinked parser)
    (parsed : jsmnParseLoop input.text jsonProtocolTokenCapacity bound parser = .ok next) :
    IsLinked next := by
  induction bound generalizing parser with
  | zero =>
      obtain rfl := Except.ok.inj parsed
      exact linked
  | succ bound ih =>
      rw [jsmnParseLoop] at parsed
      cases here : input.text.drop parser.pos with
      | nil =>
          have found : input.text[parser.pos]? = none := by rw [← List.head?_drop, here]; rfl
          rw [found] at parsed
          obtain rfl := Except.ok.inj parsed
          exact linked
      | cons byte rest =>
          have found : input.text[parser.pos]? = some byte := by rw [← List.head?_drop, here]; rfl
          rw [found] at parsed
          dsimp only at parsed
          split_ifs at parsed with zero
          · obtain rfl := Except.ok.inj parsed
            exact linked
          · cases step :
                Firmware.jsmnParseCharacter input.text jsonProtocolTokenCapacity parser byte with
            | error error =>
                rw [step] at parsed
                cases parsed
            | ok after =>
                rw [step] at parsed
                obtain ⟨linked', _⟩ := advances_jsmnParseCharacter linked here zero step
                exact ih (linked'.withPos _) parsed

/-- The tokenizer returns no more tokens than there is room for. -/
theorem few_of_jsmnParse {tokens : List JsmnTok}
    (parsed : Firmware.jsmnParse input.text jsonProtocolTokenCapacity = .ok tokens) :
    tokens.length ≤ jsonProtocolTokenCapacity := by
  rw [Firmware.jsmnParse] at parsed
  cases scanned : jsmnParseLoop input.text jsonProtocolTokenCapacity input.text.length jsmnInit with
  | error error =>
      rw [scanned] at parsed
      cases parsed
  | ok parser =>
      rw [scanned] at parsed
      dsimp only at parsed
      split_ifs at parsed
      obtain rfl := Except.ok.inj parsed
      exact (isLinked_jsmnParseLoop isLinked_jsmnInit scanned).few

/-- The loop that looks for an open token. -/
theorem performs_closedTokens {tokens : List JsmnTok}
    (few : tokens.length ≤ jsonProtocolTokenCapacity) {index iterations : Nat} (enough : tokens.length - index < iterations) :
    Performs (input.Safe tokenCount) (loop (closedToken input tokens) iterations index)
      (if (tokens.drop index).any JsmnTok.isOpen = true then .error .part else .ok tokens) := by
  induction iterations generalizing index with
  | zero => exact absurd enough (Nat.not_lt_zero _)
  | succ iterations ih =>
      by_cases beyond : tokens.length ≤ index
      · rw [List.drop_eq_nil_of_le beyond]
        refine .loop_ends ?_
        rw [closedToken, if_pos beyond]
        exact .succeed _
      · have inside := Nat.not_le.mp beyond
        have found : tokens[index]? = some tokens[index] := List.getElem?_eq_getElem inside
        have body : closedToken input tokens index = _ := if_neg beyond
        rw [List.drop_eq_getElem_cons inside, List.any_cons]
        by_cases opened : tokens[index].isOpen = true
        · rw [opened, Bool.true_or, if_pos rfl]
          refine .loop_stops ?_
          rw [body]
          refine .bind (performs_filledToken few found) ?_
          rw [if_pos opened]
          exact .stop _
        · rw [Bool.not_eq_true _ |>.mp opened, Bool.false_or]
          refine .loop_goes ?_ (ih (by omega))
          rw [body]
          refine .bind (performs_filledToken few found) ?_
          rw [if_neg opened]
          exact .succeed _

variable (tokenCount) in
/-- **The tokenizer uses the line and filled tokens only**, and ends with what `jsmnParse` says. -/
theorem performs_jsmnParse (enough : input.Enough) (small : input.length < 2 ^ 32) :
    Performs (input.Safe tokenCount) (jsmnParse input jsonProtocolTokenCapacity)
      (Firmware.jsmnParse input.text jsonProtocolTokenCapacity) := by
  have more : input.length < input.iterations := by
    rw [ParserInput.Enough] at enough
    omega
  have scans := performs_jsmnParseLoop tokenCount isLinked_jsmnInit enough small
    (Nat.le_add_left input.length jsmnInit.pos) more
  rw [Firmware.jsmnParse, input.length_text]
  cases parsed : jsmnParseLoop input.text jsonProtocolTokenCapacity input.length jsmnInit with
  | error error =>
      rw [parsed] at scans
      exact .bind_error scans
  | ok parser =>
      rw [parsed] at scans
      have few := (isLinked_jsmnParseLoop isLinked_jsmnInit parsed).few
      have all : parser.tokens.length - 0 < input.iterations := by
        rw [ParserInput.Enough] at enough
        omega
      exact .bind scans (performs_closedTokens few all)

end Tokens

end Recorded

end FlightComputer.Firmware
