import FlightComputer.Firmware.RequestTexts

/-!
# How strict the request parser is

The parser is meant to accept the JSON texts of valid requests and nothing else.
It takes more than that, because the tokenizer skips separators and does not care
where objects end: a text whose lexemes spell a request is accepted with colons
and commas missing or misplaced, with the object closed early, with numbers that
start with zeros, with a UUID of another variant, or with anything behind a NUL
byte. These are all the exceptions (`accepts_only_requests_iff`).
-/

set_option autoImplicit false

namespace FlightComputer

open Library Firmware

/-! ## Well-formed trees -/

theorem isStringContent_ascii {text : String}
    (plain : ((ascii text).all isPlainStringByte) = true) : IsStringContent (ascii text) :=
  isStringContent_of_plain (List.all_eq_true.mp plain)

theorem membersWellFormed_iff (members : List (Bytes × JsonTree)) :
    membersWellFormed members ↔
      ∀ member ∈ members, IsStringContent member.1 ∧ member.2.WellFormed := by
  induction members with
  | nil => exact iff_of_true trivial nofun
  | cons member members ih =>
      rw [List.forall_mem_cons, ← ih, and_assoc]
      rfl

theorem isNumber_of_plainNumeral {n : Nat} {literal : Bytes} (plain : plainNumeral n literal) :
    (JsonTree.literal literal).WellFormed := by
  obtain rfl := plain
  exact .inr (.inr (.inr (isNumber_decimalText n)))

/-- The object of an admissible request is spelled as JSON wants it. -/
theorem wellFormed_requestTree {request : Request} (admissible : request.Admissible)
    {members : List RequestMember} (spelled : request.SpelledBy plainNumeral members) :
    (requestTree members).WellFormed := by
  obtain ⟨version, commandId, others, one, number, body, perm⟩ := spelled
  -- it suffices that every value is well formed, since the names are known
  have names : ∀ member : RequestMember, IsStringContent member.name := by
    intro member
    cases member <;> exact isStringContent_ascii (by decide)
  suffices values : ∀ member ∈ RequestMember.protocolVersion version ::
      .type request.body.typeName :: .commandId commandId :: others, member.value.WellFormed by
    refine (membersWellFormed_iff _).mpr fun entry listed => ?_
    obtain ⟨member, given, rfl⟩ := List.mem_map.mp listed
    exact ⟨names member, values member (perm.mem_iff.mp given)⟩
  have typeName : IsStringContent request.body.typeName := by
    cases request.body <;> exact isStringContent_ascii (by decide)
  refine List.forall_mem_cons.mpr ⟨isNumber_of_plainNumeral one, List.forall_mem_cons.mpr
    ⟨typeName, List.forall_mem_cons.mpr ⟨isNumber_of_plainNumeral number, ?_⟩⟩⟩
  have allowed := admissible.body
  cases named : request.body with
  | startTest testUuid =>
      rw [named] at body allowed
      obtain rfl := body
      rw [List.forall_mem_singleton]
      exact isStringContent_of_plain fun byte listed => (allowed.1.plain byte listed).1
  | runComponentTest testType colour =>
      rw [named] at body allowed
      have testTypeLegal : IsStringContent testType :=
        isStringContent_of_plain fun byte listed => (allowed.1.plain byte listed).1
      cases colour with
      | none =>
          obtain rfl := body
          rw [List.forall_mem_singleton]
          exact testTypeLegal
      | some colour =>
          obtain ⟨channels, ⟨red, green, blue, first, second, third, order⟩, rfl⟩ := body
          refine List.forall_mem_cons.mpr ⟨testTypeLegal, ?_⟩
          rw [List.forall_mem_singleton]
          refine (membersWellFormed_iff _).mpr fun entry listed => ?_
          obtain ⟨channel, given, rfl⟩ := List.mem_map.mp listed
          have either := order.mem_iff.mp given
          simp only [List.mem_cons, List.not_mem_nil, or_false] at either
          rcases either with rfl | rfl | rfl
          · exact ⟨isStringContent_ascii (by decide), isNumber_of_plainNumeral first⟩
          · exact ⟨isStringContent_ascii (by decide), isNumber_of_plainNumeral second⟩
          · exact ⟨isStringContent_ascii (by decide), isNumber_of_plainNumeral third⟩
  | stopComponentTest =>
      rw [named] at body
      obtain rfl := body
      exact nofun

/-! ## No NUL bytes in JSON -/

theorem zero_notMem_jsmnString {content : Bytes} (legal : IsJsmnString content) :
    0 ∉ content := by
  induction legal with
  | nil => exact List.not_mem_nil
  | plain nonzero open_ itself later ih =>
      rw [List.mem_cons, not_or]
      exact ⟨nonzero.symm, ih⟩
  | @escape letter rest known later ih =>
      rw [List.mem_cons, List.mem_cons, not_or, not_or]
      refine ⟨by decide, ?_, ih⟩
      rintro rfl
      exact absurd known (by decide)
  | @unicode a b c d rest hex later ih =>
      simp only [Bool.and_eq_true] at hex
      have digit : ∀ byte : UInt8, isHexDigit byte = true → (0 : UInt8) ≠ byte := by
        rintro byte legal rfl
        exact absurd legal (by decide)
      simp only [List.mem_cons, not_or]
      exact ⟨by decide, by decide, digit a hex.1.1.1, digit b hex.1.1.2, digit c hex.1.2,
        digit d hex.2, ih⟩

theorem zero_notMem_lexeme {lexeme : Lexeme} (legal : IsJsmnLexeme lexeme) :
    0 ∉ lexeme.text := by
  cases lexeme with
  | punctuation byte =>
      rw [Lexeme.text, List.mem_singleton]
      rintro rfl
      exact absurd (show isJsmnPunctuation 0 = true from legal) (by decide)
  | string content =>
      rw [Lexeme.text, List.mem_cons, List.mem_append, List.mem_singleton, not_or, not_or]
      exact ⟨by decide, zero_notMem_jsmnString legal, by decide⟩
  | literal text =>
      intro listed
      exact absurd (legal.1 0 listed) (by decide)

/-- **A JSON text contains no NUL byte.** -/
theorem zero_notMem_of_isJsonText {text : Bytes} {tree : JsonTree} (json : IsJsonText text tree) :
    0 ∉ text := by
  have separable := separable_lexemes tree json.1 [] .nil nofun
  rw [List.append_nil] at separable
  have gap : ∀ {gap : Bytes}, (∀ byte ∈ gap, isJsonWhitespace byte = true) → 0 ∉ gap :=
    fun space listed => absurd (space 0 listed) (by decide)
  have layout := json.2
  clear json
  generalize tree.lexemes = lexemes at separable layout
  induction layout with
  | blank space => exact gap space
  | lexeme space later ih =>
      cases separable with
      | cons legal apart rest =>
          rw [List.mem_append, List.mem_append, not_or, not_or]
          exact ⟨gap space, zero_notMem_lexeme legal, ih rest⟩

/-! ## Members are known by their tokens -/

theorem channels_unique {first second : List ChannelMember} {rest rest' : List RequestMember}
    (same : first.flatMap channelTokens ++ rest.flatMap memberTokens =
      second.flatMap channelTokens ++ rest'.flatMap memberTokens) :
    first = second ∧ rest.flatMap memberTokens = rest'.flatMap memberTokens := by
  have apart : ∀ (channel : RgbChannel) (member : RequestMember),
      channel.name ≠ member.name := by
    intro channel member
    have kinds : ∀ kind : MemberKind, channel.name ≠ kind.name := by
      intro kind
      cases channel <;> cases kind <;> decide
    exact kinds (memberKind member)
  -- a channel is not followed by a member with its name
  have ended : ∀ (channel : ChannelMember) (channels : List ChannelMember)
      (rest rest' : List RequestMember), (channel :: channels).flatMap channelTokens ++
        rest.flatMap memberTokens ≠ rest'.flatMap memberTokens := by
    intro channel channels rest rest' equal
    cases rest' with
    | nil => cases equal
    | cons member rest' =>
        exact apart channel.1 member (Lexeme.string.inj (List.cons.inj equal).1)
  have names : ∀ channel channel' : RgbChannel, channel.name = channel'.name →
      channel = channel' := by
    intro channel channel'
    cases channel <;> cases channel' <;> decide
  induction first generalizing second with
  | nil =>
      cases second with
      | nil => exact ⟨rfl, same⟩
      | cons channel channels => exact absurd same.symm (ended channel channels rest' rest)
  | cons channel channels ih =>
      cases second with
      | nil => exact absurd same (ended channel channels rest rest')
      | cons channel' channels' =>
          obtain ⟨name, same⟩ := List.cons.inj same
          obtain ⟨value, same⟩ := List.cons.inj same
          obtain ⟨rfl, later⟩ := ih same
          exact ⟨congrArg (· :: channels) (Prod.ext (names _ _ (Lexeme.string.inj name))
            (Lexeme.literal.inj value)), later⟩

/-- **Members are known by their tokens.** -/
theorem members_unique {first second : List RequestMember}
    (same : first.flatMap memberTokens = second.flatMap memberTokens) : first = second := by
  have names : ∀ kind kind' : MemberKind, kind.name = kind'.name → kind = kind' := by
    intro kind kind'
    cases kind <;> cases kind' <;> decide
  induction first generalizing second with
  | nil =>
      cases second with
      | nil => rfl
      | cons member members => cases same
  | cons member members ih =>
      cases second with
      | nil => cases same
      | cons member' members' =>
          obtain ⟨name, same⟩ := List.cons.inj same
          have kind := names _ _ (Lexeme.string.inj name)
          -- members of one kind differ in their values only
          cases member <;> cases member' <;> cases kind
          case parameters.parameters.refl channels channels' =>
            obtain ⟨_, same⟩ := List.cons.inj same
            obtain ⟨rfl, later⟩ := channels_unique same
            rw [ih later]
          all_goals
            obtain ⟨value, later⟩ := List.cons.inj same
            cases value
            rw [ih later]

/-- **What the parser takes a JSON text for** has the members of the text. -/
theorem exists_spelledBy_of_parsed {text : Bytes} {members : List RequestMember}
    (nonempty : members ≠ []) (json : IsJsonText text (requestTree members))
    {record : JsonProtocolRequest} (parsed : jsonProtocolParseRequest text = .ok record) :
    ∃ request : Request, request.Admissible ∧ request.SpelledBy paddedNumeral members ∧
      requestRecord request = record := by
  obtain ⟨located, members', reads, spells, read⟩ :=
    (jsonProtocolParseRequest_eq_ok_iff _ _).mp parsed
  obtain ⟨located', reads', lexemes⟩ := exists_reads_of_isJsonText json
  obtain rfl := reads.unique reads'
  have tokens := spells.tokens
  rw [lexemes, tokens_requestTree nonempty] at tokens
  obtain rfl := members_unique (List.cons.inj tokens).2
  exact (readMembers_eq_some_iff _ _).mp read

/-! ## Strictness -/

/-- A text whose lexemes spell an admissible request to the parser is a JSON text
of a valid one: nothing stands behind a NUL byte, colons, commas and braces
stand where JSON wants them, no number starts with a zero that it does not
consist of, and a UUID has the variant of its version. -/
def IsWrittenProperly (text : Bytes) : Prop :=
  ∀ (located : List (Nat × Lexeme)) (members : List RequestMember) (request : Request),
    JsmnReads 0 text located → SpellsRequest (located.map Prod.snd) members →
      request.Admissible → request.SpelledBy paddedNumeral members →
        0 ∉ text ∧ located.map Prod.snd = (requestTree members).lexemes ∧
          request.SpelledBy plainNumeral members ∧ request.Valid

/-- **How strict the parser is.** That the parser accepts a text only if it is a
JSON text of a valid request holds of exactly the texts that are written
properly, should they spell a request. -/
theorem accepts_only_requests_iff (text : Bytes) :
    ((∃ record, jsonProtocolParseRequest text = .ok record) →
        ∃ request : Request, request.Valid ∧ request.IsText text) ↔
      IsWrittenProperly text := by
  constructor
  · intro strict located members request reads spells admissible spelled
    have read := readMembers_of_spelledBy admissible spelled
    obtain ⟨valid, isValid, members', spelled', json⟩ :=
      strict ⟨_, (jsonProtocolParseRequest_eq_ok_iff text _).mpr ⟨located, members, reads, spells,
        read⟩⟩
    obtain ⟨located', reads', lexemes⟩ := exists_reads_of_isJsonText json
    obtain rfl := reads.unique reads'
    -- the lexemes determine the members, and these the request
    have read' := readMembers_of_spelledBy isValid.toAdmissible
      (spelledBy_mono (fun _ _ => paddedNumeral_of_plainNumeral) spelled')
    obtain ⟨state, folds, _⟩ := Option.bind_eq_some_iff.mp read'
    have spells' := spellsRequest_requestTree (members_ne_nil spelled') folds
    rw [← lexemes] at spells'
    obtain rfl := members_unique
      (List.cons.inj (spells.tokens.symm.trans spells'.tokens)).2
    obtain rfl := requestRecord_injective admissible isValid.toAdmissible
      (Option.some.inj (read.symm.trans read'))
    exact ⟨zero_notMem_of_isJsonText json, lexemes, spelled', isValid⟩
  · rintro proper ⟨record, accepted⟩
    obtain ⟨located, members, reads, spells, read⟩ :=
      (jsonProtocolParseRequest_eq_ok_iff text record).mp accepted
    obtain ⟨request, admissible, spelled, _⟩ := (readMembers_eq_some_iff members record).mp read
    obtain ⟨clean, lexemes, plain, valid⟩ := proper located members request reads spells admissible
      spelled
    have layout := reads.laidOut clean
    rw [lexemes] at layout
    exact ⟨request, valid, members, plain, wellFormed_requestTree admissible plain, layout⟩

/-- A request whose object is closed after its first member. -/
def objectClosedEarly : Bytes :=
  ascii "\x7b\"protocol_version\":1\x7d,\"type\":\"STOP_COMPONENT_TEST\",\"command_id\":7"

/-- The parser accepts a text that is no JSON text of any request. -/
theorem object_closed_early_is_accepted :
    jsonProtocolParseRequest objectClosedEarly =
        .ok ⟨.stopComponentTest, 7, [], [], false, 0, 0, 0⟩ ∧
      ¬∃ request : Request, request.Valid ∧ request.IsText objectClosedEarly := by
  refine ⟨by decide +kernel, ?_⟩
  rintro ⟨request, _, members, spelled, json⟩
  obtain ⟨located, reads, lexemes⟩ := exists_reads_of_isJsonText json
  obtain ⟨inside, object, _⟩ := @object_lexemes (members.map memberTree)
    fun empty => members_ne_nil spelled (List.map_eq_nil_iff.mp empty)
  -- the last lexeme of the text is a number, that of an object a brace
  have last : ((lexemesFrom 70 0 objectClosedEarly).map Prod.snd).getLast? =
      some (.literal (ascii "7")) := by decide +kernel
  rw [lexemesFrom_of_reads reads (by decide +kernel), lexemes, requestTree, object,
    ← List.cons_append, List.getLast?_append] at last
  cases (show some (Lexeme.punctuation rightBrace) = some (.literal (ascii "7")) from last)

end FlightComputer
