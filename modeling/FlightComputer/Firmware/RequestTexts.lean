import FlightComputer.Firmware.JsonTexts
import FlightComputer.Firmware.RequestChecks

/-!
# The texts of requests

A JSON text of a request has the lexemes of one object, and these spell the
members of the request to the parser (`spellsRequest_requestTree`). So the parser
accepts every text of an admissible request and returns what it says
(`jsonProtocolParseRequest_of_isText`).
-/

set_option autoImplicit false

namespace FlightComputer.Firmware

open Library

/-! ## Lexemes of objects -/

/-- The lexemes of the members of an object, a comma before each. -/
def memberLexemes (members : List (Bytes × JsonTree)) : List Lexeme :=
  members.flatMap fun member =>
    .punctuation comma :: .string member.1 :: .punctuation colon :: member.2.lexemes

theorem furtherMembers_eq (members : List (Bytes × JsonTree)) :
    furtherMembers members = memberLexemes members ++ [.punctuation rightBrace] := by
  induction members with
  | nil => rfl
  | cons member members ih =>
      rw [furtherMembers, ih, memberLexemes, memberLexemes, List.flatMap_cons, List.append_assoc]
      rfl

/-- The lexemes of an object with members. -/
theorem object_lexemes {members : List (Bytes × JsonTree)} (nonempty : members ≠ []) :
    ∃ inside, (JsonTree.object members).lexemes =
        .punctuation leftBrace :: (inside ++ [.punctuation rightBrace]) ∧
      .punctuation comma :: inside = memberLexemes members := by
  obtain ⟨⟨name, value⟩, members, rfl⟩ := List.exists_cons_of_ne_nil nonempty
  refine ⟨.string name :: .punctuation colon :: (value.lexemes ++ memberLexemes members), ?_, ?_⟩
  · rw [JsonTree.lexemes, furtherMembers_eq, List.cons_append, List.cons_append, List.append_assoc]
  · rw [memberLexemes, memberLexemes, List.flatMap_cons]
    rfl

theorem filter_memberLexemes {Item : Type} (items : List Item) (tree : Item → Bytes × JsonTree)
    (tokens : Item → List Lexeme)
    (each : ∀ item ∈ items,
      .string (tree item).1 :: (tree item).2.lexemes.filter makesToken = tokens item) :
    (memberLexemes (items.map tree)).filter makesToken = items.flatMap tokens := by
  induction items with
  | nil => rfl
  | cons item items ih =>
      rw [List.map_cons, memberLexemes, List.flatMap_cons, List.flatMap_cons, List.filter_append,
        ← each item List.mem_cons_self, ← ih fun other listed => each other (.tail _ listed)]
      rfl

theorem filter_channels (channels : List ChannelMember) :
    (memberLexemes (channels.map channelTree)).filter makesToken =
      channels.flatMap channelTokens :=
  filter_memberLexemes channels channelTree channelTokens fun _ _ => rfl

theorem isBracket_channels (channels : List ChannelMember) :
    ∀ lexeme ∈ memberLexemes (channels.map channelTree), isBracket lexeme = false := by
  intro lexeme listed
  obtain ⟨_, member, inside⟩ := List.mem_flatMap.mp listed
  obtain ⟨channel, _, rfl⟩ := List.mem_map.mp member
  simp only [channelTree, JsonTree.lexemes, List.mem_cons, List.not_mem_nil, or_false] at inside
  rcases inside with rfl | rfl | rfl | rfl
  · decide
  · rfl
  · decide
  · rfl

theorem filter_value (member : RequestMember) :
    member.value.lexemes.filter makesToken = valueTokens member := by
  cases member with
  | parameters channels =>
      change (JsonTree.object (channels.map channelTree)).lexemes.filter makesToken = _
      cases channels with
      | nil => rfl
      | cons channel channels =>
          obtain ⟨inside, object, commaInside⟩ :=
            @object_lexemes ((channel :: channels).map channelTree) (List.cons_ne_nil _ _)
          have tokens := filter_channels (channel :: channels)
          rw [← commaInside, List.filter_cons_of_neg (by decide)] at tokens
          rw [object, List.filter_cons_of_pos (by decide), List.filter_append, tokens]
          exact congrArg _ (List.append_nil _)
  | protocolVersion literal | type content | commandId literal | testUuid content
  | testType content => rfl

theorem filter_members (members : List RequestMember) :
    (memberLexemes (members.map memberTree)).filter makesToken = members.flatMap memberTokens :=
  filter_memberLexemes members memberTree memberTokens fun member _ => by
    rw [memberTree, filter_value, memberTokens]

theorem isBracket_plainMembers {members : List RequestMember}
    (plain : ∀ member ∈ members, Plain member) :
    ∀ lexeme ∈ memberLexemes (members.map memberTree), isBracket lexeme = false := by
  intro lexeme listed
  obtain ⟨_, mapped, inside⟩ := List.mem_flatMap.mp listed
  obtain ⟨member, given, rfl⟩ := List.mem_map.mp mapped
  cases member with
  | parameters channels => exact absurd rfl (plain _ given channels)
  | protocolVersion literal | type content | commandId literal | testUuid content
  | testType content =>
      simp only [memberTree, RequestMember.value, JsonTree.lexemes, List.mem_cons,
        List.not_mem_nil, or_false] at inside
      rcases inside with rfl | rfl | rfl | rfl
      · decide
      · rfl
      · decide
      · rfl

/-! ## Lexemes of requests -/

theorem leftBrace_notMem_append {lexemes : List Lexeme}
    (plain : ∀ lexeme ∈ lexemes, isBracket lexeme = false) :
    Lexeme.punctuation leftBrace ∉ lexemes ++ [.punctuation rightBrace] := by
  rw [List.mem_append, List.mem_singleton, not_or]
  exact ⟨leftBrace_notMem plain, by decide⟩

/-- The `parameters` object of a request encloses the tokens of its channels. -/
theorem enclosedTokens_requestTree {members : List RequestMember} {state after : RequestState}
    (folds : members.foldlM readMember state = some after) {before rest : List Lexeme}
    (split : memberLexemes (members.map memberTree) ++ [.punctuation rightBrace] =
      before ++ .punctuation leftBrace :: rest) : enclosedTokens rest = 6 := by
  rcases plain_or_parameters folds with
    plain | ⟨_, first, channels, others, rfl, three, plainFirst, plainOthers⟩
  · refine absurd ?_ (leftBrace_notMem_append (isBracket_plainMembers plain))
    rw [split]
    simp
  obtain ⟨inside, object, commaInside⟩ := @object_lexemes (channels.map channelTree) (by
    intro empty
    rw [List.map_eq_nil_iff] at empty
    simp [empty] at three)
  have plainInside : ∀ lexeme ∈ inside, isBracket lexeme = false := fun lexeme listed =>
    isBracket_channels channels lexeme (commaInside ▸ List.mem_cons_of_mem _ listed)
  have count : (inside.filter makesToken).length = 6 := by
    have tokens := filter_channels channels
    rw [← commaInside, List.filter_cons_of_neg (by decide)] at tokens
    rw [tokens, length_channelTokens, three]
  have value : (memberTree (.parameters channels)).2.lexemes =
      .punctuation leftBrace :: (inside ++ [.punctuation rightBrace]) := object
  have whole : memberLexemes ((first ++ .parameters channels :: others).map memberTree) ++
      [.punctuation rightBrace] =
        (memberLexemes (first.map memberTree) ++ [.punctuation comma, .string (ascii "parameters"),
          .punctuation colon]) ++ .punctuation leftBrace ::
            (inside ++ .punctuation rightBrace ::
              (memberLexemes (others.map memberTree) ++ [.punctuation rightBrace])) := by
    rw [List.map_append, List.map_cons, memberLexemes, List.flatMap_append, List.flatMap_cons, value]
    simp [memberLexemes, memberTree, RequestMember.name, memberKind, MemberKind.name]
  rw [whole, List.append_cons_inj_of_notMem] at split
  · rw [← split.2.2, enclosedTokens_append plainInside, count]
  · rw [List.mem_append, not_or]
    exact ⟨leftBrace_notMem (isBracket_plainMembers plainFirst), by decide⟩
  · rw [List.mem_append, List.mem_cons, not_or, not_or]
    exact ⟨leftBrace_notMem plainInside, by decide,
      leftBrace_notMem_append (isBracket_plainMembers plainOthers)⟩

/-- The tokens of an object are its members. -/
theorem tokens_requestTree {members : List RequestMember} (nonempty : members ≠ []) :
    (requestTree members).lexemes.filter makesToken =
      .punctuation leftBrace :: members.flatMap memberTokens := by
  obtain ⟨inside, object, commaInside⟩ := @object_lexemes (members.map memberTree) (by
    rw [ne_eq, List.map_eq_nil_iff]
    exact nonempty)
  have tree : (requestTree members).lexemes = _ := object
  have tokens := filter_members members
  rw [← commaInside, List.filter_cons_of_neg (by decide)] at tokens
  rw [tree, List.filter_cons_of_pos (by decide), List.filter_append, tokens]
  exact congrArg _ (List.append_nil _)

/-- **The lexemes of a request spell its members** to the parser. -/
theorem spellsRequest_requestTree {members : List RequestMember} (nonempty : members ≠ [])
    {state after : RequestState} (folds : members.foldlM readMember state = some after) :
    SpellsRequest (requestTree members).lexemes members := by
  obtain ⟨inside, object, commaInside⟩ := @object_lexemes (members.map memberTree) (by
    rw [ne_eq, List.map_eq_nil_iff]
    exact nonempty)
  have tree : (requestTree members).lexemes = _ := object
  refine ⟨tokens_requestTree nonempty, ?_, fun before rest split present => ?_⟩
  · have matched := bracketsMatch_lexemes (requestTree members) [] []
    rw [List.append_nil] at matched
    exact matched
  · rw [tree] at split
    obtain ⟨first, before, rfl⟩ := List.exists_cons_of_ne_nil
      (show before ≠ [] from fun empty => present (by rw [empty]; rfl))
    obtain ⟨_, split⟩ := List.cons.inj split
    refine .inr (@enclosedTokens_requestTree members state after folds (.punctuation comma :: before) rest ?_)
    rw [← commaInside, List.cons_append, split]
    rfl

theorem paddedNumeral_of_plainNumeral {n : Nat} {literal : Bytes}
    (plain : plainNumeral n literal) : paddedNumeral n literal := by
  obtain rfl := plain
  exact ⟨isDecimalDigit_of_mem_decimalText, numeralValue_decimalText n⟩

/-- Numerals of one sort that are numerals of another spell what they spell. -/
theorem spelledBy_mono {numeral numeral' : Numeral}
    (weaker : ∀ n literal, numeral n literal → numeral' n literal) {request : Request}
    {members : List RequestMember} (spelled : request.SpelledBy numeral members) :
    request.SpelledBy numeral' members := by
  obtain ⟨version, commandId, others, one, number, body, perm⟩ := spelled
  refine ⟨version, commandId, others, weaker _ _ one, weaker _ _ number, ?_, perm⟩
  cases named : request.body with
  | startTest testUuid => exact (named ▸ body : RequestBody.SpelledBy _ (.startTest testUuid) _)
  | runComponentTest testType colour =>
      rw [named] at body
      cases colour with
      | none => exact body
      | some colour =>
          obtain ⟨channels, ⟨red, green, blue, first, second, third, order⟩, same⟩ := body
          exact ⟨channels, ⟨red, green, blue, weaker _ _ first, weaker _ _ second,
            weaker _ _ third, order⟩, same⟩
  | stopComponentTest => exact (named ▸ body : RequestBody.SpelledBy _ .stopComponentTest _)

theorem members_ne_nil {numeral : Numeral} {request : Request} {members : List RequestMember}
    (spelled : request.SpelledBy numeral members) : members ≠ [] := by
  rintro rfl
  obtain ⟨_, _, _, _, _, _, perm⟩ := spelled
  exact absurd perm.length_eq (by simp)

/-- **Every text of an admissible request is accepted**, and read as the request
that it is. -/
theorem jsonProtocolParseRequest_of_isText {request : Request} (admissible : request.Admissible)
    {text : Bytes} (spells : request.IsText text) :
    jsonProtocolParseRequest text = .ok (requestRecord request) := by
  obtain ⟨members, spelled, json⟩ := spells
  have read := readMembers_of_spelledBy admissible
    (spelledBy_mono (fun _ _ => paddedNumeral_of_plainNumeral) spelled)
  obtain ⟨state, folds, _⟩ := Option.bind_eq_some_iff.mp read
  obtain ⟨located, reads, lexemes⟩ := exists_reads_of_isJsonText json
  exact (jsonProtocolParseRequest_eq_ok_iff text _).mpr
    ⟨located, members, reads, lexemes ▸ spellsRequest_requestTree (members_ne_nil spelled) folds, read⟩

end FlightComputer.Firmware
