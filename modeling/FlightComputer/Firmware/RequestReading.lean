import FlightComputer.Firmware.RequestMembers

/-!
# What the request parser accepts

The parser of `json_protocol.c` sees a list of tokens; this module says what that
means for the text. It accepts a text exactly when the lexemes of the text spell
the members of a request which `readMembers` accepts
(`jsonProtocolParseRequest_eq_ok_iff`). Colons and commas do not count, and of
the closing braces it only counts that they match and that the one of
`parameters` stands behind its last key.
-/

set_option autoImplicit false

namespace FlightComputer.Firmware

open Library

/-- Check and store all members. -/
def readMembers (members : List RequestMember) : Option JsonProtocolRequest :=
  (members.foldlM readMember initialRequestState).bind fun state =>
    if requestComplete (1 + (members.flatMap memberTokens).length) state then
      some state.request
    else none

/-- The number of tokens before the next closing brace. -/
def enclosedTokens (lexemes : List Lexeme) : Nat :=
  ((lexemes.takeWhile fun lexeme => lexeme != .punctuation rightBrace).filter makesToken).length

/-- That lexemes spell the members of a request, as far as the parser looks. -/
structure SpellsRequest (lexemes : List Lexeme) (members : List RequestMember) : Prop where
  tokens : lexemes.filter makesToken =
    .punctuation leftBrace :: members.flatMap memberTokens
  brackets : bracketsMatch [] lexemes = true
  encloses : ∀ before rest, lexemes = before ++ .punctuation leftBrace :: rest →
    before.filter makesToken ≠ [] → enclosedTokens rest = 5 ∨ enclosedTokens rest = 6

/-! ## How many members there are -/

/-- A member whose value is one token. -/
def Plain (member : RequestMember) : Prop :=
  ∀ channels, member ≠ .parameters channels

/-- How many channels were seen. -/
def RgbState.seen (state : RgbState) : Nat :=
  state.redSeen.toNat + state.greenSeen.toNat + state.blueSeen.toNat

theorem seen_readChannel {state after : RgbState} {channel : ChannelMember}
    (read : readChannel state channel = some after) : after.seen = state.seen + 1 := by
  obtain ⟨red | green | blue, literal⟩ := channel
  all_goals
    rw [readChannel] at read
    split_ifs at read with seen
    obtain ⟨value, _, rfl⟩ := Option.map_eq_some_iff.mp read
    simp only [Bool.not_eq_true] at seen
    simp [RgbState.seen, seen, Nat.add_assoc, Nat.add_comm, Nat.add_left_comm]

theorem seen_readChannels {state after : RgbState} {channels : List ChannelMember}
    (folds : channels.foldlM readChannel state = some after) :
    after.seen = state.seen + channels.length := by
  induction channels generalizing state with
  | nil =>
      obtain rfl := Option.some.inj folds
      rfl
  | cons channel channels ih =>
      rw [List.foldlM_cons] at folds
      obtain ⟨between, read, later⟩ := Option.bind_eq_some_iff.mp folds
      rw [ih later, seen_readChannel read, List.length_cons]
      omega

/-- There are three channels. -/
theorem length_of_readChannels {request after : JsonProtocolRequest}
    {channels : List ChannelMember} (read : readChannels request channels = some after) :
    channels.length = 3 := by
  obtain ⟨state, folds, rest⟩ := Option.bind_eq_some_iff.mp read
  split_ifs at rest with seen
  simp only [Bool.and_eq_true] at seen
  have count := seen_readChannels folds
  simp only [RgbState.seen, initialRgbState, seen, Bool.toNat_true, Bool.toNat_false] at count
  omega

theorem parametersSeen_readMember {state after : RequestState} {member : RequestMember}
    (read : readMember state member = some after) :
    after.parametersSeen = true ↔ state.parametersSeen = true ∨ ¬Plain member := by
  have plain : ∀ {other : RequestMember}, (∀ channels, other ≠ .parameters channels) →
      after.parametersSeen = state.parametersSeen →
        (after.parametersSeen = true ↔ state.parametersSeen = true ∨ ¬Plain other) := by
    intro other isPlain same
    rw [same]
    exact ⟨.inl, fun either => either.elim id fun bad => absurd isPlain bad⟩
  cases member with
  | parameters channels =>
      rw [readMember] at read
      split_ifs at read with seen
      obtain ⟨request, _, rfl⟩ := Option.map_eq_some_iff.mp read
      exact ⟨fun _ => .inr fun isPlain => isPlain channels rfl, fun _ => rfl⟩
  | protocolVersion literal =>
      rw [readMember] at read
      split_ifs at read
      obtain rfl := Option.some.inj read
      exact plain (fun _ => RequestMember.noConfusion) rfl
  | type content =>
      rw [readMember] at read
      split_ifs at read
      obtain rfl := Option.some.inj read
      exact plain (fun _ => RequestMember.noConfusion) rfl
  | commandId literal =>
      rw [readMember] at read
      split_ifs at read
      obtain ⟨_, _, rfl⟩ := Option.map_eq_some_iff.mp read
      exact plain (fun _ => RequestMember.noConfusion) rfl
  | testUuid content =>
      rw [readMember] at read
      split_ifs at read
      obtain rfl := Option.some.inj read
      exact plain (fun _ => RequestMember.noConfusion) rfl
  | testType content =>
      rw [readMember] at read
      split_ifs at read
      obtain rfl := Option.some.inj read
      exact plain (fun _ => RequestMember.noConfusion) rfl

/-- **There is at most one `parameters` member**, with three channels. -/
theorem plain_or_parameters {members : List RequestMember} {state after : RequestState}
    (folds : members.foldlM readMember state = some after) :
    (∀ member ∈ members, Plain member) ∨
      state.parametersSeen = false ∧ ∃ first channels others,
        members = first ++ .parameters channels :: others ∧ channels.length = 3 ∧
          (∀ member ∈ first, Plain member) ∧ ∀ member ∈ others, Plain member := by
  induction members generalizing state with
  | nil => exact .inl (by simp)
  | cons member members ih =>
      rw [List.foldlM_cons] at folds
      obtain ⟨between, read, later⟩ := Option.bind_eq_some_iff.mp folds
      have seen := parametersSeen_readMember read
      by_cases plain : Plain member
      · rcases ih later with all | ⟨unseen, first, channels, others, rfl, three, before, behind⟩
        · exact .inl (List.forall_mem_cons.mpr ⟨plain, all⟩)
        · refine .inr ⟨?_, member :: first, channels, others, rfl, three,
            List.forall_mem_cons.mpr ⟨plain, before⟩, behind⟩
          by_contra seenBefore
          exact absurd (seen.mpr (.inl (Bool.not_eq_false _ ▸ seenBefore))) (by simp [unseen])
      · obtain ⟨channels, rfl⟩ : ∃ channels, member = .parameters channels := by
          by_contra none
          exact plain fun channels same => none ⟨channels, same⟩
        rw [readMember] at read
        split_ifs at read with seenBefore
        obtain ⟨request, stored, _⟩ := Option.map_eq_some_iff.mp read
        refine .inr ⟨Bool.not_eq_true _ ▸ seenBefore, [], channels, members, rfl,
          length_of_readChannels stored, by simp, ?_⟩
        rcases ih later with all | ⟨unseen, _⟩
        · exact all
        · exact absurd (seen.mpr (.inr plain)) (by simp [unseen])

/-! ## Tokens that spell lexemes -/

theorem isBracket_channelTokens (channels : List ChannelMember) :
    ∀ lexeme ∈ channels.flatMap channelTokens, isBracket lexeme = false := by
  intro lexeme listed
  obtain ⟨channel, _, inside⟩ := List.mem_flatMap.mp listed
  simp only [channelTokens, List.mem_cons, List.not_mem_nil, or_false] at inside
  rcases inside with rfl | rfl <;> rfl

theorem isBracket_plainTokens {members : List RequestMember}
    (plain : ∀ member ∈ members, Plain member) :
    ∀ lexeme ∈ members.flatMap memberTokens, isBracket lexeme = false := by
  intro lexeme listed
  obtain ⟨member, given, inside⟩ := List.mem_flatMap.mp listed
  cases member with
  | parameters channels => exact absurd rfl (plain _ given channels)
  | protocolVersion literal | type content | commandId literal | testUuid content
  | testType content =>
      simp only [memberTokens, valueTokens, List.mem_cons, List.not_mem_nil,
        or_false] at inside
      rcases inside with rfl | rfl <;> rfl

theorem length_channelTokens (channels : List ChannelMember) :
    (channels.flatMap channelTokens).length = 2 * channels.length := by
  induction channels with
  | nil => rfl
  | cons channel channels ih =>
      rw [List.flatMap_cons, List.length_append, ih, List.length_cons]
      simp only [channelTokens, List.length_cons, List.length_nil]
      omega

theorem length_plainTokens {members : List RequestMember}
    (plain : ∀ member ∈ members, Plain member) :
    (members.flatMap memberTokens).length = 2 * members.length := by
  induction members with
  | nil => rfl
  | cons member members ih =>
      have two : (memberTokens member).length = 2 := by
        cases member with
        | parameters channels => exact absurd rfl (plain _ List.mem_cons_self channels)
        | protocolVersion literal | type content | commandId literal | testUuid content
        | testType content => rfl
      rw [List.flatMap_cons, List.length_append, two, ih fun other listed =>
        plain other (.tail _ listed), List.length_cons]
      omega

section Spelling

variable {line : Bytes} {tokens : List JsmnTok}

/-- The lexemes from an index on begin with a pair. -/
theorem pair_prefix_iff (first second : Lexeme) (index : Nat) (more : List Lexeme) :
    first :: second :: more <+: (tokens.map (tokenLexeme line)).drop index ↔
      (∃ key, tokens[index]? = some key ∧ tokenLexeme line key = first) ∧
        (∃ value, tokens[index + 1]? = some value ∧ tokenLexeme line value = second) ∧
          more <+: (tokens.map (tokenLexeme line)).drop (index + 2) := by
  have at' : ∀ (lexeme : Lexeme) (index : Nat) (more : List Lexeme),
      lexeme :: more <+: (tokens.map (tokenLexeme line)).drop index ↔
        (∃ token, tokens[index]? = some token ∧ tokenLexeme line token = lexeme) ∧
          more <+: (tokens.map (tokenLexeme line)).drop (index + 1) := by
    intro lexeme index more
    rw [← Option.map_eq_some_iff, ← List.getElem?_map, ← List.drop_drop, ← List.head?_drop]
    cases (tokens.map (tokenLexeme line)).drop index with
    | nil => simp
    | cons head tail => simp [List.cons_prefix_cons, eq_comm]
  rw [at', at']

/-- The tokens of members whose values are one token. -/
theorem spellsMembers_append_iff {first members : List RequestMember} {index : Nat}
    (plain : ∀ member ∈ first, Plain member) :
    SpellsMembers line tokens index (first ++ members) ↔
      first.flatMap memberTokens <+: (tokens.map (tokenLexeme line)).drop index ∧
        SpellsMembers line tokens (index + 2 * first.length) members := by
  induction first generalizing index with
  | nil => simp
  | cons member first ih =>
      have rest := fun index => @ih index fun other listed => plain other (.tail _ listed)
      -- the value of a plain member is one token
      obtain ⟨lexeme, value⟩ : ∃ lexeme, valueTokens member = [lexeme] ∧
          ∀ token next, SpellsValue line tokens token (index + 2) member next ↔
            tokenLexeme line token = lexeme ∧ next = index + 2 := by
        cases member with
        | parameters channels => exact absurd rfl (plain _ List.mem_cons_self channels)
        | protocolVersion literal => exact ⟨.literal literal, rfl, fun _ _ => Iff.rfl⟩
        | type content => exact ⟨.string content, rfl, fun _ _ => Iff.rfl⟩
        | commandId literal => exact ⟨.literal literal, rfl, fun _ _ => Iff.rfl⟩
        | testUuid content => exact ⟨.string content, rfl, fun _ _ => Iff.rfl⟩
        | testType content => exact ⟨.string content, rfl, fun _ _ => Iff.rfl⟩
      have shift : index + 2 + 2 * first.length = index + 2 * (member :: first).length := by
        rw [List.length_cons]
        omega
      simp only [List.flatMap_cons, memberTokens, value.1, List.cons_append,
        List.nil_append, pair_prefix_iff, ← shift]
      constructor
      · intro spells
        cases spells with
        | pair keyAt valueAt names spells later =>
            obtain ⟨same, rfl⟩ := (value.2 _ _).mp spells
            obtain ⟨here, there⟩ := (rest _).mp later
            exact ⟨⟨⟨_, keyAt, names⟩, ⟨_, valueAt, same⟩, here⟩, there⟩
      · rintro ⟨⟨⟨key, keyAt, names⟩, ⟨token, valueAt, same⟩, here⟩, there⟩
        exact .pair keyAt valueAt names ((value.2 _ _).mpr ⟨same, rfl⟩) ((rest _).mpr ⟨here, there⟩)

/-- The tokens of the channels of an object, given how many tokens lie in it. -/
theorem spellsChannels_iff {object : JsmnTok} {count index next : Nat}
    {channels : List ChannelMember}
    (inside : ∀ offset token, tokens[index + offset]? = some token →
      (token.start < object.end_ ↔ offset < count)) :
    SpellsChannels line tokens object index channels next ↔
      channels.flatMap channelTokens <+: (tokens.map (tokenLexeme line)).drop index ∧
        next = index + 2 * channels.length ∧ 2 * channels.length ≤ count + 1 ∧
          (next + 1 < tokens.length → count ≤ 2 * channels.length) := by
  induction channels generalizing index count with
  | nil =>
      constructor
      · intro spells
        cases spells with
        | finish ended =>
            refine ⟨by simp, rfl, Nat.zero_le _, fun longer => ?_⟩
            obtain ⟨key, keyAt⟩ : ∃ key, tokens[next]? = some key :=
              ⟨_, List.getElem?_eq_getElem (by omega)⟩
            have begins := ended key keyAt longer
            have none := (inside 0 key keyAt).not.mp (Int.not_lt.mpr begins)
            exact Nat.not_lt.mp none
      · rintro ⟨_, rfl, _, few⟩
        refine .finish fun key keyAt longer => Int.not_lt.mp fun begins => ?_
        have positive := (inside 0 key keyAt).mp begins
        have none := few longer
        simp only [List.length_nil, Nat.mul_zero] at none
        omega
  | cons channel channels ih =>
      have later := @ih (count - 2) (index + 2) fun offset token there => by
        rw [Nat.add_assoc] at there
        rw [inside _ token there]
        omega
      rw [List.flatMap_cons, channelTokens, List.cons_append, List.cons_append, List.nil_append,
        pair_prefix_iff, List.length_cons]
      constructor
      · intro spells
        cases spells with
        | pair keyAt valueAt begins names spells rest =>
            have positive := (inside 0 _ keyAt).mp begins
            obtain ⟨here, rfl, enough, few⟩ := later.mp rest
            refine ⟨⟨⟨_, keyAt, names⟩, ⟨_, valueAt, spells⟩, here⟩, by omega, by omega, ?_⟩
            intro longer
            have := few longer
            omega
      · rintro ⟨⟨⟨key, keyAt, names⟩, ⟨value, valueAt, spells⟩, here⟩, rfl, enough, few⟩
        refine .pair keyAt valueAt ((inside 0 key keyAt).mpr (by omega)) names spells
          (later.mpr ⟨here, by omega, by omega, ?_⟩)
        intro longer
        have := few longer
        omega

theorem prefix_of_spellsChannels {object : JsmnTok} {index next : Nat}
    {channels : List ChannelMember}
    (spells : SpellsChannels line tokens object index channels next) :
    channels.flatMap channelTokens <+: (tokens.map (tokenLexeme line)).drop index := by
  induction spells with
  | finish ended => simp
  | pair keyAt valueAt inside names value later ih =>
      rw [List.flatMap_cons, channelTokens, List.cons_append, List.cons_append, List.nil_append,
        pair_prefix_iff]
      exact ⟨⟨_, keyAt, names⟩, ⟨_, valueAt, value⟩, ih⟩

/-- Tokens that spell members are the tokens of these members. -/
theorem drop_of_spellsMembers {index : Nat} {members : List RequestMember}
    (spells : SpellsMembers line tokens index members) :
    (tokens.map (tokenLexeme line)).drop index = members.flatMap memberTokens := by
  have extend : ∀ {lexemes : List Lexeme} {index : Nat},
      lexemes <+: (tokens.map (tokenLexeme line)).drop index →
        (tokens.map (tokenLexeme line)).drop index =
          lexemes ++ (tokens.map (tokenLexeme line)).drop (index + lexemes.length) := by
    intro lexemes index starts
    obtain ⟨more, same⟩ := starts
    rw [← List.drop_drop, ← same, List.drop_left]
  induction spells with
  | finish ended => exact List.drop_eq_nil_of_le (by simpa using ended)
  | @pair index next key value member members keyAt valueAt names spells later ih =>
      have plain : ∀ {lexeme : Lexeme}, valueTokens member = [lexeme] →
          tokenLexeme line value = lexeme ∧ next = index + 2 →
            (tokens.map (tokenLexeme line)).drop index =
              (member :: members).flatMap memberTokens := by
        rintro lexeme one ⟨same, rfl⟩
        rw [extend ((pair_prefix_iff _ _ index []).mpr
          ⟨⟨key, keyAt, names⟩, ⟨value, valueAt, same⟩, by simp⟩), List.flatMap_cons,
          memberTokens, one, ← ih]
        rfl
      cases member with
      | parameters channels =>
          obtain ⟨object, spells, _⟩ := spells
          have starts := prefix_of_spellsChannels spells
          rw [extend ((pair_prefix_iff _ _ index _).mpr
            ⟨⟨key, keyAt, names⟩, ⟨value, valueAt, object⟩, starts⟩), List.flatMap_cons, ← ih,
            next_of_spellsChannels spells, List.length_cons, List.length_cons,
            length_channelTokens]
          have shift : index + (2 * channels.length + 1 + 1) = index + 2 + 2 * channels.length := by
            omega
          rw [shift]
          rfl
      | protocolVersion literal => exact plain rfl spells
      | type content => exact plain rfl spells
      | commandId literal => exact plain rfl spells
      | testUuid content => exact plain rfl spells
      | testType content => exact plain rfl spells

/-- Members whose values are one token need no more than their tokens. -/
theorem spellsMembers_of_plain {index : Nat} {members : List RequestMember}
    (plain : ∀ member ∈ members, Plain member)
    (same : (tokens.map (tokenLexeme line)).drop index = members.flatMap memberTokens) :
    SpellsMembers line tokens index members := by
  have length := congrArg List.length same
  rw [List.length_drop, List.length_map, length_plainTokens plain] at length
  have spells := (spellsMembers_append_iff plain).mpr
    ⟨⟨[], by rw [List.append_nil, same]⟩,
      .finish (show tokens.length ≤ index + 2 * members.length by omega)⟩
  rwa [List.append_nil] at spells

end Spelling

/-! ## Brackets -/

theorem leftBrace_notMem {lexemes : List Lexeme}
    (plain : ∀ lexeme ∈ lexemes, isBracket lexeme = false) :
    Lexeme.punctuation leftBrace ∉ lexemes :=
  fun listed => absurd (plain _ listed) (by decide)

/-- The tokens of members with one `parameters` member contain one bracket. -/
theorem tokens_of_parameters {first others : List RequestMember} (channels : List ChannelMember)
    (plainFirst : ∀ member ∈ first, Plain member)
    (plainOthers : ∀ member ∈ others, Plain member) :
    (first ++ .parameters channels :: others).flatMap memberTokens =
        (first.flatMap memberTokens ++ [.string (ascii "parameters")]) ++
          .punctuation leftBrace ::
            (channels.flatMap channelTokens ++ others.flatMap memberTokens) ∧
      (∀ lexeme ∈ first.flatMap memberTokens ++ [.string (ascii "parameters")],
        isBracket lexeme = false) ∧
      ∀ lexeme ∈ channels.flatMap channelTokens ++ others.flatMap memberTokens,
        isBracket lexeme = false := by
  refine ⟨?_, fun lexeme listed => ?_, fun lexeme listed => ?_⟩
  · rw [List.flatMap_append, List.flatMap_cons, List.append_assoc]
    rfl
  · rcases List.mem_append.mp listed with early | last
    · exact isBracket_plainTokens plainFirst lexeme early
    · obtain rfl := List.mem_singleton.mp last
      rfl
  · rcases List.mem_append.mp listed with inner | outer
    · exact isBracket_channelTokens channels lexeme inner
    · exact isBracket_plainTokens plainOthers lexeme outer

theorem bracketsMatch_append {opened : List JsmnType} {before rest : List Lexeme}
    (matched : bracketsMatch opened (before ++ rest) = true) :
    ∃ opened, bracketsMatch opened rest = true := by
  induction before generalizing opened with
  | nil => exact ⟨opened, matched⟩
  | cons lexeme before ih =>
      obtain byte | content | text := lexeme
      · rw [List.cons_append, bracketsMatch] at matched
        split_ifs at matched
        · exact ih matched
        · exact ih matched
        · exact ih (Bool.and_eq_true_iff.mp matched).2
        · exact ih (Bool.and_eq_true_iff.mp matched).2
        · exact ih matched
      · exact ih matched
      · exact ih matched

/-- An object that contains no bracket is closed by a brace. -/
theorem exists_enclosed {opened : List JsmnType} {rest : List Lexeme}
    (matched : bracketsMatch (.object :: opened) rest = true)
    (plain : ∀ lexeme ∈ rest.filter makesToken, isBracket lexeme = false) :
    ∃ inside after, rest = inside ++ .punctuation rightBrace :: after ∧
      ∀ lexeme ∈ inside, isBracket lexeme = false := by
  induction rest with
  | nil => cases matched
  | cons lexeme rest ih =>
      have onward : isBracket lexeme = false → bracketsMatch (.object :: opened) rest = true →
          ∃ inside after, lexeme :: rest = inside ++ .punctuation rightBrace :: after ∧
            ∀ lexeme ∈ inside, isBracket lexeme = false := by
        intro here later
        obtain ⟨inside, after, rfl, unbracketed⟩ := ih later fun other listed =>
          plain other (by rw [List.filter_cons]; split_ifs <;> simp [listed])
        exact ⟨lexeme :: inside, after, rfl, List.forall_mem_cons.mpr ⟨here, unbracketed⟩⟩
      obtain byte | content | text := lexeme
      · rw [bracketsMatch] at matched
        split_ifs at matched with brace bracket endBrace endBracket
        · exact absurd (plain (.punctuation byte) (by simp [brace, makesToken]))
            (by simp [isBracket, brace])
        · exact absurd (plain (.punctuation byte) (by simp [bracket, makesToken]))
            (by simp [isBracket, bracket])
        · subst endBrace
          exact ⟨[], rest, rfl, by simp⟩
        · cases (Bool.and_eq_true_iff.mp matched).1
        · exact onward (by simp [isBracket, brace, bracket, endBrace, endBracket]) matched
      · exact onward rfl matched
      · exact onward rfl matched

theorem enclosedTokens_append {inside : List Lexeme}
    (plain : ∀ lexeme ∈ inside, isBracket lexeme = false) (after : List Lexeme) :
    enclosedTokens (inside ++ .punctuation rightBrace :: after) =
      (inside.filter makesToken).length := by
  have stays : ∀ lexeme ∈ inside, (lexeme != .punctuation rightBrace) = true := by
    intro lexeme listed
    rw [bne_iff_ne]
    rintro rfl
    exact absurd (plain _ listed) (by decide)
  rw [enclosedTokens, List.takeWhile_append_of_pos stays, List.takeWhile_cons_of_neg (by simp),
    List.append_nil]

/-! ## From the tokens to the text -/

section Text

variable {line : Bytes} {tokenCapacity : Nat} {tokens : List JsmnTok}
  {located : List (Nat × Lexeme)}

theorem map_tokenLexemes (located : List (Nat × Lexeme)) :
    (tokenLexemes located).map Prod.snd = (located.map Prod.snd).filter makesToken := by
  rw [List.filter_map]
  rfl

theorem exists_located {before rest : List Lexeme} {lexeme : Lexeme}
    (same : located.map Prod.snd = before ++ lexeme :: rest) :
    ∃ before' pos rest', located = before' ++ (pos, lexeme) :: rest' ∧
      before'.map Prod.snd = before ∧ rest'.map Prod.snd = rest := by
  obtain ⟨before', more, rfl, first, second⟩ := List.map_eq_append_iff.mp same
  obtain ⟨⟨pos, _⟩, rest', rfl, rfl, last⟩ := List.map_eq_cons_iff.mp second
  exact ⟨before', pos, rest', rfl, first, last⟩

variable (reads : JsmnReads 0 line located) (parsed : jsmnParse line tokenCapacity = .ok tokens)
include reads parsed

theorem spelled_of_jsmnParse : ∀ token ∈ tokens, Spelled token := by
  intro token listed primitive
  have refer := refers_of_foldlM .nil (spans_of_jsmnParse reads parsed).1
  rw [List.nil_append, List.forall₂_map_right_iff] at refer
  obtain ⟨index, there⟩ := List.getElem?_of_mem listed
  obtain ⟨entry, entryAt, refers⟩ := exists_of_getElem? refer there
  have nonempty := reads.nonempty entry (List.mem_of_mem_filter (List.mem_of_getElem? entryAt))
  generalize same : token.span = span at refers
  have fields : token.type = span.1 ∧ token.start = span.2.1 ∧ token.end_ = span.2.2 := by
    rw [← same]
    exact ⟨rfl, rfl, rfl⟩
  obtain ⟨type, begins, ends⟩ := fields
  cases refers with
  | literal pos text =>
      have length : 0 < text.length := List.length_pos_iff.mpr nonempty
      rw [begins, ends]
      simp only [ne_eq]
      omega
  | string pos content => cases type.symm.trans primitive
  | object pos finish => cases type.symm.trans primitive
  | array pos finish => cases type.symm.trans primitive

theorem lexemes_of_jsmnParse :
    tokens.map (tokenLexeme line) = (located.map Prod.snd).filter makesToken := by
  rw [tokenLexemes_of_jsmnParse reads parsed, map_tokenLexemes]

/-- **The object that an opening brace starts**, when no bracket opens in it. -/
theorem exists_object {before rest : List Lexeme}
    (split : located.map Prod.snd = before ++ .punctuation leftBrace :: rest)
    (plain : ∀ lexeme ∈ rest.filter makesToken, isBracket lexeme = false) :
    ∃ object, tokens[(before.filter makesToken).length]? = some object ∧
      enclosedTokens rest ≤ (rest.filter makesToken).length ∧
        ∀ offset token, tokens[(before.filter makesToken).length + 1 + offset]? = some token →
          (token.start < object.end_ ↔ offset < enclosedTokens rest) := by
  have matched := (spans_of_jsmnParse reads parsed).2
  rw [split] at matched
  obtain ⟨opened, matched⟩ := bracketsMatch_append matched
  replace matched : bracketsMatch (.object :: opened) rest = true := matched
  obtain ⟨inside, after, rfl, unbracketed⟩ := exists_enclosed matched plain
  obtain ⟨before', pos, more, rfl, rfl, restIs⟩ := exists_located split
  obtain ⟨inside', finish, after', rfl, rfl, rfl⟩ := exists_located restIs
  obtain ⟨object, there, _, inObject⟩ := object_of_jsmnParse reads
    (fun entry listed => unbracketed entry.2 (List.mem_map_of_mem listed)) parsed
  have count : ∀ located : List (Nat × Lexeme),
      ((located.map Prod.snd).filter makesToken).length = (tokenLexemes located).length := by
    intro located
    rw [← map_tokenLexemes, List.length_map]
  rw [enclosedTokens_append unbracketed, count, count, List.filter_append, List.length_append,
    count]
  exact ⟨object, there, Nat.le_add_right _ _, inObject⟩

/-- **Tokens that spell members** have lexemes that do. -/
theorem spellsRequest_of_spellsMembers {members : List RequestMember} {state after : RequestState}
    (folds : members.foldlM readMember state = some after)
    (root : ∃ root, tokens[0]? = some root ∧ root.type = .object)
    (spells : SpellsMembers line tokens 1 members) :
    SpellsRequest (located.map Prod.snd) members := by
  have lexemes := lexemes_of_jsmnParse reads parsed
  have whole : (located.map Prod.snd).filter makesToken =
      .punctuation leftBrace :: members.flatMap memberTokens := by
    rw [← lexemes, ← drop_of_spellsMembers spells]
    obtain ⟨root, rootAt, object⟩ := root
    cases tokens with
    | nil => cases rootAt
    | cons first tokens =>
        obtain rfl := Option.some.inj rootAt
        rw [List.map_cons, (type_eq_object_iff first).mp object]
        rfl
  refine ⟨whole, (spans_of_jsmnParse reads parsed).2, fun before rest split nonempty => ?_⟩
  rw [split, List.filter_append, List.filter_cons_of_pos (by decide)] at whole
  -- the brace is not the first token, so it belongs to a member
  obtain ⟨first, beforeTokens, firstIs⟩ := List.exists_cons_of_ne_nil nonempty
  rw [firstIs, List.cons_append, List.cons.injEq] at whole
  obtain ⟨rfl, whole⟩ := whole
  rcases plain_or_parameters folds with
    plain | ⟨_, first, channels, others, rfl, three, plainFirst, plainOthers⟩
  · refine absurd ?_ (leftBrace_notMem (isBracket_plainTokens plain))
    rw [← whole]
    simp
  obtain ⟨tokensIs, plainBefore, plainRest⟩ :=
    tokens_of_parameters channels plainFirst plainOthers
  rw [tokensIs, eq_comm, List.append_cons_inj_of_notMem (leftBrace_notMem plainBefore)
    (leftBrace_notMem plainRest)] at whole
  obtain ⟨rfl, _, restIs⟩ := whole
  obtain ⟨object, objectAt, few, inObject⟩ := exists_object reads parsed split (restIs ▸ plainRest)
  have count : (before.filter makesToken).length = 1 + 2 * first.length + 1 := by
    rw [firstIs, List.length_cons, List.length_append, length_plainTokens plainFirst]
    simp only [List.length_cons, List.length_nil]
    omega
  rw [← restIs, List.length_append, length_channelTokens, length_plainTokens plainOthers] at few
  rw [count] at objectAt inObject
  obtain ⟨_, spells⟩ := (spellsMembers_append_iff plainFirst).mp spells
  cases spells with
  | @pair _ next _ value _ _ keyAt valueAt names spells later =>
      obtain rfl := Option.some.inj (objectAt.symm.trans valueAt)
      obtain ⟨_, spells, _⟩ := spells
      obtain ⟨_, nextIs, enough, bound⟩ := (spellsChannels_iff inObject).mp spells
      have length := congrArg List.length (drop_of_spellsMembers later)
      rw [List.length_drop, List.length_map, length_plainTokens plainOthers] at length
      rw [three] at enough bound few nextIs
      rcases Nat.lt_or_ge (next + 1) tokens.length with longer | last
      · have := bound longer
        omega
      · omega

/-- **Lexemes that spell members** have tokens that do. -/
theorem spellsMembers_of_spellsRequest {members : List RequestMember}
    {state after : RequestState} (folds : members.foldlM readMember state = some after)
    (request : SpellsRequest (located.map Prod.snd) members) :
    SpellsMembers line tokens 1 members := by
  have whole := request.tokens
  rw [← lexemes_of_jsmnParse reads parsed] at whole
  have dropped : (tokens.map (tokenLexeme line)).drop 1 =
      members.flatMap memberTokens := by
    rw [whole]
    rfl
  rcases plain_or_parameters folds with
    plain | ⟨_, first, channels, others, rfl, three, plainFirst, plainOthers⟩
  · exact spellsMembers_of_plain plain dropped
  obtain ⟨tokensIs, _, plainRest⟩ := tokens_of_parameters channels plainFirst plainOthers
  -- the brace that starts the `parameters` object
  have filtered := request.tokens
  rw [tokensIs, ← List.cons_append] at filtered
  obtain ⟨before, more, split, beforeIs, moreIs⟩ := List.filter_eq_append_iff.mp filtered
  obtain ⟨gap, rest, rfl, skipped, _, restIs⟩ := List.filter_eq_cons_iff.mp moreIs
  rw [← List.append_assoc] at split
  have gapIs : gap.filter makesToken = [] := List.filter_eq_nil_iff.mpr skipped
  have beforeGap : (before ++ gap).filter makesToken =
      .punctuation leftBrace ::
        (first.flatMap memberTokens ++ [.string (ascii "parameters")]) := by
    rw [List.filter_append, gapIs, List.append_nil, beforeIs]
  have encloses := request.encloses _ _ split (by rw [beforeGap]; exact List.cons_ne_nil _ _)
  obtain ⟨object, objectAt, few, inObject⟩ := exists_object reads parsed split (restIs ▸ plainRest)
  have count : ((before ++ gap).filter makesToken).length = 1 + 2 * first.length + 1 := by
    rw [beforeGap, List.length_cons, List.length_append, length_plainTokens plainFirst]
    simp only [List.length_cons, List.length_nil]
    omega
  rw [count] at objectAt inObject
  -- the tokens from the `parameters` member on
  have onward : (tokens.map (tokenLexeme line)).drop (1 + 2 * first.length) =
      .string (ascii "parameters") :: .punctuation leftBrace ::
        (channels.flatMap channelTokens ++ others.flatMap memberTokens) := by
    rw [← List.drop_drop, dropped, List.flatMap_append, ← length_plainTokens plainFirst,
      List.drop_left]
    rfl
  obtain ⟨⟨key, keyAt, names⟩, ⟨value, valueAt, spells⟩, inner⟩ :=
    (pair_prefix_iff _ _ _ _).mp ⟨[], by rw [List.append_nil, onward]⟩
  obtain rfl := Option.some.inj (objectAt.symm.trans valueAt)
  have behind : (tokens.map (tokenLexeme line)).drop
      (1 + 2 * first.length + 2 + 2 * channels.length) =
        others.flatMap memberTokens := by
    rw [← List.drop_drop, ← List.drop_drop, onward, ← length_channelTokens]
    exact List.drop_left
  have length := congrArg List.length behind
  rw [List.length_drop, List.length_map, length_plainTokens plainOthers] at length
  have total := congrArg List.length onward
  rw [List.length_drop, List.length_map] at total
  simp only [List.length_cons, List.length_append, length_channelTokens] at total
  have channelsSpell : SpellsChannels line tokens object (1 + 2 * first.length + 2) channels
      (1 + 2 * first.length + 2 + 2 * channels.length) :=
    (spellsChannels_iff inObject).mpr ⟨(List.prefix_append _ _).trans inner, rfl,
      by omega, by omega⟩
  have plainSpell := spellsMembers_of_plain plainOthers behind
  refine (spellsMembers_append_iff plainFirst).mpr ⟨?_, .pair keyAt valueAt names
    ⟨spells, channelsSpell, by omega⟩ plainSpell⟩
  rw [dropped, List.flatMap_append]
  exact List.prefix_append _ _

end Text

theorem count_of_requestComplete {count : Nat} {state : RequestState}
    (complete : requestComplete count state = true) : count = 7 ∨ count = 9 ∨ count = 17 := by
  rw [requestComplete, Bool.and_eq_true] at complete
  obtain ⟨_, complete⟩ := complete
  cases named : state.request.type with
  | startTest => simp only [named, Bool.and_eq_true, beq_iff_eq] at complete; omega
  | stopComponentTest => simp only [named, Bool.and_eq_true, beq_iff_eq] at complete; omega
  | runComponentTest =>
      simp only [named, Bool.and_eq_true, Bool.or_eq_true, beq_iff_eq] at complete
      omega
  | invalid => simp [named] at complete
  | unsupported => simp [named] at complete

/-- **What the parser accepts.** The request parser returns true exactly on the
texts whose lexemes spell members that pass its checks. -/
theorem jsonProtocolParseRequest_eq_ok_iff (line : Bytes) (request : JsonProtocolRequest) :
    jsonProtocolParseRequest line = .ok request ↔
      ∃ located members, JsmnReads 0 line located ∧
        SpellsRequest (located.map Prod.snd) members ∧ readMembers members = some request := by
  constructor
  · intro accepted
    rw [jsonProtocolParseRequest] at accepted
    cases parsed : jsmnParse line jsonProtocolTokenCapacity with
    | error error =>
        rw [parsed] at accepted
        cases accepted
    | ok tokens =>
        rw [parsed] at accepted
        replace accepted : parseRequestTokens line tokens = .ok request := accepted
        obtain ⟨located, reads⟩ := exists_reads_of_jsmnParse parsed
        rw [parseRequestTokens] at accepted
        split_ifs at accepted with wrongCount
        obtain ⟨root, rootAt, accepted⟩ := (except_bind_eq_ok_iff _ _ _).mp accepted
        split_ifs at accepted with noObject
        obtain ⟨state, looped, accepted⟩ := (except_bind_eq_ok_iff _ _ _).mp accepted
        split_ifs at accepted with complete
        obtain ⟨members, spells, folds⟩ :=
          (parseRequestLoop_eq_ok_iff (spelled_of_jsmnParse reads parsed) (by omega)).mp looped
        have requestSpelled := spellsRequest_of_spellsMembers reads parsed folds
          ⟨root, (tokenAt_eq_ok_iff 0 root).mp rootAt, not_not.mp noObject⟩ spells
        refine ⟨located, members, reads, requestSpelled, ?_⟩
        have count := congrArg List.length (lexemes_of_jsmnParse reads parsed)
        rw [List.length_map, requestSpelled.tokens, List.length_cons, Nat.add_comm] at count
        rw [count] at complete
        rw [readMembers, folds]
        change (if requestComplete _ _ = true then _ else _) = _
        rw [if_pos complete]
        exact congrArg some (Except.ok.inj accepted)
  · rintro ⟨located, members, reads, spells, read⟩
    obtain ⟨state, folds, rest⟩ := Option.bind_eq_some_iff.mp read
    split_ifs at rest with complete
    obtain rfl := Option.some.inj rest
    have few := count_of_requestComplete complete
    have count : (tokenLexemes located).length =
        1 + (members.flatMap memberTokens).length := by
      rw [← List.length_map (f := Prod.snd), map_tokenLexemes, spells.tokens, List.length_cons,
        Nat.add_comm]
    obtain ⟨tokens, parsed⟩ := jsmnParse_of_bracketsMatch reads spells.brackets
      (show (tokenLexemes located).length ≤ jsonProtocolTokenCapacity by
        rw [jsonProtocolTokenCapacity]
        omega)
    have lexemes := lexemes_of_jsmnParse reads parsed
    have length : tokens.length = 1 + (members.flatMap memberTokens).length := by
      rw [← count, ← List.length_map (f := tokenLexeme line), lexemes, ← map_tokenLexemes,
        List.length_map]
    obtain ⟨root, rootAt, object⟩ : ∃ root, tokens[0]? = some root ∧ root.type = .object := by
      rw [spells.tokens] at lexemes
      cases tokens with
      | nil => cases lexemes
      | cons root tokens =>
          exact ⟨root, rfl, (type_eq_object_iff root).mpr (List.cons.inj lexemes).1⟩
    have looped : parseRequestLoop line tokens tokens.length 1 initialRequestState = .ok state :=
      (parseRequestLoop_eq_ok_iff (spelled_of_jsmnParse reads parsed) (by omega)).mpr
        ⟨members, spellsMembers_of_spellsRequest reads parsed folds spells, folds⟩
    rw [jsonProtocolParseRequest, parsed]
    change parseRequestTokens line tokens = _
    rw [parseRequestTokens, if_neg (by omega), (tokenAt_eq_ok_iff 0 root).mpr rootAt]
    change (if root.type ≠ .object then _ else _) = _
    rw [if_neg (not_not.mpr object), looped]
    change (if requestComplete _ _ = true then _ else _) = _
    rw [length, if_pos complete]

end FlightComputer.Firmware
