import FlightComputer.Firmware.JsmnTokens
import FlightComputer.Library.Excepts
import FlightComputer.Requests

/-!
# The members of a request

What the request parser makes of a request, member by member: `readMember`
checks a member and stores it. The loops of the parser succeed exactly on tokens that spell members which
`readMember` accepts (`parseRequestLoop_eq_ok_iff`).
-/

set_option autoImplicit false

namespace FlightComputer.Firmware

open Library

/-! ## Tokens of members -/

/-- The lexemes of a channel that make tokens. -/
def channelTokens (channel : ChannelMember) : List Lexeme :=
  [.string channel.1.name, .literal channel.2]

/-- The lexemes of a value that make tokens. -/
def valueTokens : RequestMember → List Lexeme
  | .protocolVersion literal => [.literal literal]
  | .type content => [.string content]
  | .commandId literal => [.literal literal]
  | .testUuid content => [.string content]
  | .testType content => [.string content]
  | .parameters channels => .punctuation leftBrace :: channels.flatMap channelTokens

/-- The lexemes of a member that make tokens. -/
def memberTokens (member : RequestMember) : List Lexeme :=
  .string member.name :: valueTokens member

/-! ## Reading members -/

/-- The positive number below 2^32 that a literal spells. -/
def positiveUint32Of (text : Bytes) : Option UInt32 :=
  match accumulateDigits (2 ^ 32 - 1) 0 text with
  | none => none
  | some parsed => if parsed = 0 then none else some (UInt32.ofNat parsed)

/-- The number below 2^8 that a literal spells. -/
def uint8Of (text : Bytes) : Option UInt8 :=
  (accumulateDigits (2 ^ 8 - 1) 0 text).map UInt8.ofNat

/-- The request type with a given name. -/
def requestTypeNamed (content : Bytes) : JsonProtocolRequestType :=
  if content = ascii "START_TEST" then .startTest
  else if content = ascii "RUN_COMPONENT_TEST" then .runComponentTest
  else if content = ascii "STOP_COMPONENT_TEST" then .stopComponentTest
  else .unsupported

/-- Check and store one channel. -/
def readChannel (state : RgbState) : ChannelMember → Option RgbState
  | (.red, literal) =>
      if state.redSeen then none
      else (uint8Of literal).map fun red =>
        { state with request := { state.request with red := red }, redSeen := true }
  | (.green, literal) =>
      if state.greenSeen then none
      else (uint8Of literal).map fun green =>
        { state with request := { state.request with green := green }, greenSeen := true }
  | (.blue, literal) =>
      if state.blueSeen then none
      else (uint8Of literal).map fun blue =>
        { state with request := { state.request with blue := blue }, blueSeen := true }

/-- The state at the start of the `parameters` object. -/
def initialRgbState (request : JsonProtocolRequest) : RgbState := ⟨request, false, false, false⟩

/-- Check and store the `parameters` object. -/
def readChannels (request : JsonProtocolRequest) (channels : List ChannelMember) :
    Option JsonProtocolRequest :=
  (channels.foldlM readChannel (initialRgbState request)).bind fun state =>
    if state.redSeen && state.greenSeen && state.blueSeen then
      some { state.request with rgbColourPresent := true }
    else none

/-- Check and store one member. -/
def readMember (state : RequestState) : RequestMember → Option RequestState
  | .protocolVersion literal =>
      if state.versionSeen then none
      else if positiveUint32Of literal = some jsonProtocolVersion then
        some { state with versionSeen := true }
      else none
  | .type content =>
      if state.typeSeen then none
      else
        some
          { state with
            request := { state.request with type := requestTypeNamed content }
            typeSeen := true }
  | .commandId literal =>
      if state.commandIdSeen then none
      else (positiveUint32Of literal).map fun commandId =>
        { state with
          request := { state.request with commandId := commandId }
          commandIdSeen := true }
  | .testUuid content =>
      if state.testUuidSeen then none
      else if isTestUuid content then
        some
          { state with
            request := { state.request with testUuid := content }
            testUuidSeen := true }
      else none
  | .testType content =>
      if state.testTypeSeen then none
      else if isTestType content then
        some
          { state with
            request := { state.request with testType := content }
            testTypeSeen := true }
      else none
  | .parameters channels =>
      if state.parametersSeen then none
      else (readChannels state.request channels).map fun request =>
        { state with request := request, parametersSeen := true }

/-! ## Token functions on lexemes -/

section Tokens

variable {line : Bytes}

/-- A token that no text is missing from. -/
def Spelled (token : JsmnTok) : Prop := token.type = .primitive → token.start ≠ token.end_

theorem tokenEquals_iff (token : JsmnTok) (value : String) :
    tokenEquals line token value = true ↔ tokenLexeme line token = .string (ascii value) := by
  obtain ⟨type, start, end_, size, parent⟩ := token
  cases type <;> simp [tokenEquals, tokenLexeme]

theorem parsePositiveUint32_eq_some_iff {token : JsmnTok} (spelled : Spelled token)
    (value : UInt32) :
    parsePositiveUint32 line token = some value ↔
      ∃ text, tokenLexeme line token = .literal text ∧ positiveUint32Of text = some value := by
  obtain ⟨type, start, end_, size, parent⟩ := token
  cases type with
  | primitive =>
      have filled : start ≠ end_ := spelled rfl
      have read : parsePositiveUint32 line ⟨.primitive, start, end_, size, parent⟩ =
          positiveUint32Of (tokenText line ⟨.primitive, start, end_, size, parent⟩) :=
        if_neg fun reject => reject.elim (· rfl) filled
      rw [read]
      simp only [tokenLexeme, Lexeme.literal.injEq, exists_eq_left']
  | object => simp [parsePositiveUint32, tokenLexeme]
  | array => simp [parsePositiveUint32, tokenLexeme]
  | string => simp [parsePositiveUint32, tokenLexeme]

theorem parseUint8_eq_some_iff {token : JsmnTok} (spelled : Spelled token) (value : UInt8) :
    parseUint8 line token = some value ↔
      ∃ text, tokenLexeme line token = .literal text ∧ uint8Of text = some value := by
  obtain ⟨type, start, end_, size, parent⟩ := token
  cases type with
  | primitive =>
      have filled : start ≠ end_ := spelled rfl
      simp [parseUint8, tokenLexeme, uint8Of, filled]
  | object => simp [parseUint8, tokenLexeme]
  | array => simp [parseUint8, tokenLexeme]
  | string => simp [parseUint8, tokenLexeme]

theorem copyTestUuid_eq_some_iff {token : JsmnTok} (uuid : Bytes) :
    copyTestUuid line token = some uuid ↔
      tokenLexeme line token = .string uuid ∧ isTestUuid uuid = true := by
  obtain ⟨type, start, end_, size, parent⟩ := token
  cases type with
  | string =>
      simp only [copyTestUuid, tokenLexeme, decide_true, Bool.true_and, Option.ite_none_right_eq_some,
        Option.some.injEq, Lexeme.string.injEq]
      constructor
      · rintro ⟨legal, rfl⟩
        exact ⟨rfl, legal⟩
      · rintro ⟨rfl, legal⟩
        exact ⟨legal, rfl⟩
  | object => simp [copyTestUuid, tokenLexeme]
  | array => simp [copyTestUuid, tokenLexeme]
  | primitive => simp [copyTestUuid, tokenLexeme]

theorem copyTestType_eq_some_iff {token : JsmnTok} (name : Bytes) :
    copyTestType line token = some name ↔
      tokenLexeme line token = .string name ∧ isTestType name = true := by
  obtain ⟨type, start, end_, size, parent⟩ := token
  cases type with
  | string =>
      simp only [copyTestType, tokenLexeme, decide_true, Bool.true_and, Option.ite_none_right_eq_some,
        Option.some.injEq, Lexeme.string.injEq]
      constructor
      · rintro ⟨legal, rfl⟩
        exact ⟨rfl, legal⟩
      · rintro ⟨rfl, legal⟩
        exact ⟨legal, rfl⟩
  | object => simp [copyTestType, tokenLexeme]
  | array => simp [copyTestType, tokenLexeme]
  | primitive => simp [copyTestType, tokenLexeme]

theorem not_tokenEquals {token : JsmnTok} {content : Bytes}
    (spells : tokenLexeme line token = .string content) {value : String}
    (other : content ≠ ascii value) : ¬tokenEquals line token value = true := by
  rw [tokenEquals_iff, spells, Lexeme.string.injEq]
  exact other

theorem requestTypeOf_eq {token : JsmnTok} {content : Bytes}
    (spells : tokenLexeme line token = .string content) :
    requestTypeOf line token = requestTypeNamed content := by
  simp only [requestTypeOf, requestTypeNamed, tokenEquals_iff, spells, Lexeme.string.injEq]

theorem type_eq_string_iff (token : JsmnTok) :
    token.type = .string ↔ ∃ content, tokenLexeme line token = .string content := by
  obtain ⟨type, start, end_, size, parent⟩ := token
  cases type <;> simp [tokenLexeme]

theorem type_eq_object_iff (token : JsmnTok) :
    token.type = .object ↔ tokenLexeme line token = .punctuation leftBrace := by
  obtain ⟨type, start, end_, size, parent⟩ := token
  cases type with
  | array =>
      have other : leftBracket ≠ leftBrace := by decide
      simp [tokenLexeme, other]
  | object => simp [tokenLexeme]
  | string => simp [tokenLexeme]
  | primitive => simp [tokenLexeme]

theorem orReject_eq_ok_iff {α : Type} (option : Option α) (value : α) :
    orReject option = .ok value ↔ option = some value := by
  cases option <;> simp [orReject]

/-- **One pair of the `parameters` object.** -/
theorem parseRgbPair_eq_ok_iff {key value : JsmnTok} (spelled : Spelled value)
    (state after : RgbState) :
    parseRgbPair line key value state = .ok after ↔
      ∃ channel : ChannelMember, tokenLexeme line key = .string channel.1.name ∧
        tokenLexeme line value = .literal channel.2 ∧ readChannel state channel = some after := by
  have store : ∀ (seen : Bool) (set : UInt8 → RgbState),
      ((if seen = true then .error .rejected
        else (orReject (parseUint8 line value)).map set : Except ParseStop RgbState) = .ok after ↔
          ∃ literal, tokenLexeme line value = .literal literal ∧
            (if seen = true then none else (uint8Of literal).map set) = some after) := by
    intro seen set
    cases seen with
    | true => simp
    | false =>
        simp only [Bool.false_eq_true, if_false, except_map_eq_ok_iff, orReject_eq_ok_iff,
          parseUint8_eq_some_iff spelled, Option.map_eq_some_iff]
        exact ⟨fun ⟨parsed, ⟨text, spells, reads⟩, same⟩ => ⟨text, spells, parsed, reads, same⟩,
          fun ⟨text, spells, parsed, reads, same⟩ => ⟨parsed, ⟨text, spells, reads⟩, same⟩⟩
  constructor
  · intro parsed
    rw [parseRgbPair] at parsed
    by_cases isRed : tokenEquals line key "red" = true
    · rw [if_pos isRed, store] at parsed
      obtain ⟨literal, spells, reads⟩ := parsed
      exact ⟨(.red, literal), (tokenEquals_iff _ _).mp isRed, spells, reads⟩
    by_cases isGreen : tokenEquals line key "green" = true
    · rw [if_neg isRed, if_pos isGreen, store] at parsed
      obtain ⟨literal, spells, reads⟩ := parsed
      exact ⟨(.green, literal), (tokenEquals_iff _ _).mp isGreen, spells, reads⟩
    by_cases isBlue : tokenEquals line key "blue" = true
    · rw [if_neg isRed, if_neg isGreen, if_pos isBlue, store] at parsed
      obtain ⟨literal, spells, reads⟩ := parsed
      exact ⟨(.blue, literal), (tokenEquals_iff _ _).mp isBlue, spells, reads⟩
    rw [if_neg isRed, if_neg isGreen, if_neg isBlue] at parsed
    cases parsed
  · rintro ⟨⟨red | green | blue, literal⟩, names, spells, reads⟩
    · rw [parseRgbPair, if_pos ((tokenEquals_iff _ _).mpr names), store]
      exact ⟨literal, spells, reads⟩
    · replace names : tokenLexeme line key = .string (ascii "green") := names
      rw [parseRgbPair, if_neg (not_tokenEquals names (by decide)),
        if_pos ((tokenEquals_iff _ _).mpr names), store]
      exact ⟨literal, spells, reads⟩
    · replace names : tokenLexeme line key = .string (ascii "blue") := names
      rw [parseRgbPair, if_neg (not_tokenEquals names (by decide)),
        if_neg (not_tokenEquals names (by decide)), if_pos ((tokenEquals_iff _ _).mpr names), store]
      exact ⟨literal, spells, reads⟩

end Tokens

/-! ## The loops of the parser -/

section Loops

variable {line : Bytes} {tokens : List JsmnTok}

/-- The tokens from an index on, up to another, that spell the channels of an
object. -/
inductive SpellsChannels (line : Bytes) (tokens : List JsmnTok) (object : JsmnTok) :
    Nat → List ChannelMember → Nat → Prop where
  | finish {index : Nat}
      (ended : ∀ key, tokens[index]? = some key → index + 1 < tokens.length →
        object.end_ ≤ key.start) : SpellsChannels line tokens object index [] index
  | pair {index next : Nat} {key value : JsmnTok} {channel : ChannelMember}
      {channels : List ChannelMember} (keyAt : tokens[index]? = some key)
      (valueAt : tokens[index + 1]? = some value) (inside : key.start < object.end_)
      (names : tokenLexeme line key = .string channel.1.name)
      (spells : tokenLexeme line value = .literal channel.2)
      (later : SpellsChannels line tokens object (index + 2) channels next) :
      SpellsChannels line tokens object index (channel :: channels) next

/-- The tokens from an index on, up to another, together with the token before
them, that spell the value of a member. -/
def SpellsValue (line : Bytes) (tokens : List JsmnTok) (value : JsmnTok) (index : Nat) :
    RequestMember → Nat → Prop
  | .parameters channels, next =>
      tokenLexeme line value = .punctuation leftBrace ∧
        SpellsChannels line tokens value index channels next ∧ next ≤ tokens.length
  | .protocolVersion literal, next => tokenLexeme line value = .literal literal ∧ next = index
  | .type content, next => tokenLexeme line value = .string content ∧ next = index
  | .commandId literal, next => tokenLexeme line value = .literal literal ∧ next = index
  | .testUuid content, next => tokenLexeme line value = .string content ∧ next = index
  | .testType content, next => tokenLexeme line value = .string content ∧ next = index

/-- The tokens from an index on that spell members. -/
inductive SpellsMembers (line : Bytes) (tokens : List JsmnTok) :
    Nat → List RequestMember → Prop where
  | finish {index : Nat} (ended : tokens.length ≤ index) : SpellsMembers line tokens index []
  | pair {index next : Nat} {key value : JsmnTok} {member : RequestMember}
      {members : List RequestMember} (keyAt : tokens[index]? = some key)
      (valueAt : tokens[index + 1]? = some value)
      (names : tokenLexeme line key = .string member.name)
      (spells : SpellsValue line tokens value (index + 2) member next)
      (later : SpellsMembers line tokens next members) :
      SpellsMembers line tokens index (member :: members)

theorem tokenAt_eq_ok_iff (index : Nat) (token : JsmnTok) :
    tokenAt tokens index = .ok token ↔ tokens[index]? = some token := by
  rw [tokenAt]
  cases tokens[index]? <;> simp

theorem SpellsChannels.eq_nil {object : JsmnTok} {index next : Nat}
    {channels : List ChannelMember}
    (spells : SpellsChannels line tokens object index channels next)
    (ended : ∀ key, tokens[index]? = some key → index + 1 < tokens.length →
      object.end_ ≤ key.start) : channels = [] ∧ next = index := by
  cases spells with
  | finish _ => exact ⟨rfl, rfl⟩
  | pair keyAt valueAt inside names value later =>
      obtain ⟨shorter, _⟩ := List.getElem?_eq_some_iff.mp valueAt
      exact absurd (ended _ keyAt shorter) (Int.not_le.mpr inside)

/-- Where the object is over, the loop stops as it should. -/
theorem stopped_iff {object : JsmnTok} {index next : Nat} {state after : RgbState}
    (ended : ∀ key, tokens[index]? = some key → index + 1 < tokens.length →
      object.end_ ≤ key.start) :
    ((.ok (index, state) : Except ParseStop (Nat × RgbState)) = .ok (next, after) ↔
      ∃ channels, SpellsChannels line tokens object index channels next ∧
        channels.foldlM readChannel state = some after) := by
  constructor
  · intro same
    obtain ⟨rfl, rfl⟩ := Prod.mk.inj (Except.ok.inj same)
    exact ⟨[], .finish ended, rfl⟩
  · rintro ⟨channels, spells, folds⟩
    obtain ⟨rfl, rfl⟩ := spells.eq_nil ended
    obtain rfl := Option.some.inj folds
    rfl

theorem next_of_spellsChannels {object : JsmnTok} {index next : Nat}
    {channels : List ChannelMember}
    (spells : SpellsChannels line tokens object index channels next) :
    next = index + 2 * channels.length := by
  induction spells with
  | finish ended => rfl
  | pair keyAt valueAt inside names value later ih =>
      rw [ih, List.length_cons]
      omega

/-- The value of a member ends where its tokens end. -/
theorem next_of_spellsValue {value : JsmnTok} {index next : Nat} {member : RequestMember}
    (spells : SpellsValue line tokens value index member next) (within : index ≤ tokens.length) :
    index ≤ next ∧ next ≤ tokens.length := by
  have same : next = index → index ≤ next ∧ next ≤ tokens.length := by
    rintro rfl
    exact ⟨Nat.le_refl _, within⟩
  cases member with
  | parameters channels =>
      obtain ⟨_, channels, bound⟩ := spells
      rw [next_of_spellsChannels channels] at bound ⊢
      omega
  | protocolVersion literal => exact same spells.2
  | type content => exact same spells.2
  | commandId literal => exact same spells.2
  | testUuid content => exact same spells.2
  | testType content => exact same spells.2

variable (spelled : ∀ token ∈ tokens, Spelled token)
include spelled

/-- **The loop of the `parameters` object** reads the channels that its tokens
spell. -/
theorem parseRgbLoop_eq_ok_iff {object : JsmnTok} {bound index next : Nat}
    {state after : RgbState} (enough : tokens.length ≤ index + bound) :
    parseRgbLoop line tokens object bound index state = .ok (next, after) ↔
      ∃ channels, SpellsChannels line tokens object index channels next ∧
        channels.foldlM readChannel state = some after := by
  induction bound generalizing index state with
  | zero =>
      refine stopped_iff fun key there longer => ?_
      omega
  | succ bound ih =>
      rw [parseRgbLoop]
      by_cases last : tokens.length ≤ index + 1
      · rw [if_pos last]
        exact stopped_iff fun key there longer => absurd longer (Nat.not_lt.mpr last)
      obtain ⟨key, keyAt⟩ : ∃ key, tokens[index]? = some key :=
        ⟨_, List.getElem?_eq_getElem (by omega)⟩
      obtain ⟨value, valueAt⟩ : ∃ value, tokens[index + 1]? = some value :=
        ⟨_, List.getElem?_eq_getElem (by omega)⟩
      rw [if_neg last, (tokenAt_eq_ok_iff index key).mpr keyAt]
      change (if object.end_ ≤ key.start then _ else _) = _ ↔ _
      by_cases outside : object.end_ ≤ key.start
      · rw [if_pos outside]
        refine stopped_iff fun other there _ => ?_
        obtain rfl := Option.some.inj (keyAt.symm.trans there)
        exact outside
      rw [if_neg outside, (tokenAt_eq_ok_iff (index + 1) value).mpr valueAt]
      change (parseRgbPair line key value state >>= fun state =>
        parseRgbLoop line tokens object bound (index + 2) state) = _ ↔ _
      simp only [except_bind_eq_ok_iff, parseRgbPair_eq_ok_iff (spelled value (List.mem_of_getElem? valueAt)),
        ih (show tokens.length ≤ index + 2 + bound by omega)]
      constructor
      · rintro ⟨between, ⟨channel, names, spells, read⟩, channels, later, folds⟩
        refine ⟨channel :: channels,
          .pair keyAt valueAt (Int.not_le.mp outside) names spells later, ?_⟩
        rw [List.foldlM_cons, read]
        exact folds
      · rintro ⟨channels, spells, folds⟩
        cases spells with
        | finish ended => exact absurd (ended key keyAt (Nat.not_le.mp last)) outside
        | pair keyAt' valueAt' inside names value later =>
            obtain rfl := Option.some.inj (keyAt.symm.trans keyAt')
            obtain rfl := Option.some.inj (valueAt.symm.trans valueAt')
            rw [List.foldlM_cons] at folds
            obtain ⟨between, read, folds⟩ := Option.bind_eq_some_iff.mp folds
            exact ⟨between, ⟨_, names, value, read⟩, _, later, folds⟩

theorem parseRgbParameters_eq_ok_iff {value : JsmnTok} {index next : Nat}
    (valueAt : tokens[index - 1]? = some value) {request after : JsonProtocolRequest} :
    parseRgbParameters line tokens index request = .ok (next, after) ↔
      ∃ channels, tokenLexeme line value = .punctuation leftBrace ∧
        SpellsChannels line tokens value index channels next ∧ next ≤ tokens.length ∧
          readChannels request channels = some after := by
  rw [parseRgbParameters, (tokenAt_eq_ok_iff (index - 1) value).mpr valueAt]
  change (if value.type ≠ .object then _ else _) = _ ↔ _
  rw [← type_eq_object_iff]
  by_cases object : value.type = .object
  swap
  · rw [if_pos object]
    exact iff_of_false (nomatch ·) fun ⟨_, impossible, _⟩ => object impossible
  rw [if_neg (not_not.mpr object), except_bind_eq_ok_iff]
  have loop : ∀ {next : Nat} {state : RgbState},
      parseRgbLoop line tokens value tokens.length index ⟨request, false, false, false⟩ =
        .ok (next, state) ↔ _ := parseRgbLoop_eq_ok_iff spelled (Nat.le_add_left _ _)
  constructor
  · rintro ⟨⟨next', state⟩, looped, rest⟩
    obtain ⟨channels, spells, folds⟩ := loop.mp looped
    dsimp only at rest
    split_ifs at rest with bad
    obtain ⟨rfl, rfl⟩ := Prod.mk.inj (Except.ok.inj rest)
    simp only [Bool.not_eq_true', not_or, Nat.not_lt, Bool.not_eq_false] at bad
    refine ⟨channels, object, spells, bad.1, ?_⟩
    rw [readChannels, initialRgbState, folds]
    simp [bad]
  · rintro ⟨channels, _, spells, within, read⟩
    obtain ⟨state, folds, rest⟩ := Option.bind_eq_some_iff.mp read
    split_ifs at rest with seen
    obtain rfl := Option.some.inj rest
    refine ⟨(next, state), loop.mpr ⟨channels, spells, folds⟩, ?_⟩
    simp only [Bool.and_eq_true] at seen
    dsimp only
    rw [if_neg (by simp [within, seen])]

/-- **One pair of a request.** Which member it is follows from the key. -/
theorem parseRequestPair_eq_ok_iff {key value : JsmnTok} {index next : Nat}
    (valueAt : tokens[index - 1]? = some value) {state after : RequestState} :
    parseRequestPair line tokens key value index state = .ok (next, after) ↔
      ∃ member : RequestMember, tokenLexeme line key = .string member.name ∧
        SpellsValue line tokens value index member next ∧
          readMember state member = some after := by
  have valueSpelled := spelled value (List.mem_of_getElem? valueAt)
  constructor
  · intro parsed
    rw [parseRequestPair] at parsed
    by_cases isVersion : tokenEquals line key "protocol_version" = true
    · rw [if_pos isVersion] at parsed
      split_ifs at parsed with seen
      obtain ⟨version, reads, rest⟩ := (except_bind_eq_ok_iff _ _ _).mp parsed
      split_ifs at rest with other
      obtain ⟨rfl, rfl⟩ := Prod.mk.inj (Except.ok.inj rest)
      obtain ⟨literal, spells, numeral⟩ := (parsePositiveUint32_eq_some_iff valueSpelled _).mp
        ((orReject_eq_ok_iff _ _).mp reads)
      obtain rfl := not_not.mp other
      exact ⟨.protocolVersion literal, (tokenEquals_iff _ _).mp isVersion, ⟨spells, rfl⟩,
        by rw [readMember, if_neg seen, if_pos numeral]⟩
    by_cases isType : tokenEquals line key "type" = true
    · rw [if_neg isVersion, if_pos isType] at parsed
      split_ifs at parsed with bad
      obtain ⟨seen, string⟩ := not_or.mp bad
      obtain ⟨rfl, rfl⟩ := Prod.mk.inj (Except.ok.inj parsed)
      obtain ⟨content, spells⟩ := (type_eq_string_iff value).mp (not_not.mp string)
      exact ⟨.type content, (tokenEquals_iff _ _).mp isType, ⟨spells, rfl⟩,
        by rw [readMember, if_neg seen, requestTypeOf_eq spells]⟩
    by_cases isCommandId : tokenEquals line key "command_id" = true
    · rw [if_neg isVersion, if_neg isType, if_pos isCommandId] at parsed
      split_ifs at parsed with seen
      obtain ⟨commandId, reads, rest⟩ := (except_map_eq_ok_iff _ _ _).mp parsed
      obtain ⟨rfl, rfl⟩ := Prod.mk.inj rest
      obtain ⟨literal, spells, numeral⟩ := (parsePositiveUint32_eq_some_iff valueSpelled _).mp
        ((orReject_eq_ok_iff _ _).mp reads)
      exact ⟨.commandId literal, (tokenEquals_iff _ _).mp isCommandId, ⟨spells, rfl⟩,
        by rw [readMember, if_neg seen, numeral]; rfl⟩
    by_cases isUuid : tokenEquals line key "test_uuid" = true
    · rw [if_neg isVersion, if_neg isType, if_neg isCommandId, if_pos isUuid] at parsed
      split_ifs at parsed with seen
      obtain ⟨uuid, reads, rest⟩ := (except_map_eq_ok_iff _ _ _).mp parsed
      obtain ⟨rfl, rfl⟩ := Prod.mk.inj rest
      obtain ⟨spells, legal⟩ := (copyTestUuid_eq_some_iff _).mp ((orReject_eq_ok_iff _ _).mp reads)
      exact ⟨.testUuid uuid, (tokenEquals_iff _ _).mp isUuid, ⟨spells, rfl⟩,
        by rw [readMember, if_neg seen, if_pos legal]⟩
    by_cases isTestTypeKey : tokenEquals line key "test_type" = true
    · rw [if_neg isVersion, if_neg isType, if_neg isCommandId, if_neg isUuid,
        if_pos isTestTypeKey] at parsed
      split_ifs at parsed with seen
      obtain ⟨name, reads, rest⟩ := (except_map_eq_ok_iff _ _ _).mp parsed
      obtain ⟨rfl, rfl⟩ := Prod.mk.inj rest
      obtain ⟨spells, legal⟩ := (copyTestType_eq_some_iff _).mp ((orReject_eq_ok_iff _ _).mp reads)
      exact ⟨.testType name, (tokenEquals_iff _ _).mp isTestTypeKey, ⟨spells, rfl⟩,
        by rw [readMember, if_neg seen, if_pos legal]⟩
    by_cases isParameters : tokenEquals line key "parameters" = true
    · rw [if_neg isVersion, if_neg isType, if_neg isCommandId, if_neg isUuid,
        if_neg isTestTypeKey, if_pos isParameters] at parsed
      split_ifs at parsed with seen
      obtain ⟨⟨next', request⟩, reads, rest⟩ := (except_map_eq_ok_iff _ _ _).mp parsed
      obtain ⟨rfl, rfl⟩ := Prod.mk.inj rest
      obtain ⟨channels, object, spells, within, read⟩ :=
        (parseRgbParameters_eq_ok_iff spelled valueAt).mp reads
      exact ⟨.parameters channels, (tokenEquals_iff _ _).mp isParameters,
        ⟨object, spells, within⟩, by rw [readMember, if_neg seen, read]; rfl⟩
    rw [if_neg isVersion, if_neg isType, if_neg isCommandId, if_neg isUuid, if_neg isTestTypeKey,
      if_neg isParameters] at parsed
    cases parsed
  · rintro ⟨member, names, spells, read⟩
    cases member with
    | protocolVersion literal =>
        obtain ⟨spells, rfl⟩ := spells
        rw [parseRequestPair, if_pos ((tokenEquals_iff _ _).mpr names)]
        rw [readMember] at read
        split_ifs at read with seen numeral
        obtain rfl := Option.some.inj read
        rw [if_neg seen, (parsePositiveUint32_eq_some_iff valueSpelled _).mpr
          ⟨literal, spells, numeral⟩]
        rfl
    | type content =>
        obtain ⟨spells, rfl⟩ := spells
        replace names : tokenLexeme line key = .string (ascii "type") := names
        rw [parseRequestPair, if_neg (not_tokenEquals names (by decide)),
          if_pos ((tokenEquals_iff _ _).mpr names)]
        rw [readMember] at read
        split_ifs at read with seen
        obtain rfl := Option.some.inj read
        have string : value.type = .string := (type_eq_string_iff value).mpr ⟨content, spells⟩
        rw [if_neg (not_or.mpr ⟨seen, not_not.mpr string⟩), requestTypeOf_eq spells]
    | commandId literal =>
        obtain ⟨spells, rfl⟩ := spells
        replace names : tokenLexeme line key = .string (ascii "command_id") := names
        rw [parseRequestPair, if_neg (not_tokenEquals names (by decide)),
          if_neg (not_tokenEquals names (by decide)), if_pos ((tokenEquals_iff _ _).mpr names)]
        rw [readMember] at read
        split_ifs at read with seen
        obtain ⟨commandId, numeral, rfl⟩ := Option.map_eq_some_iff.mp read
        rw [if_neg seen, (parsePositiveUint32_eq_some_iff valueSpelled _).mpr
          ⟨literal, spells, numeral⟩]
        rfl
    | testUuid content =>
        obtain ⟨spells, rfl⟩ := spells
        replace names : tokenLexeme line key = .string (ascii "test_uuid") := names
        rw [parseRequestPair, if_neg (not_tokenEquals names (by decide)),
          if_neg (not_tokenEquals names (by decide)), if_neg (not_tokenEquals names (by decide)),
          if_pos ((tokenEquals_iff _ _).mpr names)]
        rw [readMember] at read
        split_ifs at read with seen legal
        obtain rfl := Option.some.inj read
        rw [if_neg seen, (copyTestUuid_eq_some_iff _).mpr ⟨spells, legal⟩]
        rfl
    | testType content =>
        obtain ⟨spells, rfl⟩ := spells
        replace names : tokenLexeme line key = .string (ascii "test_type") := names
        rw [parseRequestPair, if_neg (not_tokenEquals names (by decide)),
          if_neg (not_tokenEquals names (by decide)), if_neg (not_tokenEquals names (by decide)),
          if_neg (not_tokenEquals names (by decide)), if_pos ((tokenEquals_iff _ _).mpr names)]
        rw [readMember] at read
        split_ifs at read with seen legal
        obtain rfl := Option.some.inj read
        rw [if_neg seen, (copyTestType_eq_some_iff _).mpr ⟨spells, legal⟩]
        rfl
    | parameters channels =>
        obtain ⟨object, spells, within⟩ := spells
        replace names : tokenLexeme line key = .string (ascii "parameters") := names
        rw [parseRequestPair, if_neg (not_tokenEquals names (by decide)),
          if_neg (not_tokenEquals names (by decide)), if_neg (not_tokenEquals names (by decide)),
          if_neg (not_tokenEquals names (by decide)), if_neg (not_tokenEquals names (by decide)),
          if_pos ((tokenEquals_iff _ _).mpr names)]
        rw [readMember] at read
        split_ifs at read with seen
        obtain ⟨request, stored, rfl⟩ := Option.map_eq_some_iff.mp read
        rw [if_neg seen, (parseRgbParameters_eq_ok_iff spelled valueAt).mpr
          ⟨channels, object, spells, within, stored⟩]
        rfl

/-- **The loop of the parser** reads the members that the tokens spell. -/
theorem parseRequestLoop_eq_ok_iff {bound index : Nat} {state after : RequestState}
    (enough : tokens.length ≤ index + bound) :
    parseRequestLoop line tokens bound index state = .ok after ↔
      ∃ members, SpellsMembers line tokens index members ∧
        members.foldlM readMember state = some after := by
  have stopped : ∀ {index : Nat} {state : RequestState}, tokens.length ≤ index →
      ((.ok state : Except ParseStop RequestState) = .ok after ↔
        ∃ members, SpellsMembers line tokens index members ∧
          members.foldlM readMember state = some after) := by
    intro index state ended
    constructor
    · intro same
      obtain rfl := Except.ok.inj same
      exact ⟨[], .finish ended, rfl⟩
    · rintro ⟨members, spells, folds⟩
      cases spells with
      | finish _ => exact congrArg Except.ok (Option.some.inj folds)
      | pair keyAt valueAt names spells later =>
          obtain ⟨shorter, _⟩ := List.getElem?_eq_some_iff.mp keyAt
          omega
  induction bound generalizing index state with
  | zero => exact stopped (by omega)
  | succ bound ih =>
      rw [parseRequestLoop]
      by_cases last : tokens.length ≤ index
      · rw [if_pos last]
        exact stopped last
      obtain ⟨key, keyAt⟩ : ∃ key, tokens[index]? = some key :=
        ⟨_, List.getElem?_eq_getElem (by omega)⟩
      rw [if_neg last, (tokenAt_eq_ok_iff index key).mpr keyAt]
      change (tokenAt tokens (index + 1) >>= fun value =>
        parseRequestPair line tokens key value (index + 2) state >>= fun read =>
          parseRequestLoop line tokens bound read.1 read.2) = _ ↔ _
      simp only [except_bind_eq_ok_iff, tokenAt_eq_ok_iff]
      constructor
      · rintro ⟨value, valueAt, ⟨next, between⟩, pair, rest⟩
        obtain ⟨member, names, spells, read⟩ :=
          (parseRequestPair_eq_ok_iff spelled (by simpa using valueAt)).mp pair
        obtain ⟨shorter, _⟩ := List.getElem?_eq_some_iff.mp valueAt
        have forward := next_of_spellsValue spells (by omega)
        obtain ⟨members, later, folds⟩ := (ih (by omega)).mp rest
        refine ⟨member :: members, .pair keyAt valueAt names spells later, ?_⟩
        rw [List.foldlM_cons, read]
        exact folds
      · rintro ⟨members, spells, folds⟩
        cases spells with
        | finish ended => exact absurd ended last
        | @pair _ next _ value member members keyAt' valueAt names spells later =>
            obtain rfl := Option.some.inj (keyAt.symm.trans keyAt')
            rw [List.foldlM_cons] at folds
            obtain ⟨between, read, folds⟩ := Option.bind_eq_some_iff.mp folds
            obtain ⟨shorter, _⟩ := List.getElem?_eq_some_iff.mp valueAt
            have forward := next_of_spellsValue spells (by omega)
            refine ⟨value, valueAt, (next, between), ?_, (ih (by omega)).mpr ⟨_, later, folds⟩⟩
            exact (parseRequestPair_eq_ok_iff spelled (by simpa using valueAt)).mpr
              ⟨member, names, spells, read⟩

end Loops

end FlightComputer.Firmware
