import FlightComputer.Firmware.RequestReading
import FlightComputer.Library.OnceOnly

/-!
# The checks of the request parser

`readMembers` accepts exactly the members of an admissible request, in any order
and with leading zeros in their numbers (`readMembers_eq_some_iff`); what it
stores is the request.
-/

set_option autoImplicit false

namespace FlightComputer.Firmware

open Library

/-! ## Numbers -/

theorem accumulateDigits_eq_some_iff {limit parsed value : Nat} {text : Bytes}
    (small : parsed ≤ limit) :
    accumulateDigits limit parsed text = some value ↔
      AllDigits text ∧ (codes text).foldl (fun value code => value * 10 + (code - 48)) parsed = value ∧
        value ≤ limit := by
  -- further digits do not make a number smaller
  have grows : ∀ (text : List Nat) (parsed : Nat),
      parsed ≤ text.foldl (fun value code => value * 10 + (code - 48)) parsed := by
    intro text
    induction text with
    | nil => exact fun _ => Nat.le_refl _
    | cons code text ih =>
        intro parsed
        exact Nat.le_trans (by omega) (ih (parsed * 10 + (code - 48)))
  induction text generalizing parsed with
  | nil =>
      simp only [accumulateDigits, Option.some.injEq, codes_nil, List.foldl_nil]
      constructor
      · intro same
        exact ⟨List.forall_mem_nil _, same, same ▸ small⟩
      · exact fun right => right.2.1
  | cons byte text ih =>
      have digits : AllDigits (byte :: text) ↔
          (48 ≤ byte.toNat ∧ byte.toNat ≤ 57) ∧ AllDigits text := by
        simp [AllDigits, isDecimalDigit]
      rw [accumulateDigits, digits, codes_cons, List.foldl_cons]
      by_cases digit : byte.toNat < 48 ∨ 57 < byte.toNat
      · rw [if_pos digit]
        exact iff_of_false (Option.some_ne_none _).symm fun right => by
          have := right.1.1
          omega
      rw [if_neg digit]
      by_cases large : limit < parsed * 10 + (byte.toNat - 48)
      · rw [if_pos large]
        refine iff_of_false (Option.some_ne_none _).symm ?_
        rintro ⟨_, same, within⟩
        have := grows (codes text) (parsed * 10 + (byte.toNat - 48))
        omega
      rw [if_neg large]
      refine (ih (Nat.not_lt.mp large)).trans ?_
      constructor
      · rintro ⟨all, same, within⟩
        exact ⟨⟨by omega, all⟩, same, within⟩
      · rintro ⟨⟨_, all⟩, same, within⟩
        exact ⟨all, same, within⟩

theorem positiveUint32Of_eq_some_iff {text : Bytes} {value : UInt32} :
    positiveUint32Of text = some value ↔
      paddedNumeral value.toNat text ∧ 1 ≤ value.toNat := by
  have accumulates : ∀ n, accumulateDigits (2 ^ 32 - 1) 0 text = some n ↔
      paddedNumeral n text ∧ n ≤ 2 ^ 32 - 1 := fun n => by
    rw [accumulateDigits_eq_some_iff (Nat.zero_le _), paddedNumeral, numeralValue, and_assoc]
  have bound : value.toNat ≤ 2 ^ 32 - 1 := by
    have := value.toNat_lt
    omega
  constructor
  · intro read
    rw [positiveUint32Of] at read
    cases parsed : accumulateDigits (2 ^ 32 - 1) 0 text with
    | none =>
        rw [parsed] at read
        cases read
    | some n =>
        obtain ⟨numeral, within⟩ := (accumulates n).mp parsed
        rw [parsed] at read
        dsimp only at read
        split_ifs at read with zero
        obtain rfl := Option.some.inj read
        have same : (UInt32.ofNat n).toNat = n := UInt32.toNat_ofNat_of_lt' (by
          change n < 2 ^ 32
          omega)
        rw [same]
        exact ⟨numeral, Nat.one_le_iff_ne_zero.mpr zero⟩
  · rintro ⟨numeral, positive⟩
    rw [positiveUint32Of, (accumulates _).mpr ⟨numeral, bound⟩]
    dsimp only
    rw [if_neg (Nat.one_le_iff_ne_zero.mp positive), UInt32.ofNat_toNat]

theorem uint8Of_eq_some_iff {text : Bytes} {value : UInt8} :
    uint8Of text = some value ↔ paddedNumeral value.toNat text := by
  have accumulates : ∀ n, accumulateDigits (2 ^ 8 - 1) 0 text = some n ↔
      paddedNumeral n text ∧ n ≤ 2 ^ 8 - 1 := fun n => by
    rw [accumulateDigits_eq_some_iff (Nat.zero_le _), paddedNumeral, numeralValue, and_assoc]
  rw [uint8Of, Option.map_eq_some_iff]
  constructor
  · rintro ⟨n, parsed, rfl⟩
    obtain ⟨numeral, within⟩ := (accumulates n).mp parsed
    have same : (UInt8.ofNat n).toNat = n := UInt8.toNat_ofNat_of_lt' (by
      change n < 2 ^ 8
      omega)
    rw [same]
    exact numeral
  · intro numeral
    have bound := value.toNat_lt
    exact ⟨value.toNat, (accumulates _).mpr ⟨numeral, by omega⟩, UInt8.ofNat_toNat⟩

/-! ## Texts -/

theorem byte_le_iff (first second : UInt8) : first ≤ second ↔ first.toNat ≤ second.toNat :=
  UInt8.le_iff_toNat_le

theorem uuidCharacterFits_iff (index : Nat) (byte : UInt8) :
    uuidCharacterFits index byte = true ↔
      (index ∈ uuidHyphens → byte = '-'.toUInt8) ∧
        (index ∉ uuidHyphens → isLowerHexDigit byte = true) := by
  have hexadecimal : ((decide ('0'.toUInt8 ≤ byte) && decide (byte ≤ '9'.toUInt8)) ||
      (decide ('a'.toUInt8 ≤ byte) && decide (byte ≤ 'f'.toUInt8))) = isLowerHexDigit byte := by
    simp only [byte_le_iff]
    rfl
  have hyphen : (index == 8 || index == 13 || index == 18 || index == 23) = true ↔
      index ∈ uuidHyphens := by
    simp only [uuidHyphens, Bool.or_eq_true, beq_iff_eq, List.mem_cons, List.not_mem_nil,
      or_false, or_assoc]
  rw [uuidCharacterFits, hexadecimal]
  by_cases listed : index ∈ uuidHyphens
  · rw [if_pos (hyphen.mpr listed), beq_iff_eq]
    exact ⟨fun same => ⟨fun _ => same, fun unlisted => absurd listed unlisted⟩,
      fun both => both.1 listed⟩
  · rw [if_neg fun hyphens => listed (hyphen.mp hyphens)]
    exact ⟨fun digit => ⟨fun inside => absurd inside listed, fun _ => digit⟩,
      fun both => both.2 listed⟩

/-- **The parser takes canonical UUIDs of version 4**, whatever their variant. -/
theorem isTestUuid_iff (text : Bytes) :
    isTestUuid text = true ↔ IsCanonicalUuid text ∧ HasVersion4 text := by
  have all : (text.zipIdx.all fun entry => uuidCharacterFits entry.2 entry.1) = true ↔
      ∀ index byte, text[index]? = some byte → uuidCharacterFits index byte = true := by
    rw [List.all_eq_true]
    exact ⟨fun each index byte found => each (byte, index) (List.mem_zipIdx_iff_getElem?.mpr found),
      fun each entry listed => each entry.2 entry.1 (List.mem_zipIdx_iff_getElem?.mp listed)⟩
  rw [isTestUuid, Bool.and_eq_true, Bool.and_eq_true, Bool.and_eq_true, all, beq_iff_eq, beq_iff_eq,
    Bool.not_eq_true', List.contains_eq_mem, decide_eq_false_iff_not]
  constructor
  · rintro ⟨⟨⟨length, _⟩, fits⟩, version⟩
    refine ⟨⟨length, fun index hyphen => ?_, fun index byte found unlisted =>
      ((uuidCharacterFits_iff index byte).mp (fits index byte found)).2 unlisted⟩, version⟩
    have inside : index < text.length := by
      rw [length, jsonProtocolTestUuidLength]
      simp only [uuidHyphens, List.mem_cons, List.not_mem_nil, or_false] at hyphen
      omega
    have found := List.getElem?_eq_getElem inside
    rw [found, ((uuidCharacterFits_iff index _).mp (fits index _ found)).1 hyphen]
  · rintro ⟨uuid, version⟩
    have fits : ∀ index byte, text[index]? = some byte → uuidCharacterFits index byte = true := by
      intro index byte found
      refine (uuidCharacterFits_iff index byte).mpr ⟨fun hyphen => ?_, uuid.digits index byte found⟩
      have there := uuid.hyphens index hyphen
      rw [found] at there
      exact Option.some.inj there
    refine ⟨⟨⟨uuid.length, fun escaped => ?_⟩, fits⟩, version⟩
    obtain ⟨index, found⟩ := List.getElem?_of_mem escaped
    have backslashFits := (uuidCharacterFits_iff index backslash).mp (fits index _ found)
    by_cases hyphen : index ∈ uuidHyphens
    · exact absurd (backslashFits.1 hyphen) (by decide)
    · exact absurd (backslashFits.2 hyphen) (by decide)

theorem testTypeCharacterFits_eq (byte : UInt8) :
    testTypeCharacterFits byte = isTestTypeByte byte := by
  simp only [testTypeCharacterFits, isTestTypeByte, isDecimalDigit, byte_le_iff]
  rfl

/-- **The parser takes test types** of up to 31 lowercase letters, digits and
underscores. -/
theorem isTestType_iff (text : Bytes) : isTestType text = true ↔ IsTestTypeName text := by
  rw [isTestType, Bool.and_eq_true, Bool.and_eq_true, Bool.and_eq_true, List.all_eq_true,
    bne_iff_ne, decide_eq_true_eq, Bool.not_eq_true', List.contains_eq_mem, decide_eq_false_iff_not,
    jsonProtocolTestTypeCapacity]
  simp only [testTypeCharacterFits_eq]
  constructor
  · rintro ⟨⟨⟨nonempty, bounded⟩, _⟩, bytes⟩
    exact ⟨by omega, by omega, bytes⟩
  · rintro ⟨nonempty, bounded, bytes⟩
    exact ⟨⟨⟨by omega, by omega⟩, fun escaped => absurd (bytes _ escaped) (by decide)⟩, bytes⟩

/-! ## Channels -/

/-- Store the colour of a request. -/
def withColour (request : JsonProtocolRequest) (colour : RgbColour) : JsonProtocolRequest :=
  { request with
    rgbColourPresent := true
    red := colour.red
    green := colour.green
    blue := colour.blue }

/-- The flag of a channel. -/
def channelSeen (state : RgbState) : RgbChannel → Bool
  | .red => state.redSeen
  | .green => state.greenSeen
  | .blue => state.blueSeen

/-- What one channel stores. -/
def channelEffect : ChannelMember → Option (RgbState → RgbState)
  | (.red, literal) => (uint8Of literal).map fun red state =>
      { state with request := { state.request with red := red }, redSeen := true }
  | (.green, literal) => (uint8Of literal).map fun green state =>
      { state with request := { state.request with green := green }, greenSeen := true }
  | (.blue, literal) => (uint8Of literal).map fun blue state =>
      { state with request := { state.request with blue := blue }, blueSeen := true }

/-- The channels as a reader of items that may come once each. -/
def channelReader : OnceOnly RgbState ChannelMember RgbChannel where
  kind := Prod.fst
  seen := channelSeen
  effect := channelEffect
  seen_effect := by
    rintro ⟨red | green | blue, literal⟩ act acts state other
    all_goals
      obtain ⟨value, _, rfl⟩ := Option.map_eq_some_iff.mp acts
      cases other <;> simp [channelSeen]
  effect_comm := by
    rintro ⟨first, literal⟩ ⟨second, literal'⟩ act act' apart acts acts' state
    cases first <;> cases second <;> first
      | exact absurd rfl apart
      | obtain ⟨value, _, rfl⟩ := Option.map_eq_some_iff.mp acts
        obtain ⟨value', _, rfl⟩ := Option.map_eq_some_iff.mp acts'
        rfl

theorem channelReader_read : channelReader.read = readChannel := by
  funext state channel
  obtain ⟨red | green | blue, literal⟩ := channel
  all_goals
    simp only [OnceOnly.read, channelReader, channelSeen, channelEffect, readChannel,
      Option.map_map]
    rfl

theorem readChannels_in_order (request after : JsonProtocolRequest) (red green blue : Bytes) :
    readChannels request [(.red, red), (.green, green), (.blue, blue)] = some after ↔
      ∃ colour : RgbColour, uint8Of red = some colour.red ∧ uint8Of green = some colour.green ∧
        uint8Of blue = some colour.blue ∧ after = withColour request colour := by
  cases readRed : uint8Of red with
  | none => simp [readChannels, initialRgbState, readChannel, readRed]
  | some r =>
      cases readGreen : uint8Of green with
      | none => simp [readChannels, initialRgbState, readChannel, readRed, readGreen]
      | some g =>
          cases readBlue : uint8Of blue with
          | none => simp [readChannels, initialRgbState, readChannel, readRed, readGreen, readBlue]
          | some b =>
              simp only [readChannels, initialRgbState, readChannel, readRed, readGreen, readBlue,
                List.foldlM_cons, List.foldlM_nil, Bool.false_eq_true, if_false, Option.map_some,
                Option.bind_eq_bind, Option.bind_some, Option.some.injEq]
              constructor
              · intro same
                exact ⟨⟨r, g, b⟩, rfl, rfl, rfl, (Option.some.inj same).symm⟩
              · rintro ⟨colour, rfl, rfl, rfl, rfl⟩
                rfl

/-- **The `parameters` object** is accepted when it spells a colour. -/
theorem readChannels_eq_some_iff (request after : JsonProtocolRequest)
    (channels : List ChannelMember) :
    readChannels request channels = some after ↔
      ∃ colour : RgbColour, colour.SpelledBy paddedNumeral channels ∧
        after = withColour request colour := by
  have reorder : ∀ {other : List ChannelMember}, channels.Perm other →
      readChannels request channels = readChannels request other := by
    intro other perm
    rw [readChannels, readChannels, ← channelReader_read, OnceOnly.foldlM_perm perm]
  constructor
  · intro read
    have given := read
    obtain ⟨state, folds, rest⟩ := Option.bind_eq_some_iff.mp given
    split_ifs at rest with seen
    rw [← channelReader_read] at folds
    obtain ⟨nodup, _, marks⟩ := OnceOnly.nodup_of_foldlM folds
    have all : ∀ channel, channel ∈ channels.map Prod.fst := by
      simp only [Bool.and_eq_true] at seen
      intro channel
      have unseen : channelSeen (initialRgbState request) channel = false := by
        cases channel <;> rfl
      rcases (marks channel).mp (by cases channel <;> simp [channelReader, channelSeen, seen]) with
        listed | before
      · exact listed
      · exact absurd (unseen.symm.trans before) Bool.false_ne_true
    have perm : (channels.map Prod.fst).Perm [.red, .green, .blue] :=
      (List.perm_ext_iff_of_nodup nodup (by decide)).mpr fun channel =>
        iff_of_true (all channel) (by cases channel <;> simp)
    obtain ⟨ordered, permuted, kinds⟩ := exists_perm_of_map_perm perm
    obtain ⟨red, green, blue, rfl⟩ : ∃ red green blue,
        ordered = [(.red, red), (.green, green), (.blue, blue)] := by
      obtain ⟨⟨_, red⟩, _, rfl, rfl, afterRed⟩ := List.map_eq_cons_iff.mp kinds
      obtain ⟨⟨_, green⟩, _, rfl, rfl, afterGreen⟩ := List.map_eq_cons_iff.mp afterRed
      obtain ⟨⟨_, blue⟩, _, rfl, rfl, afterBlue⟩ := List.map_eq_cons_iff.mp afterGreen
      obtain rfl := List.map_eq_nil_iff.mp afterBlue
      exact ⟨red, green, blue, rfl⟩
    rw [reorder permuted, readChannels_in_order] at read
    obtain ⟨colour, readRed, readGreen, readBlue, same⟩ := read
    exact ⟨colour, ⟨red, green, blue, uint8Of_eq_some_iff.mp readRed,
      uint8Of_eq_some_iff.mp readGreen, uint8Of_eq_some_iff.mp readBlue, permuted⟩, same⟩
  · rintro ⟨colour, ⟨red, green, blue, readRed, readGreen, readBlue, permuted⟩, rfl⟩
    rw [reorder permuted, readChannels_in_order]
    exact ⟨colour, uint8Of_eq_some_iff.mpr readRed, uint8Of_eq_some_iff.mpr readGreen,
      uint8Of_eq_some_iff.mpr readBlue, rfl⟩

/-! ## Members -/

/-- The flag of a kind of members. -/
def memberSeen (state : RequestState) : MemberKind → Bool
  | .protocolVersion => state.versionSeen
  | .type => state.typeSeen
  | .commandId => state.commandIdSeen
  | .testUuid => state.testUuidSeen
  | .testType => state.testTypeSeen
  | .parameters => state.parametersSeen

/-- What one member stores, given the number or the colour that it spells. -/
def storeMember (number : UInt32) (colour : RgbColour) (state : RequestState) :
    RequestMember → RequestState
  | .protocolVersion _ => { state with versionSeen := true }
  | .type content =>
      { state with
        request := { state.request with type := requestTypeNamed content }
        typeSeen := true }
  | .commandId _ =>
      { state with
        request := { state.request with commandId := number }
        commandIdSeen := true }
  | .testUuid content =>
      { state with
        request := { state.request with testUuid := content }
        testUuidSeen := true }
  | .testType content =>
      { state with
        request := { state.request with testType := content }
        testTypeSeen := true }
  | .parameters _ =>
      { state with request := withColour state.request colour, parametersSeen := true }

/-- The number and the colour that an acceptable member spells, zero where it
spells none. -/
def memberValues : RequestMember → Option (UInt32 × RgbColour)
  | .protocolVersion literal =>
      if positiveUint32Of literal = some jsonProtocolVersion then some (0, ⟨0, 0, 0⟩) else none
  | .type _ => some (0, ⟨0, 0, 0⟩)
  | .commandId literal => (positiveUint32Of literal).map fun number => (number, ⟨0, 0, 0⟩)
  | .testUuid content => if isTestUuid content then some (0, ⟨0, 0, 0⟩) else none
  | .testType content => if isTestType content then some (0, ⟨0, 0, 0⟩) else none
  | .parameters channels =>
      (readChannels initialRequestState.request channels).map fun request =>
        (0, ⟨request.red, request.green, request.blue⟩)

/-- The members as a reader of items that may come once each. -/
def memberReader : OnceOnly RequestState RequestMember MemberKind where
  kind := memberKind
  seen := memberSeen
  effect member := (memberValues member).map fun values state =>
    storeMember values.1 values.2 state member
  seen_effect := by
    intro member act acts state other
    obtain ⟨values, _, rfl⟩ := Option.map_eq_some_iff.mp acts
    cases member <;> cases other <;> simp [storeMember, memberSeen, memberKind]
  effect_comm := by
    intro first second act act' apart acts acts' state
    obtain ⟨values, _, rfl⟩ := Option.map_eq_some_iff.mp acts
    obtain ⟨values', _, rfl⟩ := Option.map_eq_some_iff.mp acts'
    cases first <;> cases second <;> first | exact absurd rfl apart | rfl

/-- The colour does not depend on the request that it is stored in. -/
theorem readChannels_eq_map (request : JsonProtocolRequest) (channels : List ChannelMember) :
    readChannels request channels =
      (memberValues (.parameters channels)).map fun values => withColour request values.2 := by
  refine Option.ext fun after => ?_
  rw [memberValues, Option.map_map, Option.map_eq_some_iff, readChannels_eq_some_iff]
  constructor
  · rintro ⟨colour, spelled, rfl⟩
    exact ⟨_, (readChannels_eq_some_iff _ _ _).mpr ⟨colour, spelled, rfl⟩, rfl⟩
  · rintro ⟨other, read, rfl⟩
    obtain ⟨colour, spelled, rfl⟩ := (readChannels_eq_some_iff _ _ _).mp read
    exact ⟨colour, spelled, rfl⟩

theorem memberReader_read : memberReader.read = readMember := by
  funext state member
  cases member with
  | parameters channels =>
      rw [readMember, readChannels_eq_map, Option.map_map]
      simp only [OnceOnly.read, memberReader, memberKind, memberSeen, Option.map_map]
      rfl
  | protocolVersion literal =>
      simp only [OnceOnly.read, memberReader, memberKind, memberSeen, memberValues, readMember]
      by_cases version : positiveUint32Of literal = some jsonProtocolVersion
      · rw [if_pos version, if_pos version]
        rfl
      · rw [if_neg version, if_neg version]
        rfl
  | type content => rfl
  | commandId literal =>
      simp only [OnceOnly.read, memberReader, memberKind, memberSeen, memberValues, readMember,
        Option.map_map]
      rfl
  | testUuid content =>
      simp only [OnceOnly.read, memberReader, memberKind, memberSeen, memberValues, readMember]
      cases isTestUuid content <;> rfl
  | testType content =>
      simp only [OnceOnly.read, memberReader, memberKind, memberSeen, memberValues, readMember]
      cases isTestType content <;> rfl

/-! ## Requests -/

/-- The record that the parser fills for a request. -/
def requestRecord (request : Request) : JsonProtocolRequest :=
  let blank := { initialRequestState.request with commandId := UInt32.ofNat request.commandId }
  match request.body with
  | .startTest testUuid => { blank with type := .startTest, testUuid := testUuid }
  | .runComponentTest testType none =>
      { blank with type := .runComponentTest, testType := testType }
  | .runComponentTest testType (some colour) =>
      withColour { blank with type := .runComponentTest, testType := testType } colour
  | .stopComponentTest => { blank with type := .stopComponentTest }

/-- The state after the members that every request has. -/
def commonState (name : Bytes) (commandId : UInt32) : RequestState :=
  { initialRequestState with
    request :=
      { initialRequestState.request with type := requestTypeNamed name, commandId := commandId }
    versionSeen := true
    typeSeen := true
    commandIdSeen := true }

theorem read_common (version name commandId : Bytes) (others : List RequestMember)
    (state : RequestState) :
    (.protocolVersion version :: .type name :: .commandId commandId :: others).foldlM readMember
        initialRequestState = some state ↔
      paddedNumeral 1 version ∧ ∃ number : UInt32,
        paddedNumeral number.toNat commandId ∧ 1 ≤ number.toNat ∧
          others.foldlM readMember (commonState name number) = some state := by
  have one : positiveUint32Of version = some jsonProtocolVersion ↔ paddedNumeral 1 version := by
    rw [positiveUint32Of_eq_some_iff]
    exact and_iff_left (by decide)
  simp only [List.foldlM_cons]
  constructor
  · intro folds
    obtain ⟨first, readVersion, folds⟩ := Option.bind_eq_some_iff.mp folds
    obtain ⟨second, readType, folds⟩ := Option.bind_eq_some_iff.mp folds
    obtain ⟨third, readCommandId, folds⟩ := Option.bind_eq_some_iff.mp folds
    rw [readMember] at readVersion
    split_ifs at readVersion with _ numeral
    obtain rfl := Option.some.inj readVersion
    obtain rfl := Option.some.inj readType
    obtain ⟨number, read, rfl⟩ := Option.map_eq_some_iff.mp readCommandId
    obtain ⟨spelled, positive⟩ := positiveUint32Of_eq_some_iff.mp read
    exact ⟨one.mp numeral, number, spelled, positive, folds⟩
  · rintro ⟨numeral, number, spelled, positive, folds⟩
    have read := positiveUint32Of_eq_some_iff.mpr ⟨spelled, positive⟩
    simp only [readMember, one.mpr numeral, if_true, read]
    exact folds

theorem requestTypeNamed_iff (name : Bytes) :
    (requestTypeNamed name = .startTest ↔ name = ascii "START_TEST") ∧
      (requestTypeNamed name = .runComponentTest ↔ name = ascii "RUN_COMPONENT_TEST") ∧
        (requestTypeNamed name = .stopComponentTest ↔ name = ascii "STOP_COMPONENT_TEST") := by
  rw [requestTypeNamed]
  by_cases start : name = ascii "START_TEST"
  · subst start
    decide
  by_cases run : name = ascii "RUN_COMPONENT_TEST"
  · subst run
    decide
  by_cases stop : name = ascii "STOP_COMPONENT_TEST"
  · subst stop
    decide
  rw [if_neg start, if_neg run, if_neg stop]
  exact ⟨iff_of_false (by decide) start, iff_of_false (by decide) run,
    iff_of_false (by decide) stop⟩

theorem foldlM_readMember_perm {members others : List RequestMember} (perm : members.Perm others) :
    members.foldlM readMember initialRequestState =
      others.foldlM readMember initialRequestState := by
  rw [← memberReader_read, OnceOnly.foldlM_perm perm]

/-- Members are known up to order by the flags that they set. -/
theorem exists_ordered {members : List RequestMember} {state : RequestState}
    (folds : members.foldlM readMember initialRequestState = some state) {kinds : List MemberKind}
    (distinct : kinds.Nodup) (flags : ∀ kind, kind ∈ kinds ↔ memberSeen state kind = true) :
    ∃ ordered, members.Perm ordered ∧ ordered.map memberKind = kinds := by
  rw [← memberReader_read] at folds
  obtain ⟨nodup, _, marks⟩ := OnceOnly.nodup_of_foldlM folds
  refine exists_perm_of_map_perm ((List.perm_ext_iff_of_nodup nodup distinct).mpr fun kind => ?_)
  have unseen : memberSeen initialRequestState kind = false := by cases kind <;> rfl
  have marked : memberSeen state kind = true ↔
      kind ∈ members.map memberKind ∨ memberSeen initialRequestState kind = true := marks kind
  rw [flags, marked, unseen]
  exact ⟨.inl, fun either => either.elim id (nofun)⟩

theorem length_flatMap_of_perm {members others : List RequestMember} (perm : members.Perm others) :
    (members.flatMap memberTokens).length = (others.flatMap memberTokens).length :=
  (perm.flatMap_right memberTokens).length_eq

/-- The checks on the members of an admissible request succeed. -/
theorem readMembers_of_spelledBy {request : Request} (admissible : request.Admissible)
    {members : List RequestMember} (spelled : request.SpelledBy paddedNumeral members) :
    readMembers members = some (requestRecord request) := by
  obtain ⟨commandId, body⟩ := request
  obtain ⟨positive, bounded, allowed⟩ := admissible
  obtain ⟨version, literal, others, one, numeral, spelledBody, perm⟩ := spelled
  have same : (UInt32.ofNat commandId).toNat = commandId := UInt32.toNat_ofNat_of_lt' (by
    change commandId < 2 ^ 32
    dsimp only at bounded
    omega)
  have run : ∀ testType colour,
      requestTypeNamed (RequestBody.runComponentTest testType colour).typeName =
        .runComponentTest := fun _ _ => (requestTypeNamed_iff _).2.1.mpr rfl
  have common := fun state => (read_common version body.typeName literal others state).mpr
  rw [readMembers, foldlM_readMember_perm perm, length_flatMap_of_perm perm]
  have numeral' : paddedNumeral (UInt32.ofNat commandId).toNat literal := same.symm ▸ numeral
  have positive' : 1 ≤ (UInt32.ofNat commandId).toNat := same.symm ▸ positive
  cases body with
  | startTest testUuid =>
      obtain rfl := spelledBody
      have legal := (isTestUuid_iff testUuid).mpr allowed
      rw [common _ ⟨one, _, numeral', positive', by
        simp only [List.foldlM_cons, List.foldlM_nil, readMember, legal]
        rfl⟩]
      rfl
  | runComponentTest testType colour =>
      obtain ⟨named, present⟩ := allowed
      have legal := (isTestType_iff testType).mpr named
      cases colour with
      | none =>
          obtain rfl := spelledBody
          have notRgb : testType ≠ ascii "rgb_led" := fun rgb =>
            Bool.false_ne_true (present.mpr rgb)
          rw [common _ ⟨one, _, numeral', positive', by
            simp only [List.foldlM_cons, List.foldlM_nil, readMember, legal]
            rfl⟩]
          exact if_pos (by
            simp [requestComplete, commonState, initialRequestState, run, notRgb, memberTokens,
              valueTokens])
      | some colour =>
          obtain ⟨channels, spelledColour, rfl⟩ := spelledBody
          obtain rfl := present.mp rfl
          have read := fun request => (readChannels_eq_some_iff request _ channels).mpr
            ⟨colour, spelledColour, rfl⟩
          have three : channels.length = 3 := length_of_readChannels (read initialRequestState.request)
          rw [common _ ⟨one, _, numeral', positive', by
            simp only [List.foldlM_cons, List.foldlM_nil, readMember, legal, read]
            rfl⟩]
          exact if_pos (by
            simp [requestComplete, commonState, initialRequestState, run, withColour, rgbLed,
              memberTokens, valueTokens, length_channelTokens, three, -List.length_flatMap])
  | stopComponentTest =>
      obtain rfl := spelledBody
      rw [common _ ⟨one, _, numeral', positive', rfl⟩]
      rfl

/-- The members of a kind. -/
def IsOfKind (member : RequestMember) : MemberKind → Prop
  | .protocolVersion => ∃ literal, member = .protocolVersion literal
  | .type => ∃ content, member = .type content
  | .commandId => ∃ literal, member = .commandId literal
  | .testUuid => ∃ content, member = .testUuid content
  | .testType => ∃ content, member = .testType content
  | .parameters => ∃ channels, member = .parameters channels

theorem exists_of_map_eq_cons {members : List RequestMember} {kind : MemberKind}
    {kinds : List MemberKind} (same : members.map memberKind = kind :: kinds) :
    ∃ member others, members = member :: others ∧ IsOfKind member kind ∧
      others.map memberKind = kinds := by
  obtain ⟨member, others, rfl, rfl, rest⟩ := List.map_eq_cons_iff.mp same
  refine ⟨member, others, rfl, ?_, rest⟩
  cases member <;> exact ⟨_, rfl⟩

/-- The members that every request has, when they come first. -/
theorem exists_common {members : List RequestMember} {kinds : List MemberKind}
    (same : members.map memberKind = .protocolVersion :: .type :: .commandId :: kinds) :
    ∃ version name commandId others,
      members = .protocolVersion version :: .type name :: .commandId commandId :: others ∧
        others.map memberKind = kinds := by
  obtain ⟨_, afterVersion, rfl, ⟨version, rfl⟩, rest⟩ := exists_of_map_eq_cons same
  obtain ⟨_, afterType, rfl, ⟨name, rfl⟩, rest'⟩ := exists_of_map_eq_cons rest
  obtain ⟨_, others, rfl, ⟨commandId, rfl⟩, last⟩ := exists_of_map_eq_cons rest'
  exact ⟨version, name, commandId, others, rfl, last⟩

/-- Members that pass the checks are those of an admissible request. -/
theorem exists_spelledBy_of_readMembers {members : List RequestMember}
    {record : JsonProtocolRequest} (read : readMembers members = some record) :
    ∃ request : Request, request.Admissible ∧ request.SpelledBy paddedNumeral members := by
  obtain ⟨state, folds, rest⟩ := Option.bind_eq_some_iff.mp read
  split_ifs at rest with complete
  rw [requestComplete] at complete
  have bounded : ∀ number : UInt32, number.toNat ≤ 2 ^ 32 - 1 := fun number => by
    have := number.toNat_lt
    omega
  -- the members in a fixed order, by the flags that the checks look at
  have order : ∀ kinds : List MemberKind,
      (.protocolVersion :: .type :: .commandId :: kinds : List MemberKind).Nodup →
      (∀ kind, kind ∈ (.protocolVersion :: .type :: .commandId :: kinds : List MemberKind) ↔
        memberSeen state kind = true) →
      ∃ version name commandId others, members.Perm (.protocolVersion version :: .type name ::
          .commandId commandId :: others) ∧ others.map memberKind = kinds ∧
        paddedNumeral 1 version ∧ ∃ number : UInt32, paddedNumeral number.toNat commandId ∧
          1 ≤ number.toNat ∧ others.foldlM readMember (commonState name number) = some state := by
    intro kinds distinct flags
    obtain ⟨ordered, perm, same⟩ := exists_ordered folds distinct flags
    obtain ⟨version, name, commandId, others, rfl, rest⟩ := exists_common same
    rw [foldlM_readMember_perm perm, read_common] at folds
    exact ⟨version, name, commandId, others, perm, rest, folds⟩
  cases named : state.request.type with
  | startTest =>
      simp only [named, Bool.and_eq_true, Bool.not_eq_true'] at complete
      obtain ⟨version, name, commandId, others, perm, same, one, number, numeral, positive, folds⟩ :=
        order [.testUuid] (by decide) (by intro kind; cases kind <;> simp [memberSeen, complete])
      obtain ⟨_, nothing, rfl, ⟨testUuid, rfl⟩, ended⟩ := exists_of_map_eq_cons same
      obtain rfl := List.map_eq_nil_iff.mp ended
      simp only [List.foldlM_cons, List.foldlM_nil, readMember] at folds
      obtain ⟨last, stored, folds⟩ := Option.bind_eq_some_iff.mp folds
      obtain rfl := Option.some.inj folds
      split_ifs at stored with _ legal
      obtain rfl := Option.some.inj stored
      obtain rfl := (requestTypeNamed_iff name).1.mp named
      exact ⟨⟨number.toNat, .startTest testUuid⟩,
        ⟨positive, bounded number, (isTestUuid_iff testUuid).mp legal⟩,
        version, commandId, _, one, numeral, rfl, perm⟩
  | runComponentTest =>
      simp only [named, Bool.and_eq_true, Bool.or_eq_true, Bool.not_eq_true', beq_iff_eq,
        decide_eq_true_eq, decide_eq_false_iff_not] at complete
      obtain ⟨flags, ⟨testTypeSeen, noUuid⟩, ⟨⟨isRgb, _⟩, present⟩ | ⟨⟨notRgb, _⟩, absent⟩⟩ :=
        complete
      · obtain ⟨version, name, commandId, others, perm, same, one, number, numeral, positive,
          folds⟩ := order [.testType, .parameters] (by decide)
            (by intro kind; cases kind <;> simp [memberSeen, flags, testTypeSeen, noUuid, present])
        obtain ⟨_, afterType, rfl, ⟨testType, rfl⟩, rest⟩ := exists_of_map_eq_cons same
        obtain ⟨_, nothing, rfl, ⟨channels, rfl⟩, ended⟩ := exists_of_map_eq_cons rest
        obtain rfl := List.map_eq_nil_iff.mp ended
        simp only [List.foldlM_cons, List.foldlM_nil, readMember] at folds
        obtain ⟨between, stored, folds⟩ := Option.bind_eq_some_iff.mp folds
        split_ifs at stored with _ legal
        obtain rfl := Option.some.inj stored
        obtain ⟨last, stored, folds⟩ := Option.bind_eq_some_iff.mp folds
        obtain rfl := Option.some.inj folds
        split_ifs at stored
        obtain ⟨request, readColour, rfl⟩ := Option.map_eq_some_iff.mp stored
        obtain ⟨colour, spelled, rfl⟩ := (readChannels_eq_some_iff _ _ _).mp readColour
        obtain rfl := (requestTypeNamed_iff name).2.1.mp named
        exact ⟨⟨number.toNat, .runComponentTest testType (some colour)⟩,
          ⟨positive, bounded number, (isTestType_iff testType).mp legal,
            iff_of_true rfl isRgb⟩,
          version, commandId, _, one, numeral, ⟨channels, spelled, rfl⟩, perm⟩
      · obtain ⟨version, name, commandId, others, perm, same, one, number, numeral, positive,
          folds⟩ := order [.testType] (by decide)
            (by intro kind; cases kind <;> simp [memberSeen, flags, testTypeSeen, noUuid, absent])
        obtain ⟨_, nothing, rfl, ⟨testType, rfl⟩, ended⟩ := exists_of_map_eq_cons same
        obtain rfl := List.map_eq_nil_iff.mp ended
        simp only [List.foldlM_cons, List.foldlM_nil, readMember] at folds
        obtain ⟨last, stored, folds⟩ := Option.bind_eq_some_iff.mp folds
        obtain rfl := Option.some.inj folds
        split_ifs at stored with _ legal
        obtain rfl := Option.some.inj stored
        obtain rfl := (requestTypeNamed_iff name).2.1.mp named
        exact ⟨⟨number.toNat, .runComponentTest testType none⟩,
          ⟨positive, bounded number, (isTestType_iff testType).mp legal,
            iff_of_false Bool.false_ne_true notRgb⟩,
          version, commandId, _, one, numeral, rfl, perm⟩
  | stopComponentTest =>
      simp only [named, Bool.and_eq_true, Bool.not_eq_true'] at complete
      obtain ⟨version, name, commandId, others, perm, same, one, number, numeral, positive, folds⟩ :=
        order [] (by decide) (by intro kind; cases kind <;> simp [memberSeen, complete])
      obtain rfl := List.map_eq_nil_iff.mp same
      obtain rfl := Option.some.inj folds
      obtain rfl := (requestTypeNamed_iff name).2.2.mp named
      exact ⟨⟨number.toNat, .stopComponentTest⟩, ⟨positive, bounded number, trivial⟩,
        version, commandId, [], one, numeral, rfl, perm⟩
  | invalid => simp [named] at complete
  | unsupported => simp [named] at complete

/-- **What the checks accept**: the members of an admissible request, in any
order. -/
theorem readMembers_eq_some_iff (members : List RequestMember) (record : JsonProtocolRequest) :
    readMembers members = some record ↔
      ∃ request : Request, request.Admissible ∧ request.SpelledBy paddedNumeral members ∧
        requestRecord request = record := by
  constructor
  · intro read
    obtain ⟨request, admissible, spelled⟩ := exists_spelledBy_of_readMembers read
    have same := (readMembers_of_spelledBy admissible spelled).symm.trans read
    exact ⟨request, admissible, spelled, Option.some.inj same⟩
  · rintro ⟨request, admissible, spelled, rfl⟩
    exact readMembers_of_spelledBy admissible spelled

/-- The record that is filled determines an admissible request. -/
theorem requestRecord_injective {first second : Request} (allowed : first.Admissible)
    (allowed' : second.Admissible) (same : requestRecord first = requestRecord second) :
    first = second := by
  obtain ⟨commandId, body⟩ := first
  obtain ⟨commandId', body'⟩ := second
  have ids : (requestRecord ⟨commandId, body⟩).commandId = UInt32.ofNat commandId ∧
      (requestRecord ⟨commandId', body'⟩).commandId = UInt32.ofNat commandId' := by
    constructor
    · rcases body with _ | ⟨_, _ | _⟩ | _ <;> rfl
    · rcases body' with _ | ⟨_, _ | _⟩ | _ <;> rfl
  obtain rfl : commandId = commandId' := by
    have bound := allowed.bounded
    have bound' := allowed'.bounded
    dsimp only at bound bound'
    have equal : (UInt32.ofNat commandId).toNat = (UInt32.ofNat commandId').toNat := by
      rw [← ids.1, ← ids.2, same]
    rwa [UInt32.toNat_ofNat_of_lt' (show commandId < 2 ^ 32 by omega),
      UInt32.toNat_ofNat_of_lt' (show commandId' < 2 ^ 32 by omega)] at equal
  rcases body with testUuid | ⟨testType, _ | ⟨red, green, blue⟩⟩ | _ <;>
    rcases body' with testUuid' | ⟨testType', _ | ⟨red', green', blue'⟩⟩ | _ <;>
      simp_all [requestRecord, withColour, initialRequestState]

end FlightComputer.Firmware
