import FlightComputer.BoardTester.JsonEncoding
import FlightComputer.Requests

/-!
# The encoders of requests

`encode_start_test`, `encode_run_component_test` and `encode_stop_component_test`
of the tester. Given the values of a valid request, each makes a text of this
request (`exists_bytes_of_encoderCall`).
-/

set_option autoImplicit false

namespace FlightComputer.BoardTester

open Library

/-- `ValueError`, with its message. -/
structure ValueError where
  message : String
  deriving DecidableEq

/-- `PROTOCOL_VERSION` -/
def protocolVersion : Int := 1

/-- `uuid.UUID`: its hexadecimal digits. -/
structure UUID where
  digits : List (Fin 16)
  length : digits.length = 32

/-- `UUID.hex` -/
def UUID.hex (uuid : UUID) : Bytes := uuid.digits.map fun digit : Fin 16 => hexDigitByte digit.val

/-- `str(uuid)` -/
def UUID.str (uuid : UUID) : Bytes :=
  uuid.hex.take 8 ++ '-'.toUInt8 :: ((uuid.hex.drop 8).take 4 ++ '-'.toUInt8 ::
    ((uuid.hex.drop 12).take 4 ++ '-'.toUInt8 :: ((uuid.hex.drop 16).take 4 ++ '-'.toUInt8 ::
      uuid.hex.drop 20)))

/-- `uuid.version == 4`, which includes that the variant is that of the RFC. -/
def UUID.IsVersion4 (uuid : UUID) : Prop :=
  uuid.digits[12]? = some 4 ∧ ∃ variant : Fin 16, uuid.digits[16]? = some variant ∧
    8 ≤ variant ∧ variant ≤ 11

/-- `validate_command_id`, for an integer. -/
def validateCommandId (commandId : Int) : Except ValueError Unit :=
  if commandId ≤ 0 then .error ⟨"command_id must be a positive integer"⟩ else .ok ()

/-- A character of the pattern of `validate_test_type`. -/
def isTestTypeCode (code : Nat) : Bool :=
  (decide (97 ≤ code) && decide (code ≤ 122)) || isDecimalDigit code || code == 95

/-- `validate_test_type`, for a string. -/
def validateTestType (testType : PyStr) (location : String) : Except ValueError Unit :=
  if testType ≠ [] ∧ testType.all isTestTypeCode then .ok ()
  else .error ⟨location ++ " must be lowercase letters, digits, or underscores"⟩

/-- `parameters.keys() != {"red", "green", "blue"}`, negated. -/
def hasRgbKeys (parameters : List (PyStr × Int)) : Bool :=
  let keys := parameters.map Prod.fst
  let names := [pyStr "red", pyStr "green", pyStr "blue"]
  keys.all (fun key => names.contains key) && names.all (fun name => keys.contains name)

/-- `encode_start_test` -/
def encodeStartTest (commandId : Int) (testUuid : UUID) : Except ValueError Bytes := do
  validateCommandId commandId
  return dumps (.dict
    [(pyStr "protocol_version", .int protocolVersion), (pyStr "type", .str (pyStr "START_TEST")),
      (pyStr "command_id", .int commandId), (pyStr "test_uuid", .str (codes testUuid.str))])

/-- `encode_run_component_test`; the dictionary of parameters is given by its
items. -/
def encodeRunComponentTest (commandId : Int) (testType : PyStr)
    (parameters : Option (List (PyStr × Int))) : Except ValueError Bytes := do
  validateCommandId commandId
  validateTestType testType "test_type"
  let request : List (PyStr × PyValue) :=
    [(pyStr "protocol_version", .int protocolVersion),
      (pyStr "type", .str (pyStr "RUN_COMPONENT_TEST")), (pyStr "command_id", .int commandId),
      (pyStr "test_type", .str testType)]
  match parameters with
  | none => return dumps (.dict request)
  | some parameters =>
      if !hasRgbKeys parameters then
        .error ⟨"RGB parameters must contain red, green, and blue"⟩
      else if parameters.any fun item => decide (item.2 < 0) || decide (255 < item.2) then
        .error ⟨"RGB parameters must be integers from 0 through 255"⟩
      else
        return dumps (.dict (request ++ [(pyStr "parameters",
          .dict (parameters.map fun item => (item.1, .int item.2)))]))

/-- `encode_stop_component_test` -/
def encodeStopComponentTest (commandId : Int) : Except ValueError Bytes := do
  validateCommandId commandId
  return dumps (.dict
    [(pyStr "protocol_version", .int protocolVersion),
      (pyStr "type", .str (pyStr "STOP_COMPONENT_TEST")), (pyStr "command_id", .int commandId)])

/-- The items of a dictionary of parameters. -/
def colourItem (channel : RgbChannel × UInt8) : PyStr × Int :=
  (codes channel.1.name, channel.2.toNat)

/-- The channels of a colour. -/
def colourChannels (colour : RgbColour) : List (RgbChannel × UInt8) :=
  [(.red, colour.red), (.green, colour.green), (.blue, colour.blue)]

/-- **The calls that encode a request.** The items of the dictionary of
parameters stand in any order. -/
inductive EncoderCall : Request → Except ValueError Bytes → Prop where
  | startTest (commandId : Nat) (testUuid : UUID) :
      EncoderCall ⟨commandId, .startTest testUuid.str⟩ (encodeStartTest commandId testUuid)
  | runComponentTest (commandId : Nat) (testType : Bytes) :
      EncoderCall ⟨commandId, .runComponentTest testType none⟩
        (encodeRunComponentTest commandId (codes testType) none)
  | runRgbTest (commandId : Nat) (testType : Bytes) (colour : RgbColour)
      (channels : List (RgbChannel × UInt8)) (perm : channels.Perm (colourChannels colour)) :
      EncoderCall ⟨commandId, .runComponentTest testType (some colour)⟩
        (encodeRunComponentTest commandId (codes testType) (some (channels.map colourItem)))
  | stopComponentTest (commandId : Nat) :
      EncoderCall ⟨commandId, .stopComponentTest⟩ (encodeStopComponentTest commandId)

/-! ## UUIDs -/

theorem UUID.length_hex (uuid : UUID) : uuid.hex.length = 32 := by
  rw [UUID.hex, List.length_map, uuid.length]

theorem UUID.isLowerHexDigit_of_mem_hex (uuid : UUID) :
    ∀ byte ∈ uuid.hex, isLowerHexDigit byte = true := by
  intro byte listed
  obtain ⟨digit, _, rfl⟩ := List.mem_map.mp listed
  have each : ∀ digit : Fin 16, isLowerHexDigit (hexDigitByte digit.val) = true := by decide
  exact each digit

/-- Where a byte of a hyphenated text comes from. -/
theorem getElem?_hyphenated {first rest : Bytes} {hyphen byte : UInt8} {index : Nat}
    (found : (first ++ hyphen :: rest)[index]? = some byte) :
    byte ∈ first ∨ index = first.length ∨
      ∃ later, index = first.length + 1 + later ∧ rest[later]? = some byte := by
  rcases Nat.lt_trichotomy index first.length with early | rfl | late
  · rw [List.getElem?_append_left early] at found
    exact .inl (List.mem_of_getElem? found)
  · exact .inr (.inl rfl)
  · obtain ⟨later, rfl⟩ : ∃ later, index = first.length + 1 + later :=
      ⟨index - (first.length + 1), by omega⟩
    refine .inr (.inr ⟨later, rfl, ?_⟩)
    rw [List.getElem?_append_right (by omega), Nat.add_assoc, Nat.add_sub_cancel_left,
      Nat.add_comm, List.getElem?_cons_succ] at found
    exact found

/-- **The text of a UUID object is canonical.** -/
theorem UUID.isCanonicalUuid_str (uuid : UUID) : IsCanonicalUuid uuid.str := by
  have length := uuid.length_hex
  have inHex := uuid.isLowerHexDigit_of_mem_hex
  refine ⟨by simp [UUID.str, length], fun index hyphen => ?_, fun index byte found unlisted => ?_⟩
  · simp only [uuidHyphens, List.mem_cons, List.not_mem_nil, or_false] at hyphen
    rcases hyphen with rfl | rfl | rfl | rfl
    all_goals simp [UUID.str, length]
  · simp only [uuidHyphens, List.mem_cons, List.not_mem_nil, or_false, not_or] at unlisted
    rw [UUID.str] at found
    rcases getElem?_hyphenated found with inside | rfl | ⟨second, rfl, inSecond⟩
    · exact inHex byte (List.mem_of_mem_take inside)
    · simp [length] at unlisted
    rcases getElem?_hyphenated inSecond with inside | hyphen | ⟨third, rfl, inThird⟩
    · exact inHex byte (List.mem_of_mem_drop (List.mem_of_mem_take inside))
    · simp [length, hyphen] at unlisted
    rcases getElem?_hyphenated inThird with inside | hyphen | ⟨fourth, rfl, inFourth⟩
    · exact inHex byte (List.mem_of_mem_drop (List.mem_of_mem_take inside))
    · simp [length, hyphen] at unlisted
    rcases getElem?_hyphenated inFourth with inside | hyphen | ⟨fifth, rfl, inFifth⟩
    · exact inHex byte (List.mem_of_mem_drop (List.mem_of_mem_take inside))
    · simp [length, hyphen] at unlisted
    · exact inHex byte (List.mem_of_mem_drop (List.mem_of_getElem? inFifth))

/-! ## What the encoders make -/

theorem escapeText_pyStr {text : String}
    (plain : ((ascii text).all fun byte => isPlainStringByte byte && decide (byte.toNat ≤ 126)) =
      true) : escapeText (pyStr text) = ascii text := by
  refine escapeText_of_plain fun byte listed => ?_
  have both := List.all_eq_true.mp plain byte listed
  simpa using both

theorem validateCommandId_ok {commandId : Nat} (positive : 1 ≤ commandId) :
    validateCommandId commandId = .ok () := if_neg (by omega)

theorem validateTestType_ok {testType : Bytes} (named : IsTestTypeName testType)
    (location : String) : validateTestType (codes testType) location = .ok () := by
  refine if_pos ⟨?_, ?_⟩
  · have nonempty := named.nonempty
    intro empty
    have := congrArg List.length empty
    rw [length_codes, List.length_nil] at this
    omega
  · rw [codes, List.all_map, List.all_eq_true]
    intro byte listed
    have legal := named.bytes byte listed
    simp only [isTestTypeByte, Bool.or_eq_true, beq_iff_eq] at legal
    simp only [Function.comp_apply, isTestTypeCode, Bool.or_eq_true, beq_iff_eq]
    rcases legal with (letter | digit) | rfl
    · exact .inl (.inl letter)
    · exact .inl (.inr digit)
    · exact .inr rfl

/-- The members that every encoder writes first. -/
theorem dumpsMembers_common (name : String) (commandId : Nat) (others : List (PyStr × PyValue))
    (plain : escapeText (pyStr name) = ascii name) :
    dumpsMembers ((pyStr "protocol_version", .int protocolVersion) ::
        (pyStr "type", .str (pyStr name)) :: (pyStr "command_id", .int commandId) :: others) =
      memberTree (.protocolVersion (decimalText 1)) :: memberTree (.type (ascii name)) ::
        memberTree (.commandId (decimalText commandId)) :: dumpsMembers others := by
  rw [dumpsMembers, dumpsMembers, dumpsMembers, dumpsTree, dumpsTree, dumpsTree, plain,
    @escapeText_pyStr "protocol_version" (by decide), @escapeText_pyStr "type" (by decide),
    @escapeText_pyStr "command_id" (by decide)]
  rfl

/-- The member that encodes the parameters. -/
def parameterChannels (channels : List (RgbChannel × UInt8)) : List ChannelMember :=
  channels.map fun channel => (channel.1, decimalText channel.2.toNat)

theorem dumpsMembers_parameters (channels : List (RgbChannel × UInt8)) :
    dumpsMembers ((channels.map colourItem).map fun item => (item.1, .int item.2)) =
      (parameterChannels channels).map channelTree := by
  induction channels with
  | nil => rfl
  | cons channel channels ih =>
      have name : escapeText (codes channel.1.name) = channel.1.name := by
        cases channel.1
        · exact @escapeText_pyStr "red" (by decide)
        · exact @escapeText_pyStr "green" (by decide)
        · exact @escapeText_pyStr "blue" (by decide)
      rw [List.map_cons, List.map_cons, dumpsMembers, ih, colourItem, name, dumpsTree]
      rfl

theorem hasRgbKeys_of_perm {colour : RgbColour} {channels : List (RgbChannel × UInt8)}
    (perm : channels.Perm (colourChannels colour)) :
    hasRgbKeys (channels.map colourItem) = true := by
  have keys : ((channels.map colourItem).map Prod.fst).Perm
      [pyStr "red", pyStr "green", pyStr "blue"] := by
    rw [List.map_map]
    exact perm.map _
  rw [hasRgbKeys, Bool.and_eq_true, List.all_eq_true, List.all_eq_true]
  simp only [List.contains_iff_mem]
  exact ⟨fun key listed => keys.mem_iff.mp listed, fun name listed => keys.mem_iff.mpr listed⟩

/-- The channels of a colour are bytes. -/
theorem any_outOfRange_colourItem (channels : List (RgbChannel × UInt8)) :
    ((channels.map colourItem).any fun item =>
      decide (item.2 < 0) || decide (255 < item.2)) = false := by
  rw [List.any_map, List.any_eq_false]
  intro channel _
  have bound := channel.2.toNat_lt
  have low : ¬(channel.2.toNat : Int) < 0 := by omega
  have high : ¬255 < (channel.2.toNat : Int) := by omega
  simp [colourItem, low, high]

/-- **The encoders make texts of requests.** -/
theorem exists_bytes_of_encoderCall {request : Request} (admissible : request.Admissible)
    {result : Except ValueError Bytes} (call : EncoderCall request result) :
    ∃ bytes, result = .ok bytes ∧ request.IsText bytes := by
  obtain ⟨positive, _, allowed⟩ := admissible
  -- what `json.dumps` makes of the members is a text of the request
  have text : ∀ (request : Request) (members : List RequestMember)
      (items : List (PyStr × PyValue)), dumpsMembers items = members.map memberTree →
        request.SpelledBy plainNumeral members → request.IsText (dumps (.dict items)) := by
    intro request members items same spelled
    have json := isJsonText_dumps (.dict items)
    rw [dumpsTree, same] at json
    exact ⟨members, spelled, json⟩
  have testTypeKey := @escapeText_pyStr "test_type" (by decide)
  cases call with
  | startTest commandId testUuid =>
      rw [encodeStartTest, validateCommandId_ok positive]
      refine ⟨_, rfl, text _ [.protocolVersion (decimalText 1), .type (ascii "START_TEST"),
        .commandId (decimalText commandId), .testUuid testUuid.str] _ ?_
        ⟨_, _, _, rfl, rfl, rfl, List.Perm.refl _⟩⟩
      rw [dumpsMembers_common "START_TEST" commandId _ (escapeText_pyStr (by decide)), dumpsMembers,
        dumpsTree, escapeText_of_plain allowed.1.plain, @escapeText_pyStr "test_uuid" (by decide)]
      rfl
  | runComponentTest commandId testType =>
      rw [encodeRunComponentTest, validateCommandId_ok positive, validateTestType_ok allowed.1]
      refine ⟨_, rfl, text _ [.protocolVersion (decimalText 1), .type (ascii "RUN_COMPONENT_TEST"),
        .commandId (decimalText commandId), .testType testType] _ ?_
        ⟨_, _, _, rfl, rfl, rfl, List.Perm.refl _⟩⟩
      rw [dumpsMembers_common "RUN_COMPONENT_TEST" commandId _ (escapeText_pyStr (by decide)),
        dumpsMembers, dumpsTree, escapeText_of_plain allowed.1.plain, testTypeKey]
      rfl
  | runRgbTest commandId testType colour channels perm =>
      rw [encodeRunComponentTest, validateCommandId_ok positive, validateTestType_ok allowed.1]
      dsimp only
      refine ⟨_, by
        rw [hasRgbKeys_of_perm perm, any_outOfRange_colourItem]
        rfl, text _ [.protocolVersion (decimalText 1), .type (ascii "RUN_COMPONENT_TEST"),
        .commandId (decimalText commandId), .testType testType,
        .parameters (parameterChannels channels)] _ ?_ ⟨_, _, _, rfl, rfl, ?_, List.Perm.refl _⟩⟩
      · rw [List.cons_append, List.cons_append, List.cons_append, List.cons_append, List.nil_append,
          dumpsMembers_common "RUN_COMPONENT_TEST" commandId _ (escapeText_pyStr (by decide)),
          dumpsMembers, dumpsMembers, dumpsTree, dumpsTree, escapeText_of_plain allowed.1.plain,
          testTypeKey, @escapeText_pyStr "parameters" (by decide), dumpsMembers_parameters]
        rfl
      · exact ⟨parameterChannels channels, ⟨_, _, _, rfl, rfl, rfl, perm.map _⟩, rfl⟩
  | stopComponentTest commandId =>
      rw [encodeStopComponentTest, validateCommandId_ok positive]
      refine ⟨_, rfl, text _ [.protocolVersion (decimalText 1), .type (ascii "STOP_COMPONENT_TEST"),
        .commandId (decimalText commandId)] _ ?_ ⟨_, _, _, rfl, rfl, rfl, List.Perm.refl _⟩⟩
      rw [dumpsMembers_common "STOP_COMPONENT_TEST" commandId _ (escapeText_pyStr (by decide))]
      rfl

end FlightComputer.BoardTester
