import FlightComputer.BoardTester.ComponentMessages
import FlightComputer.Firmware.JsonResponses

/-!
# Component messages from the firmware to the tester

The builders of the firmware and the decoder of the tester were written apart
from each other. Each built message is the text that `json.dumps` would make of a
dictionary (`flatten_testResponsePieces`, `flatten_testEventPieces`), hence one
line of JSON, and the decoder returns what the firmware put in
(`component_messages_round_trip`).
-/

set_option autoImplicit false

namespace FlightComputer

open Library Firmware BoardTester

/-! ## Names -/

/-- A non-empty name in printable ASCII without quotes and backslashes. -/
structure IsPlainName (text : Bytes) : Prop where
  nonempty : text ≠ []
  plain : ∀ byte ∈ text, isPlainStringByte byte = true ∧ byte.toNat ≤ 126

theorem isPlainName_ascii {text : String} (nonempty : (ascii text).isEmpty = false)
    (plain : ((ascii text).all fun byte => isPlainStringByte byte && decide (byte.toNat ≤ 126)) =
      true) : IsPlainName (ascii text) where
  nonempty := by
    rintro empty
    rw [empty] at nonempty
    cases nonempty
  plain := by
    intro byte listed
    have both := List.all_eq_true.mp plain byte listed
    rw [Bool.and_eq_true, decide_eq_true_eq] at both
    exact both

namespace IsPlainName

variable {text : Bytes}

theorem escapeText_eq (named : IsPlainName text) : escapeText (codes text) = text :=
  escapeText_of_plain named.plain

theorem isPlainText (named : IsPlainName text) : IsPlainText (codes text) := by
  intro code listed
  obtain ⟨byte, member, rfl⟩ := List.mem_map.mp listed
  obtain ⟨itself, small⟩ := named.plain byte member
  obtain ⟨large, unquoted⟩ := (isPlainStringByte_iff byte).mp itself
  exact ⟨large, small, unquoted⟩

theorem isEmpty_codes (named : IsPlainName text) : (codes text).isEmpty = false := by
  cases text with
  | nil => exact absurd rfl named.nonempty
  | cons byte text => rfl

end IsPlainName

/-- The strings of an event that its message contains are plain names. -/
structure HasPlainNames (event : Firmware.ComponentTestEvent) : Prop where
  name : ∀ text, event.name = some text → IsPlainName text
  stage : event.kind = .failure → ∀ text, event.failureStage = some text → IsPlainName text
  reason : event.kind = .failure → ∀ text, event.failureReason = some text → IsPlainName text

/-! ## The dictionaries -/

/-- The members that every component message starts with. -/
def messageMembers (messageType : Bytes) (commandId : UInt32) (testType : Bytes) :
    List (PyStr × PyValue) :=
  [(pyStr "protocol_version", .int 1), (pyStr "type", .str (codes messageType)),
    (pyStr "command_id", .int commandId.toNat), (pyStr "test_type", .str (codes testType))]

/-- The dictionary of a lifecycle response. -/
def testResponseMembers (responseType : Bytes) (commandId : UInt32) (testType status : Bytes) :
    List (PyStr × PyValue) :=
  messageMembers responseType commandId testType ++ [(pyStr "status", .str (codes status))]

/-- Three axes. -/
def axes (x y z : Int16) : PyValue :=
  .dict [(pyStr "x", .int x.toInt), (pyStr "y", .int y.toInt), (pyStr "z", .int z.toInt)]

/-- What the `data` of an event carries, if it has any. -/
def eventData (event : Firmware.ComponentTestEvent) : Option (List (PyStr × PyValue)) :=
  match event.kind with
  | .message => none
  | .imuSample => some
      [(pyStr "acceleration_raw",
          axes event.accelerationX event.accelerationY event.accelerationZ),
        (pyStr "gyroscope_raw", axes event.gyroscopeX event.gyroscopeY event.gyroscopeZ)]
  | .barometerSample => some
      [(pyStr "pressure_centi_pa", .int event.pressureCentiPa.toInt),
        (pyStr "temperature_centi_c", .int event.temperatureCentiC.toInt)]
  | .sdCardInfo => some
      [(pyStr "card_type", .str (pyStr (if event.highCapacity then "SDHC/SDXC" else "SDSC"))),
        (pyStr "sector_count", .int event.sectorCount.toNat),
        (pyStr "test_sector", .int event.testSector.toNat),
        (pyStr "checksum", .int event.checksum.toNat)]
  | .failure => some
      [(pyStr "stage", .str (codes (event.failureStage.getD []))),
        (pyStr "reason", .str (codes (event.failureReason.getD []))),
        (pyStr "code", .int event.failureCode.toInt)]

/-- The dictionary of an event. -/
def testEventMembers (commandId : UInt32) (testType name : Bytes)
    (data : Option (List (PyStr × PyValue))) : List (PyStr × PyValue) :=
  messageMembers (ascii "TEST_EVENT") commandId testType ++ (pyStr "event", .str (codes name)) ::
    match data with
    | none => []
    | some members => [(pyStr "data", .dict members)]

/-! ## The built texts -/

/-- **A lifecycle response is the text of its dictionary.** -/
theorem flatten_testResponsePieces {responseType testType status : Bytes} (commandId : UInt32)
    (typed : IsPlainName responseType) (named : IsPlainName testType) (ended : IsPlainName status) :
    (testResponsePieces responseType commandId testType status).flatten =
      dumps (.dict (testResponseMembers responseType commandId testType status)) := by
  simp only [testResponsePieces, testResponseMembers, messageMembers, List.flatten_cons,
    List.flatten_nil, List.cons_append, List.nil_append, List.append_assoc, List.append_nil, dumps,
    dumpsFurther, typed.escapeText_eq, named.escapeText_eq, ended.escapeText_eq]
  rfl

/-- **An event is the text of its dictionary.** -/
theorem flatten_testEventPieces {testType : Bytes} {event : Firmware.ComponentTestEvent}
    {pieces : List Bytes} (commandId : UInt32) (named : IsPlainName testType)
    (names : HasPlainNames event) (built : testEventPieces commandId testType event = some pieces) :
    ∃ name, event.name = some name ∧ pieces.flatten =
      dumps (.dict (testEventMembers commandId testType name (eventData event))) := by
  obtain ⟨name, hasName, built⟩ := Option.bind_eq_some_iff.mp built
  refine ⟨name, hasName, ?_⟩
  have itself := (names.name name hasName).escapeText_eq
  cases kind : event.kind with
  | message =>
      simp only [kind, Option.some.injEq] at built
      rw [← built]
      simp only [messageEventPieces, eventHead, testEventMembers, messageMembers, eventData, kind,
        List.flatten_cons, List.flatten_nil, List.cons_append, List.nil_append, List.append_assoc,
        List.append_nil, dumps, dumpsFurther, named.escapeText_eq, itself]
      rfl
  | imuSample =>
      simp only [kind, Option.some.injEq] at built
      rw [← built]
      simp only [imuEventPieces, eventHead, testEventMembers, messageMembers, eventData, kind, axes,
        List.flatten_cons, List.flatten_nil, List.cons_append, List.nil_append, List.append_assoc,
        List.append_nil, dumps, dumpsFurther, named.escapeText_eq, itself]
      rfl
  | barometerSample =>
      simp only [kind, Option.some.injEq] at built
      rw [← built]
      simp only [barometerEventPieces, eventHead, testEventMembers, messageMembers, eventData, kind,
        List.flatten_cons, List.flatten_nil, List.cons_append, List.nil_append, List.append_assoc,
        List.append_nil, dumps, dumpsFurther, named.escapeText_eq, itself]
      rfl
  | sdCardInfo =>
      simp only [kind, formatUint64_eq, Option.bind_eq_bind, Option.bind_some,
        Option.some.injEq] at built
      rw [← built]
      simp only [sdCardEventPieces, eventHead, testEventMembers, messageMembers, eventData, kind,
        List.flatten_cons, List.flatten_nil, List.cons_append, List.nil_append, List.append_assoc,
        List.append_nil, dumps, dumpsFurther, named.escapeText_eq, itself]
      cases event.highCapacity <;> rfl
  | failure =>
      simp only [kind] at built
      obtain ⟨stage, hasStage, built⟩ := Option.bind_eq_some_iff.mp built
      obtain ⟨reason, hasReason, built⟩ := Option.bind_eq_some_iff.mp built
      rw [← Option.some.inj built]
      simp only [failureEventPieces, eventHead, testEventMembers, messageMembers, eventData, kind,
        List.flatten_cons, List.flatten_nil, List.cons_append, List.nil_append, List.append_assoc,
        List.append_nil, dumps, dumpsFurther, named.escapeText_eq, itself, hasStage, hasReason,
        Option.getD_some, (names.stage kind stage hasStage).escapeText_eq,
        (names.reason kind reason hasReason).escapeText_eq]
      rfl

/-! ## Decoding -/

/-- What was dumped is decoded as the object it is. -/
theorem decodeObject_dumps {members : List (PyStr × PyValue)}
    (plain : (PyValue.dict members).Plain) :
    decodeObject (dumps (.dict members)) = .ok (loadedMembers members) := by
  have low : ∀ byte ∈ dumps (.dict members), byte.toNat < 128 := fun byte listed =>
    Nat.lt_of_le_of_lt (printable_dumps _ byte listed).2 (by decide)
  rw [decodeObject, decodeUtf8_of_ascii low]
  dsimp only
  rw [loads_dumps plain]
  rfl

/-- The members that every message starts with are plain. -/
theorem membersPlain_messageMembers {messageType testType : Bytes} (commandId : UInt32)
    (typed : IsPlainName messageType) (named : IsPlainName testType)
    {later : List (PyStr × PyValue)} (plain : membersPlain later) :
    membersPlain (messageMembers messageType commandId testType ++ later) :=
  ⟨isPlainText_pyStr (by decide), trivial, isPlainText_pyStr (by decide), typed.isPlainText,
    isPlainText_pyStr (by decide), trivial, isPlainText_pyStr (by decide), named.isPlainText, plain⟩

theorem plain_testResponse {responseType testType status : Bytes} (commandId : UInt32)
    (typed : IsPlainName responseType) (named : IsPlainName testType) (ended : IsPlainName status) :
    (PyValue.dict (testResponseMembers responseType commandId testType status)).Plain := by
  refine ⟨?_, membersPlain_messageMembers commandId typed named
    ⟨isPlainText_pyStr (by decide), ended.isPlainText, trivial⟩⟩
  change [pyStr "protocol_version", pyStr "type", pyStr "command_id", pyStr "test_type",
    pyStr "status"].Nodup
  decide

theorem plain_axes (x y z : Int16) : (axes x y z).Plain := by
  refine ⟨?_, isPlainText_pyStr (by decide), trivial, isPlainText_pyStr (by decide), trivial,
    isPlainText_pyStr (by decide), trivial, trivial⟩
  change [pyStr "x", pyStr "y", pyStr "z"].Nodup
  decide

/-- The data of an event is plain, when its failure names its stage and reason. -/
theorem plain_eventData {event : Firmware.ComponentTestEvent} (names : HasPlainNames event)
    (failure : event.kind = .failure →
      event.failureStage.isSome = true ∧ event.failureReason.isSome = true)
    {data : List (PyStr × PyValue)} (carried : eventData event = some data) :
    (PyValue.dict data).Plain := by
  rw [eventData] at carried
  cases kind : event.kind with
  | message =>
      rw [kind] at carried
      cases carried
  | imuSample =>
      rw [kind] at carried
      obtain rfl := Option.some.inj carried
      refine ⟨?_, isPlainText_pyStr (by decide), plain_axes .., isPlainText_pyStr (by decide),
        plain_axes .., trivial⟩
      change [pyStr "acceleration_raw", pyStr "gyroscope_raw"].Nodup
      decide
  | barometerSample =>
      rw [kind] at carried
      obtain rfl := Option.some.inj carried
      refine ⟨?_, isPlainText_pyStr (by decide), trivial, isPlainText_pyStr (by decide), trivial,
        trivial⟩
      change [pyStr "pressure_centi_pa", pyStr "temperature_centi_c"].Nodup
      decide
  | sdCardInfo =>
      rw [kind] at carried
      obtain rfl := Option.some.inj carried
      refine ⟨?_, isPlainText_pyStr (by decide), ?_, isPlainText_pyStr (by decide), trivial,
        isPlainText_pyStr (by decide), trivial, isPlainText_pyStr (by decide), trivial, trivial⟩
      · change [pyStr "card_type", pyStr "sector_count", pyStr "test_sector",
          pyStr "checksum"].Nodup
        decide
      · cases event.highCapacity <;> exact isPlainText_pyStr (by decide)
  | failure =>
      obtain ⟨stage, hasStage⟩ := Option.isSome_iff_exists.mp (failure kind).1
      obtain ⟨reason, hasReason⟩ := Option.isSome_iff_exists.mp (failure kind).2
      rw [kind, hasStage, hasReason] at carried
      obtain rfl := Option.some.inj carried
      refine ⟨?_, isPlainText_pyStr (by decide), (names.stage kind stage hasStage).isPlainText,
        isPlainText_pyStr (by decide), (names.reason kind reason hasReason).isPlainText,
        isPlainText_pyStr (by decide), trivial, trivial⟩
      change [pyStr "stage", pyStr "reason", pyStr "code"].Nodup
      decide

/-- A failure that was built names its stage and reason. -/
theorem isSome_of_testEventPieces {commandId : UInt32} {testType : Bytes}
    {event : Firmware.ComponentTestEvent} {pieces : List Bytes}
    (built : testEventPieces commandId testType event = some pieces)
    (kind : event.kind = .failure) :
    event.failureStage.isSome = true ∧ event.failureReason.isSome = true := by
  obtain ⟨name, _, built⟩ := Option.bind_eq_some_iff.mp built
  simp only [kind] at built
  obtain ⟨stage, hasStage, built⟩ := Option.bind_eq_some_iff.mp built
  obtain ⟨reason, hasReason, _⟩ := Option.bind_eq_some_iff.mp built
  exact ⟨Option.isSome_iff_exists.mpr ⟨stage, hasStage⟩,
    Option.isSome_iff_exists.mpr ⟨reason, hasReason⟩⟩

theorem plain_testEvent {testType name : Bytes} (commandId : UInt32) (named : IsPlainName testType)
    (hasName : IsPlainName name) {data : Option (List (PyStr × PyValue))}
    (plain : ∀ members, data = some members → (PyValue.dict members).Plain) :
    (PyValue.dict (testEventMembers commandId testType name data)).Plain := by
  have typed : IsPlainName (ascii "TEST_EVENT") := isPlainName_ascii (by decide) (by decide)
  cases data with
  | none =>
      refine ⟨?_, membersPlain_messageMembers commandId typed named
        ⟨isPlainText_pyStr (by decide), hasName.isPlainText, trivial⟩⟩
      change [pyStr "protocol_version", pyStr "type", pyStr "command_id", pyStr "test_type",
        pyStr "event"].Nodup
      decide
  | some members =>
      refine ⟨?_, membersPlain_messageMembers commandId typed named
        ⟨isPlainText_pyStr (by decide), hasName.isPlainText, isPlainText_pyStr (by decide),
          plain members rfl, trivial⟩⟩
      change [pyStr "protocol_version", pyStr "type", pyStr "command_id", pyStr "test_type",
        pyStr "event", pyStr "data"].Nodup
      decide

section Messages

variable {commandId : UInt32} {testType : Bytes} (positive : commandId ≠ 0)
  (named : IsPlainName testType)
include positive named

/-- The identifier and the type of a message are those that are expected. -/
theorem matching_of_lookup {response : PyDict}
    (hasId : response.lookup (pyStr "command_id") = some (.int commandId.toNat))
    (hasType : response.lookup (pyStr "test_type") = some (.str (codes testType))) :
    matchingCommandId response commandId.toNat = .ok (commandId.toNat : Int) ∧
      matchingTestType response (codes testType) = .ok (codes testType) := by
  have nonzero : commandId.toNat ≠ 0 := fun zero => positive (UInt32.toNat_inj.mp zero)
  constructor
  · rw [matchingCommandId, requirePositiveInteger_eq hasId (by omega)]
    exact if_neg (fun other => other rfl)
  · rw [matchingTestType, requireString_eq hasType named.isEmpty_codes]
    exact if_neg (fun other => other rfl)

/-- **The decoder returns the lifecycle response.** -/
theorem decode_testResponse {messageType : String} {status : Bytes} (ended : IsPlainName status)
    (lifecycle : messageType = "TEST_STARTED" ∨ messageType = "TEST_COMPLETED" ∨
      messageType = "TEST_STOPPED")
    (expected : (expectedStatuses (pyStr messageType)).contains (codes status) = true) :
    decodeComponentTestMessage
        (dumps (.dict (testResponseMembers (ascii messageType) commandId testType status)))
        commandId.toNat (codes testType) =
      .ok (if pyStr messageType = pyStr "TEST_COMPLETED" then
          .completion ⟨commandId.toNat, codes testType, codes status⟩
        else .acknowledgement (pyStr messageType)) := by
  have typed : IsPlainName (ascii messageType) := by
    rcases lifecycle with rfl | rfl | rfl <;> exact isPlainName_ascii (by decide) (by decide)
  have plain := plain_testResponse commandId typed named ended
  rw [decodeComponentTestMessage, decodeObject_dumps plain]
  generalize received :
    loadedMembers (testResponseMembers (ascii messageType) commandId testType status) = response
  have version : isProtocolVersion (response.lookup (pyStr "protocol_version")) = true :=
    received ▸ rfl
  have hasStatus : response.lookup (pyStr "status") = some (.str (codes status)) := received ▸ rfl
  have keys : requireKeys response
      [pyStr "protocol_version", pyStr "type", pyStr "command_id", pyStr "test_type",
        pyStr "status"] (pyStr "response") = .ok () := received ▸ rfl
  obtain ⟨matchesId, matchesType⟩ :=
    @matching_of_lookup commandId testType positive named response (received ▸ rfl) (received ▸ rfl)
  change decodeComponentTestResponse response commandId.toNat (codes testType) = _
  rw [decodeComponentTestResponse_lifecycle _ _ version (received ▸ rfl) lifecycle,
    decodeLifecycleResponse, keys, matchesId, matchesType,
    requireString_eq hasStatus ended.isEmpty_codes]
  dsimp only [bind, Except.bind]
  rw [expected, if_neg (by decide)]
  split_ifs <;> rfl

/-- **The decoder returns the event.** -/
theorem decode_testEvent {name : Bytes} (hasName : IsPlainName name)
    {data : Option (List (PyStr × PyValue))}
    (plain : ∀ members, data = some members → (PyValue.dict members).Plain) :
    decodeComponentTestMessage (dumps (.dict (testEventMembers commandId testType name data)))
        commandId.toNat (codes testType) =
      .ok (.event ⟨commandId.toNat, codes testType, codes name, data.map loadedMembers⟩) := by
  rw [decodeComponentTestMessage,
    decodeObject_dumps (plain_testEvent commandId named hasName plain)]
  generalize received : loadedMembers (testEventMembers commandId testType name data) = response
  have version : isProtocolVersion (response.lookup (pyStr "protocol_version")) = true :=
    received ▸ rfl
  have hasEvent : response.lookup (pyStr "event") = some (.str (codes name)) := received ▸ rfl
  have hasData : response.lookup (pyStr "data") =
      data.map fun members => PyJson.dict (loadedMembers members) := by
    rw [← received]
    cases data <;> rfl
  have fields : ((response.map Prod.fst).any
        (fun key => !(requiredEventFields ++ [pyStr "data"]).contains key) ||
      requiredEventFields.any fun key => !(response.map Prod.fst).contains key) = false := by
    rw [← received]
    cases data <;> rfl
  obtain ⟨matchesId, matchesType⟩ :=
    @matching_of_lookup commandId testType positive named response (received ▸ rfl) (received ▸ rfl)
  change decodeComponentTestResponse response commandId.toNat (codes testType) = _
  rw [decodeComponentTestResponse_event _ _ version (received ▸ rfl), decodeEvent]
  dsimp only
  rw [fields, hasData, if_neg Bool.false_ne_true, matchesId, matchesType,
    requireString_eq hasEvent hasName.isEmpty_codes]
  cases data <;> rfl

end Messages

/-! ## The round trip -/

/-- One line of JSON, of the length that is reported for it. -/
structure IsMessageLine (destination : Bytes) (length : Nat) : Prop where
  length_eq : destination.length = length
  oneLine : lineFeed ∉ destination ∧ carriageReturn ∉ destination
  isJson : ∃ tree, IsJsonText destination tree

/-- The text of a dictionary is one line. -/
theorem isMessageLine_dumps (value : PyValue) : IsMessageLine (dumps value) (dumps value).length where
  length_eq := rfl
  oneLine :=
    ⟨fun listed => absurd (printable_dumps value _ listed).1 (by decide),
      fun listed => absurd (printable_dumps value _ listed).1 (by decide)⟩
  isJson := ⟨_, isJsonText_dumps value⟩

/-- A lifecycle response that is built is one line, and decoded as `answer`. -/
def TestResponseArrives (commandId : UInt32) (testType : Bytes) (messageType : String)
    (status : String) (answer : ComponentTestMessage) : Prop :=
  ∀ (capacity : Nat) (destination : Bytes) (length : Nat),
    jsonProtocolBuildTestResponse (ascii messageType) commandId testType (ascii status) capacity =
        some (destination, length) →
      IsMessageLine destination length ∧
        decodeComponentTestMessage destination commandId.toNat (codes testType) = .ok answer

/-- **The messages of a component test arrive as they were sent.** Each event and
each lifecycle response that the firmware builds is one line of JSON of the
reported length, and the tester decodes it to the same names, statuses and
numbers. -/
theorem component_messages_round_trip {commandId : UInt32} {testType : Bytes}
    (positive : commandId ≠ 0) (named : IsPlainName testType) :
    (∀ (event : Firmware.ComponentTestEvent) (capacity : Nat) (destination : Bytes) (length : Nat),
      HasPlainNames event →
      jsonProtocolBuildTestEvent commandId (some testType) (some event) capacity =
          some (destination, length) →
        IsMessageLine destination length ∧ ∃ name, event.name = some name ∧
          decodeComponentTestMessage destination commandId.toNat (codes testType) =
            .ok (.event ⟨commandId.toNat, codes testType, codes name,
              (eventData event).map loadedMembers⟩)) ∧
      TestResponseArrives commandId testType "TEST_STARTED" "running"
        (.acknowledgement (pyStr "TEST_STARTED")) ∧
      TestResponseArrives commandId testType "TEST_STOPPED" "stopped"
        (.acknowledgement (pyStr "TEST_STOPPED")) ∧
      TestResponseArrives commandId testType "TEST_COMPLETED" "passed"
        (.completion ⟨commandId.toNat, codes testType, pyStr "passed"⟩) ∧
      TestResponseArrives commandId testType "TEST_COMPLETED" "failed"
        (.completion ⟨commandId.toNat, codes testType, pyStr "failed"⟩) := by
  have response : ∀ messageType status : String, IsPlainName (ascii messageType) →
      IsPlainName (ascii status) →
      (messageType = "TEST_STARTED" ∨ messageType = "TEST_COMPLETED" ∨
        messageType = "TEST_STOPPED") →
      (expectedStatuses (pyStr messageType)).contains (pyStr status) = true →
      TestResponseArrives commandId testType messageType status
        (if pyStr messageType = pyStr "TEST_COMPLETED" then
          .completion ⟨commandId.toNat, codes testType, pyStr status⟩
        else .acknowledgement (pyStr messageType)) := by
    intro messageType status typed ended lifecycle expected capacity destination length built
    obtain ⟨_, rfl, rfl⟩ := (written_eq_some_iff ..).mp built
    rw [flatten_testResponsePieces commandId typed named ended]
    exact ⟨isMessageLine_dumps _, decode_testResponse positive named ended lifecycle expected⟩
  refine ⟨?_, ?_, ?_, ?_, ?_⟩
  · intro event capacity destination length names built
    obtain ⟨pieces, spelled, built⟩ := Option.bind_eq_some_iff.mp built
    obtain ⟨_, rfl, rfl⟩ := (written_eq_some_iff ..).mp built
    obtain ⟨name, hasName, same⟩ := flatten_testEventPieces commandId named names spelled
    rw [same]
    exact ⟨isMessageLine_dumps _, name, hasName,
      decode_testEvent positive named (names.name name hasName) fun data carried =>
        plain_eventData names (isSome_of_testEventPieces spelled) carried⟩
  · exact response "TEST_STARTED" "running" (isPlainName_ascii (by decide) (by decide))
      (isPlainName_ascii (by decide) (by decide)) (.inl rfl) (by decide)
  · exact response "TEST_STOPPED" "stopped" (isPlainName_ascii (by decide) (by decide))
      (isPlainName_ascii (by decide) (by decide)) (.inr (.inr rfl)) (by decide)
  · exact response "TEST_COMPLETED" "passed" (isPlainName_ascii (by decide) (by decide))
      (isPlainName_ascii (by decide) (by decide)) (.inr (.inl rfl)) (by decide)
  · exact response "TEST_COMPLETED" "failed" (isPlainName_ascii (by decide) (by decide))
      (isPlainName_ascii (by decide) (by decide)) (.inr (.inl rfl)) (by decide)

/-- The largest sector count. -/
def largestCardEvent : Firmware.ComponentTestEvent where
  kind := .sdCardInfo
  name := some (ascii "sd_card_written")
  sectorCount := 18446744073709551615

/-- The largest sector count arrives exactly. -/
theorem component_messages_round_trip_sector_count :
    ∃ destination length,
      jsonProtocolBuildTestEvent 1 (some (ascii "sd_card")) (some largestCardEvent) 4097 =
          some (destination, length) ∧
        IsMessageLine destination length ∧
        decodeComponentTestMessage destination 1 (pyStr "sd_card") =
          .ok (.event ⟨1, pyStr "sd_card", pyStr "sd_card_written",
            some [(pyStr "card_type", .str (pyStr "SDSC")),
              (pyStr "sector_count", .int 18446744073709551615), (pyStr "test_sector", .int 0),
              (pyStr "checksum", .int 0)]⟩) := by
  have built : (jsonProtocolBuildTestEvent 1 (some (ascii "sd_card")) (some largestCardEvent)
      4097).isSome = true := by decide +kernel
  obtain ⟨⟨destination, length⟩, spelled⟩ := Option.isSome_iff_exists.mp built
  have names : HasPlainNames largestCardEvent := by
    refine ⟨?_, nofun, nofun⟩
    rintro text ⟨⟩
    exact isPlainName_ascii (by decide) (by decide)
  obtain ⟨line, name, hasName, decoded⟩ := (component_messages_round_trip (by decide)
    (isPlainName_ascii (by decide) (by decide))).1 _ _ _ _ names spelled
  obtain rfl : ascii "sd_card_written" = name := Option.some.inj hasName
  exact ⟨destination, length, spelled, line, decoded⟩

end FlightComputer
