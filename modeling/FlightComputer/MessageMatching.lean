import FlightComputer.BoardTester.ResponseContract
import FlightComputer.DeviceErrors
import FlightComputer.Firmware.ComponentEvents

/-!
# Which messages the tester takes for what

The tester decodes each line with the command id and the type of the test that it expects. Whatever
these are, a line of the firmware is only taken for what it is: an event of the firmware for an
event of its own test (`decode_eventLine`), and a lifecycle message for a message of its own kind,
test and status (`decode_testMessage`). No error is taken for anything.
-/

set_option autoImplicit false

namespace FlightComputer

open Library Firmware BoardTester

/-! ## Texts -/

/-- The name of a test type needs no escapes. -/
theorem isPlainName_of_isTestTypeName {text : Bytes} (named : IsTestTypeName text) :
    IsPlainName text where
  nonempty := by
    rintro rfl
    exact absurd named.nonempty (by decide)
  plain := named.plain

theorem isPlainName_of_isLabel {text : Bytes} (label : IsLabel text) : IsPlainName text :=
  ⟨label.nonempty, label.plain⟩

theorem hasPlainNames_of_isLabelled {event : Firmware.ComponentTestEvent}
    (labelled : event.IsLabelled) : HasPlainNames event where
  name text hasName := by
    obtain ⟨name, hasName', label⟩ := labelled.name
    obtain rfl := Option.some.inj (hasName'.symm.trans hasName)
    exact isPlainName_of_isLabel label
  stage kind text hasStage := by
    obtain ⟨stage, _, hasStage', _, staged, _⟩ := labelled.failure kind
    obtain rfl := Option.some.inj (hasStage'.symm.trans hasStage)
    exact isPlainName_of_isLabel staged
  reason kind text hasReason := by
    obtain ⟨_, reason, _, hasReason', _, reasoned⟩ := labelled.failure kind
    obtain rfl := Option.some.inj (hasReason'.symm.trans hasReason)
    exact isPlainName_of_isLabel reasoned

/-! ## What a decoded line says -/

/-- A decoded line names the command and the test that were expected. -/
theorem lookup_of_decoded {line : Bytes} {object : PyDict} (read : decodeObject line = .ok object)
    {commandId : Int} {testType : PyStr} {message : ComponentTestMessage}
    (decoded : decodeComponentTestMessage line commandId testType = .ok message) :
    object.lookup (pyStr "command_id") = some (.int commandId) ∧
      object.lookup (pyStr "test_type") = some (.str testType) := by
  obtain ⟨object', text, kind⟩ :=
    (exists_decodeComponentTestMessage_iff line commandId testType).mp ⟨message, decoded⟩
  obtain rfl := Except.ok.inj (read.symm.trans ((decodeObject_eq_ok_iff line object').mpr text))
  exact ⟨kind.correlated.1, kind.tested.1⟩

section Lines

variable {id : UInt32} {type : Bytes} (positive : id ≠ 0) (named : IsTestTypeName type)
include positive named

/-- **An event is taken for an event of its test.** -/
theorem decode_eventLine {event : Firmware.ComponentTestEvent} (labelled : event.IsLabelled)
    {line : Bytes} (built : eventLine id (some type) (some event) = some line) {commandId : Int}
    {testType : PyStr} {message : ComponentTestMessage}
    (decoded : decodeComponentTestMessage line commandId testType = .ok message) :
    (commandId = id.toNat ∧ testType = codes type) ∧ ∃ told, message = .event told := by
  have plain := isPlainName_of_isTestTypeName named
  have names := hasPlainNames_of_isLabelled labelled
  obtain ⟨type', event', pieces, same, same', spelled, rfl, _⟩ := eventLine_eq_some built
  obtain rfl := Option.some.inj same
  obtain rfl := Option.some.inj same'
  obtain ⟨name, hasName, text⟩ := flatten_testEventPieces id plain names spelled
  have hasName' := names.name name hasName
  have data : ∀ members, eventData event = some members → (PyValue.dict members).Plain :=
    fun _ carried => plain_eventData names (isSome_of_testEventPieces spelled) carried
  rw [text] at decoded
  obtain ⟨sameId, sameType⟩ :=
    lookup_of_decoded (decodeObject_dumps (plain_testEvent id plain hasName' data)) decoded
  obtain rfl : (id.toNat : Int) = commandId := PyJson.int.inj (Option.some.inj sameId)
  obtain rfl : codes type = testType := PyJson.str.inj (Option.some.inj sameType)
  have returned := (decode_testEvent positive plain hasName' data).symm.trans decoded
  exact ⟨⟨rfl, rfl⟩, _, (Except.ok.inj returned).symm⟩

/-- **A lifecycle message is taken for itself.** -/
theorem decode_testMessage {messageType status : String} (ended : IsPlainName (ascii status))
    (lifecycle : messageType = "TEST_STARTED" ∨ messageType = "TEST_COMPLETED" ∨
      messageType = "TEST_STOPPED")
    (expected : (expectedStatuses (pyStr messageType)).contains (pyStr status) = true)
    {commandId : Int} {testType : PyStr} {message : ComponentTestMessage}
    (decoded : decodeComponentTestMessage (testMessage messageType id type status) commandId
      testType = .ok message) :
    (commandId = id.toNat ∧ testType = codes type) ∧
      message = if pyStr messageType = pyStr "TEST_COMPLETED" then
          .completion ⟨commandId, testType, pyStr status⟩
        else .acknowledgement (pyStr messageType) := by
  have plain := isPlainName_of_isTestTypeName named
  have typed : IsPlainName (ascii messageType) := by
    rcases lifecycle with rfl | rfl | rfl <;> exact isPlainName_ascii (by decide) (by decide)
  rw [testMessage, flatten_testResponsePieces id typed plain ended] at decoded
  obtain ⟨sameId, sameType⟩ :=
    lookup_of_decoded (decodeObject_dumps (plain_testResponse id typed plain ended)) decoded
  obtain rfl : (id.toNat : Int) = commandId := PyJson.int.inj (Option.some.inj sameId)
  obtain rfl : codes type = testType := PyJson.str.inj (Option.some.inj sameType)
  have returned := (decode_testResponse positive plain ended lifecycle expected).symm.trans decoded
  exact ⟨⟨rfl, rfl⟩, (Except.ok.inj returned).symm⟩

end Lines

/-- **No error is taken for a message.** -/
theorem decode_errorMessage_ne_ok (id : UInt32) {errorCode : String} (listed : errorCode ∈ errorCodes)
    (commandId : Int) (testType : PyStr) (message : ComponentTestMessage) :
    decodeComponentTestMessage (errorMessage id errorCode) commandId testType ≠ .ok message := by
  intro decoded
  have raised := decode_errorMessage id listed (.component testType) commandId
  rw [Exchange.decode, decoded] at raised
  cases raised

/-- A lifecycle message is no response to START_TEST. -/
theorem decodeStartTestResponse_testMessage_ne_ok {id : UInt32} {type : Bytes}
    (named : IsTestTypeName type) (commandId : Int) (started : StartTestResponse) :
    decodeStartTestResponse (testMessage "TEST_STARTED" id type "running") commandId ≠
      .ok started := by
  intro decoded
  have plain := isPlainName_of_isTestTypeName named
  have typed : IsPlainName (ascii "TEST_STARTED") := isPlainName_ascii (by decide) (by decide)
  have ended : IsPlainName (ascii "running") := isPlainName_ascii (by decide) (by decide)
  rw [testMessage, flatten_testResponsePieces id typed plain ended] at decoded
  obtain ⟨object, text, kind⟩ :=
    (exists_decodeStartTestResponse_iff _ commandId).mp ⟨started, decoded⟩
  have read := decodeObject_dumps (plain_testResponse id typed plain ended)
  obtain rfl := Except.ok.inj (read.symm.trans ((decodeObject_eq_ok_iff _ object).mpr text))
  have same : pyStr "TEST_STARTED" = pyStr "START_TEST_RESPONSE" :=
    PyJson.str.inj (Option.some.inj kind.typed)
  exact absurd same (by decide)

end FlightComputer
