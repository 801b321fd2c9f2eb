import FlightComputer.Firmware.SessionProtocol
import FlightComputer.Library.ShortTexts

/-!
# The lines of the session

Error responses and lifecycle responses always fit the line buffer, and they are
accepted by a transmit queue that has room (`queueLine_of_isShort`). What kind a
message is of is told by how it starts (`IsOfType`), and no line is of two kinds
(`isOfType_unique`).
-/

set_option autoImplicit false

namespace FlightComputer.Firmware

open Library

variable {δ : Type}

/-! ## Lines that fit -/

/-- A text that fits the buffer is queued as it is. -/
theorem builtLine_of_fits {pieces : List Bytes} {capacity : Nat}
    (fits : pieces.flatten.length < capacity) :
    builtLine (written capacity (snprintf capacity pieces)) = some pieces.flatten := by
  rw [(written_eq_some_iff capacity pieces _ _).mpr ⟨fits, rfl, rfl⟩]
  simp only [builtLine, Option.map_some, List.take_length]

/-- A text that is queued is the whole text, and it fits the buffer. -/
theorem builtLine_eq_some {pieces : List Bytes} {capacity : Nat} {line : Bytes}
    (built : builtLine (written capacity (snprintf capacity pieces)) = some line) :
    line = pieces.flatten ∧ pieces.flatten.length < capacity := by
  obtain ⟨⟨destination, length⟩, spelled, rfl⟩ := Option.map_eq_some_iff.mp built
  obtain ⟨fits, rfl, rfl⟩ := (written_eq_some_iff capacity pieces _ _).mp spelled
  exact ⟨List.take_length, fits⟩

/-- The codes of the errors. -/
def errorCodes : List String :=
  ["invalid_request", "test_already_active", "unsupported_test_type", "no_active_test",
    "unsupported_message_type"]

/-- An error message. -/
def errorMessage (commandId : UInt32) (errorCode : String) : Bytes :=
  (errorResponsePieces commandId (ascii errorCode)).flatten

/-- A lifecycle message. -/
def testMessage (responseType : String) (commandId : UInt32) (testType : Bytes)
    (status : String) : Bytes :=
  (testResponsePieces (ascii responseType) commandId testType (ascii status)).flatten

/-- A short literal of the protocol: a code, a type or a status. -/
def IsWord (text : String) : Prop := IsShort 32 (ascii text)

theorem isWord_of_decide {text : String}
    (printable : ((ascii text).all fun byte => decide (32 ≤ byte.toNat)) = true)
    (length_le : (ascii text).length ≤ 32) : IsWord text :=
  (isShort_ascii printable).mono length_le

theorem isWord_errorCode {errorCode : String} (listed : errorCode ∈ errorCodes) :
    IsWord errorCode := by
  have all : ∀ errorCode ∈ errorCodes,
      ((ascii errorCode).all fun byte => decide (32 ≤ byte.toNat)) = true ∧
        (ascii errorCode).length ≤ 32 := by
    simp only [errorCodes, List.forall_mem_cons, List.not_mem_nil, false_imp_iff, implies_true,
      and_true]
    decide
  exact isWord_of_decide (all errorCode listed).1 (all errorCode listed).2

theorem isShort_errorMessage (commandId : UInt32) {errorCode : String} (word : IsWord errorCode) :
    IsShort 200 (errorMessage commandId errorCode) := by
  have parts : List.Forall₂ IsShort _ (errorResponsePieces commandId (ascii errorCode)) :=
    .cons (isShort_ascii (by decide)) (.cons (isShort_uint32 commandId)
      (.cons (isShort_ascii (by decide)) (.cons word (.cons (isShort_ascii (by decide)) .nil))))
  exact (isShort_flatten parts).mono (by decide)

/-- The error response is always built. -/
theorem errorLine_eq (commandId : UInt32) {errorCode : String} (word : IsWord errorCode) :
    errorLine commandId errorCode = some (errorMessage commandId errorCode) := by
  refine builtLine_of_fits ?_
  have short := (isShort_errorMessage commandId word).length_le
  simp only [errorMessage] at short
  simp only [sessionProtocolLineCapacity]
  omega

/-- Test types are short texts. -/
theorem isShort_of_isTestTypeName {text : Bytes} (named : IsTestTypeName text) : IsShort 31 text where
  length_le := named.bounded
  printable := by
    intro byte listed
    have plain := (named.plain byte listed).1
    rw [isPlainStringByte_iff] at plain
    omega

section TestMessage

variable {responseType status : String} (typed : IsWord responseType) (ended : IsWord status)
  {testType : Bytes} (named : IsShort 31 testType) (commandId : UInt32)
include typed ended named

theorem isShort_testMessage : IsShort 200 (testMessage responseType commandId testType status) := by
  have parts : List.Forall₂ IsShort _
      (testResponsePieces (ascii responseType) commandId testType (ascii status)) :=
    .cons (isShort_ascii (by decide)) (.cons typed (.cons (isShort_ascii (by decide))
      (.cons (isShort_uint32 commandId) (.cons (isShort_ascii (by decide)) (.cons named
        (.cons (isShort_ascii (by decide)) (.cons ended
          (.cons (isShort_ascii (by decide)) .nil))))))))
  exact (isShort_flatten parts).mono (by decide)

/-- A lifecycle response is always built. -/
theorem lifecycleLine_eq : lifecycleLine responseType commandId testType status =
    some (testMessage responseType commandId testType status) := by
  refine builtLine_of_fits ?_
  have short := (isShort_testMessage typed ended named commandId).length_le
  simp only [testMessage] at short
  simp only [sessionProtocolLineCapacity]
  omega

end TestMessage

/-- The registered test that is found has a short name. -/
theorem isTestTypeName_of_found {registry : ComponentTestRegistry δ} {line testType : Bytes}
    {commandId : UInt32} {colour : Option RgbColour} {definition : ComponentTestDefinition δ}
    (requested : Requests line commandId (.runComponentTest testType colour))
    (found : componentRegistryFind registry testType = some definition) :
    definition.type = testType ∧ IsTestTypeName testType := by
  obtain ⟨named, _⟩ : RequestBody.Admissible (.runComponentTest testType colour) :=
    requested.admissible.body
  exact ⟨(componentRegistryFind_eq_some found).2, named⟩

/-! ## Queueing -/

/-- What `queue_response` adds to the actions. -/
def responseActions (queued : Option (Bytes × Bool)) : List SessionAction :=
  queued.toList.map fun response => .response response.1 response.2

/-- Whether the transport accepts a line. -/
def queueAccepts (transport : UsbCdcTransport) (line : Bytes) : Bool :=
  (usbCdcTransportQueueLine line transport).2

/-- **The effect of `queue_response`** on the session is one action at most. -/
theorem queueResponse_session (response : Option Bytes) (s : SessionSystem δ) :
    (queueResponse response s).session =
      { s.session with
        actions := s.session.actions ++
          responseActions (response.map fun line => (line, queueAccepts s.transport line)) } := by
  cases response with
  | none => simp [queueResponse, responseActions]
  | some line => rfl

/-- **A queue with room accepts every short line.** -/
theorem queueLine_of_isShort {transport : UsbCdcTransport} {line : Bytes}
    (room : usbCdcTransportCanQueueLine transport = true) (short : IsShort 4096 line) :
    usbCdcTransportQueueLine line transport =
      ({ transport with transmitLines := transport.transmitLines.push (line ++ [lineFeed]) },
        true) := by
  have below : transport.transmitLines.count < usbCdcTransmitQueueDepth := of_decide_eq_true room
  refine if_neg ?_
  rintro (long | full | lineFeed | carriageReturn)
  · exact absurd short.length_le (Nat.not_le.mpr long)
  · exact absurd full below.ne
  · exact short.lineFeed_notMem lineFeed
  · exact short.carriageReturn_notMem carriageReturn

theorem queueAccepts_of_isShort {transport : UsbCdcTransport} {line : Bytes}
    (room : usbCdcTransportCanQueueLine transport = true) (short : IsShort 4096 line) :
    queueAccepts transport line = true := by
  rw [queueAccepts, queueLine_of_isShort room short]

/-! ## Kinds of messages -/

/-- How a message of a type starts. -/
def messageHead (messageType : String) : Bytes :=
  ascii "\x7b\"protocol_version\":1,\"type\":\"" ++ ascii messageType ++ ascii "\",\"command_id\":"

/-- A message of a type. -/
def IsOfType (messageType : String) (line : Bytes) : Prop := messageHead messageType <+: line

instance (messageType : String) (line : Bytes) : Decidable (IsOfType messageType line) :=
  inferInstanceAs (Decidable (messageHead messageType <+: line))

/-- The types of the firmware's messages. -/
def messageTypes : List String :=
  ["START_TEST_RESPONSE", "ERROR", "TEST_STARTED", "TEST_EVENT", "TEST_COMPLETED", "TEST_STOPPED"]

/-- **A line is of one type.** -/
theorem isOfType_unique {first second : String} (listed : first ∈ messageTypes)
    (listed' : second ∈ messageTypes) {line : Bytes} (typed : IsOfType first line)
    (typed' : IsOfType second line) : first = second := by
  have distinct : ∀ first ∈ messageTypes, ∀ second ∈ messageTypes,
      (messageHead first).isPrefixOf (messageHead second) = true → first = second := by
    decide
  rcases List.prefix_or_prefix_of_prefix typed typed' with inside | inside
  · exact distinct first listed second listed' (List.isPrefixOf_iff_prefix.mpr inside)
  · exact (distinct second listed' first listed (List.isPrefixOf_iff_prefix.mpr inside)).symm

theorem isOfType_errorMessage (commandId : UInt32) (errorCode : String) :
    IsOfType "ERROR" (errorMessage commandId errorCode) := by
  rw [errorMessage, errorResponsePieces, List.flatten_cons]
  exact List.prefix_append _ _

theorem isOfType_testMessage (responseType : String) (commandId : UInt32) (testType : Bytes)
    (status : String) :
    IsOfType responseType (testMessage responseType commandId testType status) := by
  rw [testMessage, testResponsePieces, IsOfType, messageHead]
  simp only [List.flatten_cons, List.append_assoc]
  exact List.prefix_append_right_inj _ |>.mpr (List.prefix_append_right_inj _ |>.mpr
    (List.prefix_append _ _))

/-- Every event starts in the same way. -/
theorem testEventPieces_head {commandId : UInt32} {testType : Bytes} {event : ComponentTestEvent}
    {pieces : List Bytes} (spelled : testEventPieces commandId testType event = some pieces) :
    ∃ name rest, event.name = some name ∧ pieces = eventHead commandId testType name ++ rest := by
  obtain ⟨name, named, spelled⟩ := Option.bind_eq_some_iff.mp spelled
  cases kind : event.kind with
  | message =>
      rw [kind] at spelled
      exact ⟨name, _, named, (Option.some.inj spelled).symm⟩
  | imuSample =>
      rw [kind] at spelled
      exact ⟨name, _, named, (Option.some.inj spelled).symm⟩
  | barometerSample =>
      rw [kind] at spelled
      exact ⟨name, _, named, (Option.some.inj spelled).symm⟩
  | sdCardInfo =>
      rw [kind] at spelled
      obtain ⟨_, _, spelled⟩ := Option.bind_eq_some_iff.mp spelled
      exact ⟨name, _, named, (Option.some.inj spelled).symm⟩
  | failure =>
      rw [kind] at spelled
      obtain ⟨_, _, spelled⟩ := Option.bind_eq_some_iff.mp spelled
      obtain ⟨_, _, spelled⟩ := Option.bind_eq_some_iff.mp spelled
      exact ⟨name, _, named, (Option.some.inj spelled).symm⟩

/-- An event line is the whole text of its event. -/
theorem eventLine_eq_some {commandId : UInt32} {testType : Option Bytes}
    {event : Option ComponentTestEvent} {line : Bytes}
    (built : eventLine commandId testType event = some line) :
    ∃ type occurred pieces, testType = some type ∧ event = some occurred ∧
      testEventPieces commandId type occurred = some pieces ∧ line = pieces.flatten ∧
      pieces.flatten.length < sessionProtocolLineCapacity := by
  obtain ⟨message, spelled, rfl⟩ := Option.map_eq_some_iff.mp built
  obtain ⟨type, typed, spelled⟩ := Option.bind_eq_some_iff.mp spelled
  obtain ⟨occurred, happened, spelled⟩ := Option.bind_eq_some_iff.mp spelled
  obtain ⟨pieces, named, spelled⟩ := Option.bind_eq_some_iff.mp spelled
  obtain ⟨whole, fits⟩ := builtLine_eq_some (Option.map_eq_some_iff.mpr ⟨message, spelled, rfl⟩)
  exact ⟨type, occurred, pieces, typed, happened, named, whole, fits⟩

theorem isOfType_eventLine {commandId : UInt32} {testType : Option Bytes}
    {event : Option ComponentTestEvent} {line : Bytes}
    (built : eventLine commandId testType event = some line) : IsOfType "TEST_EVENT" line := by
  obtain ⟨type, occurred, pieces, _, _, spelled, rfl, _⟩ := eventLine_eq_some built
  obtain ⟨name, rest, _, rfl⟩ := testEventPieces_head spelled
  rw [List.flatten_append, eventHead, List.flatten_cons, List.append_assoc]
  exact List.prefix_append _ _

theorem appendFormat_eq_some {capacity : Nat} {pieces : List Bytes} {destination after : Bytes}
    (appended : appendFormat capacity pieces destination = some after) :
    after = destination ++ pieces.flatten ∧ after.length < capacity := by
  rw [appendFormat] at appended
  split_ifs at appended with full large
  obtain rfl := Option.some.inj appended
  rw [List.length_append]
  exact ⟨rfl, by omega⟩

theorem isPrefix_appendCapabilities {capacity : Nat} {capabilities : List (Bytes × Nat)}
    {destination after : Bytes}
    (appended : appendCapabilities capacity capabilities destination = some after) :
    destination <+: after := by
  induction capabilities generalizing destination with
  | nil =>
      obtain rfl := Option.some.inj appended
      exact List.prefix_refl _
  | cons capability later ih =>
      obtain ⟨first, written, rest⟩ := Option.bind_eq_some_iff.mp appended
      obtain ⟨rfl, _⟩ := appendFormat_eq_some written
      exact (List.prefix_append _ _).trans (ih rest)

/-- The START_TEST response is the text of its parts in order. -/
theorem startTestLine_eq_some {commandId : UInt32} {metadata : SessionMetadata} {line : Bytes}
    (built : startTestLine commandId metadata = some line) :
    ascii "\x7b\"protocol_version\":1,\"type\":\"START_TEST_RESPONSE\",\"command_id\":" <+: line ∧
      line.length < sessionProtocolLineCapacity := by
  obtain ⟨message, spelled, rfl⟩ := Option.map_eq_some_iff.mp built
  obtain ⟨opened, first, spelled⟩ := Option.bind_eq_some_iff.mp spelled
  obtain ⟨listed, second, spelled⟩ := Option.bind_eq_some_iff.mp spelled
  obtain ⟨closed, third, spelled⟩ := Option.bind_eq_some_iff.mp spelled
  obtain rfl := Option.some.inj spelled
  obtain ⟨rfl, _⟩ := appendFormat_eq_some first
  obtain ⟨rfl, fits⟩ := appendFormat_eq_some third
  dsimp only
  rw [List.take_length]
  refine ⟨?_, fits⟩
  refine List.IsPrefix.trans ?_ ((isPrefix_appendCapabilities second).trans (List.prefix_append _ _))
  rw [List.nil_append, List.flatten_cons]
  exact List.prefix_append _ _

theorem isOfType_startTestLine {commandId : UInt32} {metadata : SessionMetadata} {line : Bytes}
    (built : startTestLine commandId metadata = some line) :
    IsOfType "START_TEST_RESPONSE" line :=
  (startTestLine_eq_some built).1

end FlightComputer.Firmware
