import FlightComputer.Firmware.ComponentTestRunner
import FlightComputer.Firmware.JsonResponses
import FlightComputer.Firmware.RequestTexts
import FlightComputer.Firmware.UsbCdcTransport

/-!
# The session protocol

`session_protocol.c` answers request lines and reports what the active component
test does. What happens to the session is kept apart from the transport: a line
of the firmware is what `process_line`, or the second half of
`session_protocol_process`, asks the transport to queue, if its builder succeeded
(`processLine`, `processComponent`). `sessionProtocolProcess` takes the lines from
the transport and gives it the responses.

`LineAnswer` and `ComponentUpdate` say what one line and one update can do, and
every proof about the session starts from them (`processLine_answers`,
`processComponent_updates`).
-/

set_option autoImplicit false

namespace FlightComputer.Firmware

open Library

variable {δ : Type}

/-- `SESSION_PROTOCOL_LINE_CAPACITY` -/
def sessionProtocolLineCapacity : Nat := 4097

/-! ## The lines of the session -/

/-- The line that is queued when a builder has succeeded: as much of the buffer as
the builder reports. -/
def builtLine (built : Option (Bytes × Nat)) : Option Bytes :=
  built.map fun message => message.1.take message.2

/-- An error response, built into the line buffer. -/
def errorLine (commandId : UInt32) (errorCode : String) : Option Bytes :=
  builtLine
    (jsonProtocolBuildErrorResponse commandId (ascii errorCode) sessionProtocolLineCapacity)

/-- A lifecycle response, built into the line buffer. -/
def lifecycleLine (responseType : String) (commandId : UInt32) (testType : Bytes)
    (status : String) : Option Bytes :=
  builtLine (jsonProtocolBuildTestResponse (ascii responseType) commandId testType
    (ascii status) sessionProtocolLineCapacity)

/-- The START_TEST response, built into the line buffer. -/
def startTestLine (commandId : UInt32) (metadata : SessionMetadata) : Option Bytes :=
  builtLine (jsonProtocolBuildStartTestResponse commandId metadata sessionProtocolLineCapacity)

/-- An event, built into the line buffer. -/
def eventLine (commandId : UInt32) (testType : Option Bytes) (event : Option ComponentTestEvent) :
    Option Bytes :=
  builtLine (jsonProtocolBuildTestEvent commandId testType event sessionProtocolLineCapacity)

/-! ## One line -/

/-- The parameters of a request, as `process_line` fills them. -/
def requestParameters (request : JsonProtocolRequest) : ComponentTestParameters where
  rgbColourPresent := request.rgbColourPresent
  red := request.red
  green := request.green
  blue := request.blue

/-- The branch of `process_line` for RUN_COMPONENT_TEST. -/
def processRunRequest (registry : ComponentTestRegistry δ) (request : JsonProtocolRequest)
    (s : SessionState δ) : Option (Option Bytes × SessionState δ) :=
  if s.runner.isRunning then
    some (errorLine request.commandId "test_already_active", s)
  else
    match componentRegistryFind registry request.testType with
    | none => some (errorLine request.commandId "unsupported_test_type", s)
    | some definition =>
        -- the result of the start is not looked at
        (componentTestRunnerStart (some definition) request.commandId (requestParameters request)
          s).map fun started =>
            (lifecycleLine "TEST_STARTED" request.commandId definition.type "running", started.2)

/-- The branch of `process_line` for STOP_COMPONENT_TEST. -/
def processStopRequest (request : JsonProtocolRequest) (s : SessionState δ) :
    Option (Option Bytes × SessionState δ) :=
  match componentTestRunnerActiveType s.runner with
  | none => some (errorLine request.commandId "no_active_test", s)
  | some activeType =>
      (componentTestRunnerStop s).map fun stopped =>
        (lifecycleLine "TEST_STOPPED" request.commandId activeType "stopped", stopped.2)

/-- `process_line`, up to the queueing of the response. -/
def processLine (registry : ComponentTestRegistry δ) (metadata : SessionMetadata) (line : Bytes)
    (s : SessionState δ) : Option (Option Bytes × SessionState δ) :=
  match jsonProtocolParseRequest line with
  | .error _ => some (errorLine 0 "invalid_request", s)
  | .ok request =>
      match request.type with
      | .startTest => some (startTestLine request.commandId metadata, s)
      | .runComponentTest => processRunRequest registry request s
      | .stopComponentTest => processStopRequest request s
      | .invalid => some (errorLine request.commandId "unsupported_message_type", s)
      | .unsupported => some (errorLine request.commandId "unsupported_message_type", s)

/-! ## One update -/

/-- The line for an update of the active test. Its id and type are those read
before the component was called. -/
def updateLine (runner : ComponentTestRunner δ) (update : ComponentTestRunnerUpdate)
    (s : SessionState δ) : Option Bytes :=
  match update with
  | .none => none
  | .event =>
      eventLine runner.activeCommandId (componentTestRunnerActiveType runner)
        (componentTestRunnerEvent s)
  | .passed =>
      (componentTestRunnerActiveType runner).bind fun activeType =>
        lifecycleLine "TEST_COMPLETED" runner.activeCommandId activeType "passed"
  | .failed =>
      (componentTestRunnerActiveType runner).bind fun activeType =>
        lifecycleLine "TEST_COMPLETED" runner.activeCommandId activeType "failed"

/-- The second half of `session_protocol_process`, up to the queueing of the
response. -/
def processComponent (s : SessionState δ) : Option (Option Bytes × SessionState δ) :=
  (componentTestRunnerProcess s).map fun processed =>
    (updateLine s.runner processed.1 processed.2, processed.2)

/-! ## The main loop -/

/-- The session layer over the transport. -/
structure SessionSystem (δ : Type) where
  transport : UsbCdcTransport
  session : SessionState δ

/-- `queue_response`, when a response is ready. -/
def queueResponse (response : Option Bytes) (s : SessionSystem δ) : SessionSystem δ :=
  match response with
  | none => s
  | some line =>
      let queued := usbCdcTransportQueueLine line s.transport
      ⟨queued.1, s.session.record (.response line queued.2)⟩

/-- The loop of `session_protocol_process`, as long as its bound lasts. -/
def processLinesLoop (registry : ComponentTestRegistry δ) (metadata : SessionMetadata) :
    Nat → SessionSystem δ → Option (SessionSystem δ)
  | 0, s => some s
  | bound + 1, s =>
      if usbCdcTransportCanQueueLine s.transport then
        match usbCdcTransportReadLine sessionProtocolLineCapacity s.transport with
        | (transport, .available line) =>
            (processLine registry metadata line (s.session.record (.request line))).bind
              fun answered =>
                processLinesLoop registry metadata bound
                  (queueResponse answered.1 ⟨transport, answered.2⟩)
        | _ => some s
      else some s

/-- The end of `session_protocol_process`. -/
def processActiveTest (s : SessionSystem δ) : Option (SessionSystem δ) :=
  if usbCdcTransportCanQueueLine s.transport && s.session.runner.isRunning then
    (processComponent s.session).map fun processed =>
      queueResponse processed.1 ⟨s.transport, processed.2⟩
  else some s

/-- `session_protocol_process`: each iteration of its loop takes one received line
out of the queue, and no line enters the queue meanwhile. -/
def sessionProtocolProcess (registry : ComponentTestRegistry δ) (metadata : SessionMetadata)
    (s : SessionSystem δ) : Option (SessionSystem δ) :=
  (processLinesLoop registry metadata s.transport.receivedLines.count s).bind processActiveTest

/-! ## Requests -/

/-- A line that the parser takes for a request. -/
structure Requests (line : Bytes) (commandId : UInt32) (body : RequestBody) : Prop where
  parsed : jsonProtocolParseRequest line = .ok (requestRecord ⟨commandId.toNat, body⟩)
  admissible : Request.Admissible ⟨commandId.toNat, body⟩

theorem Requests.commandId_ne_zero {line : Bytes} {commandId : UInt32} {body : RequestBody}
    (requested : Requests line commandId body) : commandId ≠ 0 := by
  have positive : 1 ≤ commandId.toNat := requested.admissible.positive
  intro zero
  rw [zero] at positive
  exact absurd positive (by decide)

/-- Whatever the parser takes is a request. -/
theorem exists_requests {line : Bytes} {record : JsonProtocolRequest}
    (parsed : jsonProtocolParseRequest line = .ok record) :
    ∃ commandId body, Requests line commandId body ∧
      record = requestRecord ⟨commandId.toNat, body⟩ := by
  obtain ⟨_, members, _, _, read⟩ := (jsonProtocolParseRequest_eq_ok_iff line record).mp parsed
  obtain ⟨⟨commandId, body⟩, admissible, _, same⟩ := (readMembers_eq_some_iff members record).mp read
  have bounded : commandId < UInt32.size := by
    have bound := admissible.bounded
    dsimp only at bound
    simp only [UInt32.size]
    omega
  have number : (UInt32.ofNat commandId).toNat = commandId := UInt32.toNat_ofNat_of_lt' bounded
  refine ⟨UInt32.ofNat commandId, body, ⟨?_, ?_⟩, ?_⟩
  · rw [number, same]
    exact parsed
  · rw [number]
    exact admissible
  · rw [number]
    exact same.symm

/-- The parameters that a colour stands for. -/
def colourParameters : Option RgbColour → ComponentTestParameters
  | none => ⟨false, 0, 0, 0⟩
  | some colour => ⟨true, colour.red, colour.green, colour.blue⟩

section Record

variable (commandId : UInt32)

theorem requestRecord_commandId (body : RequestBody) :
    (requestRecord ⟨commandId.toNat, body⟩).commandId = commandId := by
  have number : UInt32.ofNat commandId.toNat = commandId := UInt32.ofNat_toNat
  rcases body with _ | ⟨_, _ | _⟩ | _ <;> exact number

theorem requestRecord_startTest (testUuid : Bytes) :
    (requestRecord ⟨commandId.toNat, .startTest testUuid⟩).type = .startTest := rfl

theorem requestRecord_stopComponentTest :
    (requestRecord ⟨commandId.toNat, .stopComponentTest⟩).type = .stopComponentTest := rfl

theorem requestRecord_runComponentTest (testType : Bytes) (colour : Option RgbColour) :
    (requestRecord ⟨commandId.toNat, .runComponentTest testType colour⟩).type =
        .runComponentTest ∧
      (requestRecord ⟨commandId.toNat, .runComponentTest testType colour⟩).testType = testType ∧
      requestParameters (requestRecord ⟨commandId.toNat, .runComponentTest testType colour⟩) =
        colourParameters colour := by
  cases colour <;> exact ⟨rfl, rfl, rfl⟩

end Record

/-- Metadata without texts. -/
def blankMetadata : SessionMetadata := ⟨[], [], [], [], [], [], [], []⟩

/-! ## What a line can do -/

/-- **What one request line can do** to the session, with the line that is queued
for it. -/
inductive LineAnswer (registry : ComponentTestRegistry δ) (metadata : SessionMetadata)
    (line : Bytes) (s : SessionState δ) : Option Bytes → SessionState δ → Prop where
  | invalid {stop : ParseStop} (rejected : jsonProtocolParseRequest line = .error stop) :
      LineAnswer registry metadata line s (errorLine 0 "invalid_request") s
  | metadata {commandId : UInt32} {testUuid : Bytes}
      (requested : Requests line commandId (.startTest testUuid)) :
      LineAnswer registry metadata line s (startTestLine commandId metadata) s
  | alreadyActive {commandId : UInt32} {testType : Bytes} {colour : Option RgbColour}
      {definition : ComponentTestDefinition δ}
      (requested : Requests line commandId (.runComponentTest testType colour))
      (active : s.runner.activeDefinition = some definition) :
      LineAnswer registry metadata line s (errorLine commandId "test_already_active") s
  | unsupported {commandId : UInt32} {testType : Bytes} {colour : Option RgbColour}
      (requested : Requests line commandId (.runComponentTest testType colour))
      (idle : s.runner.activeDefinition = none)
      (unknown : componentRegistryFind registry testType = none) :
      LineAnswer registry metadata line s (errorLine commandId "unsupported_test_type") s
  | started {commandId : UInt32} {testType : Bytes} {colour : Option RgbColour}
      {definition : ComponentTestDefinition δ} {device : δ}
      (requested : Requests line commandId (.runComponentTest testType colour))
      (idle : s.runner.activeDefinition = none)
      (found : componentRegistryFind registry testType = some definition)
      (called : definition.start (colourParameters colour) s.device = some ((), device)) :
      LineAnswer registry metadata line s
        (lifecycleLine "TEST_STARTED" commandId definition.type "running")
        { s.after device [.start definition.type (colourParameters colour)] with
          runner := ⟨some definition, commandId⟩ }
  | noActiveTest {commandId : UInt32} (requested : Requests line commandId .stopComponentTest)
      (idle : s.runner.activeDefinition = none) :
      LineAnswer registry metadata line s (errorLine commandId "no_active_test") s
  | stopped {commandId : UInt32} {definition : ComponentTestDefinition δ} {device : δ}
      (requested : Requests line commandId .stopComponentTest)
      (active : s.runner.activeDefinition = some definition)
      (called : definition.stop s.device = some ((), device)) :
      LineAnswer registry metadata line s
        (lifecycleLine "TEST_STOPPED" commandId definition.type "stopped")
        { s.after device [.stop definition.type] with runner := componentTestRunnerInitialize }

/-- **Every line that is processed gets one of these answers.** In particular no
line is answered with `unsupported_message_type`, and no start is refused. -/
theorem processLine_answers {registry : ComponentTestRegistry δ} {metadata : SessionMetadata}
    {line : Bytes} {s t : SessionState δ} {response : Option Bytes}
    (processed : processLine registry metadata line s = some (response, t)) :
    LineAnswer registry metadata line s response t := by
  rw [processLine] at processed
  cases parsed : jsonProtocolParseRequest line with
  | error stop =>
      rw [parsed] at processed
      cases processed
      exact .invalid parsed
  | ok record =>
      obtain ⟨commandId, body, requested, rfl⟩ := exists_requests parsed
      rw [parsed] at processed
      have number := requestRecord_commandId commandId body
      cases body with
      | startTest testUuid =>
          dsimp only at processed
          rw [requestRecord_startTest] at processed
          dsimp only at processed
          rw [number] at processed
          cases processed
          exact .metadata requested
      | runComponentTest testType colour =>
          obtain ⟨isRun, ofType, withParameters⟩ :=
            requestRecord_runComponentTest commandId testType colour
          dsimp only at processed
          rw [isRun] at processed
          dsimp only at processed
          rw [processRunRequest, number, ofType, withParameters, ComponentTestRunner.isRunning]
            at processed
          cases active : s.runner.activeDefinition with
          | some definition =>
              rw [active, if_pos Option.isSome_some] at processed
              cases processed
              exact .alreadyActive requested active
          | none =>
              rw [active, Option.isSome_none, if_neg Bool.false_ne_true] at processed
              cases found : componentRegistryFind registry testType with
              | none =>
                  rw [found] at processed
                  cases processed
                  exact .unsupported requested active found
              | some definition =>
                  rw [found] at processed
                  obtain ⟨⟨result, after⟩, returned, same⟩ := Option.map_eq_some_iff.mp processed
                  obtain ⟨device, called, _, rfl⟩ :=
                    componentTestRunnerStart_idle active requested.commandId_ne_zero returned
                  cases same
                  exact .started requested active found called
      | stopComponentTest =>
          dsimp only at processed
          rw [requestRecord_stopComponentTest] at processed
          dsimp only at processed
          rw [processStopRequest, number, componentTestRunnerActiveType] at processed
          cases active : s.runner.activeDefinition with
          | none =>
              rw [active] at processed
              cases processed
              exact .noActiveTest requested active
          | some definition =>
              rw [active] at processed
              obtain ⟨⟨result, after⟩, returned, same⟩ := Option.map_eq_some_iff.mp processed
              obtain ⟨device, called, _, rfl⟩ := componentTestRunnerStop_active active returned
              cases same
              exact .stopped requested active called

/-! ## What an update can do -/

/-- **What one update of the active test can do**, with the line that is queued for
it. -/
inductive ComponentUpdate (definition : ComponentTestDefinition δ) (s : SessionState δ) :
    Option Bytes → SessionState δ → Prop where
  | running {device : δ} (called : definition.process s.device = some (.running, device)) :
      ComponentUpdate definition s none (s.after device [.process definition.type .running])
  | event {device : δ} (called : definition.process s.device = some (.event, device)) :
      ComponentUpdate definition s
        (eventLine s.runner.activeCommandId (some definition.type)
          (definition.event.bind fun event => event device))
        (s.after device [.process definition.type .event])
  | completed {processed device : δ} {result : ComponentTestProcessResult} {status : String}
      (called : definition.process s.device = some (result, processed))
      (verdict : (result = .passed ∧ status = "passed") ∨ (result = .failed ∧ status = "failed"))
      (stopped : definition.stop processed = some ((), device)) :
      ComponentUpdate definition s
        (lifecycleLine "TEST_COMPLETED" s.runner.activeCommandId definition.type status)
        { s.after device [.process definition.type result, .stop definition.type] with
          runner := componentTestRunnerInitialize }

/-- **Every update that returns is one of these.** -/
theorem processComponent_updates {definition : ComponentTestDefinition δ} {s t : SessionState δ}
    {response : Option Bytes} (active : s.runner.activeDefinition = some definition)
    (processed : processComponent s = some (response, t)) :
    ComponentUpdate definition s response t := by
  obtain ⟨⟨update, after⟩, returned, same⟩ := Option.map_eq_some_iff.mp processed
  have activeType : componentTestRunnerActiveType s.runner = some definition.type := by
    rw [componentTestRunnerActiveType, active]
    rfl
  obtain ⟨result, device, called, rfl, continued⟩ :=
    componentTestRunnerProcess_active active returned
  rcases continued with ⟨going, rfl⟩ | ⟨ended, device', stopped, rfl⟩
  · cases result with
    | running =>
        cases same
        exact .running called
    | event =>
        have event : componentTestRunnerEvent (s.after device [.process definition.type .event]) =
            definition.event.bind fun event => event device := by
          rw [componentTestRunnerEvent]
          simp only [SessionState.after, active, Option.bind_some]
        simp only [updateOf, updateLine, event, activeType] at same
        cases same
        exact .event called
    | passed => cases going
    | failed => cases going
  · cases result with
    | running => cases ended
    | event => cases ended
    | passed =>
        simp only [updateOf, updateLine, activeType] at same
        cases same
        exact .completed called (.inl ⟨rfl, rfl⟩) stopped
    | failed =>
        simp only [updateOf, updateLine, activeType] at same
        cases same
        exact .completed called (.inr ⟨rfl, rfl⟩) stopped

end FlightComputer.Firmware
