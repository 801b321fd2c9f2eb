import FlightComputer.Firmware.SessionLines
import FlightComputer.Library.Runs

/-!
# The lifecycle of component tests

The main loop calls `usb_cdc_transport_process` and `session_protocol_process`,
packets arrive, transfers complete, the host re-enumerates the device, and the
components and their hardware change on their own. Whatever the order, the actions
of the session follow a grammar (`Lifecycle`): one test at a time, from its start to
the message that ends it, with the answers that change nothing in between. The
components and the changes of their state are arbitrary.

`SessionTurn` is one line or one update. What every turn preserves, a call of
`session_protocol_process` preserves (`sessionProtocolProcess_preserves`).
-/

set_option autoImplicit false

namespace FlightComputer.Firmware

open Library

variable {δ : Type}

/-! ## Turns -/

/-- **One turn of the session**: the transport has room for a line, and a received
line is answered or the active test is updated. -/
inductive SessionTurn (registry : ComponentTestRegistry δ) (metadata : SessionMetadata) :
    SessionSystem δ → SessionSystem δ → Prop where
  | line {s : SessionSystem δ} {transport : UsbCdcTransport} {line : Bytes}
      {response : Option Bytes} {session : SessionState δ}
      (room : usbCdcTransportCanQueueLine s.transport = true)
      (read : usbCdcTransportReadLine sessionProtocolLineCapacity s.transport =
        (transport, .available line))
      (answer : LineAnswer registry metadata line (s.session.record (.request line)) response
        session) :
      SessionTurn registry metadata s (queueResponse response ⟨transport, session⟩)
  | component {s : SessionSystem δ} {definition : ComponentTestDefinition δ}
      {response : Option Bytes} {session : SessionState δ}
      (room : usbCdcTransportCanQueueLine s.transport = true)
      (active : s.session.runner.activeDefinition = some definition)
      (update : ComponentUpdate definition s.session response session) :
      SessionTurn registry metadata s (queueResponse response ⟨s.transport, session⟩)

section Preserves

variable {registry : ComponentTestRegistry δ} {metadata : SessionMetadata}
  {I : SessionSystem δ → Prop}
  (turn : ∀ s t, I s → SessionTurn registry metadata s t → I t)
include turn

theorem processLinesLoop_preserves {bound : Nat} {s t : SessionSystem δ} (first : I s)
    (returned : processLinesLoop registry metadata bound s = some t) : I t := by
  induction bound generalizing s with
  | zero =>
      obtain rfl := Option.some.inj returned
      exact first
  | succ bound ih =>
      rw [processLinesLoop] at returned
      split_ifs at returned with room
      · cases read : usbCdcTransportReadLine sessionProtocolLineCapacity s.transport with
        | mk transport result =>
            rw [read] at returned
            cases result with
            | available line =>
                obtain ⟨⟨response, session⟩, answered, rest⟩ :=
                  Option.bind_eq_some_iff.mp returned
                refine ih (turn _ _ first ?_) rest
                exact .line room read (processLine_answers answered)
            | unavailable =>
                obtain rfl := Option.some.inj returned
                exact first
            | bufferTooSmall =>
                obtain rfl := Option.some.inj returned
                exact first
      · obtain rfl := Option.some.inj returned
        exact first

theorem processActiveTest_preserves {s t : SessionSystem δ} (first : I s)
    (returned : processActiveTest s = some t) : I t := by
  rw [processActiveTest] at returned
  split_ifs at returned with ready
  · obtain ⟨room, running⟩ := Bool.and_eq_true_iff.mp ready
    obtain ⟨definition, active⟩ := Option.isSome_iff_exists.mp running
    obtain ⟨⟨response, session⟩, processed, rfl⟩ := Option.map_eq_some_iff.mp returned
    exact turn _ _ first (.component room active (processComponent_updates active processed))
  · obtain rfl := Option.some.inj returned
    exact first

/-- **What every turn preserves, `session_protocol_process` preserves.** -/
theorem sessionProtocolProcess_preserves {s t : SessionSystem δ} (first : I s)
    (returned : sessionProtocolProcess registry metadata s = some t) : I t := by
  obtain ⟨middle, looped, ended⟩ := Option.bind_eq_some_iff.mp returned
  exact processActiveTest_preserves turn (processLinesLoop_preserves turn first looped) ended

end Preserves

/-! ## Steps of the firmware -/

/-- What happens to the firmware. -/
inductive SessionEvent where
  | packet (bytes : Bytes)
  | transmitComplete
  | deinit
  | init
  | transport (usb : UsbdAnswers)
  | session
  | environment
  deriving DecidableEq

/-- The steps of the firmware: the callbacks of the USB stack, the calls of the main
loop, and the changes of the components' state that `environment` allows. -/
inductive SessionStep (registry : ComponentTestRegistry δ) (metadata : SessionMetadata)
    (environment : δ → δ → Prop) : SessionSystem δ → SessionEvent → SessionSystem δ → Prop where
  | packet (s : SessionSystem δ) (bytes : Bytes) :
      SessionStep registry metadata environment s (.packet bytes)
        ⟨cdcReceive s.transport bytes, s.session⟩
  | transmitComplete (s : SessionSystem δ) :
      SessionStep registry metadata environment s .transmitComplete
        ⟨cdcTransmitComplete s.transport, s.session⟩
  | deinit (s : SessionSystem δ) :
      SessionStep registry metadata environment s .deinit ⟨ cdcDeinitialize s.transport, s.session⟩
  | init (s : SessionSystem δ) :
      SessionStep registry metadata environment s .init ⟨cdcInitialize s.transport, s.session⟩
  | transport (s : SessionSystem δ) (usb : UsbdAnswers) :
      SessionStep registry metadata environment s (.transport usb)
        ⟨(usbCdcTransportProcess usb s.transport).1, s.session⟩
  | session {s t : SessionSystem δ}
      (returned : sessionProtocolProcess registry metadata s = some t) :
      SessionStep registry metadata environment s .session t
  | environment (s : SessionSystem δ) {device : δ}
      (changed : environment s.session.device device) :
      SessionStep registry metadata environment s .environment
        ⟨s.transport, { s.session with device := device }⟩

/-- Let something happen, if it can; the components do not change on their own. -/
def performEvent (registry : ComponentTestRegistry δ) (metadata : SessionMetadata)
    (s : SessionSystem δ) : SessionEvent → Option (SessionSystem δ)
  | .packet bytes => some ⟨cdcReceive s.transport bytes, s.session⟩
  | .transmitComplete => some ⟨cdcTransmitComplete s.transport, s.session⟩
  | .deinit => some ⟨ cdcDeinitialize s.transport, s.session⟩
  | .init => some ⟨cdcInitialize s.transport, s.session⟩
  | .transport usb => some ⟨(usbCdcTransportProcess usb s.transport).1, s.session⟩
  | .session => sessionProtocolProcess registry metadata s
  | .environment => none

theorem step_of_performEvent {registry : ComponentTestRegistry δ} {metadata : SessionMetadata}
    {environment : δ → δ → Prop} {s t : SessionSystem δ} {event : SessionEvent}
    (performed : performEvent registry metadata s event = some t) :
    SessionStep registry metadata environment s event t := by
  cases event with
  | packet bytes =>
      obtain rfl := Option.some.inj performed
      exact .packet s bytes
  | transmitComplete =>
      obtain rfl := Option.some.inj performed
      exact .transmitComplete s
  | deinit =>
      obtain rfl := Option.some.inj performed
      exact .deinit s
  | init =>
      obtain rfl := Option.some.inj performed
      exact .init s
  | transport usb =>
      obtain rfl := Option.some.inj performed
      exact .transport s usb
  | session => exact .session performed
  | environment => cases performed

/-- The firmware after a reset. -/
def SessionSystem.initial (device : δ) : SessionSystem δ where
  transport := resetTransportState
  session := ⟨componentTestRunnerInitialize, device, []⟩

/-! ## The grammar -/

/-- The active test: the id of the command that started it, and its type. -/
structure ActiveTest where
  commandId : UInt32
  type : Bytes
  deriving DecidableEq

/-- The active test of a runner. -/
def activeTest (runner : ComponentTestRunner δ) : Option ActiveTest :=
  runner.activeDefinition.map fun definition => ⟨runner.activeCommandId, definition.type⟩

/-- The answers that change nothing: the response to START_TEST, and the errors with
their reasons. -/
inductive PlainAnswer (registry : ComponentTestRegistry δ) (metadata : SessionMetadata)
    (active : Option ActiveTest) (line : Bytes) : Option (Bytes × Bool) → Prop where
  | metadata {commandId : UInt32} {testUuid : Bytes} (accepted : Bool)
      (requested : Requests line commandId (.startTest testUuid)) :
      PlainAnswer registry metadata active line
        ((startTestLine commandId metadata).map fun response => (response, accepted))
  | invalid {stop : ParseStop} (rejected : jsonProtocolParseRequest line = .error stop) :
      PlainAnswer registry metadata active line (some (errorMessage 0 "invalid_request", true))
  | alreadyActive {commandId : UInt32} {testType : Bytes} {colour : Option RgbColour}
      (requested : Requests line commandId (.runComponentTest testType colour))
      (running : active.isSome = true) :
      PlainAnswer registry metadata active line
        (some (errorMessage commandId "test_already_active", true))
  | unsupported {commandId : UInt32} {testType : Bytes} {colour : Option RgbColour}
      (requested : Requests line commandId (.runComponentTest testType colour))
      (idle : active = none) (unknown : componentRegistryFind registry testType = none) :
      PlainAnswer registry metadata active line
        (some (errorMessage commandId "unsupported_test_type", true))
  | noActiveTest {commandId : UInt32} (requested : Requests line commandId .stopComponentTest)
      (idle : active = none) :
      PlainAnswer registry metadata active line
        (some (errorMessage commandId "no_active_test", true))

/-- **The grammar of the session**: the actions that lead to a state with the given
active test. Each constructor adds what one turn does. -/
inductive Lifecycle (registry : ComponentTestRegistry δ) (metadata : SessionMetadata) :
    List SessionAction → Option ActiveTest → Prop where
  | reset : Lifecycle registry metadata [] none
  | answered {actions : List SessionAction} {active : Option ActiveTest} {line : Bytes}
      {queued : Option (Bytes × Bool)} (earlier : Lifecycle registry metadata actions active)
      (answer : PlainAnswer registry metadata active line queued) :
      Lifecycle registry metadata (actions ++ .request line :: responseActions queued) active
  | started {actions : List SessionAction} {line type : Bytes} {commandId : UInt32}
      {colour : Option RgbColour} {definition : ComponentTestDefinition δ}
      (earlier : Lifecycle registry metadata actions none)
      (requested : Requests line commandId (.runComponentTest type colour))
      (found : componentRegistryFind registry type = some definition) :
      Lifecycle registry metadata
        (actions ++ [.request line, .start type (colourParameters colour),
          .response (testMessage "TEST_STARTED" commandId type "running") true])
        (some ⟨commandId, type⟩)
  | stopped {actions : List SessionAction} {active : ActiveTest} {line : Bytes}
      {commandId : UInt32} (earlier : Lifecycle registry metadata actions (some active))
      (requested : Requests line commandId .stopComponentTest) :
      Lifecycle registry metadata
        (actions ++ [.request line, .stop active.type,
          .response (testMessage "TEST_STOPPED" commandId active.type "stopped") true])
        none
  | running {actions : List SessionAction} {active : ActiveTest}
      (earlier : Lifecycle registry metadata actions (some active)) :
      Lifecycle registry metadata (actions ++ [.process active.type .running]) (some active)
  | event {actions : List SessionAction} {active : ActiveTest} (accepted : Bool)
      (event : Option ComponentTestEvent)
      (earlier : Lifecycle registry metadata actions (some active)) :
      Lifecycle registry metadata
        (actions ++ .process active.type .event :: responseActions
          ((eventLine active.commandId (some active.type) event).map
            fun response => (response, accepted)))
        (some active)
  | completed {actions : List SessionAction} {active : ActiveTest}
      {result : ComponentTestProcessResult} {status : String}
      (earlier : Lifecycle registry metadata actions (some active))
      (verdict : (result = .passed ∧ status = "passed") ∨ (result = .failed ∧ status = "failed")) :
      Lifecycle registry metadata
        (actions ++ [.process active.type result, .stop active.type,
          .response (testMessage "TEST_COMPLETED" active.commandId active.type status) true])
        none

/-! ## Counting -/

/-- Whether an action is the call of a start callback. -/
def SessionAction.isStart : SessionAction → Bool
  | .start _ _ => true
  | _ => false

/-- Whether an action is the call of a stop callback. -/
def SessionAction.isStop : SessionAction → Bool
  | .stop _ => true
  | _ => false

/-- Whether an action is a message of one of the types. -/
def SessionAction.isMessage (types : List String) : SessionAction → Bool
  | .response line _ => types.any fun messageType => decide (IsOfType messageType line)
  | _ => false

/-- A message of one type is not of another. -/
theorem isMessage_response {types : List String} (sub : ∀ type ∈ types, type ∈ messageTypes)
    {messageType : String} (listed : messageType ∈ messageTypes) {line : Bytes} (accepted : Bool)
    (typed : IsOfType messageType line) :
    SessionAction.isMessage types (.response line accepted) = decide (messageType ∈ types) := by
  rw [SessionAction.isMessage, Bool.eq_iff_iff, List.any_eq_true, decide_eq_true_eq]
  constructor
  · rintro ⟨type, ofTypes, same⟩
    rwa [← isOfType_unique (sub type ofTypes) listed (of_decide_eq_true same) typed]
  · intro ofTypes
    exact ⟨messageType, ofTypes, decide_eq_true typed⟩

/-- The queued response of one type, if there is one, is a message of that type. -/
theorem countP_responseActions {types : List String}
    (sub : ∀ type ∈ types, type ∈ messageTypes) {messageType : String}
    (listed : messageType ∈ messageTypes) (absent : messageType ∉ types)
    {queued : Option (Bytes × Bool)}
    (typed : ∀ line accepted, queued = some (line, accepted) → IsOfType messageType line) :
    (responseActions queued).countP (SessionAction.isMessage types) = 0 := by
  cases queued with
  | none => rfl
  | some response =>
      have none := isMessage_response sub listed response.2 (typed response.1 response.2 rfl)
      rw [responseActions, Option.toList_some, List.map_cons, List.map_nil, List.countP_cons,
        List.countP_nil, none, decide_eq_false absent]
      rfl

/-- A plain answer is of one of two types. -/
theorem PlainAnswer.typed {registry : ComponentTestRegistry δ} {metadata : SessionMetadata}
    {active : Option ActiveTest} {line : Bytes} {queued : Option (Bytes × Bool)}
    (answer : PlainAnswer registry metadata active line queued) :
    ∃ messageType, (messageType = "START_TEST_RESPONSE" ∨ messageType = "ERROR") ∧
      ∀ response accepted, queued = some (response, accepted) → IsOfType messageType response := by
  have error : ∀ (commandId : UInt32) (errorCode : String) (response : Bytes) (accepted : Bool),
      some (errorMessage commandId errorCode, true) = some (response, accepted) →
        IsOfType "ERROR" response := by
    intro commandId errorCode response accepted same
    obtain ⟨rfl, _⟩ := Prod.mk.inj (Option.some.inj same)
    exact isOfType_errorMessage commandId errorCode
  cases answer with
  | @metadata commandId _ accepted _ =>
      refine ⟨_, .inl rfl, ?_⟩
      intro response accepted' same
      obtain ⟨built, spelled, same⟩ := Option.map_eq_some_iff.mp same
      obtain ⟨rfl, _⟩ := Prod.mk.inj same
      exact isOfType_startTestLine spelled
  | invalid _ => exact ⟨_, .inr rfl, error _ _⟩
  | alreadyActive _ _ => exact ⟨_, .inr rfl, error _ _⟩
  | unsupported _ _ _ => exact ⟨_, .inr rfl, error _ _⟩
  | noActiveTest _ _ => exact ⟨_, .inr rfl, error _ _⟩

/-- That a callback is called as often as messages of some types are queued, as far as
single actions tell. -/
structure CountedBy (call : SessionAction → Bool) (types : List String) : Prop where
  listed : ∀ type ∈ types, type ∈ messageTypes
  quiet : ∀ type ∈ ["START_TEST_RESPONSE", "ERROR", "TEST_EVENT"], type ∉ types
  request : ∀ line, call (.request line) = false
  process : ∀ type result, call (.process type result) = false
  response : ∀ line accepted, call (.response line accepted) = false
  start : ∀ type parameters, call (.start type parameters) = decide ("TEST_STARTED" ∈ types)
  stopped : ∀ type, call (.stop type) = decide ("TEST_STOPPED" ∈ types)
  completed : ∀ type, call (.stop type) = decide ("TEST_COMPLETED" ∈ types)

namespace CountedBy

variable {call : SessionAction → Bool} {types : List String} (counted : CountedBy call types)
include counted

/-- Queueing a response calls no component. -/
theorem countP_responseActions (queued : Option (Bytes × Bool)) :
    (responseActions queued).countP call = 0 := by
  cases queued with
  | none => rfl
  | some response =>
      rw [responseActions, Option.toList_some, List.map_cons, List.map_nil, List.countP_cons,
        counted.response]
      rfl

/-- A lifecycle message counts if it is of one of the types. -/
theorem isMessage_testMessage {responseType : String} (listed : responseType ∈ messageTypes)
    (commandId : UInt32) (testType : Bytes) (status : String) :
    SessionAction.isMessage types
        (.response (testMessage responseType commandId testType status) true) =
      decide (responseType ∈ types) :=
  isMessage_response counted.listed listed true
    (isOfType_testMessage responseType commandId testType status)

/-- A block with a quiet response adds to neither count. -/
theorem quiet_block {messageType : String}
    (quiet : messageType ∈ ["START_TEST_RESPONSE", "ERROR", "TEST_EVENT"]) {first : SessionAction}
    (noCall : call first = false) (noMessage : SessionAction.isMessage types first = false)
    {queued : Option (Bytes × Bool)}
    (typed : ∀ line accepted, queued = some (line, accepted) → IsOfType messageType line) :
    (first :: responseActions queued).countP call =
      (first :: responseActions queued).countP (SessionAction.isMessage types) := by
  have listed : ∀ type ∈ ["START_TEST_RESPONSE", "ERROR", "TEST_EVENT"], type ∈ messageTypes := by
    decide
  rw [List.countP_cons, List.countP_cons, noCall, noMessage, counted.countP_responseActions,
    FlightComputer.Firmware.countP_responseActions counted.listed (listed _ quiet)
      (counted.quiet _ quiet) typed]

end CountedBy

/-- The counts agree after a turn if they agreed before and the turn adds to both
alike. -/
theorem countP_append_eq {first second : SessionAction → Bool} {actions added : List SessionAction}
    (before : actions.countP first = actions.countP second)
    (turn : added.countP first = added.countP second) :
    (actions ++ added).countP first = (actions ++ added).countP second := by
  rw [List.countP_append, List.countP_append, before, turn]

/-- **A callback is called once for every message that it counts for.** -/
theorem Lifecycle.countP_eq {registry : ComponentTestRegistry δ} {metadata : SessionMetadata}
    {actions : List SessionAction} {active : Option ActiveTest}
    (history : Lifecycle registry metadata actions active) {call : SessionAction → Bool}
    {types : List String} (counted : CountedBy call types) :
    actions.countP call = actions.countP (SessionAction.isMessage types) := by
  induction history with
  | reset => rfl
  | @answered _ _ line _ _ answer ih =>
      obtain ⟨messageType, kind, typed⟩ := answer.typed
      apply countP_append_eq ih
      exact counted.quiet_block (by rcases kind with rfl | rfl <;> decide) (counted.request line)
        rfl typed
  | @started _ line type commandId _ _ _ _ _ ih =>
      apply countP_append_eq ih
      have message := counted.isMessage_testMessage (by decide : "TEST_STARTED" ∈ messageTypes)
        commandId type "running"
      simp only [List.countP_cons, List.countP_nil, counted.request, counted.start,
        counted.response, message]
      rfl
  | @stopped _ active line commandId _ _ ih =>
      apply countP_append_eq ih
      have message := counted.isMessage_testMessage (by decide : "TEST_STOPPED" ∈ messageTypes)
        commandId active.type "stopped"
      simp only [List.countP_cons, List.countP_nil, counted.request, counted.stopped,
        counted.response, message]
      rfl
  | @running _ active _ ih =>
      apply countP_append_eq ih
      rw [List.countP_cons, List.countP_cons, counted.process]
      rfl
  | @event _ active accepted event _ ih =>
      apply countP_append_eq ih
      refine counted.quiet_block
        (by decide : "TEST_EVENT" ∈ ["START_TEST_RESPONSE", "ERROR", "TEST_EVENT"])
        (counted.process active.type .event) rfl ?_
      intro line accepted' same
      obtain ⟨built, spelled, same⟩ := Option.map_eq_some_iff.mp same
      obtain ⟨rfl, _⟩ := Prod.mk.inj same
      exact isOfType_eventLine spelled
  | @completed _ active result status _ _ ih =>
      apply countP_append_eq ih
      have message := counted.isMessage_testMessage (by decide : "TEST_COMPLETED" ∈ messageTypes)
        active.commandId active.type status
      simp only [List.countP_cons, List.countP_nil, counted.process, counted.completed,
        counted.response, message]
      rfl

theorem countedBy_isStart : CountedBy SessionAction.isStart ["TEST_STARTED"] where
  listed := by decide
  quiet := by decide
  request _ := rfl
  process _ _ := rfl
  response _ _ := rfl
  start _ _ := rfl
  stopped _ := rfl
  completed _ := rfl

theorem countedBy_isStop : CountedBy SessionAction.isStop ["TEST_STOPPED", "TEST_COMPLETED"] where
  listed := by decide
  quiet := by decide
  request _ := rfl
  process _ _ := rfl
  response _ _ := rfl
  start _ _ := rfl
  stopped _ := rfl
  completed _ := rfl

/-! ## Runs of the firmware -/

/-- The actions so far follow the grammar, and the active test was registered under a
name that the parser takes. -/
structure InLifecycle (registry : ComponentTestRegistry δ) (metadata : SessionMetadata)
    (s : SessionState δ) : Prop where
  history : Lifecycle registry metadata s.actions (activeTest s.runner)
  named : ∀ definition, s.runner.activeDefinition = some definition →
    IsTestTypeName definition.type

theorem activeTest_eq_none {runner : ComponentTestRunner δ}
    (idle : runner.activeDefinition = none) : activeTest runner = none := by
  rw [activeTest, idle]
  rfl

theorem activeTest_eq_some {runner : ComponentTestRunner δ}
    {definition : ComponentTestDefinition δ} (active : runner.activeDefinition = some definition) :
    activeTest runner = some ⟨runner.activeCommandId, definition.type⟩ := by
  rw [activeTest, active]
  rfl

/-- Reading a line leaves the transmit queue as it is. -/
theorem canQueueLine_readLine {capacity : Nat} {transport after : UsbCdcTransport}
    {result : UsbCdcLineResult}
    (read : usbCdcTransportReadLine capacity transport = (after, result)) :
    usbCdcTransportCanQueueLine after = usbCdcTransportCanQueueLine transport := by
  rw [usbCdcTransportReadLine] at read
  dsimp only at read
  split_ifs at read
  · obtain ⟨rfl, _⟩ := Prod.mk.inj read
    rfl
  · obtain ⟨rfl, _⟩ := Prod.mk.inj read
    rfl
  · obtain ⟨rfl, _⟩ := Prod.mk.inj read
    rfl

section Turns

variable {registry : ComponentTestRegistry δ} {metadata : SessionMetadata}

/-- An error response is built and accepted. -/
theorem errorLine_queued {transport : UsbCdcTransport} (commandId : UInt32) {errorCode : String}
    (room : usbCdcTransportCanQueueLine transport = true) (listed : errorCode ∈ errorCodes) :
    (errorLine commandId errorCode).map (fun line => (line, queueAccepts transport line)) =
      some (errorMessage commandId errorCode, true) := by
  have word := isWord_errorCode listed
  have accepted := queueAccepts_of_isShort room
    ((isShort_errorMessage commandId word).mono (by decide))
  rw [errorLine_eq commandId word, Option.map_some, accepted]

/-- A lifecycle response is built and accepted. -/
theorem lifecycleLine_queued {transport : UsbCdcTransport} {responseType status : String}
    {testType : Bytes} (commandId : UInt32)
    (room : usbCdcTransportCanQueueLine transport = true) (typed : IsWord responseType)
    (ended : IsWord status) (named : IsTestTypeName testType) :
    (lifecycleLine responseType commandId testType status).map
        (fun line => (line, queueAccepts transport line)) =
      some (testMessage responseType commandId testType status, true) := by
  have short := isShort_of_isTestTypeName named
  have accepted := queueAccepts_of_isShort room
    ((isShort_testMessage typed ended short commandId).mono (by decide))
  rw [lifecycleLine_eq typed ended short commandId, Option.map_some, accepted]

/-- The three actions of a turn, as they are added. -/
theorem blocks_append (actions : List SessionAction) (first second third : SessionAction) :
    actions ++ [first] ++ [second] ++ [third] = actions ++ [first, second, third] := by
  rw [List.append_assoc, List.append_assoc]
  rfl

/-- A response, if there is one, is accepted or it is not; a short one is. -/
theorem exists_accepted {transport : UsbCdcTransport}
    (room : usbCdcTransportCanQueueLine transport = true) (response : Option Bytes) :
    ∃ accepted, response.map (fun line => (line, queueAccepts transport line)) =
        response.map (fun line => (line, accepted)) ∧
      ∀ line, response = some line → IsShort 4096 line → accepted = true := by
  cases response with
  | none => exact ⟨true, rfl, fun _ _ _ => rfl⟩
  | some line =>
      refine ⟨queueAccepts transport line, rfl, fun response same short => ?_⟩
      rw [Option.some.inj same]
      exact queueAccepts_of_isShort room short

/-- **What a turn does to the session**, its responses included. A short response is
accepted. -/
inductive TurnEffect (registry : ComponentTestRegistry δ) (metadata : SessionMetadata)
    (s : SessionState δ) : SessionState δ → Prop where
  | answered {line : Bytes} {queued : Option (Bytes × Bool)}
      (answer : PlainAnswer registry metadata (activeTest s.runner) line queued)
      (accepts : ∀ response accepted, queued = some (response, accepted) →
        IsShort 4096 response → accepted = true) :
      TurnEffect registry metadata s (s.after s.device (.request line :: responseActions queued))
  | started {line : Bytes} {commandId : UInt32} {colour : Option RgbColour}
      {definition : ComponentTestDefinition δ} {device : δ}
      (idle : s.runner.activeDefinition = none)
      (requested : Requests line commandId (.runComponentTest definition.type colour))
      (found : componentRegistryFind registry definition.type = some definition)
      (called : definition.start (colourParameters colour) s.device = some ((), device)) :
      TurnEffect registry metadata s
        { s.after device [.request line, .start definition.type (colourParameters colour),
            .response (testMessage "TEST_STARTED" commandId definition.type "running") true] with
          runner := ⟨some definition, commandId⟩ }
  | stopped {line : Bytes} {commandId : UInt32} {definition : ComponentTestDefinition δ}
      {device : δ} (active : s.runner.activeDefinition = some definition)
      (requested : Requests line commandId .stopComponentTest)
      (called : definition.stop s.device = some ((), device)) :
      TurnEffect registry metadata s
        { s.after device [.request line, .stop definition.type,
            .response (testMessage "TEST_STOPPED" commandId definition.type "stopped") true] with
          runner := componentTestRunnerInitialize }
  | running {definition : ComponentTestDefinition δ} {device : δ}
      (active : s.runner.activeDefinition = some definition)
      (called : definition.process s.device = some (.running, device)) :
      TurnEffect registry metadata s (s.after device [.process definition.type .running])
  | event {definition : ComponentTestDefinition δ} {device : δ} {accepted : Bool}
      (active : s.runner.activeDefinition = some definition)
      (called : definition.process s.device = some (.event, device))
      (accepts : ∀ line, eventLine s.runner.activeCommandId (some definition.type)
        (definition.event.bind fun event => event device) = some line → IsShort 4096 line →
          accepted = true) :
      TurnEffect registry metadata s
        (s.after device (.process definition.type .event :: responseActions
          ((eventLine s.runner.activeCommandId (some definition.type)
            (definition.event.bind fun event => event device)).map
              fun line => (line, accepted))))
  | completed {definition : ComponentTestDefinition δ} {processed device : δ}
      {result : ComponentTestProcessResult} {status : String}
      (active : s.runner.activeDefinition = some definition)
      (called : definition.process s.device = some (result, processed))
      (verdict : (result = .passed ∧ status = "passed") ∨ (result = .failed ∧ status = "failed"))
      (stopped : definition.stop processed = some ((), device)) :
      TurnEffect registry metadata s
        { s.after device [.process definition.type result, .stop definition.type,
            .response (testMessage "TEST_COMPLETED" s.runner.activeCommandId definition.type
              status) true] with
          runner := componentTestRunnerInitialize }

/-- **The effect of an answer to a line.** -/
theorem TurnEffect.line {s : SessionState δ} {transport : UsbCdcTransport} {line : Bytes}
    {response : Option Bytes} {session : SessionState δ}
    (named : ∀ definition, s.runner.activeDefinition = some definition →
      IsTestTypeName definition.type)
    (room : usbCdcTransportCanQueueLine transport = true)
    (answer : LineAnswer registry metadata line (s.record (.request line)) response session) :
    TurnEffect registry metadata s (queueResponse response ⟨transport, session⟩).session := by
  rw [queueResponse_session]
  have plain : ∀ queued, PlainAnswer registry metadata (activeTest s.runner) line queued →
      (∀ response accepted, queued = some (response, accepted) → IsShort 4096 response →
        accepted = true) →
      TurnEffect registry metadata s
        { s.record (.request line) with
          actions := (s.record (.request line)).actions ++ responseActions queued } := by
    intro queued answered accepts
    have effect := TurnEffect.answered answered accepts
    rw [SessionState.after, List.append_cons] at effect
    exact effect
  have accepted : ∀ (commandId : UInt32) (errorCode : String) (response : Bytes) (accepted : Bool),
      some (errorMessage commandId errorCode, true) = some (response, accepted) →
        IsShort 4096 response → accepted = true := by
    intro commandId errorCode response accepted same _
    exact (Prod.mk.inj (Option.some.inj same)).2.symm
  cases answer with
  | invalid rejected =>
      rw [errorLine_queued 0 room (by decide)]
      exact plain _ (.invalid rejected) (accepted _ _)
  | @metadata commandId _ requested =>
      obtain ⟨accepted, same, accepts⟩ := exists_accepted room (startTestLine commandId metadata)
      rw [same]
      refine plain _ (.metadata accepted requested) ?_
      intro response accepted' queued short
      obtain ⟨built, spelled, same⟩ := Option.map_eq_some_iff.mp queued
      obtain ⟨rfl, rfl⟩ := Prod.mk.inj same
      exact accepts built spelled short
  | alreadyActive requested active =>
      rw [errorLine_queued _ room (by decide)]
      rw [SessionState.record_runner] at active
      refine plain _ (.alreadyActive requested ?_) (accepted _ _)
      rw [activeTest_eq_some active]
      rfl
  | unsupported requested idle unknown =>
      rw [errorLine_queued _ room (by decide)]
      exact plain _ (.unsupported requested (activeTest_eq_none idle) unknown) (accepted _ _)
  | @started commandId testType colour definition device requested idle found called =>
      obtain ⟨rfl, isName⟩ := isTestTypeName_of_found requested found
      rw [lifecycleLine_queued commandId room (isWord_of_decide (by decide) (by decide))
        (isWord_of_decide (by decide) (by decide)) isName]
      have effect : TurnEffect registry metadata s _ := .started idle requested found called
      rw [SessionState.after, ← blocks_append] at effect
      exact effect
  | noActiveTest requested idle =>
      rw [errorLine_queued _ room (by decide)]
      exact plain _ (.noActiveTest requested (activeTest_eq_none idle)) (accepted _ _)
  | @stopped commandId definition device requested active called =>
      rw [lifecycleLine_queued commandId room (isWord_of_decide (by decide) (by decide))
        (isWord_of_decide (by decide) (by decide)) (named definition active)]
      have effect : TurnEffect registry metadata s _ := .stopped active requested called
      rw [SessionState.after, ← blocks_append] at effect
      exact effect

/-- **The effect of an update.** -/
theorem TurnEffect.component {s : SessionState δ} {transport : UsbCdcTransport}
    {definition : ComponentTestDefinition δ} {response : Option Bytes} {session : SessionState δ}
    (named : IsTestTypeName definition.type)
    (room : usbCdcTransportCanQueueLine transport = true)
    (active : s.runner.activeDefinition = some definition)
    (update : ComponentUpdate definition s response session) :
    TurnEffect registry metadata s (queueResponse response ⟨transport, session⟩).session := by
  rw [queueResponse_session]
  cases update with
  | running called =>
      have effect : TurnEffect registry metadata s _ := .running active called
      simpa only [SessionState.after, responseActions, Option.map_none, Option.toList_none,
        List.map_nil, List.append_nil] using effect
  | @event device called =>
      obtain ⟨accepted, same, accepts⟩ := exists_accepted room
        (eventLine s.runner.activeCommandId (some definition.type)
          (definition.event.bind fun event => event device))
      rw [same]
      have effect : TurnEffect registry metadata s _ := .event active called accepts
      rw [SessionState.after, List.append_cons] at effect
      exact effect
  | @completed processed device result status called verdict stopped =>
      have ended : IsWord status := by
        rcases verdict with ⟨_, rfl⟩ | ⟨_, rfl⟩ <;>
          exact isWord_of_decide (by decide) (by decide)
      rw [lifecycleLine_queued _ room (isWord_of_decide (by decide) (by decide)) ended named]
      have effect : TurnEffect registry metadata s _ := .completed active called verdict stopped
      rw [SessionState.after, ← blocks_append, List.append_assoc s.actions] at effect
      exact effect

/-- **The effect of a turn.** -/
theorem SessionTurn.effect {s t : SessionSystem δ}
    (named : ∀ definition, s.session.runner.activeDefinition = some definition →
      IsTestTypeName definition.type)
    (turn : SessionTurn registry metadata s t) :
    TurnEffect registry metadata s.session t.session := by
  cases turn with
  | line room read answer =>
      exact .line named ((canQueueLine_readLine read).trans room) answer
  | component room active update => exact .component (named _ active) room active update

/-- **Every effect continues the grammar.** -/
theorem InLifecycle.effect {s t : SessionState δ} (before : InLifecycle registry metadata s)
    (effect : TurnEffect registry metadata s t) : InLifecycle registry metadata t := by
  obtain ⟨history, named⟩ := before
  cases effect with
  | answered answer _ => exact ⟨history.answered answer, named⟩
  | @started line commandId colour definition device idle requested found called =>
      rw [activeTest_eq_none idle] at history
      refine ⟨history.started requested found, ?_⟩
      rintro _ ⟨⟩
      exact (isTestTypeName_of_found requested found).2
  | stopped active requested called =>
      rw [activeTest_eq_some active] at history
      exact ⟨history.stopped requested, fun _ none => absurd none.symm (Option.some_ne_none _)⟩
  | running active called =>
      refine ⟨?_, named⟩
      rw [activeTest_eq_some active] at history
      have continued := history.running
      rwa [← activeTest_eq_some active] at continued
  | @event definition device accepted active called accepts =>
      refine ⟨?_, named⟩
      rw [activeTest_eq_some active] at history
      have continued := Lifecycle.event accepted
        (definition.event.bind fun event => event device) history
      rwa [← activeTest_eq_some active] at continued
  | completed active called verdict stopped =>
      rw [activeTest_eq_some active] at history
      exact ⟨history.completed verdict, fun _ none => absurd none.symm (Option.some_ne_none _)⟩

/-- Every turn continues the grammar. -/
theorem InLifecycle.turn {s t : SessionSystem δ} (before : InLifecycle registry metadata s.session)
    (turn : SessionTurn registry metadata s t) : InLifecycle registry metadata t.session :=
  before.effect (turn.effect before.named)

/-- Every step of the firmware continues the grammar. -/
theorem InLifecycle.step {environment : δ → δ → Prop} {s t : SessionSystem δ}
    {event : SessionEvent} (before : InLifecycle registry metadata s.session)
    (step : SessionStep registry metadata environment s event t) :
    InLifecycle registry metadata t.session := by
  cases step with
  | packet bytes => exact before
  | transmitComplete => exact before
  | deinit => exact before
  | init => exact before
  | transport usb => exact before
  | session returned =>
      exact sessionProtocolProcess_preserves
        (I := fun s => InLifecycle registry metadata s.session)
        (fun _ _ before turn => before.turn turn) before returned
  | environment changed => exact ⟨before.history, before.named⟩

/-- A line that is not answered with TEST_STARTED or TEST_STOPPED leaves everything as
it was. -/
theorem unchanged_of_answer {s t : SessionState δ} {line : Bytes} {response : Option Bytes}
    (before : InLifecycle registry metadata s)
    (answer : LineAnswer registry metadata line s response t)
    (other : ∀ message, response = some message →
      ¬IsOfType "TEST_STARTED" message ∧ ¬IsOfType "TEST_STOPPED" message) : t = s := by
  cases answer with
  | invalid _ => rfl
  | metadata _ => rfl
  | alreadyActive _ _ => rfl
  | unsupported _ _ _ => rfl
  | @started commandId _ _ definition _ requested _ found _ =>
      obtain ⟨same, isName⟩ := isTestTypeName_of_found requested found
      rw [same] at other
      exact absurd (isOfType_testMessage ..) (other _ (lifecycleLine_eq
        (isWord_of_decide (by decide) (by decide)) (isWord_of_decide (by decide) (by decide))
        (isShort_of_isTestTypeName isName) commandId)).1
  | noActiveTest _ _ => rfl
  | @stopped commandId definition _ _ active _ =>
      exact absurd (isOfType_testMessage ..) (other _ (lifecycleLine_eq
        (isWord_of_decide (by decide) (by decide)) (isWord_of_decide (by decide) (by decide))
        (isShort_of_isTestTypeName (before.named definition active)) commandId)).2

end Turns

/-- **The lifecycle of component tests.** In every run of the firmware the actions of
the session follow the grammar, up to the test that is active now; a component has been
started once for every TEST_STARTED and stopped once for every TEST_COMPLETED and
TEST_STOPPED; and a line that is answered with anything else, or with nothing, leaves the
active test, its id and the components as they are. -/
theorem component_test_lifecycle {registry : ComponentTestRegistry δ}
    {metadata : SessionMetadata} {environment : δ → δ → Prop} {device : δ}
    {s : SessionSystem δ} {events : List SessionEvent}
    (run : Run (SessionStep registry metadata environment) (.initial device) events s) :
    Lifecycle registry metadata s.session.actions (activeTest s.session.runner) ∧
      s.session.actions.countP SessionAction.isStart =
        s.session.actions.countP (SessionAction.isMessage ["TEST_STARTED"]) ∧
      s.session.actions.countP SessionAction.isStop =
        s.session.actions.countP (SessionAction.isMessage ["TEST_STOPPED", "TEST_COMPLETED"]) ∧
      ∀ (line : Bytes) (response : Option Bytes) (t : SessionState δ),
        processLine registry metadata line s.session = some (response, t) →
          (∀ message, response = some message →
            ¬IsOfType "TEST_STARTED" message ∧ ¬IsOfType "TEST_STOPPED" message) →
          t = s.session := by
  have reached : InLifecycle registry metadata s.session :=
    run.invariant (I := fun s => InLifecycle registry metadata s.session)
      (fun _ _ _ before step => before.step step)
      ⟨.reset, fun _ none => absurd none.symm (Option.some_ne_none _)⟩
  refine ⟨reached.history, reached.history.countP_eq countedBy_isStart,
    reached.history.countP_eq countedBy_isStop, ?_⟩
  intro line response t processed other
  exact unchanged_of_answer reached (processLine_answers processed) other

/-- A component that runs until it is stopped. -/
def untilStopped : ComponentTestDefinition Unit where
  type := ascii "status_led_red"
  start _ := pure ()
  process := pure .running
  event := none
  stop := pure ()

/-- A request to run the test of this component, as it is sent. -/
def runUntilStopped : Bytes :=
  ascii ("\x7b\"protocol_version\":1,\"type\":\"RUN_COMPONENT_TEST\",\"command_id\":7," ++
    "\"test_type\":\"status_led_red\"\x7d")

/-- The firmware once it has received this request. -/
def requestReceived : SessionSystem Unit where
  transport := (usbCdcTransportProcess ⟨false, false, false⟩
    (cdcReceive resetTransportState (runUntilStopped ++ [lineFeed]))).1
  session := (SessionSystem.initial ()).session

/-- The actions of the turn that starts the test, and of the first update. -/
def startedActions : List SessionAction :=
  [.request runUntilStopped, .start (ascii "status_led_red") ⟨false, 0, 0, 0⟩,
    .response (testMessage "TEST_STARTED" 7 (ascii "status_led_red") "running") true,
    .process (ascii "status_led_red") .running]

set_option maxRecDepth 4000 in
/-- A run in which a test is started and updated once. -/
theorem component_test_lifecycle_started :
    ∃ (events : List SessionEvent) (s : SessionSystem Unit),
      Run (SessionStep [untilStopped] blankMetadata fun _ _ => False) (.initial ()) events s ∧
        s.session.actions = startedActions ∧
        s.session.actions.countP SessionAction.isStart =
          s.session.actions.countP (SessionAction.isMessage ["TEST_STARTED"]) := by
  have actions : (sessionProtocolProcess [untilStopped] blankMetadata requestReceived).map
      (fun s => s.session.actions) = some startedActions := by decide +kernel
  obtain ⟨s, returned, same⟩ := Option.map_eq_some_iff.mp actions
  have run : Run (SessionStep [untilStopped] blankMetadata fun _ _ => False) (.initial ())
      [.packet (runUntilStopped ++ [lineFeed]), .transport ⟨false, false, false⟩, .session] s :=
    .head (.packet _ _) (.head (.transport _ _) (.single (.session returned)))
  exact ⟨_, s, run, same, (component_test_lifecycle run).2.1⟩

end FlightComputer.Firmware
