import FlightComputer.Bench
import FlightComputer.MessageMatching
import FlightComputer.RequestStrictness

/-!
# The tester and the firmware stay in step

While no call of the tester has raised an exception, the two parties are in step: whenever the
tester is about to ask for a test, the firmware has none and no line is under way in either
direction (`Quiet`); a test that is under way has left nothing but its events, and at the end its
verdict, on the way to the tester (`UnderWay`).

The firmware keeps each of these assertions by all of its moves, and each exchange of the tester
leads from one to the next. A single line left over from one test would be taken for the answer
to the next, so all that counts is that an exchange that returns has read everything.
-/

set_option autoImplicit false

namespace FlightComputer

open Library Firmware BoardTester

variable {δ : Type}

/-! ## Requests of the tester -/

/-- The line that asks for a test. -/
def IsRunLine (line : Bytes) : Prop :=
  ∃ commandId testType parameters, encodeRunComponentTest commandId testType parameters = .ok line

/-- The text that a stop request is. -/
theorem exists_isJsonText_encodeStop {stopId : Int} {line : Bytes}
    (encoded : encodeStopComponentTest stopId = .ok line) :
    ∃ number : Nat, stopId = number ∧ IsJsonText line (requestTree
      [.protocolVersion (decimalText 1), .type (ascii "STOP_COMPONENT_TEST"),
        .commandId (decimalText number)]) := by
  obtain ⟨_, valid, made⟩ := (except_bind_eq_ok_iff _ _ _).mp encoded
  have positive : 0 < stopId := by
    by_contra negative
    rw [validateCommandId, if_pos (Int.not_lt.mp negative)] at valid
    cases valid
  obtain ⟨number, rfl⟩ := Int.eq_ofNat_of_zero_le positive.le
  obtain rfl := Except.ok.inj made
  have json := isJsonText_dumps (.dict
    [(pyStr "protocol_version", .int protocolVersion),
      (pyStr "type", .str (pyStr "STOP_COMPONENT_TEST")), (pyStr "command_id", .int number)])
  rw [dumpsTree, dumpsMembers_common "STOP_COMPONENT_TEST" number _
    (escapeText_pyStr (by decide))] at json
  exact ⟨number, rfl, json⟩

/-- **A stop request is taken for nothing else**, whatever its command id is, and with no other
id. -/
theorem request_of_encodeStop {stopId : Int} {line : Bytes}
    (encoded : encodeStopComponentTest stopId = .ok line) {commandId : UInt32} {body : RequestBody}
    (requested : Requests line commandId body) :
    body = .stopComponentTest ∧ (commandId.toNat : Int) = stopId := by
  obtain ⟨number, rfl, json⟩ := exists_isJsonText_encodeStop encoded
  obtain ⟨request, admissible, spelled, same⟩ :=
    exists_spelledBy_of_parsed (List.cons_ne_nil _ _) json requested.parsed
  obtain rfl := requestRecord_injective admissible requested.admissible same
  obtain ⟨version, literal, others, _, numbered, _, perm⟩ := spelled
  have named : RequestMember.type body.typeName ∈ [RequestMember.protocolVersion (decimalText 1),
      .type (ascii "STOP_COMPONENT_TEST"), .commandId (decimalText number)] :=
    perm.mem_iff.mpr (.tail _ (.head _))
  have counted : RequestMember.commandId literal ∈ [RequestMember.protocolVersion (decimalText 1),
      .type (ascii "STOP_COMPONENT_TEST"), .commandId (decimalText number)] :=
    perm.mem_iff.mpr (.tail _ (.tail _ (.head _)))
  simp only [List.mem_cons, List.not_mem_nil, or_false, reduceCtorEq, false_or] at named counted
  have typed := RequestMember.type.inj named
  obtain rfl := RequestMember.commandId.inj counted
  have value : number = commandId.toNat := (numeralValue_decimalText number).symm.trans numbered.2
  refine ⟨?_, by rw [value]⟩
  cases body with
  | startTest testUuid =>
      exact absurd typed (show ascii "START_TEST" ≠ ascii "STOP_COMPONENT_TEST" by decide)
  | runComponentTest testType colour =>
      exact absurd typed (show ascii "RUN_COMPONENT_TEST" ≠ ascii "STOP_COMPONENT_TEST" by decide)
  | stopComponentTest => rfl

/-- How the line that asks for a test starts. -/
theorem exists_dumps_of_isRunLine {line : Bytes} (run : IsRunLine line) :
    ∃ (commandId : Int) (others : List (PyStr × PyValue)), line = dumps (.dict
      ((pyStr "protocol_version", .int protocolVersion) ::
        (pyStr "type", .str (pyStr "RUN_COMPONENT_TEST")) ::
          (pyStr "command_id", .int commandId) :: others)) := by
  obtain ⟨commandId, testType, parameters, encoded⟩ := run
  obtain ⟨_, _, encoded⟩ := (except_bind_eq_ok_iff _ _ _).mp encoded
  obtain ⟨_, _, made⟩ := (except_bind_eq_ok_iff _ _ _).mp encoded
  cases parameters with
  | none => exact ⟨commandId, _, (Except.ok.inj made).symm⟩
  | some parameters =>
      dsimp only at made
      split_ifs at made
      exact ⟨commandId, _, (Except.ok.inj made).symm⟩

/-- A stop request asks for no test. -/
theorem not_isRunLine_of_encodeStop {stopId : Int} {line : Bytes}
    (encoded : encodeStopComponentTest stopId = .ok line) : ¬IsRunLine line := by
  intro run
  obtain ⟨commandId, others, rfl⟩ := exists_dumps_of_isRunLine run
  obtain ⟨_, _, made⟩ := (except_bind_eq_ok_iff _ _ _).mp encoded
  have same := Except.ok.inj made
  simp only [dumps, dumpsFurther, List.cons_append, List.append_assoc, List.cons.injEq,
    List.append_cancel_left_eq, true_and, @escapeText_pyStr "STOP_COMPONENT_TEST" (by decide),
    @escapeText_pyStr "RUN_COMPONENT_TEST" (by decide)] at same
  exact absurd (List.cons.inj same).1 (by decide)

/-! ## Accounts of events -/

/-- Whether a line is an event. -/
def isEvent (line : Bytes) : Bool := decide (IsOfType "TEST_EVENT" line)

/-- The events that the firmware has queued. -/
def Bench.emitted (s : Bench δ) : List Bytes := (queuedLines s.session.actions).filter isEvent

/-- What has been handed to a handler is what the line tells. -/
def IsHandled (line : Bytes) (handled : HandledEvent) : Prop :=
  decodeComponentTestMessage line handled.commandId handled.testType = .ok (.event handled.event)

/-- **The accounts of events**: the events of the firmware have been handed to the handlers in
order, up to those of a list. -/
def Bench.Accounts (s : Bench δ) (unhandled : List Bytes) : Prop :=
  ∃ read, s.emitted = read ++ unhandled ∧ List.Forall₂ IsHandled read s.handled

theorem queuedLines_responseActions (response : Option Bytes) :
    queuedLines (responseActions (response.map fun line => (line, decide (IsOneLine line)))) =
      delivered response := by
  cases response with
  | none => rfl
  | some line =>
      rw [delivered, Option.map_some]
      split_ifs with one
      · rw [decide_eq_true one]
        rfl
      · rw [decide_eq_false one]
        rfl

/-- A response adds its line to the events that have been queued, if it is one. -/
theorem Bench.emitted_respond {s : Bench δ} {response : Option Bytes} :
    (Bench.respond response s).emitted = s.emitted ++ (delivered response).filter isEvent := by
  rw [Bench.emitted, Bench.respond, queuedLines_append, queuedLines_responseActions,
    List.filter_append]
  rfl

/-- What is queued is added to what is not handled. -/
theorem Bench.Accounts.respond {s : Bench δ} {unhandled : List Bytes} (accounts : s.Accounts unhandled)
    (response : Option Bytes) :
    (Bench.respond response s).Accounts (unhandled ++ (delivered response).filter isEvent) := by
  obtain ⟨read, emitted, handled⟩ := accounts
  refine ⟨read, ?_, handled⟩
  rw [Bench.emitted_respond, emitted, List.append_assoc]

/-- Calls of components are no events. -/
theorem Bench.Accounts.calls {s t : Bench δ} {unhandled : List Bytes} (accounts : s.Accounts unhandled)
    {added : List SessionAction} (actions : t.session.actions = s.session.actions ++ added)
    (silent : queuedLines added = []) (handled : t.handled = s.handled) : t.Accounts unhandled := by
  obtain ⟨read, emitted, told⟩ := accounts
  refine ⟨read, ?_, handled ▸ told⟩
  rw [← emitted, Bench.emitted, Bench.emitted, actions, queuedLines_append, silent, List.append_nil]

theorem isEvent_eq_false {messageType : String} (listed : messageType ∈ messageTypes)
    (other : messageType ≠ "TEST_EVENT") {line : Bytes} (typed : IsOfType messageType line) :
    isEvent line = false :=
  decide_eq_false fun event => other (isOfType_unique listed (by decide) typed event)

/-! ## A test of the firmware -/

/-- An event of a test. -/
def IsEventOf (test : ActiveTest) (line : Bytes) : Prop :=
  ∃ event : Firmware.ComponentTestEvent, event.IsLabelled ∧
    eventLine test.commandId (some test.type) (some event) = some line

/-- The message that ends a test. -/
def completedMessage (test : ActiveTest) (status : String) : Bytes :=
  testMessage "TEST_COMPLETED" test.commandId test.type status

/-- **The last thing that the firmware did** was to end a test with a verdict of the component. -/
def EndsWith (actions : List SessionAction) (test : ActiveTest) (status : String) : Prop :=
  ∃ before result,
    ((result = .passed ∧ status = "passed") ∨ (result = .failed ∧ status = "failed")) ∧
    actions = before ++ [.process test.type result, .stop test.type,
      .response (completedMessage test status) true]

/-- **How far the firmware is with a test**, with the lines that it has queued and the tester has not
read: it runs, or it has ended. -/
inductive Pending (test : ActiveTest) (session : SessionState δ) : List Bytes → Prop where
  | running {events : List Bytes} (active : activeTest session.runner = some test)
      (told : ∀ line ∈ events, IsEventOf test line) : Pending test session events
  | ended {events : List Bytes} {status : String}
      (idle : session.runner.activeDefinition = none)
      (told : ∀ line ∈ events, IsEventOf test line)
      (verdict : EndsWith session.actions test status) :
      Pending test session (events ++ [completedMessage test status])

/-- A test that the parser can ask for. -/
structure IsTest (test : ActiveTest) : Prop where
  nonzero : test.commandId ≠ 0
  named : IsTestTypeName test.type

theorem IsEventOf.isEvent {test : ActiveTest} {line : Bytes} (event : IsEventOf test line) :
    isEvent line = true := by
  obtain ⟨_, _, built⟩ := event
  exact decide_eq_true (isOfType_eventLine built)

theorem isEvent_testMessage {messageType : String} (listed : messageType ∈ messageTypes)
    (other : messageType ≠ "TEST_EVENT") (id : UInt32) (type : Bytes) (status : String) :
    isEvent (testMessage messageType id type status) = false :=
  isEvent_eq_false listed other (isOfType_testMessage messageType id type status)

/-- The state of the bench while an active test is updated, and what it delivers. -/
theorem Pending.component {test : ActiveTest} (isTest : IsTest test) {s : Bench δ}
    {definition : ComponentTestDefinition δ} {response : Option Bytes} {session : SessionState δ}
    {lines : List Bytes} (telling : Telling s.session) (pending : Pending test s.session lines)
    (active : s.session.runner.activeDefinition = some definition)
    (update : ComponentUpdate definition s.session response session) :
    Pending test (Bench.respond response { s with session := session }).session
        (lines ++ delivered response) ∧
      ∃ added, session.actions = s.session.actions ++ added ∧ queuedLines added = [] := by
  have same := activeTest_eq_some active
  cases pending with
  | ended idle _ _ => exact absurd (idle.symm.trans active).symm (Option.some_ne_none _)
  | running running told =>
      obtain rfl := Option.some.inj (running.symm.trans same)
      cases update with
      | running called =>
          refine ⟨?_, [.process definition.type .running], rfl, rfl⟩
          rw [delivered, List.append_nil]
          exact .running same told
      | @event device called =>
          obtain ⟨event, line, occurred, labelled, built, short⟩ :=
            telling.exists_eventLine active called
          have one : IsOneLine line := isOneLine_of_isShort short (by decide)
          refine ⟨?_, [.process definition.type .event], rfl, rfl⟩
          rw [occurred, built, delivered, if_pos one]
          refine .running same ?_
          intro other listed
          rcases List.mem_append.mp listed with earlier | last
          · exact told other earlier
          · obtain rfl := List.mem_singleton.mp last
            exact ⟨event, labelled, built⟩
      | @completed processed device result status called verdict stopped =>
          have ended : IsWord status := by
            rcases verdict with ⟨_, rfl⟩ | ⟨_, rfl⟩ <;>
              exact isWord_of_decide (by decide) (by decide)
          have short := isShort_of_isTestTypeName (telling.named definition active)
          have typed : IsWord "TEST_COMPLETED" := isWord_of_decide (by decide) (by decide)
          have one : IsOneLine (testMessage "TEST_COMPLETED" s.session.runner.activeCommandId
              definition.type status) :=
            isOneLine_of_isShort (isShort_testMessage typed ended short _) (by decide)
          refine ⟨?_, [.process definition.type result, .stop definition.type], rfl, rfl⟩
          rw [lifecycleLine_eq typed ended short, delivered, if_pos one]
          refine .ended rfl told ⟨s.session.actions, result, verdict, ?_⟩
          show s.session.actions ++ _ ++ [.response _ (decide (IsOneLine _))] = _
          rw [decide_eq_true one, List.append_assoc]
          rfl

/-- What an update adds to the lines is added to the accounts. -/
theorem Bench.Accounts.component {s : Bench δ} {lines : List Bytes}
    (accounts : s.Accounts (lines.filter isEvent)) {session : SessionState δ}
    {added : List SessionAction} (actions : session.actions = s.session.actions ++ added)
    (silent : queuedLines added = []) (response : Option Bytes) :
    (Bench.respond response { s with session := session }).Accounts
      ((lines ++ delivered response).filter isEvent) := by
  rw [List.filter_append]
  exact (@Bench.Accounts.calls δ s { s with session := session } _ accounts added actions silent
    rfl).respond response

/-! ## Answers to lines -/

theorem isEvent_errorMessage (commandId : UInt32) (errorCode : String) :
    isEvent (errorMessage commandId errorCode) = false :=
  isEvent_eq_false (by decide) (by decide) (isOfType_errorMessage commandId errorCode)

theorem isEvent_errorLine {commandId : UInt32} {errorCode : String}
    (listed : errorCode ∈ errorCodes) {line : Bytes}
    (built : errorLine commandId errorCode = some line) : isEvent line = false := by
  rw [errorLine_eq commandId (isWord_errorCode listed)] at built
  obtain rfl := Option.some.inj built
  exact isEvent_errorMessage commandId errorCode

/-- **What a firmware without a test answers**: it stays without, or it has started the test that was
asked for. -/
inductive IdleAnswer (t : SessionState δ) : Option Bytes → Prop where
  | nothing {response : Option Bytes} (idle : t.runner.activeDefinition = none)
      (other : ∀ line, response = some line → isEvent line = false) : IdleAnswer t response
  | started {test : ActiveTest} (isTest : IsTest test) (active : activeTest t.runner = some test)
      (telling : Telling t) : IdleAnswer t
        (some (testMessage "TEST_STARTED" test.commandId test.type "running"))

theorem idleAnswer {registry : ComponentTestRegistry δ} {metadata : SessionMetadata} {line : Bytes}
    {s t : SessionState δ} {response : Option Bytes}
    (components : ∀ definition ∈ registry, ∃ ready, Tells definition ready)
    (idle : s.runner.activeDefinition = none)
    (answer : LineAnswer registry metadata line s response t) :
    IdleAnswer t response ∧
      ∃ added, t.actions = s.actions ++ added ∧ queuedLines added = [] := by
  have telling := (Telling.of_idle idle).answer components answer
  have unchanged : ∃ added, s.actions = s.actions ++ added ∧ queuedLines added = [] :=
    ⟨[], (List.append_nil _).symm, rfl⟩
  cases answer with
  | invalid _ => exact ⟨.nothing idle fun _ built => isEvent_errorLine (by decide) built, unchanged⟩
  | metadata _ =>
      refine ⟨.nothing idle fun _ built => ?_, unchanged⟩
      exact isEvent_eq_false (by decide) (by decide) (isOfType_startTestLine built)
  | alreadyActive _ active => exact absurd (idle.symm.trans active).symm (Option.some_ne_none _)
  | unsupported _ _ _ =>
      exact ⟨.nothing idle fun _ built => isEvent_errorLine (by decide) built, unchanged⟩
  | @started commandId _ _ definition _ requested _ found _ =>
      obtain ⟨same, named⟩ := isTestTypeName_of_found requested found
      rw [← same] at named
      rw [lifecycleLine_eq (isWord_of_decide (by decide) (by decide))
        (isWord_of_decide (by decide) (by decide)) (isShort_of_isTestTypeName named)]
      exact ⟨@IdleAnswer.started δ _ ⟨commandId, definition.type⟩
        ⟨requested.commandId_ne_zero, named⟩ (activeTest_eq_some rfl) telling, _, rfl, rfl⟩
  | noActiveTest _ _ =>
      exact ⟨.nothing idle fun _ built => isEvent_errorLine (by decide) built, unchanged⟩
  | stopped _ active _ => exact absurd (idle.symm.trans active).symm (Option.some_ne_none _)

/-! ## The states of the two parties -/

/-- **Nothing is under way**: no test is active, no line waits in either direction, and all events
have been handed to a handler. -/
structure Quiet (s : Bench δ) : Prop where
  requests : s.requests = []
  idle : s.session.runner.activeDefinition = none
  responses : s.responses = []
  accounts : s.Accounts []

/-- **A test is under way**: the firmware waits for no request, and what the tester has not read are
the lines of this test, which are all events that are not handled but one that the tester
has just read. -/
structure UnderWay (test : ActiveTest) (unhandled : List Bytes) (s : Bench δ) : Prop where
  requests : s.requests = []
  isTest : IsTest test
  telling : Telling s.session
  pending : Pending test s.session s.responses
  accounts : s.Accounts (unhandled ++ s.responses.filter isEvent)

/-- **A request has been written when nothing was under way**: it waits, or it has been answered, or
it has started a test. -/
inductive Asked (s : Bench δ) : Prop where
  | waiting {line : Bytes} (requests : s.requests = [line])
      (idle : s.session.runner.activeDefinition = none) (responses : s.responses = [])
      (accounts : s.Accounts [])
  | answered {response : Option Bytes} (requests : s.requests = [])
      (idle : s.session.runner.activeDefinition = none)
      (responses : s.responses = delivered response) (accounts : s.Accounts [])
  | started {test : ActiveTest} {lines : List Bytes} (requests : s.requests = [])
      (isTest : IsTest test) (telling : Telling s.session)
      (responses : s.responses =
        testMessage "TEST_STARTED" test.commandId test.type "running" :: lines)
      (pending : Pending test s.session lines) (accounts : s.Accounts (lines.filter isEvent))

section Moves

variable {registry : ComponentTestRegistry δ} {metadata : SessionMetadata} {s t : Bench δ}
  {move : FirmwareMove}

/-- **Without a test and a request the firmware makes no move.** -/
theorem not_moves (requests : s.requests = []) (idle : s.session.runner.activeDefinition = none) :
    ¬FirmwareMoves registry metadata s move t := by
  intro moved
  cases moved with
  | line waiting _ => exact absurd (requests.symm.trans waiting) (List.cons_ne_nil _ _).symm
  | component active _ => exact absurd (idle.symm.trans active).symm (Option.some_ne_none _)

/-- **Without a request the firmware updates its test.** -/
theorem component_of_moves (requests : s.requests = [])
    (moved : FirmwareMoves registry metadata s move t) :
    ∃ definition response session, s.session.runner.activeDefinition = some definition ∧
      ComponentUpdate definition s.session response session ∧
      t = Bench.respond response { s with session := session } := by
  cases moved with
  | line waiting _ => exact absurd (requests.symm.trans waiting) (List.cons_ne_nil _ _).symm
  | component active update => exact ⟨_, _, _, active, update, rfl⟩

/-- **Without a test the firmware answers the request.** -/
theorem line_of_moves (idle : s.session.runner.activeDefinition = none)
    (moved : FirmwareMoves registry metadata s move t) :
    ∃ line later response session, s.requests = line :: later ∧
      LineAnswer registry metadata line (s.session.record (.request line)) response session ∧
      t = Bench.respond response { s with requests := later, session := session } := by
  cases moved with
  | line waiting answer => exact ⟨_, _, _, _, waiting, answer, rfl⟩
  | component active _ => exact absurd (idle.symm.trans active).symm (Option.some_ne_none _)

/-- The accounts of an answer. -/
theorem Bench.Accounts.line {lines : List Bytes} (accounts : s.Accounts (lines.filter isEvent))
    {line : Bytes} {later : List Bytes} {session : SessionState δ} {added : List SessionAction}
    (actions : session.actions = (s.session.record (.request line)).actions ++ added)
    (silent : queuedLines added = []) (response : Option Bytes) :
    (Bench.respond response { s with requests := later, session := session }).Accounts
      ((lines ++ delivered response).filter isEvent) := by
  rw [List.filter_append]
  exact (@Bench.Accounts.calls δ s { s with requests := later, session := session } _ accounts
    (.request line :: added) (actions.trans (List.append_assoc _ [_] added)) silent rfl).respond
      response

theorem filter_delivered {response : Option Bytes}
    (other : ∀ line, response = some line → isEvent line = false) :
    (delivered response).filter isEvent = [] := by
  rw [List.filter_eq_nil_iff]
  intro line listed
  cases response with
  | none => exact absurd listed List.not_mem_nil
  | some produced =>
      rw [delivered] at listed
      split_ifs at listed with one
      · obtain rfl := List.mem_singleton.mp listed
        rw [other line rfl]
        exact Bool.false_ne_true
      · exact absurd listed List.not_mem_nil

theorem delivered_testMessage {responseType status : String} (typed : IsWord responseType)
    (ended : IsWord status) {test : ActiveTest} (isTest : IsTest test) (commandId : UInt32) :
    delivered (some (testMessage responseType commandId test.type status)) =
      [testMessage responseType commandId test.type status] :=
  if_pos (isOneLine_of_isShort (isShort_testMessage typed ended
    (isShort_of_isTestTypeName isTest.named) commandId) (by decide))

theorem stable_quiet : (bench registry metadata).Stable Quiet :=
  fun _ _ _ quiet moved => absurd moved (not_moves quiet.requests quiet.idle)

/-- **A test stays under way.** -/
theorem stable_underWay {test : ActiveTest} {unhandled : List Bytes} :
    (bench registry metadata).Stable (UnderWay test unhandled) := by
  intro s move t underWay moved
  obtain ⟨definition, response, session, active, update, rfl⟩ :=
    component_of_moves underWay.requests moved
  obtain ⟨pending, added, actions, silent⟩ :=
    underWay.pending.component underWay.isTest underWay.telling active update
  have telling := underWay.telling.update active update
  refine ⟨underWay.requests, underWay.isTest, ⟨telling.named, telling.ready⟩, pending, ?_⟩
  show Bench.Accounts _ (unhandled ++ (s.responses ++ delivered response).filter isEvent)
  rw [List.filter_append, ← List.append_assoc]
  exact (@Bench.Accounts.calls δ s { s with session := session } _ underWay.accounts added actions
    silent rfl).respond response

/-- **A request that has been written** is answered, and a test that it starts stays under way. -/
theorem stable_asked (components : ∀ definition ∈ registry, ∃ ready, Tells definition ready) :
    (bench registry metadata).Stable Asked := by
  intro s move t asked moved
  cases asked with
  | answered requests idle _ _ => exact absurd moved (not_moves requests idle)
  | started requests isTest telling responses pending accounts =>
      obtain ⟨definition, response, session, active, update, rfl⟩ := component_of_moves requests moved
      obtain ⟨pending, added, actions, silent⟩ := pending.component isTest telling active update
      have telling := telling.update active update
      refine .started requests isTest ⟨telling.named, telling.ready⟩ ?_ pending
        (accounts.component actions silent response)
      show s.responses ++ delivered response = _
      rw [responses]
      rfl
  | waiting requests idle responses accounts =>
      obtain ⟨line, later, response, session, taken, answer, rfl⟩ := line_of_moves idle moved
      obtain ⟨_, rfl⟩ := List.cons.inj (taken.symm.trans requests)
      obtain ⟨outcome, added, actions, silent⟩ :=
        @idleAnswer δ registry metadata line (s.session.record (.request line)) session response
          components idle answer
      have called := @Bench.Accounts.line δ s [] accounts line [] session added actions silent
        response
      have queued : s.responses ++ delivered response = delivered response := by
        rw [responses, List.nil_append]
      rw [List.nil_append] at called
      cases outcome with
      | nothing idle other =>
          rw [filter_delivered other] at called
          exact .answered rfl idle queued called
      | @started test isTest active telling =>
          have one := @delivered_testMessage "TEST_STARTED" "running"
            (isWord_of_decide (by decide) (by decide)) (isWord_of_decide (by decide) (by decide))
            test isTest test.commandId
          rw [one, List.filter_cons_of_neg] at called
          · exact .started rfl isTest ⟨telling.named, telling.ready⟩ (queued.trans one)
              (.running active fun _ listed => absurd listed List.not_mem_nil) called
          · rw [isEvent_testMessage (by decide) (by decide)]
            exact Bool.false_ne_true

end Moves

/-! ## Which lines acknowledge a stop -/

/-- A line that is never taken for the acknowledgement of a stop. -/
def NotStopped (line : Bytes) : Prop :=
  ∀ commandId testType message, decodeComponentTestMessage line commandId testType = .ok message →
    message.acknowledges (pyStr "TEST_STOPPED") = false

theorem IsEventOf.notStopped {test : ActiveTest} (isTest : IsTest test) {line : Bytes}
    (event : IsEventOf test line) : NotStopped line := by
  intro commandId testType message decoded
  obtain ⟨_, labelled, built⟩ := event
  obtain ⟨_, told, rfl⟩ := decode_eventLine isTest.nonzero isTest.named labelled built decoded
  rfl

theorem plain_verdict {status : String} (verdict : status = "passed" ∨ status = "failed") :
    IsPlainName (ascii status) ∧
      (expectedStatuses (pyStr "TEST_COMPLETED")).contains (pyStr status) = true := by
  rcases verdict with rfl | rfl
  · exact ⟨isPlainName_ascii (by decide) (by decide), by decide⟩
  · exact ⟨isPlainName_ascii (by decide) (by decide), by decide⟩

theorem notStopped_completedMessage {test : ActiveTest} (isTest : IsTest test) {status : String}
    (verdict : status = "passed" ∨ status = "failed") :
    NotStopped (completedMessage test status) := by
  intro commandId testType message decoded
  obtain ⟨ended, expected⟩ := plain_verdict verdict
  obtain ⟨_, rfl⟩ := decode_testMessage isTest.nonzero isTest.named ended (.inr (.inl rfl)) expected
    decoded
  rfl

theorem notStopped_started {test : ActiveTest} (isTest : IsTest test) :
    NotStopped (testMessage "TEST_STARTED" test.commandId test.type "running") := by
  intro commandId testType message decoded
  obtain ⟨_, rfl⟩ := decode_testMessage isTest.nonzero isTest.named
    (isPlainName_ascii (by decide) (by decide)) (.inl rfl) (by decide) decoded
  exact decide_eq_false (show pyStr "TEST_STARTED" ≠ pyStr "TEST_STOPPED" by decide)

theorem notStopped_errorMessage (commandId : UInt32) {errorCode : String}
    (listed : errorCode ∈ errorCodes) : NotStopped (errorMessage commandId errorCode) :=
  fun expected testType message decoded =>
    absurd decoded (decode_errorMessage_ne_ok commandId listed expected testType message)

theorem EndsWith.verdict {actions : List SessionAction} {test : ActiveTest} {status : String}
    (ends : EndsWith actions test status) : status = "passed" ∨ status = "failed" := by
  obtain ⟨_, _, verdict, _⟩ := ends
  exact verdict.imp And.right And.right

/-- **The first line of a test** is an event, or the verdict and the last one. -/
theorem Pending.read {test : ActiveTest} {session : SessionState δ} {lines later : List Bytes}
    {line : Bytes} (pending : Pending test session lines) (same : lines = line :: later) :
    (IsEventOf test line ∧ Pending test session later) ∨
      (later = [] ∧ session.runner.activeDefinition = none ∧
        ∃ status, line = completedMessage test status ∧ EndsWith session.actions test status) := by
  cases pending with
  | running active told =>
      subst same
      exact .inl ⟨told line (.head _), .running active fun other listed =>
        told other (.tail _ listed)⟩
  | @ended events status idle told verdict =>
      cases events with
      | nil =>
          obtain ⟨rfl, rfl⟩ := List.cons.inj same
          exact .inr ⟨rfl, idle, status, rfl, verdict⟩
      | cons event events =>
          obtain ⟨rfl, rfl⟩ := List.cons.inj same
          exact .inl ⟨told event (.head _), .ended idle (fun other listed =>
            told other (.tail _ listed)) verdict⟩

/-- **The first line of a test that is under way acknowledges no stop.** -/
theorem Pending.notStopped {test : ActiveTest} (isTest : IsTest test) {session : SessionState δ}
    {first : Bytes} {later lines : List Bytes} (pending : Pending test session lines)
    (same : lines = first :: later) : NotStopped first := by
  rcases pending.read same with ⟨event, _⟩ | ⟨_, _, status, rfl, verdict⟩
  · exact event.notStopped isTest
  · exact notStopped_completedMessage isTest verdict.verdict

/-- A test of which nothing is to be read runs. -/
theorem Pending.active {test : ActiveTest} {session : SessionState δ} {lines : List Bytes}
    (pending : Pending test session lines) (empty : lines = []) :
    ∃ definition, session.runner.activeDefinition = some definition := by
  cases pending with
  | running active _ =>
      obtain ⟨definition, active, _⟩ := Option.map_eq_some_iff.mp active
      exact ⟨definition, active⟩
  | ended _ _ _ => exact absurd empty (List.append_ne_nil_of_right_ne_nil _ (List.cons_ne_nil _ _))

/-- The events of the firmware are handed to the handlers in order. -/
def Bench.Accounted (s : Bench δ) : Prop := ∃ unhandled, s.Accounts unhandled

/-- **A test is to be stopped**: the request waits, or it has been answered, or the line that is to
be read next is no acknowledgement. -/
inductive Stopping (s : Bench δ) : Prop where
  | asked (asked : Asked s)
  | waiting {test : ActiveTest} {line : Bytes} (requests : s.requests = [line])
      (stop : ∀ {commandId : UInt32} {body : RequestBody}, Requests line commandId body →
        body = .stopComponentTest)
      (isTest : IsTest test) (telling : Telling s.session)
      (pending : Pending test s.session s.responses)
      (accounts : s.Accounts (s.responses.filter isEvent))
  | refused {first : Bytes} {later : List Bytes} (responses : s.responses = first :: later)
      (other : NotStopped first) (accounted : s.Accounted)

section Moves

variable {registry : ComponentTestRegistry δ} {metadata : SessionMetadata} {s t : Bench δ}
  {move : FirmwareMove}

theorem lineAnswer_actions {line : Bytes} {first last : SessionState δ} {response : Option Bytes}
    (answer : LineAnswer registry metadata line first response last) :
    first.actions <+: last.actions := by
  cases answer with
  | invalid _ => exact List.prefix_rfl
  | metadata _ => exact List.prefix_rfl
  | alreadyActive _ _ => exact List.prefix_rfl
  | unsupported _ _ _ => exact List.prefix_rfl
  | started _ _ _ _ => exact List.prefix_append _ _
  | noActiveTest _ _ => exact List.prefix_rfl
  | stopped _ _ _ => exact List.prefix_append _ _

theorem componentUpdate_actions {definition : ComponentTestDefinition δ}
    {first last : SessionState δ} {response : Option Bytes}
    (update : ComponentUpdate definition first response last) :
    first.actions <+: last.actions := by
  cases update with
  | running _ => exact List.prefix_append _ _
  | event _ => exact List.prefix_append _ _
  | completed _ _ _ => exact List.prefix_append _ _

/-- **The firmware only adds**: to what it has done and to what the tester is to read. -/
theorem adds_of_moves (moved : FirmwareMoves registry metadata s move t) :
    s.session.actions <+: t.session.actions ∧ s.responses <+: t.responses ∧
      t.handled = s.handled := by
  cases moved with
  | line _ answer =>
      refine ⟨?_, List.prefix_append _ _, rfl⟩
      exact (List.prefix_append _ _).trans ((lineAnswer_actions answer).trans
        (List.prefix_append _ _))
  | component _ update =>
      refine ⟨?_, List.prefix_append _ _, rfl⟩
      exact (componentUpdate_actions update).trans (List.prefix_append _ _)

theorem stable_accounted : (bench registry metadata).Stable Bench.Accounted := by
  rintro s move t ⟨unhandled, read, emitted, told⟩ moved
  obtain ⟨⟨added, actions⟩, _, handled⟩ := adds_of_moves moved
  refine ⟨unhandled ++ (queuedLines added).filter isEvent, read, ?_, handled ▸ told⟩
  rw [Bench.emitted, ← actions, queuedLines_append, List.filter_append, ← List.append_assoc, ← emitted]
  rfl

/-- **The answer to a stop** that finds its test: the test is stopped, or the answer is an error. -/
theorem stopping_of_answer {line : Bytes} {session : SessionState δ} {response : Option Bytes}
    {definition : ComponentTestDefinition δ}
    (stop : ∀ {commandId : UInt32} {body : RequestBody}, Requests line commandId body →
      body = .stopComponentTest)
    (active : s.session.runner.activeDefinition = some definition) (telling : Telling s.session)
    (responses : s.responses = []) (accounts : s.Accounts (s.responses.filter isEvent))
    (answer : LineAnswer registry metadata line (s.session.record (.request line)) response
      session) :
    Stopping (Bench.respond response { s with requests := [], session := session }) := by
  rw [responses] at accounts
  have idleNever : (s.session.record (.request line)).runner.activeDefinition ≠ none :=
    fun idle => Option.some_ne_none definition (active.symm.trans idle)
  cases answer with
  | metadata requested => exact absurd (stop requested) (fun same => by cases same)
  | alreadyActive requested _ => exact absurd (stop requested) (fun same => by cases same)
  | unsupported _ idle _ => exact absurd idle idleNever
  | started _ idle _ _ => exact absurd idle idleNever
  | noActiveTest _ idle => exact absurd idle idleNever
  | invalid _ =>
      have word := @isWord_errorCode "invalid_request" (by decide)
      have called := @Bench.Accounts.line δ s [] accounts line []
        (s.session.record (.request line)) [] (List.append_nil _).symm rfl
        (errorLine 0 "invalid_request")
      have held : s.responses ++ delivered (errorLine 0 "invalid_request") =
          [errorMessage 0 "invalid_request"] := by
        rw [responses, errorLine_eq 0 word, delivered,
          if_pos (isOneLine_of_isShort (isShort_errorMessage 0 word) (by decide)), List.nil_append]
      exact .refused held (notStopped_errorMessage 0 (by decide)) ⟨_, called⟩
  | @stopped commandId running device _ running' _ =>
      have short := isShort_of_isTestTypeName (telling.named running running')
      rw [lifecycleLine_eq (isWord_of_decide (by decide) (by decide))
        (isWord_of_decide (by decide) (by decide)) short]
      have called := @Bench.Accounts.line δ s [] accounts line []
        { (s.session.record (.request line)).after device [.stop running.type] with
          runner := componentTestRunnerInitialize } [.stop running.type] rfl rfl
        (some (testMessage "TEST_STOPPED" commandId running.type "stopped"))
      have queued : ∀ response, s.responses ++ delivered response = delivered response := by
        intro response
        rw [responses, List.nil_append]
      rw [List.nil_append, filter_delivered] at called
      · exact .asked (.answered rfl rfl (queued _) called)
      · rintro _ ⟨⟩
        exact isEvent_testMessage (by decide) (by decide) _ _ _

/-- **A stop that waits** is answered, or the tester is to read another line first. -/
theorem stable_stopping (components : ∀ definition ∈ registry, ∃ ready, Tells definition ready) :
    (bench registry metadata).Stable Stopping := by
  intro s move t stopping moved
  cases stopping with
  | asked asked => exact .asked (stable_asked components s move t asked moved)
  | refused responses other accounted =>
      obtain ⟨_, ⟨produced, grown⟩, _⟩ := adds_of_moves moved
      rw [responses] at grown
      exact .refused grown.symm other (stable_accounted s move t accounted moved)
  | waiting requests stop isTest telling pending accounts =>
      cases held : s.responses with
      | cons first later =>
          obtain ⟨_, ⟨produced, grown⟩, _⟩ := adds_of_moves moved
          rw [held] at grown
          exact .refused grown.symm (pending.notStopped isTest held)
            (stable_accounted s move t ⟨_, accounts⟩ moved)
      | nil =>
          cases moved with
          | component active update =>
              obtain ⟨pending, added, actions, silent⟩ :=
                pending.component isTest telling active update
              have telling := telling.update active update
              exact .waiting requests stop isTest ⟨telling.named, telling.ready⟩ pending
                (accounts.component actions silent _)
          | line taken answer =>
              obtain ⟨rfl, rfl⟩ := List.cons.inj (taken.symm.trans requests)
              obtain ⟨definition, active⟩ := pending.active held
              exact stopping_of_answer stop active telling held accounts answer

end Moves

end FlightComputer
