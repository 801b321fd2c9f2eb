import FlightComputer.BoardTester.RunnerResults
import FlightComputer.HandlerCalls
import FlightComputer.Synchronisation

/-!
# The dispatch stays in step with the firmware

In every run of the tester's dispatch and the firmware, whatever the order of their steps, the
number of tests, the handlers and the texts of the build, each operation of the tester is in step
(`dispatch_in_step`): a test is asked for when nothing is under way, events are handed over in
the order in which they were told and each of them once, and a completion that is returned is
the verdict with which the firmware has just ended this test. What is said of the handlers is what
they have been called with.

The proof follows the dialogues. An exchange is described by the assertion from which it starts and
the one in which it returns; between two operations only what the firmware keeps is assumed. An
exception ends the dispatch, and nothing is said about the time after it.
-/

set_option autoImplicit false

namespace FlightComputer

open Library Raising Firmware BoardTester

variable {δ : Type}

/-! ## What the tester writes and reads -/

/-- **A test of the tester** with a command id and a type is under way, or nothing is. -/
inductive Going (commandId : Int) (testType : PyStr) (s : Bench δ) : Prop where
  | quiet (quiet : Quiet s)
  | underWay {test : ActiveTest} (sameId : (test.commandId.toNat : Int) = commandId)
      (sameType : codes test.type = testType) (underWay : UnderWay test [] s)

/-- **The verdict of the firmware**: the last thing that it did was to end the test with it. -/
def IsVerdict (s : Bench δ) (completion : ComponentTestCompletion) : Prop :=
  ∃ test status, EndsWith s.session.actions test status ∧
    completion = ⟨test.commandId.toNat, codes test.type, pyStr status⟩

section Operations

variable {s : Bench δ} {commandId : Int} {testType : PyStr} {line : Bytes} {later : List Bytes}
  {message : ComponentTestMessage}

theorem Quiet.asked (quiet : Quiet s) (payload : Bytes) :
    Asked { s with requests := s.requests ++ [payload] } :=
  @Asked.waiting δ { s with requests := s.requests ++ [payload] } payload
    (congrArg (· ++ [payload]) quiet.requests) quiet.idle quiet.responses quiet.accounts

/-- **A stop is written.** -/
theorem Going.stopping (going : Going commandId testType s) {stopId : Int} {payload : Bytes}
    (encoded : encodeStopComponentTest stopId = .ok payload) :
    Stopping { s with requests := s.requests ++ [payload] } := by
  cases going with
  | quiet quiet => exact .asked (quiet.asked payload)
  | underWay _ _ underWay =>
      exact @Stopping.waiting δ { s with requests := s.requests ++ [payload] } _ payload
        (congrArg (· ++ [payload]) underWay.requests)
        (fun requested => (request_of_encodeStop encoded requested).1) underWay.isTest underWay.telling
        underWay.pending underWay.accounts

theorem cons_eq_delivered {response : Option Bytes} (same : delivered response = line :: later) :
    later = [] := by
  cases response with
  | none => cases same
  | some produced =>
      rw [delivered] at same
      split_ifs at same
      exact (List.cons.inj same).2.symm

/-- **The answer to a request is read**: nothing is under way then, or the test that has been
started. -/
theorem Asked.read (asked : Asked s) (waiting : s.responses = line :: later) :
    Quiet { s with responses := later } ∨
      ∃ test, IsTest test ∧ line = testMessage "TEST_STARTED" test.commandId test.type "running" ∧
        UnderWay test [] { s with responses := later } := by
  cases asked with
  | waiting _ _ responses _ => exact absurd (responses.symm.trans waiting) (List.cons_ne_nil _ _).symm
  | answered requests idle responses accounts =>
      exact .inl ⟨requests, idle, cons_eq_delivered (responses.symm.trans waiting), accounts⟩
  | started requests isTest telling responses pending accounts =>
      obtain ⟨rfl, rfl⟩ := List.cons.inj (responses.symm.trans waiting)
      exact .inr ⟨_, isTest, rfl, requests, isTest, telling, pending, accounts⟩

/-- **An acknowledged stop leaves nothing under way.** -/
theorem Stopping.read (stopping : Stopping s) (waiting : s.responses = line :: later)
    (decoded : decodeComponentTestMessage line commandId testType = .ok message)
    (acknowledged : message.acknowledges (pyStr "TEST_STOPPED") = true) :
    Quiet { s with responses := later } := by
  have never : NotStopped line → Quiet { s with responses := later } := by
    intro other
    exact absurd (acknowledged.symm.trans (other commandId testType message decoded))
      Bool.noConfusion
  cases stopping with
  | asked asked =>
      rcases asked.read waiting with quiet | ⟨test, isTest, rfl, _⟩
      · exact quiet
      · exact never (notStopped_started isTest)
  | waiting _ _ isTest _ pending _ => exact never (pending.notStopped isTest waiting)
  | refused responses other _ =>
      obtain ⟨rfl, _⟩ := List.cons.inj (responses.symm.trans waiting)
      exact never other

/-- **A message is received** while a test is under way: an event of the test, or the verdict of the
firmware, which leaves nothing under way. -/
theorem Going.read (going : Going commandId testType s) (waiting : s.responses = line :: later)
    (decoded : decodeComponentTestMessage line commandId testType = .ok message) :
    (∃ test told, (test.commandId.toNat : Int) = commandId ∧ codes test.type = testType ∧
        message = .event told ∧ UnderWay test [line] { s with responses := later }) ∨
      ∃ completion, message = .completion completion ∧ completion.commandId = commandId ∧
        completion.testType = testType ∧ Quiet { s with responses := later } ∧
        IsVerdict { s with responses := later } completion := by
  cases going with
  | quiet quiet => exact absurd (quiet.responses.symm.trans waiting) (List.cons_ne_nil _ _).symm
  | @underWay test sameId sameType underWay =>
      obtain ⟨requests, isTest, telling, pending, accounts⟩ := underWay
      rw [waiting, List.nil_append] at accounts
      rcases pending.read waiting with ⟨event, pending⟩ | ⟨rfl, idle, status, rfl, verdict⟩
      · obtain ⟨_, labelled, built⟩ := id event
        obtain ⟨_, told, rfl⟩ :=
          decode_eventLine isTest.nonzero isTest.named labelled built decoded
        rw [List.filter_cons_of_pos event.isEvent] at accounts
        exact .inl ⟨test, told, sameId, sameType, rfl, requests, isTest, telling, pending, accounts⟩
      · obtain ⟨ended, expected⟩ := plain_verdict verdict.verdict
        obtain ⟨_, rfl⟩ := decode_testMessage isTest.nonzero isTest.named ended (.inr (.inl rfl))
          expected decoded
        rw [List.filter_cons_of_neg] at accounts
        · exact .inr ⟨_, rfl, rfl, rfl, ⟨requests, idle, rfl, accounts⟩, test, status, verdict,
            by rw [sameId, sameType]⟩
        · rw [completedMessage, isEvent_testMessage (by decide) (by decide)]
          exact Bool.false_ne_true

end Operations

/-! ## Operations in step -/

/-- **An operation of the tester is in step.** The events told so far have been handed over in their
order, and with these: a test is asked for when nothing is under way, an event that is handed to a
handler is the next one and told by its line, and a completion of the device is its verdict for
the same test. -/
def InStep (s : Bench δ) : TesterOperation → Prop
  | .writeLine payload _ => s.Accounted ∧ (IsRunLine payload → Quiet s)
  | .handles commandId testType event => ∃ line unhandled, s.Accounts (line :: unhandled) ∧
      IsHandled line ⟨commandId, testType, event⟩
  | .completes commandId testType completion => Quiet s ∧ IsVerdict s completion ∧
      completion.commandId = commandId ∧ completion.testType = testType
  | _ => s.Accounted

/-- Nothing is said about the time after an exception. -/
def anyError : TesterError → Bench δ → Prop := fun _ _ => True

theorem Quiet.accounted {s : Bench δ} (quiet : Quiet s) : s.Accounted := ⟨[], quiet.accounts⟩

theorem UnderWay.accounted {test : ActiveTest} {unhandled : List Bytes} {s : Bench δ}
    (underWay : UnderWay test unhandled s) : s.Accounted := ⟨_, underWay.accounts⟩

theorem Going.accounted {commandId : Int} {testType : PyStr} {s : Bench δ}
    (going : Going commandId testType s) : s.Accounted := by
  cases going with
  | quiet quiet => exact quiet.accounted
  | underWay _ _ underWay => exact underWay.accounted

theorem Asked.accounted {s : Bench δ} (asked : Asked s) : s.Accounted := by
  cases asked with
  | waiting _ _ _ accounts => exact ⟨_, accounts⟩
  | answered _ _ _ accounts => exact ⟨_, accounts⟩
  | started _ _ _ _ _ accounts => exact ⟨_, accounts⟩

theorem Stopping.accounted {s : Bench δ} (stopping : Stopping s) : s.Accounted := by
  cases stopping with
  | asked asked => exact asked.accounted
  | waiting _ _ _ _ _ accounts => exact ⟨_, accounts⟩
  | refused _ _ accounted => exact accounted

theorem decodeLine_eq_ok {α : Type} {tooDeep : PyStr → Bool}
    {decode : Bytes → Except ProtocolMessageError α} {line : Bytes} {message : α}
    (decoded : decodeLine tooDeep decode line = .ok message) : decode line = .ok message := by
  rw [decodeLine] at decoded
  split_ifs at decoded
  cases made : decode line with
  | ok value =>
      rw [made] at decoded
      exact congrArg Except.ok (Except.ok.inj decoded)
  | error error =>
      rw [made] at decoded
      cases decoded

/-- Reading too much is no timeout. -/
theorem isTimeout_of_decodeLine {α : Type} {tooDeep : PyStr → Bool}
    {decode : Bytes → Except ProtocolMessageError α} {line : Bytes} {error : TesterError}
    (failed : decodeLine tooDeep decode line = .error error) : error.isTimeout = false := by
  rw [decodeLine] at failed
  split_ifs at failed
  · cases failed
    rfl
  · cases made : decode line with
    | ok value =>
        rw [made] at failed
        cases failed
    | error error =>
        rw [made] at failed
        cases failed
        rfl

section Dialogues

variable {registry : ComponentTestRegistry δ} {metadata : SessionMetadata}
  (components : ∀ definition ∈ registry, ∃ ready, Tells definition ready)
  {before : Bench δ → Prop} {tooDeep : PyStr → Bool} {seconds : PyStr}

theorem stable_going {commandId : Int} {testType : PyStr} :
    (bench registry metadata).Stable (Going commandId testType) := by
  intro s move t going moved
  cases going with
  | quiet quiet => exact .quiet (stable_quiet s move t quiet moved)
  | underWay sameId sameType underWay =>
      exact .underWay sameId sameType (stable_underWay s move t underWay moved)

/-- **A line is written.** -/
theorem holds_writeLine {after : Bench δ → Prop} {payload : Bytes}
    (stable : (bench registry metadata).Stable before)
    (stable' : (bench registry metadata).Stable after)
    (allowed : ∀ s, before s → InStep s (.writeLine payload seconds))
    (written : ∀ s, before s → after { s with requests := s.requests ++ [payload] }) :
    (bench registry metadata).Holds InStep before (TesterDialogue.writeLine payload seconds)
      (Outcome (fun _ => after) anyError) := by
  refine World.Holds.operation stable
    (World.Stable.outcome (fun _ => stable') fun _ => World.Stable.true) allowed ?_
  intro s reply t holds replied
  cases replied with
  | written _ => exact written s holds
  | writtenLate _ _ => trivial
  | notWritten _ => trivial

theorem holds_sendRequest {after : Bench δ → Prop} {encoded : Except ValueError Bytes}
    (stable : (bench registry metadata).Stable before)
    (stable' : (bench registry metadata).Stable after)
    (allowed : ∀ s payload, encoded = .ok payload → before s →
      InStep s (.writeLine payload seconds))
    (written : ∀ s payload, encoded = .ok payload → before s →
      after { s with requests := s.requests ++ [payload] }) :
    (bench registry metadata).Holds InStep before (TesterDialogue.sendRequest encoded seconds)
      (Outcome (fun _ => after) anyError) := by
  cases encoded with
  | ok payload =>
      exact holds_writeLine stable stable' (fun s => allowed s payload rfl) fun s =>
        written s payload rfl
  | error error => exact World.Holds.done World.Stable.true fun _ _ => trivial

/-- **A line is read and decoded.** A timeout leaves everything as it was. -/
theorem holds_readMessage {α : Type} {decode : Bytes → Except ProtocolMessageError α}
    {after : α → Bench δ → Prop} (stable : (bench registry metadata).Stable before)
    (stable' : ∀ message, (bench registry metadata).Stable (after message))
    (accounted : ∀ s, before s → s.Accounted)
    (taken : ∀ s line later message, before s → s.responses = line :: later →
      decode line = .ok message → after message { s with responses := later }) :
    (bench registry metadata).Holds InStep before
      (TesterDialogue.readMessage tooDeep seconds decode)
      (Outcome after fun error s => error.isTimeout = true → before s) := by
  have failing : ∀ error : TesterError,
      (bench registry metadata).Stable fun s => error.isTimeout = true → before s :=
    fun error => World.Stable.imp fun _ => stable
  have read : (bench registry metadata).Holds InStep before (TesterDialogue.readLine seconds)
      (Outcome (fun line s => ∀ message, decode line = .ok message → after message s)
        fun error s => error.isTimeout = true → before s) := by
    refine World.Holds.operation stable (World.Stable.outcome (fun line => ?_) failing) accounted ?_
    · intro s move t holds moved message decoded
      exact stable' message s move t (holds message decoded) moved
    · intro s reply t holds replied
      cases replied with
      | read waiting => exact fun message decoded => taken s _ _ message holds waiting decoded
      | notRead _ => exact fun _ => holds
  refine World.Holds.raisingBind failing read fun line => World.Holds.settle ?_ ?_
  · exact World.Stable.outcome stable' failing _
  · intro s holds
    cases made : decodeLine tooDeep decode line with
    | ok message => exact holds message (decodeLine_eq_ok made)
    | error error =>
        intro timeout
        rw [isTimeout_of_decodeLine made] at timeout
        exact absurd timeout Bool.false_ne_true

/-- Whatever is raised is forgotten. -/
theorem holds_forgetting {α : Type} {dialogue : TesterDialogue α} {after : α → Bench δ → Prop}
    {raised : TesterError → Bench δ → Prop}
    (holds : (bench registry metadata).Holds InStep before dialogue (Outcome after raised)) :
    (bench registry metadata).Holds InStep before dialogue (Outcome after anyError) := by
  refine holds.mono (fun _ ready => ready) fun result s ended => ?_
  cases result with
  | ok value => exact ended
  | error error => trivial

include components

/-- **`start_test`** leaves nothing under way. -/
theorem holds_startTest (testUuid : UUID) :
    (bench registry metadata).Holds InStep Quiet (TesterDialogue.startTest tooDeep testUuid)
      (Outcome (fun _ => Quiet) anyError) := by
  have asked := @stable_asked δ registry metadata components
  refine World.Holds.raisingBind (fun _ => World.Stable.true)
    (holds_sendRequest stable_quiet asked (fun s payload _ quiet => ⟨quiet.accounted, fun _ => quiet⟩)
      fun s payload _ quiet => quiet.asked payload) fun _ => ?_
  refine holds_forgetting (holds_readMessage asked (fun _ => stable_quiet)
    (fun s asked => asked.accounted) fun s line later message asked waiting decoded => ?_)
  rcases asked.read waiting with quiet | ⟨test, isTest, rfl, _⟩
  · exact quiet
  · exact absurd decoded (decodeStartTestResponse_testMessage_ne_ok isTest.named _ message)

/-- **`stop_component_test`** leaves nothing under way. -/
theorem holds_stopComponentTest {commandId stopId : Int} {testType : PyStr} :
    (bench registry metadata).Holds InStep (Going commandId testType)
      (TesterDialogue.stopComponentTest tooDeep stopId testType)
      (Outcome (fun _ => Quiet) anyError) := by
  have stopping := @stable_stopping δ registry metadata components
  refine World.Holds.raisingBind (fun _ => World.Stable.true)
    (holds_sendRequest stable_going stopping (fun s payload encoded going =>
      ⟨going.accounted, fun run => absurd run (not_isRunLine_of_encodeStop encoded)⟩)
      fun s payload encoded going => going.stopping encoded) fun _ => ?_
  have read : (bench registry metadata).Holds InStep Stopping
      (TesterDialogue.readMessage tooDeep readTimeoutSeconds fun line =>
        decodeComponentTestMessage line stopId testType)
      (Outcome (fun message s => message.acknowledges (pyStr "TEST_STOPPED") = true → Quiet s)
        anyError) :=
    holds_forgetting (holds_readMessage stopping (fun _ => World.Stable.imp fun _ => stable_quiet)
      (fun s stopping => stopping.accounted) fun s line later message stopping waiting decoded
        acknowledged => stopping.read waiting decoded acknowledged)
  refine World.Holds.raisingBind (fun _ => World.Stable.true) read fun message => ?_
  split_ifs with acknowledged
  · exact World.Holds.returns stable_quiet fun s holds => holds acknowledged
  · exact World.Holds.done World.Stable.true fun _ _ => trivial

omit components

/-- **The operator** changes nothing between tester and firmware. -/
theorem holds_consult {α : Type} (stable : (bench registry metadata).Stable before)
    (accounted : ∀ s, before s → s.Accounted) (dialogue : OperatorDialogue α) :
    (bench registry metadata).Holds InStep before (TesterDialogue.consult dialogue)
      (Outcome (fun _ => before) anyError) := by
  show (bench registry metadata).Holds InStep before
    (Dialogue.perform (fun question => Dialogue.operation (TesterOperation.ask question))
      dialogue.run) (Outcome (fun _ => before) anyError)
  induction dialogue.run with
  | done result =>
      cases result with
      | ok value => exact World.Holds.done stable fun _ holds => holds
      | error error => exact World.Holds.done World.Stable.true fun _ _ => trivial
  | call question next ih =>
      have asked : (bench registry metadata).Holds InStep before
          (Dialogue.operation (TesterOperation.ask question)) fun _ => before := by
        refine World.Holds.operation stable (fun _ => stable) accounted ?_
        intro s reply t holds replied
        cases replied
        exact holds
      exact World.Holds.bind asked ih

/-- How things stand when a handler may have decided: a test that is decided has been stopped. -/
def Continuing (commandId : Int) (testType : PyStr) : Option ComponentTestCompletion →
    Bench δ → Prop
  | none => Going commandId testType
  | some _ => Quiet

theorem stable_continuing {commandId : Int} {testType : PyStr}
    (completion : Option ComponentTestCompletion) :
    (bench registry metadata).Stable (Continuing commandId testType completion) := by
  cases completion with
  | none => exact stable_going
  | some completion => exact stable_quiet

section Handler

variable {commandId : Int} {testType : PyStr} {σ : Type} {handler : TestHandler σ}

include components

theorem holds_conclude (decision : Option PyStr) :
    (bench registry metadata).Holds InStep (Going commandId testType)
      (TesterDialogue.conclude tooDeep commandId testType decision)
      (Outcome (Continuing commandId testType) anyError) := by
  cases decision with
  | none => exact World.Holds.returns stable_going fun _ going => going
  | some status =>
      refine World.Holds.raisingBind (fun _ => World.Stable.true)
        (holds_stopComponentTest components) fun _ => ?_
      exact World.Holds.returns stable_quiet fun _ quiet => quiet

theorem holds_handleStart :
    (bench registry metadata).Holds InStep (Going commandId testType)
      (TesterDialogue.handleStart tooDeep commandId testType handler)
      (Outcome (Continuing commandId testType) anyError) :=
  World.Holds.raisingBind (fun _ => World.Stable.true)
    (holds_consult stable_going (fun _ going => going.accounted) handler.onStarted)
    (holds_conclude components)

theorem holds_handleEvent (state : σ) (event : BoardTester.ComponentTestEvent) :
    (bench registry metadata).Holds InStep (Going commandId testType)
      (TesterDialogue.handleEvent tooDeep commandId testType handler state event)
      (Outcome (fun answered => Continuing commandId testType answered.2) anyError) := by
  refine World.Holds.raisingBind (fun _ => World.Stable.true)
    (holds_consult stable_going (fun _ going => going.accounted) (handler.onEvent state event))
    fun decided => ?_
  refine World.Holds.raisingBind (fun _ => World.Stable.true)
    (holds_conclude components decided.2) fun completion => ?_
  exact World.Holds.returns (stable_continuing completion) fun _ holds => holds

end Handler

/-- How things stand when a message of the test has been read. -/
def Received (commandId : Int) (testType : PyStr) (message : ComponentTestMessage)
    (s : Bench δ) : Prop :=
  match message with
  | .event event => ∃ test line, (test.commandId.toNat : Int) = commandId ∧
      codes test.type = testType ∧ IsHandled line ⟨commandId, testType, event⟩ ∧
      UnderWay test [line] s
  | .completion completion => Quiet s ∧ IsVerdict s completion ∧
      completion.commandId = commandId ∧ completion.testType = testType
  | .acknowledgement _ => True

theorem stable_received {commandId : Int} {testType : PyStr} (message : ComponentTestMessage) :
    (bench registry metadata).Stable (Received commandId testType message) := by
  intro s move t received moved
  cases message with
  | event event =>
      obtain ⟨test, line, sameId, sameType, handled, underWay⟩ := received
      exact ⟨test, line, sameId, sameType, handled, stable_underWay s move t underWay moved⟩
  | completion completion =>
      exact absurd moved (not_moves received.1.requests received.1.idle)
  | acknowledgement messageType => trivial

theorem Going.received {commandId : Int} {testType : PyStr} {s : Bench δ}
    (going : Going commandId testType s) {line : Bytes} {later : List Bytes}
    (waiting : s.responses = line :: later) {message : ComponentTestMessage}
    (decoded : decodeComponentTestMessage line commandId testType = .ok message) :
    Received commandId testType message { s with responses := later } := by
  rcases going.read waiting decoded with ⟨test, told, sameId, sameType, rfl, underWay⟩ |
    ⟨completion, rfl, sameId, sameType, quiet, verdict⟩
  · exact ⟨test, line, sameId, sameType, decoded, underWay⟩
  · exact ⟨quiet, verdict, sameId, sameType⟩

/-- **An event that has been handed over** leaves its test under way. -/
theorem UnderWay.handled {test : ActiveTest} {line : Bytes} {s : Bench δ}
    (underWay : UnderWay test [line] s) {commandId : Int} {testType : PyStr}
    {event : BoardTester.ComponentTestEvent}
    (told : IsHandled line ⟨commandId, testType, event⟩) :
    UnderWay test [] { s with handled := s.handled ++ [⟨commandId, testType, event⟩] } := by
  obtain ⟨requests, isTest, telling, pending, read, emitted, handled⟩ := underWay
  refine ⟨requests, isTest, telling, pending, read ++ [line], ?_, ?_⟩
  · rw [List.nil_append, List.append_assoc]
    exact emitted
  · exact List.rel_append handled (.cons told .nil)

section Workflow

variable {commandId : Int} {testType : PyStr} {σ : Type}
  {onEvent : σ → BoardTester.ComponentTestEvent → TesterDialogue (σ × Option ComponentTestCompletion)}
  (answers : ∀ state event, (bench registry metadata).Holds InStep (Going commandId testType)
    (onEvent state event) (Outcome (fun answered => Continuing commandId testType answered.2)
      anyError))

include answers

/-- **The loop of `run_component_test`** goes on until nothing is under way. -/
theorem holds_receiveMessages (rounds : Nat) (state : σ) :
    (bench registry metadata).Holds InStep (Going commandId testType)
      (TesterDialogue.receiveMessages tooDeep commandId testType onEvent rounds state)
      (Outcome (fun _ => Quiet) anyError) := by
  induction rounds generalizing state with
  | zero =>
      intro s going t reaches
      refine ⟨(stable_going.reaches going reaches).accounted, fun reply => ?_⟩
      cases reply
  | succ rounds ih =>
      have read : (bench registry metadata).Holds InStep (Going commandId testType)
          (RaisingDialogue.attempt (TesterDialogue.readMessage tooDeep readTimeoutSeconds
            fun line => decodeComponentTestMessage line commandId testType))
          (Outcome (Outcome (Received commandId testType)
            fun error s => error.isTimeout = true → Going commandId testType s) anyError) := by
        refine World.Holds.attempt (World.Stable.outcome stable_received fun error =>
          World.Stable.imp fun _ => stable_going) ?_
        exact holds_readMessage stable_going stable_received (fun s going => going.accounted)
          fun s line later message going waiting decoded => going.received waiting decoded
      refine World.Holds.raisingBind (fun _ => World.Stable.true) read fun received => ?_
      cases received with
      | error error =>
          dsimp only
          split_ifs with timeout
          · exact (ih state).mono (fun _ going => going timeout) fun _ _ ended => ended
          · exact World.Holds.done World.Stable.true fun _ _ => trivial
      | ok message =>
          cases message with
          | acknowledgement messageType =>
              exact World.Holds.done World.Stable.true fun _ _ => trivial
          | completion completion =>
              have told : (bench registry metadata).Holds InStep
                  (Received commandId testType (.completion completion))
                  (TesterDialogue.completes commandId testType completion)
                  (Outcome (fun _ => Quiet) anyError) := by
                refine World.Holds.lift (fun _ => stable_quiet) (World.Holds.operation
                  (stable_received (.completion completion)) (fun _ => stable_quiet)
                  (fun _ received => received) ?_)
                intro s reply t received replied
                cases replied
                exact received.1
              refine World.Holds.raisingBind (fun _ => World.Stable.true) told fun _ => ?_
              exact World.Holds.returns stable_quiet fun _ quiet => quiet
          | event event =>
              have told : (bench registry metadata).Holds InStep
                  (Received commandId testType (.event event))
                  (TesterDialogue.handles commandId testType event)
                  (Outcome (fun _ => Going commandId testType) anyError) := by
                refine World.Holds.lift (fun _ => stable_going) (World.Holds.operation
                  (stable_received (.event event)) (fun _ => stable_going) ?_ ?_)
                · rintro s ⟨test, line, _, _, handled, underWay⟩
                  exact ⟨line, _, underWay.accounts, handled⟩
                · rintro s reply t ⟨test, line, sameId, sameType, handled, underWay⟩ replied
                  cases replied
                  exact .underWay sameId sameType (underWay.handled handled)
              refine World.Holds.raisingBind (fun _ => World.Stable.true) told fun _ => ?_
              refine World.Holds.raisingBind (fun _ => World.Stable.true) (answers state event)
                fun answered => ?_
              obtain ⟨later, completion⟩ := answered
              cases completion with
              | none => exact ih later
              | some completion => exact World.Holds.returns stable_quiet fun _ quiet => quiet

variable {onStarted : TesterDialogue (Option ComponentTestCompletion)}
  (starts : (bench registry metadata).Holds InStep (Going commandId testType) onStarted
    (Outcome (Continuing commandId testType) anyError))

include starts

theorem holds_awaitCompletion (state : σ) :
    (bench registry metadata).Holds InStep (Going commandId testType)
      (TesterDialogue.awaitCompletion tooDeep commandId testType onEvent onStarted state)
      (Outcome (fun _ => Quiet) anyError) := by
  refine World.Holds.raisingBind (fun _ => World.Stable.true) starts fun completion => ?_
  cases completion with
  | some completion => exact World.Holds.returns stable_quiet fun _ quiet => quiet
  | none =>
      have bounded : (bench registry metadata).Holds InStep (Going commandId testType)
          TesterDialogue.rounds (Outcome (fun _ => Going commandId testType) anyError) := by
        refine World.Holds.lift (fun _ => stable_going) (World.Holds.operation stable_going
          (fun _ => stable_going) (fun _ going => going.accounted) ?_)
        intro s reply t going replied
        cases replied
        exact going
      exact World.Holds.raisingBind (fun _ => World.Stable.true) bounded fun bound =>
        holds_receiveMessages answers bound state

include components

/-- **`run_component_test`** starts with nothing under way, and so it ends. -/
theorem holds_runComponentTest (parameters : Option (List (PyStr × Int))) (state : σ) :
    (bench registry metadata).Holds InStep Quiet
      (TesterDialogue.runComponentTest tooDeep commandId testType onEvent parameters onStarted
        state) (Outcome (fun _ => Quiet) anyError) := by
  have asked := @stable_asked δ registry metadata components
  refine World.Holds.raisingBind (fun _ => World.Stable.true)
    (holds_sendRequest stable_quiet asked (fun s payload _ quiet => ⟨quiet.accounted, fun _ => quiet⟩)
      fun s payload _ quiet => quiet.asked payload) fun _ => ?_
  have read : (bench registry metadata).Holds InStep Asked
      (TesterDialogue.readMessage tooDeep readTimeoutSeconds fun line =>
        decodeComponentTestMessage line commandId testType)
      (Outcome (fun _ => Going commandId testType) anyError) := by
    refine holds_forgetting (holds_readMessage asked (fun _ => stable_going)
      (fun s asked => asked.accounted) fun s line later message asked waiting decoded => ?_)
    rcases asked.read waiting with quiet | ⟨test, isTest, rfl, underWay⟩
    · exact .quiet quiet
    · obtain ⟨⟨sameId, sameType⟩, _⟩ := decode_testMessage isTest.nonzero isTest.named
        (isPlainName_ascii (by decide) (by decide)) (.inl rfl) (by decide) decoded
      exact .underWay sameId.symm sameType.symm underWay
  refine World.Holds.raisingBind (fun _ => World.Stable.true) read fun first => ?_
  split_ifs
  · exact holds_awaitCompletion answers starts state
  · exact World.Holds.done World.Stable.true fun _ _ => trivial

end Workflow

include components

theorem holds_runHandler {commandId : Int} {testType : PyStr} {σ : Type} (handler : TestHandler σ) :
    (bench registry metadata).Holds InStep Quiet
      (TesterDialogue.runHandler tooDeep commandId testType handler)
      (Outcome (fun _ => Quiet) anyError) := by
  refine World.Holds.raisingBind (fun _ => World.Stable.true)
    (holds_runComponentTest components (holds_handleEvent components)
      (holds_handleStart components) handler.parameters handler.initial) fun completed => ?_
  exact World.Holds.returns stable_quiet fun _ quiet => quiet

/-- **Test by test** nothing is left under way. -/
theorem holds_runTests (handlers : TestDefinition → Except TesterError AnyTestHandler)
    (commandId : Int) (definitions : List TestDefinition) :
    (bench registry metadata).Holds InStep Quiet
      (TesterDialogue.runTests tooDeep handlers commandId definitions)
      (Outcome (fun _ => Quiet) anyError) := by
  induction definitions generalizing commandId with
  | nil => exact World.Holds.returns stable_quiet fun _ quiet => quiet
  | cons definition definitions ih =>
      rw [TesterDialogue.runTests]
      cases handlers definition with
      | error error => exact World.Holds.done World.Stable.true fun _ _ => trivial
      | ok handler =>
          refine World.Holds.raisingBind (fun _ => World.Stable.true)
            (holds_runHandler components handler.handler) fun result => ?_
          refine World.Holds.raisingBind (fun _ => World.Stable.true) (ih (commandId + 1))
            fun results => ?_
          exact World.Holds.returns stable_quiet fun _ quiet => quiet

theorem holds_dispatch (handlers : TestDefinition → Except TesterError AnyTestHandler)
    (configurations : LoadedConfigurations) :
    (bench registry metadata).Holds InStep Quiet
      (TesterDialogue.dispatch tooDeep handlers configurations)
      (Outcome (fun _ => Quiet) anyError) := by
  refine World.Holds.raisingBind (fun _ => World.Stable.true)
    (holds_startTest components configurations.test.uuid) fun response => ?_
  split_ifs
  · exact holds_runTests components handlers 2 configurations.test.enabledTests
  · exact World.Holds.returns stable_quiet fun _ quiet => quiet

end Dialogues

/-! ## Every run -/

theorem quiet_initial (device : δ) : Quiet (Bench.initial device) :=
  ⟨rfl, rfl, rfl, [], rfl, .nil⟩

/-- **Tester and firmware stay in step**, in every run of the dispatch and the firmware after a
reset: each operation of the tester is in step, and when the dispatch returns nothing is under way,
and the handlers have been called with the events and have come to the completions of which the
operations tell. -/
theorem dispatch_in_step {codes : BoschCodes} {metadata : SessionMetadata}
    {components : FlightComputerComponents} {tooDeep : PyStr → Bool}
    {handlers : TestDefinition → Except TesterError AnyTestHandler}
    {configurations : LoadedConfigurations} {turns : List (Turn FirmwareMove TesterOperation)}
    {s : Bench FlightComputerComponents}
    {rest : Dialogue TesterOperation TesterOperation.Reply
      (Except TesterError (List ComponentTestResult))}
    (run : Run (bench (productionRegistry codes) metadata).Step
      (.initial components, (TesterDialogue.dispatch tooDeep handlers configurations).run) turns
      (s, rest)) :
    (∀ operation next, rest = .call operation next → InStep s operation) ∧
      ∀ results, rest = .done (.ok results) → Quiet s ∧
        (AllCalled handlers 2 configurations.test.enabledTests results (tellings turns) ∨
          results = [] ∧ tellings turns = []) := by
  obtain ⟨inStep, returned⟩ := World.Holds.of_run
    (holds_dispatch (tells_productionRegistry codes) handlers configurations)
    (quiet_initial components) run
  refine ⟨inStep, ?_⟩
  rintro results rfl
  exact ⟨returned (.ok results) rfl, allCalled_of_performs (World.performs_of_run run)⟩

/-- The completion that a dialogue is about to return. -/
def nextCompletion {α : Type} :
    Dialogue TesterOperation TesterOperation.Reply α → Option ComponentTestCompletion
  | .call (.completes _ _ completion) _ => some completion
  | _ => none

theorem nextCompletion_eq_some {α : Type}
    {dialogue : Dialogue TesterOperation TesterOperation.Reply α}
    {completion : ComponentTestCompletion} (comes : nextCompletion dialogue = some completion) :
    ∃ commandId testType next,
      dialogue = .call (.completes commandId testType completion) next := by
  rw [nextCompletion.eq_def] at comes
  split at comes
  · obtain rfl := Option.some.inj comes
    exact ⟨_, _, _, rfl⟩
  · cases comes

/-- An exchange in which nothing fails: a line is written, taken and answered, and the answer is
read. -/
def exchanged : List BenchEvent := [.tester none, .firmware .line, .tester none]

/-- The barometer is tested: its failure is told, handed over and shown, and then its test ends. -/
def barometerDispatched : List BenchEvent :=
  exchanged ++ exchanged ++ [.tester none, .firmware .component, .tester none, .tester none,
    .firmware .component, .tester none]

/-- The digits of a UUID of version 4. -/
def version4Digits : List (Fin 16) :=
  (List.replicate 12 0 ++ 4 :: (List.replicate 3 0 ++ 8 :: List.replicate 15 0)).filterMap
    fun digit => (List.finRange 16)[digit]?

theorem length_version4Digits : version4Digits.length = 32 := rfl

/-- A configuration that a firmware accepts, with the barometer alone. -/
def barometerConfigurations : LoadedConfigurations :=
  { barometerOnly with
    test := { barometerOnly.test with uuid := ⟨version4Digits, length_version4Digits⟩ } }

/-- A library of colours that knows none. -/
def noColours : ColourLibrary := ⟨id, fun _ => none, fun _ => none, fun _ => none⟩

/-- The tester that dispatches the test of the barometer. -/
def barometerDispatch : TesterDialogue (List ComponentTestResult) :=
  TesterDialogue.dispatch (fun _ => false) (createHandler ⟨fun _ => false, noColours⟩)
    barometerConfigurations

/-- A run in which the test of a barometer that does not answer fails. -/
theorem dispatch_in_step_barometer : ∃ turns s commandId testType next,
    Run (bench (productionRegistry someCodes) releaseMetadata).Step
      (.initial silentBarometer, barometerDispatch.run) turns
      (s, .call (.completes commandId testType ⟨2, pyStr "barometer", pyStr "failed"⟩) next) ∧
    Quiet s ∧ IsVerdict s ⟨2, pyStr "barometer", pyStr "failed"⟩ := by
  have ends : (barometerDispatched.foldlM
      (performBenchEvent (productionRegistry someCodes) releaseMetadata)
      (.initial silentBarometer, barometerDispatch.run)).bind (fun s => nextCompletion s.2) =
        some ⟨2, pyStr "barometer", pyStr "failed"⟩ := by decide +kernel
  obtain ⟨⟨s, dialogue⟩, performed, comes⟩ := Option.bind_eq_some_iff.mp ends
  obtain ⟨commandId, testType, next, rfl⟩ := nextCompletion_eq_some comes
  obtain ⟨turns, run⟩ := exists_run_of_performed performed
  obtain ⟨quiet, verdict, _⟩ := (dispatch_in_step run).1 _ next rfl
  exact ⟨turns, s, commandId, testType, next, run, quiet, verdict⟩

end FlightComputer
