import FlightComputer.RequestRecognition
import FlightComputer.SynchronisedDispatch

/-!
# The history of a test

What the firmware has done for one test, from the request that started it: the updates of its
component with the events that they told (`Updates`), and then the verdict of the component or the
stop that the tester asked for. While the test is under way, the tester has read some of the events
and the others are on their way (`Progress`).

As in the synchronisation of the two parties, each assertion is kept by all moves of the firmware,
and says what the line is that the tester reads next. Here the assertions also know the history, so
that what the tester concludes from the lines can be compared with what the firmware did.
-/

set_option autoImplicit false

namespace FlightComputer

open Library Firmware BoardTester

variable {δ : Type}

/-! ## Parts of a history -/

/-- **The updates of a test** that runs, with the events that they told. -/
inductive Updates (test : ActiveTest) : List SessionAction → List Bytes → Prop where
  | nothing : Updates test [] []
  | running {updates : List SessionAction} {events : List Bytes}
      (earlier : Updates test updates events) :
      Updates test (updates ++ [.process test.type .running]) events
  | event {updates : List SessionAction} {events : List Bytes} {line : Bytes}
      (earlier : Updates test updates events) (told : IsEventOf test line) :
      Updates test (updates ++ [.process test.type .event, .response line true])
        (events ++ [line])

/-- A test is asked for, started and acknowledged. -/
def beginning (test : ActiveTest) (run : Bytes) (colour : Option RgbColour) :
    List SessionAction :=
  [.request run, .start test.type (colourParameters colour),
    .response (testMessage "TEST_STARTED" test.commandId test.type "running") true]

/-- A test ends with a verdict of its component. -/
def verdictActions (test : ActiveTest) (result : ComponentTestProcessResult) (status : String) :
    List SessionAction :=
  [.process test.type result, .stop test.type, .response (completedMessage test status) true]

/-- A test is stopped by a request. -/
def stopActions (test : ActiveTest) (stop : Bytes) (commandId : UInt32) : List SessionAction :=
  [.request stop, .stop test.type,
    .response (testMessage "TEST_STOPPED" commandId test.type "stopped") true]

/-- The verdict of a component, as it is told. -/
def Agrees (result : ComponentTestProcessResult) (status : String) : Prop :=
  (result = .passed ∧ status = "passed") ∨ (result = .failed ∧ status = "failed")

theorem Agrees.verdict {result : ComponentTestProcessResult} {status : String}
    (agrees : Agrees result status) : status = "passed" ∨ status = "failed" :=
  agrees.imp And.right And.right

/-- **How far the firmware is with a test** since a part of its history. The tester has read some
events of the test, and the lines that it has not read wait. -/
inductive Progress (test : ActiveTest) (opening : List SessionAction) (seen : List Bytes)
    (session : SessionState δ) : List Bytes → Prop where
  | running {updates : List SessionAction} {events : List Bytes}
      (active : activeTest session.runner = some test)
      (updated : Updates test updates (seen ++ events))
      (history : session.actions = opening ++ updates) :
      Progress test opening seen session events
  | ended {updates : List SessionAction} {events : List Bytes}
      {result : ComponentTestProcessResult} {status : String}
      (idle : session.runner.activeDefinition = none)
      (updated : Updates test updates (seen ++ events)) (agrees : Agrees result status)
      (history : session.actions = opening ++ updates ++ verdictActions test result status) :
      Progress test opening seen session (events ++ [completedMessage test status])

/-! ## Responses on the bench -/

theorem Bench.respond_none (s : Bench δ) : Bench.respond none s = s := by
  simp [Bench.respond, delivered, responseActions]

theorem Bench.respond_of_isOneLine {line : Bytes} (one : IsOneLine line) (s : Bench δ) :
    Bench.respond (some line) s =
      { s with
        session := { s.session with actions := s.session.actions ++ [.response line true] }
        responses := s.responses ++ [line] } := by
  rw [Bench.respond, delivered, if_pos one, Option.map_some, decide_eq_true one]
  rfl

theorem isOneLine_testMessage {messageType status : String} (typed : IsWord messageType)
    (ended : IsWord status) {type : Bytes} (named : IsTestTypeName type) (commandId : UInt32) :
    IsOneLine (testMessage messageType commandId type status) :=
  isOneLine_of_isShort (isShort_testMessage typed ended (isShort_of_isTestTypeName named) commandId)
    (by decide)

/-! ## The states of a test -/

/-- Nothing is under way after a history. -/
structure Resting (history : List SessionAction) (s : Bench δ) : Prop where
  requests : s.requests = []
  idle : s.session.runner.activeDefinition = none
  responses : s.responses = []
  history : s.session.actions = history

/-- **A test is under way** since a part of the history, and the tester has read some events. -/
structure Proceeding (test : ActiveTest) (opening : List SessionAction) (seen : List Bytes)
    (s : Bench δ) : Prop where
  requests : s.requests = []
  isTest : IsTest test
  telling : Telling s.session
  progress : Progress test opening seen s.session s.responses

/-- A line that is never taken for a message of a test. -/
def NoMessage (line : Bytes) : Prop :=
  ∀ commandId testType message, decodeComponentTestMessage line commandId testType ≠ .ok message

/-- **A test has been asked for** after a history: the request waits, it has been refused, or it has
started the test. -/
inductive RunRequested (run : Bytes) (runId : Int) (history : List SessionAction) (s : Bench δ) :
    Prop where
  | waiting (requests : s.requests = [run]) (idle : s.session.runner.activeDefinition = none)
      (responses : s.responses = []) (history : s.session.actions = history)
  | refused {line : Bytes} (requests : s.requests = [])
      (idle : s.session.runner.activeDefinition = none) (responses : s.responses = [line])
      (other : NoMessage line)
  | started {test : ActiveTest} {colour : Option RgbColour} {lines : List Bytes}
      (requests : s.requests = []) (isTest : IsTest test) (telling : Telling s.session)
      (sameId : (test.commandId.toNat : Int) = runId)
      (requested : Requests run test.commandId (.runComponentTest test.type colour))
      (responses : s.responses =
        testMessage "TEST_STARTED" test.commandId test.type "running" :: lines)
      (progress : Progress test (history ++ beginning test run colour) [] s.session lines)

/-- **A session has been asked for** after a history: the request waits, or it has been answered
with an error or with what the firmware tells about itself, or the answer does not fit on a
line. -/
inductive StartRequested (metadata : SessionMetadata) (start : Bytes) (startId : Int)
    (history : List SessionAction) (s : Bench δ) : Prop where
  | waiting (requests : s.requests = [start]) (idle : s.session.runner.activeDefinition = none)
      (responses : s.responses = []) (history : s.session.actions = history)
  | refused {line : Bytes} (requests : s.requests = [])
      (idle : s.session.runner.activeDefinition = none) (responses : s.responses = [line])
      (other : ∀ commandId response, decodeStartTestResponse line commandId ≠ .ok response)
  | answered {line : Bytes} {commandId : UInt32} (requests : s.requests = [])
      (idle : s.session.runner.activeDefinition = none) (responses : s.responses = [line])
      (sameId : (commandId.toNat : Int) = startId)
      (told : startTestLine commandId metadata = some line)
      (history : s.session.actions = history ++ [.request start, .response line true])
  | unanswered (requests : s.requests = []) (idle : s.session.runner.activeDefinition = none)
      (responses : s.responses = []) (long : ¬FitsOneLine metadata)

/-- **A stop has been asked for** while a test was under way: the request waits, or what is read
next is no acknowledgement, or the test has been stopped and all of its events had been read. -/
inductive StopRequested (test : ActiveTest) (opening : List SessionAction) (seen : List Bytes)
    (stop : Bytes) (stopId : Int) (s : Bench δ) : Prop where
  | waiting (requests : s.requests = [stop]) (isTest : IsTest test) (telling : Telling s.session)
      (progress : Progress test opening seen s.session s.responses)
  | refused {first : Bytes} {later : List Bytes} (responses : s.responses = first :: later)
      (other : NotStopped first)
  | stopped {updates : List SessionAction} {commandId : UInt32} (requests : s.requests = [])
      (idle : s.session.runner.activeDefinition = none)
      (responses : s.responses = [testMessage "TEST_STOPPED" commandId test.type "stopped"])
      (sameId : (commandId.toNat : Int) = stopId)
      (requested : Requests stop commandId .stopComponentTest)
      (updated : Updates test updates seen)
      (history : s.session.actions = opening ++ updates ++ stopActions test stop commandId)

/-! ## What the firmware keeps -/

section Moves

variable {registry : ComponentTestRegistry δ} {metadata : SessionMetadata} {s t : Bench δ}
  {move : FirmwareMove} {test : ActiveTest} {opening : List SessionAction} {seen : List Bytes}

/-- **An update goes on with its test.** -/
theorem Progress.component {lines : List Bytes} {definition : ComponentTestDefinition δ}
    {response : Option Bytes} {session : SessionState δ} (telling : Telling s.session)
    (progress : Progress test opening seen s.session lines)
    (active : s.session.runner.activeDefinition = some definition)
    (update : ComponentUpdate definition s.session response session) :
    Progress test opening seen (Bench.respond response { s with session := session }).session
      (lines ++ delivered response) := by
  have same := activeTest_eq_some active
  cases progress with
  | ended idle _ _ _ => exact absurd (idle.symm.trans active).symm (Option.some_ne_none _)
  | @running updates _ running updated history =>
      obtain rfl := Option.some.inj (running.symm.trans same)
      cases update with
      | @running device called =>
          rw [Bench.respond_none, delivered, List.append_nil]
          refine .running same (.running updated) ?_
          show s.session.actions ++ [.process definition.type .running] = _
          rw [history, List.append_assoc]
      | @event device called =>
          obtain ⟨event, line, occurred, labelled, built, short⟩ :=
            telling.exists_eventLine active called
          have one : IsOneLine line := isOneLine_of_isShort short (by decide)
          rw [occurred, built, Bench.respond_of_isOneLine one, delivered, if_pos one]
          have told : IsEventOf ⟨s.session.runner.activeCommandId, definition.type⟩ line :=
            ⟨event, labelled, built⟩
          have further := Updates.event updated told
          rw [List.append_assoc] at further
          refine .running same further ?_
          show s.session.actions ++ [.process definition.type .event] ++ [.response line true] = _
          rw [history, List.append_assoc, List.append_assoc]
          rfl
      | @completed processed device result status called verdict stopped =>
          have ended : IsWord status := by
            rcases verdict with ⟨_, rfl⟩ | ⟨_, rfl⟩ <;>
              exact isWord_of_decide (by decide) (by decide)
          have typed : IsWord "TEST_COMPLETED" := isWord_of_decide (by decide) (by decide)
          have named := telling.named definition active
          have one := isOneLine_testMessage typed ended named s.session.runner.activeCommandId
          rw [lifecycleLine_eq typed ended (isShort_of_isTestTypeName named),
            Bench.respond_of_isOneLine one, delivered, if_pos one]
          refine .ended rfl updated verdict ?_
          show s.session.actions ++ _ ++ [.response _ true] = _
          rw [history, List.append_assoc, List.append_assoc, List.append_assoc]
          rfl

/-- **The first line of a test** is its next event, or the verdict of its component and the last
one. -/
theorem Progress.read {session : SessionState δ} {lines later : List Bytes} {line : Bytes}
    (progress : Progress test opening seen session lines) (same : lines = line :: later) :
    (IsEventOf test line ∧ Progress test opening (seen ++ [line]) session later) ∨
      (later = [] ∧ session.runner.activeDefinition = none ∧
        ∃ updates result status, line = completedMessage test status ∧ Updates test updates seen ∧
          Agrees result status ∧
          session.actions = opening ++ updates ++ verdictActions test result status) := by
  have told : ∀ {updates : List SessionAction} {events : List Bytes},
      Updates test updates events → ∀ line ∈ events, IsEventOf test line := by
    intro updates events updated
    induction updated with
    | nothing => exact fun _ listed => absurd listed List.not_mem_nil
    | running _ ih => exact ih
    | event _ told ih =>
        intro line listed
        rcases List.mem_append.mp listed with earlier | last
        · exact ih line earlier
        · obtain rfl := List.mem_singleton.mp last
          exact told
  have next : ∀ later : List Bytes, seen ++ line :: later = seen ++ [line] ++ later :=
    fun later => (List.append_assoc seen [line] later).symm
  cases progress with
  | running active updated history =>
      subst same
      refine .inl ⟨told updated line (List.mem_append_right _ (.head _)), ?_⟩
      exact .running active (next later ▸ updated) history
  | @ended updates events result status idle updated agrees history =>
      cases events with
      | nil =>
          obtain ⟨rfl, rfl⟩ := List.cons.inj same
          rw [List.append_nil] at updated
          exact .inr ⟨rfl, idle, updates, result, status, rfl, updated, agrees, history⟩
      | cons event events =>
          obtain ⟨rfl, rfl⟩ := List.cons.inj same
          refine .inl ⟨told updated event (List.mem_append_right _ (.head _)), ?_⟩
          exact .ended idle (next events ▸ updated) agrees history

/-- A test of which nothing is to be read runs, and all of its events have been read. -/
theorem Progress.active {session : SessionState δ} {lines : List Bytes}
    (progress : Progress test opening seen session lines) (empty : lines = []) :
    activeTest session.runner = some test ∧
      ∃ updates, Updates test updates seen ∧ session.actions = opening ++ updates := by
  cases progress with
  | @running updates events active updated history =>
      rw [empty, List.append_nil] at updated
      exact ⟨active, updates, updated, history⟩
  | ended _ _ _ _ => exact absurd empty (List.append_ne_nil_of_right_ne_nil _ (List.cons_ne_nil _ _))

/-- The first line of a test that is under way acknowledges no stop. -/
theorem Progress.notStopped (isTest : IsTest test) {session : SessionState δ} {first : Bytes}
    {later lines : List Bytes} (progress : Progress test opening seen session lines)
    (same : lines = first :: later) : NotStopped first := by
  rcases progress.read same with ⟨event, _⟩ | ⟨_, _, _, _, status, rfl, _, agrees, _⟩
  · exact event.notStopped isTest
  · exact notStopped_completedMessage isTest agrees.verdict

theorem stable_resting {history : List SessionAction} :
    (bench registry metadata).Stable (Resting history) :=
  fun _ _ _ resting moved => absurd moved (not_moves resting.requests resting.idle)

theorem stable_proceeding : (bench registry metadata).Stable (Proceeding test opening seen) := by
  intro s move t proceeding moved
  obtain ⟨definition, response, session, active, update, rfl⟩ :=
    component_of_moves proceeding.requests moved
  have telling := proceeding.telling.update active update
  exact ⟨proceeding.requests, proceeding.isTest, ⟨telling.named, telling.ready⟩,
    proceeding.progress.component proceeding.telling active update⟩

theorem noMessage_errorMessage (commandId : UInt32) {errorCode : String}
    (listed : errorCode ∈ errorCodes) : NoMessage (errorMessage commandId errorCode) :=
  decode_errorMessage_ne_ok commandId listed

theorem decodeStartTestResponse_errorMessage_ne_ok (id : UInt32) {errorCode : String}
    (listed : errorCode ∈ errorCodes) (commandId : Int) (response : StartTestResponse) :
    decodeStartTestResponse (errorMessage id errorCode) commandId ≠ .ok response := by
  intro decoded
  have raised := decode_errorMessage id listed .session commandId
  rw [Exchange.decode, decoded] at raised
  cases raised

/-- An error is delivered. -/
theorem respond_errorLine (commandId : UInt32) {errorCode : String} (listed : errorCode ∈ errorCodes)
    (s : Bench δ) :
    Bench.respond (errorLine commandId errorCode) s =
      { s with
        session := { s.session with
          actions := s.session.actions ++ [.response (errorMessage commandId errorCode) true] }
        responses := s.responses ++ [errorMessage commandId errorCode] } := by
  have word := isWord_errorCode listed
  rw [errorLine_eq commandId word, Bench.respond_of_isOneLine
    (isOneLine_of_isShort (isShort_errorMessage commandId word) (by decide))]

/-- **A test that has been asked for** after a history is refused, or it is the one that was
meant. -/
theorem stable_runRequested (components : ∀ definition ∈ registry, ∃ ready, Tells definition ready)
    {run : Bytes} {runId : Int} {history : List SessionAction}
    (runs : ∀ {commandId : UInt32} {body : RequestBody}, Requests run commandId body →
      body.typeName = ascii "RUN_COMPONENT_TEST" ∧ (commandId.toNat : Int) = runId) :
    (bench registry metadata).Stable (RunRequested run runId history) := by
  intro s move t asked moved
  cases asked with
  | refused requests idle _ _ => exact absurd moved (not_moves requests idle)
  | started requests isTest telling sameId requested responses progress =>
      obtain ⟨definition, response, session, active, update, rfl⟩ := component_of_moves requests moved
      have telling' := telling.update active update
      refine .started requests isTest ⟨telling'.named, telling'.ready⟩ sameId requested ?_
        (progress.component telling active update)
      show s.responses ++ delivered response = _
      rw [responses]
      rfl
  | waiting requests idle responses history' =>
      obtain ⟨line, later, response, session, taken, answer, rfl⟩ := line_of_moves idle moved
      obtain ⟨rfl, rfl⟩ := List.cons.inj (taken.symm.trans requests)
      have refusal : ∀ (commandId : UInt32) {errorCode : String}, errorCode ∈ errorCodes →
          RunRequested line runId history (Bench.respond (errorLine commandId errorCode)
            { s with requests := [], session := s.session.record (.request line) }) := by
        intro commandId errorCode listed
        rw [respond_errorLine commandId listed]
        exact .refused rfl idle (congrArg (· ++ _) responses) (noMessage_errorMessage _ listed)
      cases answer with
      | invalid _ => exact refusal 0 (by decide)
      | metadata requested =>
          exact absurd (runs requested).1
            (show ascii "START_TEST" ≠ ascii "RUN_COMPONENT_TEST" by decide)
      | alreadyActive _ active => exact absurd (idle.symm.trans active).symm (Option.some_ne_none _)
      | unsupported _ _ _ => exact refusal _ (by decide)
      | noActiveTest _ _ => exact refusal _ (by decide)
      | stopped _ active _ => exact absurd (idle.symm.trans active).symm (Option.some_ne_none _)
      | @started commandId type colour definition device requested idle' found called =>
          have answered := @LineAnswer.started δ registry metadata line _ _ _ _ _ _ requested idle'
            found called
          have telling := (Telling.of_idle (s := s.session.record (.request line)) idle).answer
            components answered
          obtain ⟨same, named⟩ := isTestTypeName_of_found requested found
          obtain rfl := same
          have begun : IsWord "TEST_STARTED" := isWord_of_decide (by decide) (by decide)
          have ongoing : IsWord "running" := isWord_of_decide (by decide) (by decide)
          have one := isOneLine_testMessage begun ongoing named commandId
          rw [lifecycleLine_eq begun ongoing (isShort_of_isTestTypeName named),
            Bench.respond_of_isOneLine one]
          refine @RunRequested.started δ line runId history _ ⟨commandId, definition.type⟩ colour [] rfl
            ⟨requested.commandId_ne_zero, named⟩ ⟨telling.named, telling.ready⟩ (runs requested).2
            requested (congrArg (· ++ _) responses) (.running (activeTest_eq_some rfl) .nothing ?_)
          show s.session.actions ++ _ ++ _ ++ _ = _
          rw [history', List.append_assoc, List.append_assoc, List.append_nil]
          rfl

/-- **A session that has been asked for** is refused, or answered with what the firmware tells about
itself. -/
theorem stable_startRequested {start : Bytes} {startId : Int} {history : List SessionAction}
    (starts : ∀ {commandId : UInt32} {body : RequestBody}, Requests start commandId body →
      body.typeName = ascii "START_TEST" ∧ (commandId.toNat : Int) = startId) :
    (bench registry metadata).Stable (StartRequested metadata start startId history) := by
  intro s move t asked moved
  cases asked with
  | refused requests idle _ _ => exact absurd moved (not_moves requests idle)
  | answered requests idle _ _ _ _ => exact absurd moved (not_moves requests idle)
  | unanswered requests idle _ _ => exact absurd moved (not_moves requests idle)
  | waiting requests idle responses history' =>
      obtain ⟨line, later, response, session, taken, answer, rfl⟩ := line_of_moves idle moved
      obtain ⟨rfl, rfl⟩ := List.cons.inj (taken.symm.trans requests)
      cases answer with
      | invalid _ =>
          rw [respond_errorLine 0 (by decide)]
          refine .refused rfl idle (congrArg (· ++ _) responses) ?_
          exact fun commandId response => decodeStartTestResponse_errorMessage_ne_ok _ (by decide) _ _
      | alreadyActive requested _ =>
          exact absurd (starts requested).1
            (show ascii "RUN_COMPONENT_TEST" ≠ ascii "START_TEST" by decide)
      | unsupported requested _ _ =>
          exact absurd (starts requested).1
            (show ascii "RUN_COMPONENT_TEST" ≠ ascii "START_TEST" by decide)
      | started requested _ _ _ =>
          exact absurd (starts requested).1
            (show ascii "RUN_COMPONENT_TEST" ≠ ascii "START_TEST" by decide)
      | noActiveTest requested _ =>
          exact absurd (starts requested).1
            (show ascii "STOP_COMPONENT_TEST" ≠ ascii "START_TEST" by decide)
      | stopped requested _ _ =>
          exact absurd (starts requested).1
            (show ascii "STOP_COMPONENT_TEST" ≠ ascii "START_TEST" by decide)
      | @metadata commandId testUuid requested =>
          by_cases told : ∃ text, startTestLine commandId metadata = some text ∧ IsOneLine text
          · obtain ⟨text, told, one⟩ := told
            rw [told, Bench.respond_of_isOneLine one]
            refine .answered rfl idle (congrArg (· ++ _) responses) (starts requested).2 told ?_
            show s.session.actions ++ [.request line] ++ [.response text true] = _
            rw [history', List.append_assoc]
            rfl
          · refine .unanswered rfl idle ?_ ?_
            · show s.responses ++ delivered (startTestLine commandId metadata) = []
              rw [responses, List.nil_append]
              cases built : startTestLine commandId metadata with
              | none => rfl
              | some text => exact if_neg fun one => told ⟨text, built, one⟩
            · intro fits
              exact told ⟨_, startTestLine_of_fits fits commandId, fits commandId⟩

/-- **A stop that has been asked for** stops the test, or it is no acknowledgement what is read
next. -/
theorem stable_stopRequested {stop : Bytes} {stopId : Int}
    (stops : ∀ {commandId : UInt32} {body : RequestBody}, Requests stop commandId body →
      body = .stopComponentTest ∧ (commandId.toNat : Int) = stopId) :
    (bench registry metadata).Stable (StopRequested test opening seen stop stopId) := by
  intro s move t asked moved
  cases asked with
  | stopped requests idle _ _ _ _ _ => exact absurd moved (not_moves requests idle)
  | refused responses other =>
      obtain ⟨_, ⟨produced, grown⟩, _⟩ := adds_of_moves moved
      rw [responses] at grown
      exact .refused grown.symm other
  | waiting requests isTest telling progress =>
      cases held : s.responses with
      | cons first later =>
          obtain ⟨_, ⟨produced, grown⟩, _⟩ := adds_of_moves moved
          rw [held] at grown
          exact .refused grown.symm (progress.notStopped isTest held)
      | nil =>
          cases moved with
          | component active update =>
              have telling' := telling.update active update
              exact .waiting requests isTest ⟨telling'.named, telling'.ready⟩
                (progress.component telling active update)
          | line taken answer =>
              obtain ⟨rfl, rfl⟩ := List.cons.inj (taken.symm.trans requests)
              obtain ⟨running, updates, updated, history⟩ := progress.active held
              obtain ⟨definition, active, same⟩ := Option.map_eq_some_iff.mp running
              have idleNever : s.session.runner.activeDefinition ≠ none := by
                rw [active]
                exact Option.some_ne_none _
              cases answer with
              | metadata requested => exact absurd (stops requested).1 RequestBody.noConfusion
              | alreadyActive requested _ => exact absurd (stops requested).1 RequestBody.noConfusion
              | unsupported requested _ _ => exact absurd (stops requested).1 RequestBody.noConfusion
              | started requested _ _ _ => exact absurd (stops requested).1 RequestBody.noConfusion
              | noActiveTest _ idle => exact absurd idle idleNever
              | invalid _ =>
                  rw [respond_errorLine 0 (by decide)]
                  exact .refused (congrArg (· ++ _) held) (notStopped_errorMessage 0 (by decide))
              | @stopped commandId running' device requested active' called =>
                  obtain rfl := Option.some.inj (active.symm.trans active')
                  have named := telling.named definition active
                  have typed : IsWord "TEST_STOPPED" := isWord_of_decide (by decide) (by decide)
                  have ended : IsWord "stopped" := isWord_of_decide (by decide) (by decide)
                  have one := isOneLine_testMessage typed ended named commandId
                  rw [lifecycleLine_eq typed ended (isShort_of_isTestTypeName named),
                    Bench.respond_of_isOneLine one]
                  obtain rfl := same
                  refine .stopped rfl rfl (congrArg (· ++ _) held) (stops requested).2 requested updated
                    ?_
                  show s.session.actions ++ [.request _] ++ _ ++ _ = _
                  rw [history, List.append_assoc, List.append_assoc]
                  rfl

end Moves

end FlightComputer
