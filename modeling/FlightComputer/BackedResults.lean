import FlightComputer.TestHistories

/-!
# Results that the firmware backs

A run of the dispatch that returns its results tells the history of the firmware
(`results_are_backed`): after the answer to START_TEST the firmware has done for each enabled test,
in order, exactly what its result says. It was asked for the test with the parameters of the handler,
it told the events from which the handler made the details, and then it ended the test with the
verdict that is reported, or it stopped the test because the handler had decided it.

On the way no party waits for the other in vain (`tester_never_waits_in_vain`): when the tester
waits for a line, one is there, or a request waits for the firmware, or a test is active.
-/

set_option autoImplicit false

namespace FlightComputer

open Library Raising Firmware BoardTester

variable {δ : Type}

/-! ## What backs a result -/

/-- The event that a line tells about a test. -/
def Told (commandId : Int) (testType : PyStr) (line : Bytes)
    (event : BoardTester.ComponentTestEvent) : Prop :=
  decodeComponentTestMessage line commandId testType = .ok (.event event)

/-- **How a test ends**, with the decision of the handler, the status that is reported and what the
firmware does: the component has given its verdict, or the firmware has taken the stop. -/
inductive EndsTest (test : ActiveTest) (stopId : Int) :
    Option PyStr → PyStr → List SessionAction → Prop where
  | verdict {result : ComponentTestProcessResult} {status : String}
      (agrees : Agrees result status) :
      EndsTest test stopId none (pyStr status) (verdictActions test result status)
  | stopped {stop : Bytes} {commandId : UInt32} {status : PyStr}
      (sameId : (commandId.toNat : Int) = stopId)
      (requested : Requests stop commandId .stopComponentTest) :
      EndsTest test stopId (some status) status (stopActions test stop commandId)

/-- **A result that the firmware backs**, with the part of the history that is about its test. -/
inductive Backed {σ : Type} (handler : TestHandler σ) (commandId : Int) (testType : PyStr) :
    ComponentTestResult → List SessionAction → Prop where
  | intro {run : Bytes} {test : ActiveTest} {colour : Option RgbColour}
      {updates closing : List SessionAction} {lines : List Bytes}
      {events : List BoardTester.ComponentTestEvent} {state : σ} {decision : Option PyStr}
      {status : PyStr} (encoded : encodeRunComponentTest commandId testType handler.parameters = .ok run)
      (sameId : (test.commandId.toNat : Int) = commandId) (sameType : codes test.type = testType)
      (requested : Requests run test.commandId (.runComponentTest test.type colour))
      (updated : Updates test updates lines)
      (told : List.Forall₂ (Told commandId testType) lines events)
      (follows : Follows handler events state decision)
      (ends : EndsTest test (commandId + 1000) decision status closing) :
      Backed handler commandId testType (handler.finish state status)
        (beginning test run colour ++ updates ++ closing)

/-- Results of tests that are run one after the other, with the history of them. -/
inductive AllBacked (handlers : TestDefinition → Except TesterError AnyTestHandler) :
    Int → List TestDefinition → List ComponentTestResult → List SessionAction → Prop where
  | nil (commandId : Int) : AllBacked handlers commandId [] [] []
  | cons {commandId : Int} {definition : TestDefinition} {definitions : List TestDefinition}
      {handler : AnyTestHandler} {result : ComponentTestResult} {results : List ComponentTestResult}
      {episode later : List SessionAction} (created : handlers definition = .ok handler)
      (backed : Backed handler.handler commandId definition.type result episode)
      (rest : AllBacked handlers (commandId + 1) definitions results later) :
      AllBacked handlers commandId (definition :: definitions) (result :: results)
        (episode ++ later)

/-! ## Waiting -/

/-- A party can go on: a line waits for the tester, a request waits for the firmware, or a test is
active. -/
def CanGoOn (s : Bench δ) : Prop :=
  s.responses ≠ [] ∨ s.requests ≠ [] ∨ s.session.runner.activeDefinition ≠ none

/-- **The tester takes its turn**: it writes a request when the firmware has taken the one before,
and it waits for a line only if a party can go on, provided that the firmware can tell about itself
on one line. -/
def TakesTurn (metadata : SessionMetadata) (s : Bench δ) : TesterOperation → Prop
  | .writeLine _ _ => s.requests = []
  | .readLine _ => FitsOneLine metadata → CanGoOn s
  | _ => True

section States

variable {s : Bench δ} {test : ActiveTest} {opening : List SessionAction} {seen : List Bytes}

theorem Progress.canGoOn (progress : Progress test opening seen s.session s.responses) :
    CanGoOn s := by
  by_cases empty : s.responses = []
  · obtain ⟨definition, active, _⟩ := Option.map_eq_some_iff.mp (progress.active empty).1
    refine .inr (.inr ?_)
    rw [active]
    exact Option.some_ne_none definition
  · exact .inl empty

theorem RunRequested.canGoOn {run : Bytes} {runId : Int} {history : List SessionAction}
    (asked : RunRequested run runId history s) : CanGoOn s := by
  cases asked with
  | waiting requests _ _ _ =>
      refine .inr (.inl ?_)
      rw [requests]
      exact List.cons_ne_nil _ _
  | refused _ _ responses _ =>
      refine .inl ?_
      rw [responses]
      exact List.cons_ne_nil _ _
  | started _ _ _ _ _ responses _ =>
      refine .inl ?_
      rw [responses]
      exact List.cons_ne_nil _ _

theorem StartRequested.canGoOn {metadata : SessionMetadata} (fits : FitsOneLine metadata)
    {start : Bytes} {startId : Int} {history : List SessionAction}
    (asked : StartRequested metadata start startId history s) : CanGoOn s := by
  cases asked with
  | waiting requests _ _ _ =>
      refine .inr (.inl ?_)
      rw [requests]
      exact List.cons_ne_nil _ _
  | refused _ _ responses _ =>
      refine .inl ?_
      rw [responses]
      exact List.cons_ne_nil _ _
  | answered _ _ responses _ _ _ =>
      refine .inl ?_
      rw [responses]
      exact List.cons_ne_nil _ _
  | unanswered _ _ _ long => exact absurd fits long

theorem StopRequested.canGoOn {stop : Bytes} {stopId : Int}
    (asked : StopRequested test opening seen stop stopId s) : CanGoOn s := by
  cases asked with
  | waiting _ _ _ progress => exact progress.canGoOn
  | refused responses _ =>
      refine .inl ?_
      rw [responses]
      exact List.cons_ne_nil _ _
  | stopped _ _ responses _ _ _ _ =>
      refine .inl ?_
      rw [responses]
      exact List.cons_ne_nil _ _

/-! ## What is read -/

variable {commandId : Int} {testType : PyStr} {line : Bytes} {later : List Bytes}
  {message : ComponentTestMessage}

/-- **A test has begun**, as the tester asked for it. -/
structure Begun (run : Bytes) (commandId : Int) (testType : PyStr)
    (started : ActiveTest × Option RgbColour) : Prop where
  sameId : (started.1.commandId.toNat : Int) = commandId
  sameType : codes started.1.type = testType
  requested : Requests run started.1.commandId (.runComponentTest started.1.type started.2)

/-- The state after a test has begun, since a part of the history. -/
def Beginning (run : Bytes) (commandId : Int) (testType : PyStr) (history : List SessionAction)
    (s : Bench δ) : Prop :=
  ∃ started : ActiveTest × Option RgbColour, Begun run commandId testType started ∧
    Proceeding started.1 (history ++ beginning started.1 run started.2) [] s

/-- **The answer to a request for a test** that can be decoded says that the test has begun. -/
theorem RunRequested.read {run : Bytes} {history : List SessionAction}
    (asked : RunRequested run commandId history s) (waiting : s.responses = line :: later)
    (decoded : decodeComponentTestMessage line commandId testType = .ok message) :
    Beginning run commandId testType history { s with responses := later } := by
  cases asked with
  | waiting _ _ responses _ => exact absurd (responses.symm.trans waiting) (List.cons_ne_nil _ _).symm
  | refused _ _ responses other =>
      obtain ⟨rfl, _⟩ := List.cons.inj (responses.symm.trans waiting)
      exact absurd decoded (other commandId testType message)
  | @started test colour lines requests isTest telling sameId requested responses progress =>
      obtain ⟨rfl, rfl⟩ := List.cons.inj (responses.symm.trans waiting)
      obtain ⟨⟨_, sameType⟩, _⟩ := decode_testMessage isTest.nonzero isTest.named
        (isPlainName_ascii (by decide) (by decide)) (.inl rfl) (by decide) decoded
      exact ⟨(test, colour), ⟨sameId, sameType.symm, requested⟩, requests, isTest, telling, progress⟩

/-- The state after a session has been answered. -/
def SessionTold (metadata : SessionMetadata) (start : Bytes) (startId : Int)
    (history : List SessionAction) (response : StartTestResponse) (s : Bench δ) : Prop :=
  ∃ told : UInt32 × Bytes, (told.1.toNat : Int) = startId ∧
    startTestLine told.1 metadata = some told.2 ∧ decodeStartTestResponse told.2 startId = .ok response ∧
    Resting (history ++ [.request start, .response told.2 true]) s

theorem StartRequested.read {metadata : SessionMetadata} {start : Bytes} {startId : Int}
    {history : List SessionAction} (asked : StartRequested metadata start startId history s)
    (waiting : s.responses = line :: later) {response : StartTestResponse}
    (decoded : decodeStartTestResponse line startId = .ok response) :
    SessionTold metadata start startId history response { s with responses := later } := by
  cases asked with
  | waiting _ _ responses _ => exact absurd (responses.symm.trans waiting) (List.cons_ne_nil _ _).symm
  | unanswered _ _ responses _ =>
      exact absurd (responses.symm.trans waiting) (List.cons_ne_nil _ _).symm
  | refused _ _ responses other =>
      obtain ⟨rfl, _⟩ := List.cons.inj (responses.symm.trans waiting)
      exact absurd decoded (other startId response)
  | answered requests idle responses sameId told history' =>
      obtain ⟨rfl, rfl⟩ := List.cons.inj (responses.symm.trans waiting)
      exact ⟨(_, _), sameId, told, decoded, requests, idle, rfl, history'⟩

/-- **A test has ended** since a part of the history, with the decision of the handler and the status
that is reported. -/
def HasEnded (test : ActiveTest) (opening : List SessionAction) (seen : List Bytes) (stopId : Int)
    (decision : Option PyStr) (status : PyStr) (s : Bench δ) : Prop :=
  ∃ parts : List SessionAction × List SessionAction, Updates test parts.1 seen ∧
    EndsTest test stopId decision status parts.2 ∧ Resting (opening ++ parts.1 ++ parts.2) s

/-- **A stop that is acknowledged** has ended the test. -/
theorem StopRequested.read {stop : Bytes} {stopId : Int}
    (asked : StopRequested test opening seen stop stopId s) (waiting : s.responses = line :: later)
    (decoded : decodeComponentTestMessage line stopId testType = .ok message)
    (acknowledged : message.acknowledges (pyStr "TEST_STOPPED") = true) (status : PyStr) :
    HasEnded test opening seen stopId (some status) status { s with responses := later } := by
  have never : ¬NotStopped line := fun other =>
    Bool.noConfusion (acknowledged.symm.trans (other stopId testType message decoded))
  cases asked with
  | waiting _ isTest _ progress => exact absurd (progress.notStopped isTest waiting) never
  | refused responses other =>
      obtain ⟨rfl, _⟩ := List.cons.inj (responses.symm.trans waiting)
      exact absurd other never
  | stopped requests idle responses sameId requested updated history =>
      obtain ⟨rfl, rfl⟩ := List.cons.inj (responses.symm.trans waiting)
      exact ⟨(_, _), updated, .stopped sameId requested, requests, idle, rfl, history⟩

/-- How things stand when a message of a test has been read. -/
def TestRead (test : ActiveTest) (opening : List SessionAction) (seen : List Bytes) (commandId : Int)
    (testType : PyStr) (message : ComponentTestMessage) (s : Bench δ) : Prop :=
  match message with
  | .event event => ∃ line, Told commandId testType line event ∧
      Proceeding test opening (seen ++ [line]) s
  | .completion completion =>
      HasEnded test opening seen (commandId + 1000) none completion.status s
  | .acknowledgement _ => True

/-- **A message of a test** is its next event, or the verdict of its component. -/
theorem Proceeding.read (proceeding : Proceeding test opening seen s)
    (waiting : s.responses = line :: later)
    (decoded : decodeComponentTestMessage line commandId testType = .ok message) :
    TestRead test opening seen commandId testType message { s with responses := later } := by
  obtain ⟨requests, isTest, telling, progress⟩ := proceeding
  rcases progress.read waiting with ⟨event, progress⟩ |
    ⟨rfl, idle, updates, result, status, rfl, updated, agrees, history⟩
  · obtain ⟨_, labelled, built⟩ := id event
    obtain ⟨_, told, rfl⟩ := decode_eventLine isTest.nonzero isTest.named labelled built decoded
    exact ⟨line, decoded, requests, isTest, telling, progress⟩
  · obtain ⟨ended, expected⟩ := plain_verdict agrees.verdict
    obtain ⟨_, rfl⟩ := decode_testMessage isTest.nonzero isTest.named ended (.inr (.inl rfl))
      expected decoded
    exact ⟨(updates, _), updated, .verdict agrees, requests, idle, rfl, history⟩

end States

/-! ## Exchanges -/

section Dialogues

variable {registry : ComponentTestRegistry δ} {metadata : SessionMetadata}
  {before : Bench δ → Prop} {tooDeep : PyStr → Bool} {seconds : PyStr}

/-- **A request is written.** -/
theorem holds_written {after : Bytes → Bench δ → Prop} {encoded : Except ValueError Bytes}
    (stable : (bench registry metadata).Stable before)
    (stable' : ∀ payload, encoded = .ok payload → (bench registry metadata).Stable (after payload))
    (taken : ∀ s, before s → s.requests = [])
    (written : ∀ s payload, encoded = .ok payload → before s →
      after payload { s with requests := s.requests ++ [payload] }) :
    (bench registry metadata).Holds (TakesTurn metadata) before
      (TesterDialogue.sendRequest encoded seconds)
      (Outcome (fun _ s => ∃ payload, encoded = .ok payload ∧ after payload s) anyError) := by
  cases encoded with
  | error error => exact World.Holds.done World.Stable.true fun _ _ => trivial
  | ok payload =>
      refine World.Holds.operation stable (World.Stable.outcome (fun _ => ?_) fun _ =>
        World.Stable.true) taken ?_
      · rintro s move t ⟨_, ⟨⟩, holds⟩ moved
        exact ⟨payload, rfl, stable' payload rfl s move t holds moved⟩
      · intro s reply t holds replied
        cases replied with
        | written _ => exact ⟨payload, rfl, written s payload rfl holds⟩
        | writtenLate _ _ => trivial
        | notWritten _ => trivial

/-- **A line is read and decoded.** A timeout leaves everything as it was. -/
theorem holds_received {α : Type} {decode : Bytes → Except ProtocolMessageError α}
    {after : α → Bench δ → Prop} (stable : (bench registry metadata).Stable before)
    (stable' : ∀ message, (bench registry metadata).Stable (after message))
    (awaited : ∀ s, before s → FitsOneLine metadata → CanGoOn s)
    (taken : ∀ s line later message, before s → s.responses = line :: later →
      decode line = .ok message → after message { s with responses := later }) :
    (bench registry metadata).Holds (TakesTurn metadata) before
      (TesterDialogue.readMessage tooDeep seconds decode)
      (Outcome after fun error s => error.isTimeout = true → before s) := by
  have failing : ∀ error : TesterError,
      (bench registry metadata).Stable fun s => error.isTimeout = true → before s :=
    fun error => World.Stable.imp fun _ => stable
  have read : (bench registry metadata).Holds (TakesTurn metadata) before
      (TesterDialogue.readLine seconds)
      (Outcome (fun line s => ∀ message, decode line = .ok message → after message s)
        fun error s => error.isTimeout = true → before s) := by
    refine World.Holds.operation stable (World.Stable.outcome (fun line => ?_) failing) awaited ?_
    · intro s move t holds moved message decoded
      exact stable' message s move t (holds message decoded) moved
    · intro s reply t holds replied
      cases replied with
      | read waiting => exact fun message decoded => taken s _ _ message holds waiting decoded
      | notRead _ => exact fun _ => holds
  refine World.Holds.raisingBind failing read fun line => World.Holds.settle ?_ ?_
  · exact World.Stable.outcome stable' failing _
  · intro s holds
    cases made : decodeLine tooDeep decode line with
    | ok message => exact holds message (decodeLine_eq_ok made)
    | error error =>
        intro timeout
        rw [isTimeout_of_decodeLine made] at timeout
        exact absurd timeout Bool.false_ne_true

/-- Whatever is raised is forgotten. -/
theorem holds_anyError {guard : Bench δ → TesterOperation → Prop} {α : Type}
    {dialogue : TesterDialogue α} {after : α → Bench δ → Prop}
    {raised : TesterError → Bench δ → Prop}
    (holds : (bench registry metadata).Holds guard before dialogue (Outcome after raised)) :
    (bench registry metadata).Holds guard before dialogue (Outcome after anyError) := by
  refine holds.mono (fun _ ready => ready) fun result s ended => ?_
  cases result with
  | ok value => exact ended
  | error error => trivial

/-- **One exchange**: a request is written, and the answer to it is read and decoded. -/
theorem holds_exchange {α : Type} {encoded : Except ValueError Bytes}
    {decode : Bytes → Except ProtocolMessageError α} {asked : Bytes → Bench δ → Prop}
    {after : Bytes → α → Bench δ → Prop} {seconds' : PyStr}
    (stable : (bench registry metadata).Stable before)
    (asking : ∀ payload, encoded = .ok payload → (bench registry metadata).Stable (asked payload))
    (stable' : ∀ payload message, (bench registry metadata).Stable (after payload message))
    (alone : ∀ s, before s → s.requests = [])
    (written : ∀ s payload, encoded = .ok payload → before s →
      asked payload { s with requests := s.requests ++ [payload] })
    (awaited : ∀ s payload, asked payload s → FitsOneLine metadata → CanGoOn s)
    (taken : ∀ s payload line later message, asked payload s → s.responses = line :: later →
      decode line = .ok message → after payload message { s with responses := later }) :
    (bench registry metadata).Holds (TakesTurn metadata) before
      (TesterDialogue.sendRequest encoded seconds >>= fun _ =>
        TesterDialogue.readMessage tooDeep seconds' decode : TesterDialogue α)
      (Outcome (fun message s => ∃ payload, encoded = .ok payload ∧ after payload message s)
        anyError) := by
  refine World.Holds.raisingBind (fun _ => World.Stable.true)
    (holds_written stable asking alone written) fun _ => ?_
  refine World.Holds.exists_before fun payload => World.Holds.of_fact fun same => ?_
  refine (holds_anyError (holds_received (asking payload same) (stable' payload)
    (fun s => awaited s payload) (taken · payload))).mono (fun _ holds => holds) ?_
  intro result s ended
  cases result with
  | ok message => exact ⟨payload, same, ended⟩
  | error error => trivial

theorem stable_beginning {run : Bytes} {commandId : Int} {testType : PyStr}
    {history : List SessionAction} :
    (bench registry metadata).Stable (Beginning run commandId testType history) :=
  World.Stable.exists fun _ => World.Stable.beside stable_proceeding

theorem stable_sessionTold {start : Bytes} {startId : Int} {history : List SessionAction}
    {response : StartTestResponse} :
    (bench registry metadata).Stable (SessionTold metadata start startId history response) :=
  World.Stable.exists fun _ => World.Stable.beside (World.Stable.beside
    (World.Stable.beside stable_resting))

section Test

variable {test : ActiveTest} {opening : List SessionAction} {seen : List Bytes} {commandId : Int}
  {testType : PyStr}

theorem stable_hasEnded {stopId : Int} {decision : Option PyStr} {status : PyStr} :
    (bench registry metadata).Stable (HasEnded test opening seen stopId decision status) :=
  World.Stable.exists fun _ => World.Stable.beside (World.Stable.beside stable_resting)

theorem stable_testRead (message : ComponentTestMessage) :
    (bench registry metadata).Stable (TestRead test opening seen commandId testType message) := by
  cases message with
  | event event => exact World.Stable.exists fun _ => World.Stable.beside stable_proceeding
  | completion completion => exact stable_hasEnded
  | acknowledgement messageType => exact World.Stable.true

/-- A request is written when nothing is under way. -/
theorem Resting.runRequested {history : List SessionAction} {s : Bench δ}
    (resting : Resting history s) (run : Bytes) (runId : Int) :
    RunRequested run runId history { s with requests := s.requests ++ [run] } :=
  .waiting (congrArg (· ++ [run]) resting.requests) resting.idle resting.responses resting.history

/-- **`stop_component_test`** ends a test that is under way, whatever its status is to be. -/
theorem holds_stop {stopId : Int} (status : PyStr) :
    (bench registry metadata).Holds (TakesTurn metadata) (Proceeding test opening seen)
      (TesterDialogue.stopComponentTest tooDeep stopId testType)
      (Outcome (fun _ => HasEnded test opening seen stopId (some status) status) anyError) := by
  have exchange : (bench registry metadata).Holds (TakesTurn metadata)
      (Proceeding test opening seen)
      (TesterDialogue.sendRequest (encodeStopComponentTest stopId) writeTimeoutSeconds >>= fun _ =>
        TesterDialogue.readMessage tooDeep readTimeoutSeconds fun line =>
          decodeComponentTestMessage line stopId testType : TesterDialogue ComponentTestMessage)
      (Outcome (fun message s => ∃ payload, encodeStopComponentTest stopId = .ok payload ∧
        (message.acknowledges (pyStr "TEST_STOPPED") = true →
          HasEnded test opening seen stopId (some status) status s)) anyError) := by
    refine holds_exchange stable_proceeding
      (fun payload encoded => stable_stopRequested (request_of_encodeStop encoded))
      (fun payload message => World.Stable.imp fun _ => stable_hasEnded)
      (fun s proceeding => proceeding.requests) ?_
      (fun s payload (asked : StopRequested test opening seen payload stopId s) _ =>
        asked.canGoOn) ?_
    · intro s payload encoded proceeding
      exact .waiting (congrArg (· ++ [payload]) proceeding.requests) proceeding.isTest
        proceeding.telling proceeding.progress
    · intro s payload line later message asked waiting decoded acknowledged
      exact asked.read waiting decoded acknowledged status
  rw [TesterDialogue.stopComponentTest, ← bind_assoc]
  refine World.Holds.raisingBind (fun _ => World.Stable.true) exchange fun message => ?_
  refine World.Holds.exists_before fun payload => ?_
  split_ifs with acknowledged
  · exact World.Holds.returns stable_hasEnded fun s holds => holds.2 acknowledged
  · exact World.Holds.done World.Stable.true fun _ _ => trivial

/-! ## Handlers -/

/-- **The operator** changes nothing between tester and firmware, and what a dialogue with the
operator returns is something that it may return. -/
theorem holds_consulted {α : Type} (stable : (bench registry metadata).Stable before)
    (dialogue : OperatorDialogue α) :
    (bench registry metadata).Holds (TakesTurn metadata) before
      (TesterDialogue.consult dialogue)
      (Outcome (fun value s => dialogue.Returns value ∧ before s) anyError) := by
  suffices performed : ∀ asked : Dialogue OperatorQuestion OperatorQuestion.Reply
      (Except TesterError α), (bench registry metadata).Holds (TakesTurn metadata) before
        (Dialogue.perform (fun question => Dialogue.operation (TesterOperation.ask question)) asked)
        (Outcome (fun value s => asked.Returns (.ok value) ∧ before s) anyError) from
    performed dialogue.run
  intro asked
  induction asked with
  | done result =>
      cases result with
      | ok value =>
          exact World.Holds.done (World.Stable.beside stable) fun _ holds => ⟨.done _, holds⟩
      | error error => exact World.Holds.done World.Stable.true fun _ _ => trivial
  | call question next ih =>
      have replied : (bench registry metadata).Holds (TakesTurn metadata) before
          (Dialogue.operation (TesterOperation.ask question)) fun _ => before := by
        refine World.Holds.operation stable (fun _ => stable) (fun _ _ => trivial) ?_
        intro s reply t holds replied
        cases replied
        exact holds
      refine World.Holds.bind replied fun reply => (ih reply).mono (fun _ holds => holds) ?_
      intro result s ended
      cases result with
      | ok value => exact ⟨.call ended.1, ended.2⟩
      | error error => trivial

/-- How things stand when a handler may have decided. -/
def Decided (test : ActiveTest) (opening : List SessionAction) (seen : List Bytes) (stopId : Int) :
    Option PyStr → Bench δ → Prop
  | none => Proceeding test opening seen
  | some status => HasEnded test opening seen stopId (some status) status

theorem stable_decided {stopId : Int} (decision : Option PyStr) :
    (bench registry metadata).Stable (Decided test opening seen stopId decision) := by
  cases decision with
  | none => exact stable_proceeding
  | some status => exact stable_hasEnded

/-- **A decided test is stopped.** -/
theorem holds_concluded (decision : Option PyStr) :
    (bench registry metadata).Holds (TakesTurn metadata) (Proceeding test opening seen)
      (TesterDialogue.conclude tooDeep commandId testType decision)
      (Outcome (fun completion s => completion = decidedCompletion commandId testType decision ∧
        Decided test opening seen (commandId + 1000) decision s) anyError) := by
  cases decision with
  | none =>
      exact World.Holds.returns (World.Stable.beside stable_proceeding) fun _ holds => ⟨rfl, holds⟩
  | some status =>
      refine World.Holds.raisingBind (fun _ => World.Stable.true) (holds_stop status) fun _ => ?_
      exact World.Holds.returns (World.Stable.beside stable_hasEnded) fun _ holds => ⟨rfl, holds⟩

section Handler

variable {σ : Type} (handler : TestHandler σ)

theorem holds_handledStart :
    (bench registry metadata).Holds (TakesTurn metadata) (Proceeding test opening [])
      (TesterDialogue.handleStart tooDeep commandId testType handler)
      (Outcome (fun completion s => ∃ decision, (Follows handler [] handler.initial decision ∧
        completion = decidedCompletion commandId testType decision) ∧
          Decided test opening [] (commandId + 1000) decision s) anyError) := by
  refine World.Holds.raisingBind (fun _ => World.Stable.true)
    (holds_consulted stable_proceeding handler.onStarted) fun decision => ?_
  refine World.Holds.of_fact fun returns => ?_
  refine (holds_concluded decision).mono (fun _ holds => holds) fun result s ended => ?_
  cases result with
  | ok completion => exact ⟨decision, ⟨.started returns, ended.1⟩, ended.2⟩
  | error error => trivial

theorem holds_handledEvent {events : List BoardTester.ComponentTestEvent} {state : σ}
    (follows : Follows handler events state none) (event : BoardTester.ComponentTestEvent) :
    (bench registry metadata).Holds (TakesTurn metadata) (Proceeding test opening seen)
      (TesterDialogue.handleEvent tooDeep commandId testType handler state event)
      (Outcome (fun answered s => ∃ decision, (Follows handler (events ++ [event]) answered.1 decision ∧
        answered.2 = decidedCompletion commandId testType decision) ∧
          Decided test opening seen (commandId + 1000) decision s) anyError) := by
  refine World.Holds.raisingBind (fun _ => World.Stable.true)
    (holds_consulted stable_proceeding (handler.onEvent state event)) fun decided => ?_
  obtain ⟨next, decision⟩ := decided
  refine World.Holds.of_fact fun returns => ?_
  refine World.Holds.raisingBind (fun _ => World.Stable.true) (holds_concluded decision)
    fun completion => ?_
  refine World.Holds.returns (World.Stable.exists fun _ => World.Stable.beside
    (stable_decided _)) fun s holds => ?_
  exact ⟨decision, ⟨.event follows returns, holds.1⟩, holds.2⟩

/-- **A test has been completed** since a part of the history, with the state of its handler. -/
def Completed (test : ActiveTest) (opening : List SessionAction) (commandId : Int) (testType : PyStr)
    (state : σ) (status : PyStr) (s : Bench δ) : Prop :=
  ∃ witnessed : List Bytes × List BoardTester.ComponentTestEvent × Option PyStr,
    (List.Forall₂ (Told commandId testType) witnessed.1 witnessed.2.1 ∧
      Follows handler witnessed.2.1 state witnessed.2.2) ∧
    HasEnded test opening witnessed.1 (commandId + 1000) witnessed.2.2 status s

theorem stable_completed {state : σ} {status : PyStr} :
    (bench registry metadata).Stable
      (Completed handler test opening commandId testType state status) :=
  World.Stable.exists fun _ => World.Stable.beside stable_hasEnded

/-- **The loop of `run_component_test`** goes on until the test has been completed. -/
theorem holds_watched (rounds : Nat) {events : List BoardTester.ComponentTestEvent} {state : σ}
    (told : List.Forall₂ (Told commandId testType) seen events)
    (follows : Follows handler events state none) :
    (bench registry metadata).Holds (TakesTurn metadata) (Proceeding test opening seen)
      (TesterDialogue.receiveMessages tooDeep commandId testType
        (TesterDialogue.handleEvent tooDeep commandId testType handler) rounds state)
      (Outcome (fun completed => Completed handler test opening commandId testType completed.1
        completed.2.status) anyError) := by
  induction rounds generalizing seen events state with
  | zero =>
      intro s proceeding t reaches
      refine ⟨trivial, fun reply => ?_⟩
      cases reply
  | succ rounds ih =>
      have read : (bench registry metadata).Holds (TakesTurn metadata)
          (Proceeding test opening seen)
          (RaisingDialogue.attempt (TesterDialogue.readMessage tooDeep readTimeoutSeconds
            fun line => decodeComponentTestMessage line commandId testType))
          (Outcome (Outcome (TestRead test opening seen commandId testType)
            fun error s => error.isTimeout = true → Proceeding test opening seen s) anyError) := by
        refine World.Holds.attempt (World.Stable.outcome stable_testRead fun error =>
          World.Stable.imp fun _ => stable_proceeding) ?_
        exact holds_received stable_proceeding stable_testRead
          (fun s proceeding _ => proceeding.progress.canGoOn)
          fun s line later message proceeding waiting decoded => proceeding.read waiting decoded
      refine World.Holds.raisingBind (fun _ => World.Stable.true) read fun received => ?_
      cases received with
      | error error =>
          dsimp only
          split_ifs with timeout
          · exact (ih told follows).mono (fun _ proceeding => proceeding timeout)
              fun _ _ ended => ended
          · exact World.Holds.done World.Stable.true fun _ _ => trivial
      | ok message =>
          cases message with
          | acknowledgement messageType =>
              exact World.Holds.done World.Stable.true fun _ _ => trivial
          | completion completion =>
              have returned : (bench registry metadata).Holds (TakesTurn metadata)
                  (TestRead test opening seen commandId testType (.completion completion))
                  (TesterDialogue.completes commandId testType completion)
                  (Outcome (fun _ => TestRead test opening seen commandId testType
                    (.completion completion)) anyError) := by
                refine World.Holds.lift (fun _ => stable_testRead _) (World.Holds.operation
                  (stable_testRead _) (fun _ => stable_testRead _) (fun _ _ => trivial) ?_)
                intro s reply t ended replied
                cases replied
                exact ended
              refine World.Holds.raisingBind (fun _ => World.Stable.true) returned fun _ => ?_
              exact World.Holds.returns (stable_completed handler) fun s ended =>
                ⟨(seen, events, none), ⟨told, follows⟩, ended⟩
          | event event =>
              have handed : (bench registry metadata).Holds (TakesTurn metadata)
                  (TestRead test opening seen commandId testType (.event event))
                  (TesterDialogue.handles commandId testType event)
                  (Outcome (fun _ => TestRead test opening seen commandId testType (.event event))
                    anyError) := by
                refine World.Holds.lift (fun _ => stable_testRead _) (World.Holds.operation
                  (stable_testRead _) (fun _ => stable_testRead _) (fun _ _ => trivial) ?_)
                rintro s reply t ⟨line, tells, requests, isTest, telling, progress⟩ replied
                cases replied
                exact ⟨line, tells, requests, isTest, telling, progress⟩
              refine World.Holds.raisingBind (fun _ => World.Stable.true) handed fun _ => ?_
              refine World.Holds.exists_before fun line => World.Holds.of_fact fun tells => ?_
              have told' : List.Forall₂ (Told commandId testType) (seen ++ [line])
                  (events ++ [event]) := List.rel_append told (.cons tells .nil)
              refine World.Holds.raisingBind (fun _ => World.Stable.true)
                (holds_handledEvent handler follows event) fun answered => ?_
              obtain ⟨later, completion⟩ := answered
              refine World.Holds.exists_before fun decision => World.Holds.of_fact ?_
              rintro ⟨follows', rfl⟩
              cases decision with
              | none => exact ih told' follows'
              | some status =>
                  exact World.Holds.returns (stable_completed handler) fun s ended =>
                    ⟨(_, _, some status), ⟨told', follows'⟩, ended⟩

theorem holds_awaited :
    (bench registry metadata).Holds (TakesTurn metadata) (Proceeding test opening [])
      (TesterDialogue.awaitCompletion tooDeep commandId testType
        (TesterDialogue.handleEvent tooDeep commandId testType handler)
        (TesterDialogue.handleStart tooDeep commandId testType handler) handler.initial)
      (Outcome (fun completed => Completed handler test opening commandId testType completed.1
        completed.2.status) anyError) := by
  refine World.Holds.raisingBind (fun _ => World.Stable.true) (holds_handledStart handler)
    fun completion => ?_
  refine World.Holds.exists_before fun decision => World.Holds.of_fact ?_
  rintro ⟨follows, rfl⟩
  cases decision with
  | some status =>
      exact World.Holds.returns (stable_completed handler) fun s ended =>
        ⟨([], [], some status), ⟨.nil, follows⟩, ended⟩
  | none =>
      have bounded : (bench registry metadata).Holds (TakesTurn metadata)
          (Proceeding test opening []) TesterDialogue.rounds
          (Outcome (fun _ => Proceeding test opening []) anyError) := by
        refine World.Holds.lift (fun _ => stable_proceeding) (World.Holds.operation stable_proceeding
          (fun _ => stable_proceeding) (fun _ _ => trivial) ?_)
        intro s reply t proceeding replied
        cases replied
        exact proceeding
      exact World.Holds.raisingBind (fun _ => World.Stable.true) bounded fun bound =>
        holds_watched handler bound .nil follows

end Handler

end Test

/-! ## Tests -/

/-- What a history has become by a test, with the result that is reported. -/
def Reported {σ : Type} (handler : TestHandler σ) (commandId : Int) (testType : PyStr)
    (history : List SessionAction) (result : ComponentTestResult) (s : Bench δ) : Prop :=
  ∃ episode, Backed handler commandId testType result episode ∧ Resting (history ++ episode) s

section Tests

variable (components : ∀ definition ∈ registry, ∃ ready, Tells definition ready)
include components

/-- **A test is asked for**, and it begins. -/
theorem holds_begun {commandId : Int} {testType : PyStr}
    {parameters : Option (List (PyStr × Int))} {history : List SessionAction} :
    (bench registry metadata).Holds (TakesTurn metadata) (Resting history)
      (TesterDialogue.sendRequest (encodeRunComponentTest commandId testType parameters)
          writeTimeoutSeconds >>= fun _ =>
        TesterDialogue.readMessage tooDeep readTimeoutSeconds fun line =>
          decodeComponentTestMessage line commandId testType : TesterDialogue ComponentTestMessage)
      (Outcome (fun _ s => ∃ run, encodeRunComponentTest commandId testType parameters = .ok run ∧
        Beginning run commandId testType history s) anyError) := by
  refine holds_exchange stable_resting
    (fun payload encoded => stable_runRequested components (request_of_encodeRun encoded))
    (fun payload message => stable_beginning) (fun s resting => resting.requests) ?_
    (fun s payload (asked : RunRequested payload commandId history s) _ => asked.canGoOn) ?_
  · intro s payload encoded resting
    exact resting.runRequested payload commandId
  · intro s payload line later message asked waiting decoded
    exact asked.read waiting decoded

omit components in
theorem stable_reported {σ : Type} {handler : TestHandler σ} {commandId : Int} {testType : PyStr}
    {history : List SessionAction} {result : ComponentTestResult} :
    (bench registry metadata).Stable (Reported handler commandId testType history result) :=
  World.Stable.exists fun _ => World.Stable.beside stable_resting

/-- **`run_component_test`** returns what the firmware backs. -/
theorem holds_completed {σ : Type} (handler : TestHandler σ) (commandId : Int) (testType : PyStr)
    (history : List SessionAction) :
    (bench registry metadata).Holds (TakesTurn metadata) (Resting history)
      (TesterDialogue.runComponentTest tooDeep commandId testType
        (TesterDialogue.handleEvent tooDeep commandId testType handler) handler.parameters
        (TesterDialogue.handleStart tooDeep commandId testType handler) handler.initial)
      (Outcome (fun completed => Reported handler commandId testType history
        (handler.finish completed.1 completed.2.status)) anyError) := by
  rw [TesterDialogue.runComponentTest, ← bind_assoc]
  refine World.Holds.raisingBind (fun _ => World.Stable.true) (holds_begun components)
    fun first => ?_
  refine World.Holds.exists_before fun run => World.Holds.of_fact fun encoded => ?_
  refine World.Holds.exists_before fun started => World.Holds.of_fact fun begun => ?_
  split_ifs
  · refine (holds_awaited handler).mono (fun _ proceeding => proceeding) fun result s ended => ?_
    cases result with
    | error error => trivial
    | ok completed =>
        obtain ⟨⟨lines, events, decision⟩, ⟨told, follows⟩, ⟨updates, closing⟩, updated, ends,
          resting⟩ := ended
        refine ⟨_, .intro encoded begun.sameId begun.sameType begun.requested updated told follows
          ends, ?_⟩
        rw [← List.append_assoc, ← List.append_assoc]
        exact resting
  · exact World.Holds.done World.Stable.true fun _ _ => trivial

/-- **A test that is run** is reported as the firmware backs it. -/
theorem holds_reported {σ : Type} (handler : TestHandler σ) (commandId : Int) (testType : PyStr)
    (history : List SessionAction) :
    (bench registry metadata).Holds (TakesTurn metadata) (Resting history)
      (TesterDialogue.runHandler tooDeep commandId testType handler)
      (Outcome (Reported handler commandId testType history) anyError) := by
  refine World.Holds.raisingBind (fun _ => World.Stable.true)
    (holds_completed components handler commandId testType history) fun completed => ?_
  exact World.Holds.returns stable_reported fun _ reported => reported

/-- **Test by test** the results are backed. -/
theorem holds_allReported (handlers : TestDefinition → Except TesterError AnyTestHandler)
    (commandId : Int) (definitions : List TestDefinition) (history : List SessionAction) :
    (bench registry metadata).Holds (TakesTurn metadata) (Resting history)
      (TesterDialogue.runTests tooDeep handlers commandId definitions)
      (Outcome (fun results s => ∃ episodes,
        AllBacked handlers commandId definitions results episodes ∧
          Resting (history ++ episodes) s) anyError) := by
  have stable : ∀ (commandId : Int) definitions history results,
      (bench registry metadata).Stable fun s => ∃ episodes,
        AllBacked handlers commandId definitions results episodes ∧ Resting (history ++ episodes) s :=
    fun _ _ _ _ => World.Stable.exists fun _ => World.Stable.beside stable_resting
  induction definitions generalizing commandId history with
  | nil =>
      refine World.Holds.returns (stable _ _ _ _) fun s resting => ⟨[], .nil commandId, ?_⟩
      rw [List.append_nil]
      exact resting
  | cons definition definitions ih =>
      rw [TesterDialogue.runTests]
      cases created : handlers definition with
      | error error => exact World.Holds.done World.Stable.true fun _ _ => trivial
      | ok handler =>
          refine World.Holds.raisingBind (fun _ => World.Stable.true)
            (holds_reported components handler.handler commandId definition.type history)
            fun result => ?_
          refine World.Holds.exists_before fun episode => World.Holds.of_fact fun backed => ?_
          refine World.Holds.raisingBind (fun _ => World.Stable.true)
            (ih (commandId + 1) (history ++ episode)) fun results => ?_
          refine World.Holds.returns (stable _ _ _ _) ?_
          rintro s ⟨later, rest, resting⟩
          refine ⟨episode ++ later, .cons created backed rest, ?_⟩
          rw [← List.append_assoc]
          exact resting

omit components in
/-- **A session is asked for**, and the firmware tells about itself. -/
theorem holds_sessionTold (testUuid : UUID) (history : List SessionAction) :
    (bench registry metadata).Holds (TakesTurn metadata) (Resting history)
      (TesterDialogue.startTest tooDeep testUuid)
      (Outcome (fun response s => ∃ start, encodeStartTest startTestCommandId testUuid = .ok start ∧
        SessionTold metadata start startTestCommandId history response s) anyError) := by
  refine holds_exchange stable_resting
    (fun payload encoded => stable_startRequested (request_of_encodeStart encoded))
    (fun payload response => stable_sessionTold) (fun s resting => resting.requests) ?_
    (fun s payload (asked : StartRequested metadata payload startTestCommandId history s) fits =>
      asked.canGoOn fits) ?_
  · intro s payload encoded resting
    exact .waiting (congrArg (· ++ [payload]) resting.requests) resting.idle resting.responses
      resting.history
  · intro s payload line later response asked waiting decoded
    exact asked.read waiting decoded

/-- **The history that backs a dispatch**: the session has been answered, and if it is valid the
results are backed test by test. -/
def DispatchBacked (metadata : SessionMetadata)
    (handlers : TestDefinition → Except TesterError AnyTestHandler)
    (configurations : LoadedConfigurations) (results : List ComponentTestResult)
    (history : List SessionAction) : Prop :=
  ∃ start text response episodes,
    encodeStartTest startTestCommandId configurations.test.uuid = .ok start ∧
    startTestLine 1 metadata = some text ∧
    decodeStartTestResponse text startTestCommandId = .ok response ∧
    history = .request start :: .response text true :: episodes ∧
    if (validateSession configurations response).passed then
      AllBacked handlers 2 configurations.test.enabledTests results episodes
    else results = [] ∧ episodes = []

theorem holds_dispatch_backed (handlers : TestDefinition → Except TesterError AnyTestHandler)
    (configurations : LoadedConfigurations) :
    (bench registry metadata).Holds (TakesTurn metadata) (Resting [])
      (TesterDialogue.dispatch tooDeep handlers configurations)
      (Outcome (fun results s => DispatchBacked metadata handlers configurations results
        s.session.actions ∧ Resting s.session.actions s) anyError) := by
  have stable : ∀ results, (bench registry metadata).Stable fun s =>
      DispatchBacked metadata handlers configurations results s.session.actions ∧
        Resting s.session.actions s :=
    fun results s move t holds moved =>
      absurd moved (not_moves holds.2.requests holds.2.idle)
  refine World.Holds.raisingBind (fun _ => World.Stable.true)
    (holds_sessionTold configurations.test.uuid []) fun response => ?_
  refine World.Holds.exists_before fun start => World.Holds.of_fact fun encoded => ?_
  refine World.Holds.exists_before fun told => World.Holds.of_fact fun sameId => ?_
  refine World.Holds.of_fact fun line => World.Holds.of_fact fun decoded => ?_
  obtain ⟨commandId, text⟩ := told
  obtain rfl : commandId = 1 := by
    apply UInt32.toNat.inj
    exact Int.ofNat.inj sameId
  split_ifs with passed
  · refine (holds_allReported components handlers 2 configurations.test.enabledTests
      [.request start, .response text true]).mono (fun _ resting => resting) ?_
    intro result s ended
    cases result with
    | error error => trivial
    | ok results =>
        obtain ⟨episodes, backed, resting⟩ := ended
        refine ⟨⟨start, text, response, episodes, encoded, line, decoded, resting.history, ?_⟩, ?_⟩
        · rw [if_pos passed]
          exact backed
        · exact ⟨resting.requests, resting.idle, resting.responses, rfl⟩
  · refine World.Holds.returns (stable _) fun s resting => ?_
    refine ⟨⟨start, text, response, [], encoded, line, decoded, resting.history, ?_⟩, ?_⟩
    · rw [if_neg passed]
      exact ⟨rfl, rfl⟩
    · exact ⟨resting.requests, resting.idle, resting.responses, rfl⟩

end Tests

end Dialogues

/-! ## Every run -/

theorem resting_initial (device : δ) : Resting [] (Bench.initial device) := ⟨rfl, rfl, rfl, rfl⟩

section Runs

variable {codes : BoschCodes} {metadata : SessionMetadata} {components : FlightComputerComponents}
  {tooDeep : PyStr → Bool} {handlers : TestDefinition → Except TesterError AnyTestHandler}
  {configurations : LoadedConfigurations} {turns : List (Turn FirmwareMove TesterOperation)}
  {s : Bench FlightComputerComponents}

/-- **Results are backed by the firmware**: in every run of the dispatch and the firmware after a
reset that returns its results, whatever the order of their steps and whatever the operator
answers. -/
theorem results_are_backed {results : List ComponentTestResult}
    (run : Run (bench (productionRegistry codes) metadata).Step
      (.initial components, (TesterDialogue.dispatch tooDeep handlers configurations).run) turns
      (s, .done (.ok results))) :
    DispatchBacked metadata handlers configurations results s.session.actions := by
  obtain ⟨_, returned⟩ := World.Holds.of_run
    (holds_dispatch_backed (tells_productionRegistry codes) handlers configurations)
    (resting_initial components) run
  exact (returned (.ok results) rfl).1

/-- **The tester never waits in vain**: whenever it waits for a line, one is there, or a request
waits for the firmware, or a test is active. -/
theorem tester_never_waits_in_vain (fits : FitsOneLine metadata) {seconds : PyStr}
    {next : Except TesterError Bytes → Dialogue TesterOperation TesterOperation.Reply
      (Except TesterError (List ComponentTestResult))}
    (run : Run (bench (productionRegistry codes) metadata).Step
      (.initial components, (TesterDialogue.dispatch tooDeep handlers configurations).run) turns
      (s, .call (.readLine seconds) next)) : CanGoOn s := by
  obtain ⟨waits, _⟩ := World.Holds.of_run
    (holds_dispatch_backed (tells_productionRegistry codes) handlers configurations)
    (resting_initial components) run
  exact waits (.readLine seconds) next rfl fits

end Runs

/-- The results that a dialogue has returned. -/
def returnedResults {α : Type} :
    Dialogue TesterOperation TesterOperation.Reply (Except TesterError α) → Option α
  | .done (.ok results) => some results
  | _ => none

theorem returnedResults_eq_some {α : Type}
    {dialogue : Dialogue TesterOperation TesterOperation.Reply (Except TesterError α)} {results : α}
    (returned : returnedResults dialogue = some results) : dialogue = .done (.ok results) := by
  rw [returnedResults.eq_def] at returned
  split at returned
  · obtain rfl := Option.some.inj returned
    rfl
  · cases returned

/-- The barometer is tested to the end. -/
def barometerReported : List BenchEvent := barometerDispatched ++ [.tester none]

/-- A run that reports the failure of a barometer that does not answer, backed by the firmware. -/
theorem results_are_backed_barometer : ∃ turns s results,
    Run (bench (productionRegistry someCodes) releaseMetadata).Step
      (.initial silentBarometer, barometerDispatch.run) turns (s, .done (.ok results)) ∧
    results.map ComponentTestResult.status = [pyStr "failed"] ∧
    DispatchBacked releaseMetadata (createHandler ⟨fun _ => false, noColours⟩)
      barometerConfigurations results s.session.actions := by
  have ends : (barometerReported.foldlM
      (performBenchEvent (productionRegistry someCodes) releaseMetadata)
      (.initial silentBarometer, barometerDispatch.run)).bind (fun s =>
        (returnedResults s.2).map (List.map ComponentTestResult.status)) =
          some [pyStr "failed"] := by decide +kernel
  obtain ⟨⟨s, dialogue⟩, performed, comes⟩ := Option.bind_eq_some_iff.mp ends
  obtain ⟨results, returned, statuses⟩ := Option.map_eq_some_iff.mp comes
  obtain rfl := returnedResults_eq_some returned
  obtain ⟨turns, run⟩ := exists_run_of_performed performed
  exact ⟨turns, s, results, run, statuses, results_are_backed run⟩

/-- Whether a dialogue waits for a line. -/
def waitsForLine {α : Type} : Dialogue TesterOperation TesterOperation.Reply α → Bool
  | .call (.readLine _) _ => true
  | _ => false

theorem exists_of_waitsForLine {α : Type} {dialogue : Dialogue TesterOperation TesterOperation.Reply α}
    (waits : waitsForLine dialogue = true) :
    ∃ seconds next, dialogue = .call (.readLine seconds) next := by
  rw [waitsForLine.eq_def] at waits
  split at waits
  · exact ⟨_, _, rfl⟩
  · cases waits

/-- The tester waits for the answer to START_TEST, and the request waits for the firmware. -/
theorem tester_never_waits_in_vain_barometer : ∃ turns s seconds next,
    Run (bench (productionRegistry someCodes) releaseMetadata).Step
      (.initial silentBarometer, barometerDispatch.run) turns (s, .call (.readLine seconds) next) ∧
    CanGoOn s := by
  have ends : ([.tester none].foldlM
      (performBenchEvent (productionRegistry someCodes) releaseMetadata)
      (.initial silentBarometer, barometerDispatch.run)).map (fun s => waitsForLine s.2) =
        some true := by decide +kernel
  obtain ⟨⟨s, dialogue⟩, performed, waits⟩ := Option.map_eq_some_iff.mp ends
  obtain ⟨seconds, next, rfl⟩ := exists_of_waitsForLine waits
  obtain ⟨turns, run⟩ := exists_run_of_performed performed
  exact ⟨turns, s, seconds, next, run, tester_never_waits_in_vain fitsOneLine_releaseMetadata run⟩

end FlightComputer
