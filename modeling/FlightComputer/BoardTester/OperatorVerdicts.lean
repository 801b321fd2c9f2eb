import FlightComputer.BoardTester.EscapingErrors

/-!
# Verdicts of the operator

A live test takes any answer other than "n" and "no" for a yes, where `prompt_yes_no` asks again
unless the answer is one of five. So the verdict of a live test follows the policy of the prompt
exactly if the prompt would have taken the answer (`verdict_followsPrompt_iff`): an answer such
as "maybe" passes the test.
-/

set_option autoImplicit false

namespace FlightComputer.BoardTester

open Library Raising

/-! ## The policy of the prompt -/

/-- What `prompt_yes_no` makes of an answer: a decision, or nothing where it asks again. -/
def promptDecision (answer : PyStr) : Option Bool :=
  match (askYesNo [.entered answer]).1 with
  | .ok decision => some decision
  | .error _ => none

/-- A verdict that follows the policy of the prompt: "passed" only for a yes, and "failed" for
a no. -/
structure FollowsPrompt (answer status : PyStr) : Prop where
  passed : status = pyStr "passed" → promptDecision answer = some true
  failed : promptDecision answer = some false → status = pyStr "failed"

/-- The verdict of `LiveOperatorTestHandler.handle_event` for an answer. -/
def liveVerdict (answer : PyStr) : PyStr := decidedStatus (!answersWith ["n", "no"] answer)

theorem failed_ne_passed : pyStr "failed" ≠ pyStr "passed" := by decide

/-- **The verdict follows the prompt** where the prompt takes the answer, and nowhere else. -/
theorem followsPrompt_liveVerdict_iff (answer : PyStr) :
    FollowsPrompt answer (liveVerdict answer) ↔ (promptDecision answer).isSome = true := by
  have decision : promptDecision answer =
      if answersWith ["", "y", "yes"] answer then some true
      else if answersWith ["n", "no"] answer then some false else none := by
    rw [promptDecision, askYesNo]
    split_ifs
    · rfl
    · rfl
    · rfl
  have disjoint : answersWith ["n", "no"] answer = true →
      answersWith ["", "y", "yes"] answer = false := by
    intro refused
    rw [answersWith, List.any_eq_true] at refused
    obtain ⟨word, listed, same⟩ := refused
    rw [decide_eq_true_eq] at same
    rw [answersWith, same]
    rcases List.mem_cons.mp listed with rfl | listed
    · decide
    · rw [List.mem_singleton.mp listed]
      decide
  rw [liveVerdict]
  cases no : answersWith ["n", "no"] answer with
  | true =>
      rw [disjoint no, no, if_neg Bool.false_ne_true, if_pos rfl] at decision
      rw [decision]
      refine iff_of_true ⟨fun passed => ?_, fun _ => rfl⟩ rfl
      exact absurd passed failed_ne_passed
  | false =>
      cases yes : answersWith ["", "y", "yes"] answer with
      | true =>
          rw [yes, if_pos rfl] at decision
          rw [decision]
          exact iff_of_true ⟨fun _ => decision, fun refused => by
            rw [decision] at refused
            cases refused⟩ rfl
      | false =>
          rw [yes, no, if_neg Bool.false_ne_true, if_neg Bool.false_ne_true] at decision
          rw [decision]
          refine iff_of_false (fun follows => ?_) Bool.false_ne_true
          exact absurd (decision.symm.trans (follows.passed rfl)) (Option.some_ne_none _).symm

/-! ## The answers that have been looked for -/

/-- The call leaves the answers that are to come as they are. -/
abbrev KeepsPolls {α : Type} (condition : List (Option PyStr) → Prop) (call : ConnectionCall α) :
    Prop :=
  Triple (fun connection => condition connection.polls) call
    (fun _ connection => condition connection.polls) fun _ connection => condition connection.polls

section Polls

variable {condition : List (Option PyStr) → Prop} {tooDeep : PyStr → Bool}

theorem polls_awaitLine (seconds : PyStr) (answers : List ReadAnswer) :
    ∀ connection, (awaitLine seconds answers connection).2.polls = connection.polls := by
  induction answers with
  | nil =>
      intro connection
      rcases popLine_cases connection.framer with ⟨_, popped⟩ | ⟨_, _, _, popped⟩ |
        ⟨_, _, _, popped⟩
      · rw [awaitLine_wait seconds _ popped]
      · rw [awaitLine_line seconds _ popped]
      · rw [awaitLine_error seconds _ popped]
  | cons answer answers ih =>
      intro connection
      rcases popLine_cases connection.framer with ⟨_, popped⟩ | ⟨_, _, _, popped⟩ |
        ⟨_, _, _, popped⟩
      · rw [awaitLine_wait seconds _ popped]
        cases answer with
        | chunk data => exact ih _
        | expired => rfl
        | failed error => rfl
        | interrupted => rfl
      · rw [awaitLine_line seconds _ popped]
      · rw [awaitLine_error seconds _ popped]

theorem keepsPolls_settle {α : Type} (result : Except TesterError α) :
    KeepsPolls condition (settle result : ConnectionCall α) := by
  cases result with
  | ok value => exact .settle fun _ holds => holds
  | error error => exact .settle fun _ holds => holds

theorem keepsPolls_readMessage {α : Type} (seconds : PyStr)
    (decode : Bytes → Except ProtocolMessageError α) :
    KeepsPolls condition (readMessage tooDeep seconds decode) := by
  refine Triple.bind (M := fun _ connection => condition connection.polls) ?_
    fun line => keepsPolls_settle _
  intro connection result t holds ended
  obtain ⟨rfl, rfl⟩ := Prod.mk.inj (Option.some.inj ended)
  have kept : condition (awaitLine seconds connection.reads connection).2.polls := by
    rw [polls_awaitLine]
    exact holds
  cases (awaitLine seconds connection.reads connection).1 with
  | ok line => exact kept
  | error error => exact kept

theorem keepsPolls_sendRequest (encoded : Except ValueError Bytes) (seconds : PyStr) :
    KeepsPolls condition (sendRequest encoded seconds) := by
  cases encoded with
  | error error => exact .throw fun _ holds => holds
  | ok payload =>
      rw [sendRequest, writeLine]
      cases encodeLine payload maxLineLength with
      | error error => exact .throw fun _ holds => holds
      | ok frame =>
          intro connection result t holds ended
          obtain ⟨rfl, rfl⟩ := Prod.mk.inj (Option.some.inj ended)
          cases (writeFrame connection.port seconds connection.writes frame).1 with
          | ok value => exact holds
          | error error => exact holds

theorem keepsPolls_stopComponentTest (commandId : Int) (testType : PyStr) :
    KeepsPolls condition (stopComponentTest tooDeep commandId testType) :=
  .bind (keepsPolls_sendRequest _ _) fun _ => .bind (keepsPolls_readMessage _ _) fun _ =>
    .ite (fun _ => .pure fun _ holds => holds) fun _ => .throw fun _ holds => holds

end Polls

/-- The operator has not answered yet. -/
def Undecided (polls later : List (Option PyStr)) : Prop :=
  ∃ looked, polls = looked ++ later ∧ ∀ answer, some answer ∉ looked

/-- The operator has answered, and this is the verdict. -/
def Decided (polls : List (Option PyStr)) (status : PyStr) (later : List (Option PyStr)) : Prop :=
  ∃ looked answer, polls = looked ++ some answer :: later ∧ status = liveVerdict answer

/-- The verdict of a run is for the answer that the run has taken. -/
theorem liveVerdict_of_taken {polls looked later : List (Option PyStr)} {status answer : PyStr}
    (verdict : Undecided polls later ∨ Decided polls status later)
    (taken : polls = looked ++ some answer :: later) : status = liveVerdict answer := by
  rw [List.append_cons] at taken
  rcases verdict with ⟨before, same, unanswered⟩ | ⟨before, decided, same, verdict⟩
  · have all := List.append_cancel_right (taken.symm.trans same)
    refine absurd ?_ (unanswered answer)
    rw [← all]
    exact List.mem_append_right _ List.mem_cons_self
  · rw [List.append_cons] at same
    have all := List.append_cancel_right (taken.symm.trans same)
    have last := (List.append_inj_right' all rfl)
    rw [verdict, Option.some.inj (List.singleton_inj.mp last)]

/-! ## Runs -/

section Runs

variable {σ : Type} {live : LiveTest σ} {tooDeep : PyStr → Bool} {commandId : Int}
  {testType : PyStr} {polls : List (Option PyStr)}

/-- Looking for an answer. -/
theorem triple_answerSoFar (promptStarted : Bool) :
    Triple (fun connection => Undecided polls connection.polls) (answerSoFar promptStarted)
      (fun found connection =>
        match found with
        | none => Undecided polls connection.polls
        | some answer => ∃ looked, polls = looked ++ some answer :: connection.polls)
      fun _ _ => True := by
  cases promptStarted with
  | false => exact .pure fun _ undecided => undecided
  | true =>
      rintro connection result t ⟨looked, same, unanswered⟩ ended
      change pollAnswer connection = _ at ended
      rw [pollAnswer] at ended
      cases waiting : connection.polls with
      | nil =>
          rw [waiting] at ended
          obtain ⟨rfl, rfl⟩ := Prod.mk.inj (Option.some.inj ended)
          exact ⟨looked, same, unanswered⟩
      | cons found later =>
          rw [waiting] at ended same
          obtain ⟨rfl, rfl⟩ := Prod.mk.inj (Option.some.inj ended)
          cases found with
          | some answer => exact ⟨looked, same⟩
          | none =>
              refine ⟨looked ++ [none], ?_, fun answer listed => ?_⟩
              · rw [List.append_assoc]
                exact same
              · rcases List.mem_append.mp listed with early | late
                · exact unanswered answer early
                · cases List.mem_singleton.mp late

/-- **An event** is recorded, or the test is stopped with the verdict for the answer. -/
theorem triple_handleEvent (handler : σ × Bool) (event : ComponentTestEvent) :
    Triple (fun connection => Undecided polls connection.polls)
      (live.handleEvent tooDeep commandId testType handler event)
      (fun handled connection =>
        match handled.2 with
        | none => Undecided polls connection.polls
        | some completion => Decided polls completion.status connection.polls)
      fun _ _ => True := by
  have failing : ∀ (error : TesterError) (connection : Connection),
      Undecided polls connection.polls → True := fun _ _ _ => trivial
  refine .bind ((keepsPolls_settle _).mono (fun _ holds => holds) (fun _ _ holds => holds) failing)
    fun handler => .bind ((keepsPolls_settle _).mono (fun _ holds => holds)
      (fun _ _ holds => holds) failing) fun _ => .bind (triple_answerSoFar handler.2) fun found => ?_
  cases found with
  | none => exact .pure fun _ undecided => undecided
  | some answer =>
      have kept : KeepsPolls (fun later => ∃ looked, polls = looked ++ some answer :: later)
          (stopComponentTest tooDeep (commandId + 1000) testType) := keepsPolls_stopComponentTest _ _
      refine Triple.bind (kept.mono (fun _ taken => taken) (fun _ _ taken => taken)
        fun _ _ _ => trivial) fun _ => ?_
      exact .pure fun _ ⟨looked, same⟩ => ⟨looked, answer, same, rfl⟩

/-- **The loop of `run_component_test`**, by induction on its rounds. -/
theorem triple_receiveMessages_live (rounds : Nat) :
    ∀ handler, Triple (fun connection => Undecided polls connection.polls)
      (receiveMessages tooDeep commandId testType (live.handleEvent tooDeep commandId testType)
        rounds handler)
      (fun completed connection => Undecided polls connection.polls ∨
        Decided polls completed.2.status connection.polls)
      fun _ _ => True := by
  induction rounds with
  | zero =>
      intro handler connection result t _ ended
      exact absurd ended.symm (Option.some_ne_none _)
  | succ rounds ih =>
      intro handler
      refine Triple.bind ((Triple.attempt (keepsPolls_readMessage _ _)).mono (fun _ holds => holds)
        (fun _ _ outcome => outcome) fun _ _ never => never.elim) fun received => ?_
      cases received with
      | ok message =>
          cases message with
          | event event =>
              refine Triple.bind (triple_handleEvent handler event) fun answered => ?_
              cases answered.2 with
              | some completion => exact .pure fun _ decided => .inr decided
              | none => exact ih _
          | completion completion => exact .pure fun _ undecided => .inl undecided
          | acknowledgement messageType => exact .throw fun _ _ => trivial
      | error error => exact .ite (fun _ => ih handler) fun _ => .throw fun _ _ => trivial

/-- **A live test**: its verdict is that of the component, or the one for the answer. -/
theorem triple_liveTest (interpreter : Interpreter) (definition : TestDefinition) :
    Triple (fun connection => Undecided polls connection.polls)
      (live.run interpreter definition commandId)
      (fun result connection => Undecided polls connection.polls ∨
        Decided polls result.status connection.polls)
      fun _ _ => True := by
  have failing : ∀ (error : TesterError) (connection : Connection),
      Undecided polls connection.polls → True := fun _ _ _ => trivial
  have started : ∀ first : ComponentTestMessage,
      Triple (fun connection => Undecided polls connection.polls)
        (if first.acknowledges (pyStr "TEST_STARTED") then
          awaitCompletion interpreter.tooDeep commandId definition.type
            (live.handleEvent interpreter.tooDeep commandId definition.type) (pure none)
            (live.initial, false)
        else throw (protocolError "component test did not acknowledge TEST_STARTED"))
        (fun completed connection => Undecided polls connection.polls ∨
          Decided polls completed.2.status connection.polls) fun _ _ => True := by
    refine fun first => .ite (fun _ => ?_) fun _ => .throw fun _ _ => trivial
    refine Triple.bind (M := fun found connection =>
      found = none ∧ Undecided polls connection.polls) (.pure fun _ undecided => ⟨rfl, undecided⟩)
      fun found => ?_
    cases found with
    | none =>
        exact .bind (.get fun _ undecided => undecided.2) fun _ =>
          triple_receiveMessages_live _ _
    | some completion => exact fun connection result t impossible => nomatch impossible.1
  refine .bind ((keepsPolls_settle _).mono (fun _ holds => holds) (fun _ _ holds => holds) failing)
    fun _ => .bind (.bind ((keepsPolls_sendRequest _ _).mono (fun _ holds => holds)
      (fun _ _ holds => holds) failing) fun _ => .bind ((keepsPolls_readMessage _ _).mono
        (fun _ holds => holds) (fun _ _ holds => holds) failing) started) fun completed => ?_
  exact .pure fun _ verdict => verdict

end Runs

/-- **Live verdicts and the policy of the prompt**: in a run of the IMU or of the barometer
test that the operator has decided, the verdict follows the policy exactly if the answer is one that
the prompt takes. -/
theorem verdict_followsPrompt_iff
    {test : Interpreter → TestDefinition → Int → ConnectionCall ComponentTestResult}
    (live : test = imuTest.run ∨ test = barometerTest.run) (interpreter : Interpreter)
    (definition : TestDefinition) (commandId : Int) {connection after : Connection}
    {result : ComponentTestResult} {looked : List (Option PyStr)} {answer : PyStr}
    (ran : test interpreter definition commandId connection = some (.ok result, after))
    (taken : connection.polls = looked ++ some answer :: after.polls) :
    FollowsPrompt answer result.status ↔ (promptDecision answer).isSome = true := by
  have undecided : Undecided connection.polls connection.polls :=
    ⟨[], rfl, fun _ => List.not_mem_nil⟩
  have verdict : Undecided connection.polls after.polls ∨
      Decided connection.polls result.status after.polls := by
    rcases live with rfl | rfl
    · exact (triple_liveTest interpreter definition).returns undecided ran
    · exact (triple_liveTest interpreter definition).returns undecided ran
  rw [liveVerdict_of_taken verdict taken]
  exact followsPrompt_liveVerdict_iff answer

/-! ## An answer that the prompt would refuse -/

/-- A line that the device sends. -/
def deviceLine (text : String) : ReadAnswer := .chunk (ascii text ++ [lineFeed])

/-- The session of an IMU test that the operator ends with an answer. -/
def imuSession (answer : PyStr) : Connection :=
  .opened (pyStr "/dev/ttyACM0")
    [deviceLine "\x7b\"protocol_version\":1,\"type\":\"TEST_STARTED\",\"command_id\":2,\"test_type\":\"imu\",\"status\":\"running\"\x7d",
      deviceLine "\x7b\"protocol_version\":1,\"type\":\"TEST_EVENT\",\"command_id\":2,\"test_type\":\"imu\",\"event\":\"imu_ready\"\x7d",
      deviceLine "\x7b\"protocol_version\":1,\"type\":\"TEST_STOPPED\",\"command_id\":1002,\"test_type\":\"imu\",\"status\":\"stopped\"\x7d"]
    [.accepted (some 84), .accepted (some 70)] [] [some answer]

/-- The definition of an IMU test. -/
def imuDefinition : TestDefinition := ⟨pyStr "imu", true, []⟩

/-- Whether a run has ended with the verdict "passed", and all answers have been taken. -/
def passedAtTheEnd : Except TesterError ComponentTestResult × Connection → Bool
  | (.ok result, after) => decide (result.status = pyStr "passed") && after.polls.isEmpty
  | (.error _, _) => false

/-- The run in which the operator answers "maybe". -/
theorem exists_imu_maybe :
    ∃ result after, imuTest.run plainInterpreter imuDefinition 2 (imuSession (pyStr "maybe")) =
        some (.ok result, after) ∧
      after.polls = [] ∧ result.status = pyStr "passed" := by
  have computed : (imuTest.run plainInterpreter imuDefinition 2 (imuSession (pyStr "maybe"))).map
      passedAtTheEnd = some true := by decide +kernel
  obtain ⟨⟨result, after⟩, ran, passed⟩ := Option.map_eq_some_iff.mp computed
  cases result with
  | error error => cases passed
  | ok result =>
      obtain ⟨status, polls⟩ := Bool.and_eq_true_iff.mp passed
      exact ⟨result, after, ran, List.isEmpty_iff.mp polls, of_decide_eq_true status⟩

/-- The theorem, at this run. -/
theorem verdict_followsPrompt_iff_maybe :
    ∃ result after, imuTest.run plainInterpreter imuDefinition 2 (imuSession (pyStr "maybe")) =
        some (.ok result, after) ∧
      (FollowsPrompt (pyStr "maybe") result.status ↔
        (promptDecision (pyStr "maybe")).isSome = true) := by
  obtain ⟨result, after, ran, polls, _⟩ := exists_imu_maybe
  refine ⟨result, after, ran, ?_⟩
  have taken : (imuSession (pyStr "maybe")).polls = [] ++ some (pyStr "maybe") :: after.polls := by
    rw [polls]
    rfl
  exact verdict_followsPrompt_iff (.inl rfl) plainInterpreter imuDefinition 2 ran taken

/-- The prompt would ask again after "maybe", and the IMU test passes. -/
theorem refused_answer_passes :
    promptDecision (pyStr "maybe") = none ∧
      ∃ result after, imuTest.run plainInterpreter imuDefinition 2 (imuSession (pyStr "maybe")) =
          some (.ok result, after) ∧
        (imuSession (pyStr "maybe")).polls = [] ++ some (pyStr "maybe") :: after.polls ∧
        result.status = pyStr "passed" ∧ ¬FollowsPrompt (pyStr "maybe") result.status := by
  obtain ⟨result, after, ran, polls, passed⟩ := exists_imu_maybe
  refine ⟨by decide, result, after, ran, ?_, passed, fun follows => ?_⟩
  · rw [polls]
    rfl
  · have refused : promptDecision (pyStr "maybe") ≠ some true := by decide
    exact refused (follows.passed passed)

end FlightComputer.BoardTester
