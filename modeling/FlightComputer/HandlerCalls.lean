import FlightComputer.BoardTester.HandlerDialogues
import FlightComputer.Library.Performances

/-!
# The calls of the handlers

A dialogue of the tester says which events it hands to a handler and which completions of the device
it returns (`TesterOperation.handles`, `TesterOperation.completes`). What it says is what happens:
in every dispatch that returns its results, whatever the replies, the handler of each test has been
called with exactly the events that are told of, in their order, and its result is made from the
state that it has come to and from the completion that is told of, or from its own decision
(`allCalled_of_performs`).
-/

set_option autoImplicit false

namespace FlightComputer

open Library BoardTester

/-! ## What a handler makes of the events -/

/-- **How a handler goes on** with the events of its test: the state that it reaches, and its
decision, after which it gets no more events. -/
inductive Follows {σ : Type} (handler : TestHandler σ) :
    List BoardTester.ComponentTestEvent → σ → Option PyStr → Prop where
  | started {decision : Option PyStr} (returns : handler.onStarted.Returns decision) :
      Follows handler [] handler.initial decision
  | event {events : List BoardTester.ComponentTestEvent} {state next : σ}
      {event : BoardTester.ComponentTestEvent} {decision : Option PyStr}
      (earlier : Follows handler events state none)
      (returns : (handler.onEvent state event).Returns (next, decision)) :
      Follows handler (events ++ [event]) next decision

/-- The completion that a decision stands for. -/
def decidedCompletion (commandId : Int) (testType : PyStr) (decision : Option PyStr) :
    Option ComponentTestCompletion :=
  decision.map fun status => ⟨commandId, testType, status⟩

/-! ## What is told of the handlers -/

/-- The operation tells of a handler. -/
def tells : TesterOperation → Bool
  | .handles _ _ _ => true
  | .completes _ _ _ => true
  | _ => false

/-- What the turns of a run tell of the handlers. -/
def tellings {ι : Type} (turns : List (Turn ι TesterOperation)) : List TesterOperation :=
  (turns.filterMap Turn.own?).filter tells

/-- **The calls of one handler**, with the state and the completion that they have come to, as they
are told of: each event that it has got, and then the completion of the device, unless the handler
has decided the test itself. -/
inductive Called {σ : Type} (handler : TestHandler σ) (commandId : Int) (testType : PyStr) :
    σ × ComponentTestCompletion → List TesterOperation → Prop where
  | decided {events : List BoardTester.ComponentTestEvent} {state : σ} {status : PyStr}
      (follows : Follows handler events state (some status)) :
      Called handler commandId testType (state, ⟨commandId, testType, status⟩)
        (events.map (.handles commandId testType))
  | completed {events : List BoardTester.ComponentTestEvent} {state : σ}
      {completion : ComponentTestCompletion} (follows : Follows handler events state none) :
      Called handler commandId testType (state, completion)
        (events.map (.handles commandId testType) ++ [.completes commandId testType completion])

/-- The calls of the handlers of tests that are run one after the other, with their results. -/
inductive AllCalled (handlers : TestDefinition → Except TesterError AnyTestHandler) :
    Int → List TestDefinition → List ComponentTestResult → List TesterOperation → Prop where
  | nil (commandId : Int) : AllCalled handlers commandId [] [] []
  | cons {commandId : Int} {definition : TestDefinition} {definitions : List TestDefinition}
      {handler : AnyTestHandler} {completed : handler.State × ComponentTestCompletion}
      {results : List ComponentTestResult} {calls later : List TesterOperation}
      (created : handlers definition = .ok handler)
      (called : Called handler.handler commandId definition.type completed calls)
      (rest : AllCalled handlers (commandId + 1) definitions results later) :
      AllCalled handlers commandId (definition :: definitions)
        (handler.handler.finish completed.1 completed.2.status :: results) (calls ++ later)

/-! ## Dialogues that tell nothing -/

/-- Whatever a dialogue comes to, it tells nothing of the handlers. -/
def Silent {α : Type} (dialogue : TesterDialogue α) : Prop :=
  ∀ operations result, Dialogue.Performs dialogue.run operations result →
    operations.filter tells = []

/-- **A dialogue with the operator** tells nothing, and returns what it may return. -/
theorem asks_of_performs_consult {α : Type} {dialogue : OperatorDialogue α}
    {operations : List TesterOperation} {result : Except TesterError α}
    (performs : Dialogue.Performs (TesterDialogue.consult dialogue).run operations result) :
    (∀ operation ∈ operations, tells operation = false) ∧
      Dialogue.Returns dialogue.run result := by
  apply Dialogue.Performs.of_perform _ performs
  intro question operations reply asked operation listed
  rw [asked.of_operation] at listed
  rw [List.mem_singleton.mp listed]
  rfl

namespace Silent

variable {α β : Type}

theorem settle (result : Except TesterError α) :
    Silent (RaisingDialogue.settle result : TesterDialogue α) := by
  intro operations ended performs
  cases performs
  rfl

theorem bind {first : TesterDialogue α} {rest : α → TesterDialogue β} (one : Silent first)
    (two : ∀ value, Silent (rest value)) : Silent (first >>= rest) := by
  intro operations result performs
  obtain ⟨between, earlier, later, rfl, first, second⟩ := Dialogue.Performs.of_bind performs
  rw [List.filter_append, one earlier between first, List.nil_append]
  cases between with
  | ok value => exact two value later result second
  | error error =>
      cases second
      rfl

theorem consult (dialogue : OperatorDialogue α) : Silent (TesterDialogue.consult dialogue) := by
  intro operations result performs
  rw [List.filter_eq_nil_iff]
  intro operation listed
  rw [(asks_of_performs_consult performs).1 operation listed]
  exact Bool.false_ne_true

theorem writeLine (payload : Bytes) (seconds : PyStr) :
    Silent (TesterDialogue.writeLine payload seconds) := by
  intro operations result performs
  rw [Dialogue.Performs.of_operation performs]
  rfl

theorem readLine (seconds : PyStr) : Silent (TesterDialogue.readLine seconds) := by
  intro operations result performs
  rw [Dialogue.Performs.of_operation performs]
  rfl

theorem readMessage (tooDeep : PyStr → Bool) (seconds : PyStr)
    (decode : Bytes → Except ProtocolMessageError α) :
    Silent (TesterDialogue.readMessage tooDeep seconds decode) :=
  .bind (.readLine seconds) fun _ => .settle _

theorem sendRequest (encoded : Except ValueError Bytes) (seconds : PyStr) :
    Silent (TesterDialogue.sendRequest encoded seconds) := by
  cases encoded with
  | ok payload => exact .writeLine payload seconds
  | error error => exact .settle (.error (.value error))

theorem startTest (tooDeep : PyStr → Bool) (testUuid : UUID) :
    Silent (TesterDialogue.startTest tooDeep testUuid) :=
  .bind (.sendRequest _ _) fun _ => .readMessage _ _ _

theorem stopComponentTest (tooDeep : PyStr → Bool) (commandId : Int) (testType : PyStr) :
    Silent (TesterDialogue.stopComponentTest tooDeep commandId testType) := by
  apply Silent.bind (.sendRequest _ _)
  intro _
  apply Silent.bind (.readMessage _ _ _)
  intro response
  split_ifs
  · exact .settle (.ok ())
  · exact .settle (.error _)

theorem conclude (tooDeep : PyStr → Bool) (commandId : Int) (testType : PyStr)
    (decision : Option PyStr) :
    Silent (TesterDialogue.conclude tooDeep commandId testType decision) := by
  cases decision with
  | none => exact .settle (.ok none)
  | some status => exact .bind (.stopComponentTest _ _ _) fun _ => .settle (.ok _)

end Silent

/-! ## Handlers -/

section Handler

variable {σ : Type} (tooDeep : PyStr → Bool) (commandId : Int) (testType : PyStr)
  (handler : TestHandler σ)

/-- **A decided test** ends with the completion of the decision. -/
theorem eq_of_performs_conclude {decision : Option PyStr} {operations : List TesterOperation}
    {completion : Option ComponentTestCompletion}
    (performs : RaisingDialogue.Performs
      (TesterDialogue.conclude tooDeep commandId testType decision) operations completion) :
    completion = decidedCompletion commandId testType decision := by
  cases decision with
  | none => exact (RaisingDialogue.performs_pure performs).2
  | some status =>
      obtain ⟨_, _, _, _, _, returned⟩ := RaisingDialogue.Performs.of_bind performs
      exact (RaisingDialogue.performs_pure returned).2

theorem follows_of_performs_handleStart {operations : List TesterOperation}
    {completion : Option ComponentTestCompletion}
    (performs : RaisingDialogue.Performs
      (TesterDialogue.handleStart tooDeep commandId testType handler) operations completion) :
    operations.filter tells = [] ∧ ∃ decision, Follows handler [] handler.initial decision ∧
      completion = decidedCompletion commandId testType decision := by
  have silent : Silent (TesterDialogue.handleStart tooDeep commandId testType handler) :=
    .bind (.consult _) fun _ => .conclude _ _ _ _
  refine ⟨silent operations _ performs, ?_⟩
  obtain ⟨decision, _, _, _, consulted, concluded⟩ := RaisingDialogue.Performs.of_bind performs
  exact ⟨decision, .started (asks_of_performs_consult consulted).2,
    eq_of_performs_conclude _ _ _ concluded⟩

variable {commandId testType handler} {events : List BoardTester.ComponentTestEvent} {state : σ}

/-- **An event** of which the handler has been told. -/
theorem follows_of_performs_handleEvent (follows : Follows handler events state none)
    {event : BoardTester.ComponentTestEvent} {operations : List TesterOperation}
    {answered : σ × Option ComponentTestCompletion}
    (performs : RaisingDialogue.Performs
      (TesterDialogue.handleEvent tooDeep commandId testType handler state event) operations
      answered) :
    operations.filter tells = [] ∧
      ∃ decision, Follows handler (events ++ [event]) answered.1 decision ∧
        answered.2 = decidedCompletion commandId testType decision := by
  have silent : Silent (TesterDialogue.handleEvent tooDeep commandId testType handler state event) :=
    .bind (.consult _) fun decided => .bind (.conclude _ _ _ _) fun _ => .settle (.ok _)
  refine ⟨silent operations _ performs, ?_⟩
  obtain ⟨decided, _, _, _, consulted, rest⟩ := RaisingDialogue.Performs.of_bind performs
  obtain ⟨completion, _, _, _, concluded, returned⟩ := RaisingDialogue.Performs.of_bind rest
  obtain ⟨_, rfl⟩ := RaisingDialogue.performs_pure returned
  exact ⟨decided.2, .event follows (asks_of_performs_consult consulted).2,
    eq_of_performs_conclude _ _ _ concluded⟩

/-- **The loop of `run_component_test`** calls the handler with the events that it tells of. -/
theorem called_of_performs_receiveMessages (rounds : Nat)
    (follows : Follows handler events state none) {operations : List TesterOperation}
    {completed : σ × ComponentTestCompletion}
    (performs : RaisingDialogue.Performs
      (TesterDialogue.receiveMessages tooDeep commandId testType
        (TesterDialogue.handleEvent tooDeep commandId testType handler) rounds state) operations
      completed) :
    Called handler commandId testType completed
      (events.map (.handles commandId testType) ++ operations.filter tells) := by
  induction rounds generalizing events state operations with
  | zero =>
      cases performs with
      | @call _ _ reply => cases reply
  | succ rounds ih =>
      obtain ⟨received, first, rest, rfl, read, continued⟩ :=
        RaisingDialogue.Performs.of_bind performs
      rw [List.filter_append, Silent.readMessage _ _ _ first _ read.of_attempt, List.nil_append]
      cases received with
      | error error =>
          dsimp only at continued
          split_ifs at continued with timeout
          · exact ih follows continued
          · exact absurd continued RaisingDialogue.not_performs_throw
      | ok message =>
          cases message with
          | acknowledgement messageType =>
              exact absurd continued RaisingDialogue.not_performs_throw
          | completion completion =>
              obtain ⟨_, told, last, rfl, tells, returned⟩ :=
                RaisingDialogue.Performs.of_bind continued
              obtain ⟨rfl, rfl⟩ := RaisingDialogue.performs_pure returned
              rw [RaisingDialogue.performs_lift tells]
              exact .completed follows
          | event event =>
              obtain ⟨_, told, last, rfl, tells, handled⟩ :=
                RaisingDialogue.Performs.of_bind continued
              obtain ⟨answered, asked, later, rfl, answers, continued⟩ :=
                RaisingDialogue.Performs.of_bind handled
              obtain ⟨silent, decision, follows', same⟩ :=
                follows_of_performs_handleEvent tooDeep follows answers
              obtain ⟨next, completion⟩ := answered
              rw [RaisingDialogue.performs_lift tells, List.filter_append, List.filter_append,
                silent, List.nil_append]
              obtain rfl : completion = decidedCompletion commandId testType decision := same
              have handed : (events ++ [event]).map (TesterOperation.handles commandId testType) =
                  events.map (.handles commandId testType) ++ [.handles commandId testType event] :=
                List.map_append
              cases decision with
              | some status =>
                  obtain ⟨rfl, rfl⟩ := RaisingDialogue.performs_pure continued
                  rw [List.filter_nil, List.append_nil]
                  exact handed ▸ .decided follows'
              | none =>
                  have called := ih follows' continued
                  rwa [handed, List.append_assoc] at called

variable (commandId testType handler)

/-- **`run_component_test`** with the functions of a handler. -/
theorem called_of_performs_runComponentTest {operations : List TesterOperation}
    {completed : σ × ComponentTestCompletion}
    (performs : RaisingDialogue.Performs
      (TesterDialogue.runComponentTest tooDeep commandId testType
        (TesterDialogue.handleEvent tooDeep commandId testType handler) handler.parameters
        (TesterDialogue.handleStart tooDeep commandId testType handler) handler.initial) operations
      completed) :
    Called handler commandId testType completed (operations.filter tells) := by
  obtain ⟨_, sent, rest, rfl, sends, continued⟩ := RaisingDialogue.Performs.of_bind performs
  obtain ⟨first, read, rest, rfl, reads, continued⟩ := RaisingDialogue.Performs.of_bind continued
  rw [List.filter_append, List.filter_append, Silent.sendRequest _ _ sent _ sends,
    Silent.readMessage _ _ _ read _ reads, List.nil_append, List.nil_append]
  split_ifs at continued
  · obtain ⟨completion, started, rest, rfl, starts, continued⟩ :=
      RaisingDialogue.Performs.of_bind continued
    obtain ⟨silent, decision, follows, rfl⟩ :=
      follows_of_performs_handleStart tooDeep commandId testType handler starts
    rw [List.filter_append, silent, List.nil_append]
    cases decision with
    | some status =>
        obtain ⟨rfl, rfl⟩ := RaisingDialogue.performs_pure continued
        exact .decided follows
    | none =>
        obtain ⟨bound, counted, rest, rfl, counts, continued⟩ :=
          RaisingDialogue.Performs.of_bind continued
        rw [RaisingDialogue.performs_lift counts]
        exact called_of_performs_receiveMessages tooDeep bound follows continued
  · exact absurd continued RaisingDialogue.not_performs_throw

end Handler

/-! ## Tests -/

section Tests

variable {tooDeep : PyStr → Bool} {handlers : TestDefinition → Except TesterError AnyTestHandler}
  {operations : List TesterOperation} {results : List ComponentTestResult}

/-- **Test by test** the handlers are called as it is told. -/
theorem allCalled_of_performs_runTests (commandId : Int) (definitions : List TestDefinition)
    (performs : RaisingDialogue.Performs
      (TesterDialogue.runTests tooDeep handlers commandId definitions) operations results) :
    AllCalled handlers commandId definitions results (operations.filter tells) := by
  induction definitions generalizing commandId operations results with
  | nil =>
      obtain ⟨rfl, rfl⟩ := RaisingDialogue.performs_pure performs
      exact .nil commandId
  | cons definition definitions ih =>
      rw [TesterDialogue.runTests] at performs
      cases created : handlers definition with
      | error error =>
          rw [created] at performs
          exact absurd performs RaisingDialogue.not_performs_throw
      | ok handler =>
          rw [created] at performs
          obtain ⟨result, first, rest, rfl, one, continued⟩ :=
            RaisingDialogue.Performs.of_bind performs
          obtain ⟨later, second, last, rfl, two, returned⟩ :=
            RaisingDialogue.Performs.of_bind continued
          obtain ⟨rfl, rfl⟩ := RaisingDialogue.performs_pure returned
          obtain ⟨completed, run, last, rfl, runs, finished⟩ :=
            RaisingDialogue.Performs.of_bind one
          obtain ⟨rfl, rfl⟩ := RaisingDialogue.performs_pure finished
          rw [List.append_nil, List.append_nil, List.filter_append]
          exact .cons created (called_of_performs_runComponentTest _ _ _ _ runs)
            (ih (commandId + 1) two)

/-- **What a dispatch tells of the handlers** are the calls of them. -/
theorem allCalled_of_performs {configurations : LoadedConfigurations}
    (performs : RaisingDialogue.Performs
      (TesterDialogue.dispatch tooDeep handlers configurations) operations results) :
    AllCalled handlers 2 configurations.test.enabledTests results (operations.filter tells) ∨
      results = [] ∧ operations.filter tells = [] := by
  obtain ⟨response, first, rest, rfl, started, continued⟩ :=
    RaisingDialogue.Performs.of_bind performs
  rw [List.filter_append, Silent.startTest _ _ first _ started, List.nil_append]
  split_ifs at continued
  · exact .inl (allCalled_of_performs_runTests 2 _ continued)
  · obtain ⟨rfl, rfl⟩ := RaisingDialogue.performs_pure continued
    exact .inr ⟨rfl, rfl⟩

end Tests

end FlightComputer
