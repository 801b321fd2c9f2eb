import FlightComputer.BoardTester.EscapingErrors
import FlightComputer.BoardTester.HandlerDialogues

/-!
# The runner and the dispatch

The dispatch of the tests as a dialogue (`TesterDialogue.dispatch`) is what the runner does on its
connection. As long as the handlers of a run return results, these are the results that the
dispatch of their tests returns on the same connection; and an exception with which a handler has
ended is the one that the dispatch raises when its test comes last (`handled_by_dispatch`). So what
is shown of dispatches that return holds of every result that the runner keeps, also of those
before an exception.
-/

set_option autoImplicit false

namespace FlightComputer.BoardTester

open Library Raising

/-! ## What the handlers have come to -/

/-- A dispatch on a connection: the results of the tests, or an exception. -/
abbrev Dispatched : Type := Option (Except TesterError (List ComponentTestResult) × Connection)

/-- **The handlers have come to what is dispatched**, if the first of these tests are: to the
results of the tests, and perhaps to the exception of one more test. -/
inductive HandledBy (dispatched : List TestDefinition → Dispatched)
    (definitions : List TestDefinition) : List (TestDefinition × HandlerEnd) → Prop where
  | returned {tests : List TestDefinition} {results : List ComponentTestResult}
      {connection : Connection} (first : tests <+: definitions)
      (returned : dispatched tests = some (.ok results, connection))
      (all : results.length = tests.length) :
      HandledBy dispatched definitions (tests.zip (results.map .ok))
  | raised {tests : List TestDefinition} {definition : TestDefinition}
      {results : List ComponentTestResult} {error : TesterError} {between connection : Connection}
      (first : tests ++ [definition] <+: definitions)
      (returned : dispatched tests = some (.ok results, between))
      (all : results.length = tests.length)
      (raised : dispatched (tests ++ [definition]) = some (.error error, connection)) :
      HandledBy dispatched definitions (tests.zip (results.map .ok) ++ [(definition, .error error)])

section Dialogues

variable (interpreter : Interpreter)

/-- The tests as a dialogue on a connection. -/
def testsOnConnection (commandId : Int) (connection : Connection) (tests : List TestDefinition) :
    Dispatched :=
  onConnection (TesterDialogue.runTests interpreter.tooDeep (createHandler interpreter) commandId
    tests) connection

/-- The configurations with these tests only. -/
def LoadedConfigurations.only (configurations : LoadedConfigurations)
    (tests : List TestDefinition) : LoadedConfigurations :=
  { configurations with test := { configurations.test with tests := tests } }

/-- The dispatch of these tests as a dialogue on a connection. -/
def dispatchOnConnection (configurations : LoadedConfigurations) (connection : Connection)
    (tests : List TestDefinition) : Dispatched :=
  onConnection (TesterDialogue.dispatch interpreter.tooDeep (createHandler interpreter)
    (configurations.only tests)) connection

/-- **One test after the other**, on a connection. -/
theorem onConnection_runTests_cons (commandId : Int) (definition : TestDefinition)
    (definitions : List TestDefinition) :
    onConnection (TesterDialogue.runTests interpreter.tooDeep (createHandler interpreter) commandId
        (definition :: definitions)) =
      runHandler interpreter definition commandId >>= fun result =>
        onConnection (TesterDialogue.runTests interpreter.tooDeep (createHandler interpreter)
          (commandId + 1) definitions) >>= fun results => pure (result :: results) := by
  rw [TesterDialogue.runTests, ← onConnection_createHandler]
  cases createHandler interpreter definition with
  | error error => rfl
  | ok handler =>
      dsimp only
      rw [onConnection_bind]
      apply congrArg
      funext result
      rw [onConnection_bind]
      rfl

variable {interpreter} {commandId : Int} {definition : TestDefinition}
  {definitions : List TestDefinition} {connection middle : Connection}

theorem testsOnConnection_nil : testsOnConnection interpreter commandId connection [] =
    some (.ok [], connection) := rfl

/-- A first test that returns its result. -/
theorem testsOnConnection_returned {result : ComponentTestResult}
    (handled : runHandler interpreter definition commandId connection = some (.ok result, middle))
    (tests : List TestDefinition) :
    testsOnConnection interpreter commandId connection (definition :: tests) =
      (testsOnConnection interpreter (commandId + 1) middle tests).map fun ended =>
        (ended.1.map (result :: ·), ended.2) := by
  rw [testsOnConnection, onConnection_runTests_cons, bind_returned handled, testsOnConnection]
  show Option.bind _ _ = _
  rw [Option.map_eq_bind]
  apply congrArg
  funext ended
  obtain ⟨ended, last⟩ := ended
  cases ended with
  | ok results => rfl
  | error error => rfl

/-- A first test that raises an exception. -/
theorem testsOnConnection_raised {error : TesterError}
    (handled : runHandler interpreter definition commandId connection =
      some (.error error, middle)) :
    testsOnConnection interpreter commandId connection [definition] =
      some (.error error, middle) := by
  rw [testsOnConnection, onConnection_runTests_cons]
  exact bind_raised handled

/-- **One more test** in front has returned its result. -/
theorem HandledBy.cons {result : ComponentTestResult}
    {handled : List (TestDefinition × HandlerEnd)}
    (first : runHandler interpreter definition commandId connection = some (.ok result, middle))
    (later : HandledBy (testsOnConnection interpreter (commandId + 1) middle) definitions handled) :
    HandledBy (testsOnConnection interpreter commandId connection) (definition :: definitions)
      ((definition, .ok result) :: handled) := by
  cases later with
  | @returned tests results last early returned all =>
      refine @HandledBy.returned _ _ (definition :: tests) (result :: results) last ?_ ?_ ?_
      · exact List.cons_prefix_cons.mpr ⟨rfl, early⟩
      · rw [testsOnConnection_returned first, returned]
        rfl
      · rw [List.length_cons, List.length_cons, all]
  | @raised tests another results error between last early returned all raised =>
      refine @HandledBy.raised _ _ (definition :: tests) another (result :: results) error between
        last ?_ ?_ ?_ ?_
      · exact List.cons_prefix_cons.mpr ⟨rfl, early⟩
      · rw [testsOnConnection_returned first, returned]
        rfl
      · rw [List.length_cons, List.length_cons, all]
      · rw [List.cons_append, testsOnConnection_returned first, raised]
        rfl

end Dialogues

/-! ## The loop of the runner -/

section Runner

variable {interpreter : Interpreter} {closing : Option UsbTransportError} {commandId : Int}
  {definition : TestDefinition} {definitions : List TestDefinition}

/-- An exchange ends as its call does, on the same connection. -/
theorem exchange_eq {α : Type} (call : ConnectionCall α) (connection : Connection) :
    exchange call connection = (call connection : Option (Except TesterError α × Connection)).map
      fun ended => (ended.1, remember ended.1 ended.2) := by
  show Option.bind (Option.map _ (call connection)) _ = _
  cases (call connection : Option (Except TesterError α × Connection)) with
  | none => rfl
  | some ended => rfl

/-- **A handler that has run** comes to what it comes to on its own, and it is remembered. -/
theorem triple_handle_usb (s : RunState Connection) :
    Triple (fun x => x = s) (handle (usbWorkflows interpreter closing) definition commandId)
      (fun ended t => ∃ connection,
        runHandler interpreter definition commandId s.session = some (ended, connection) ∧
          t.session = remember ended connection ∧ t.handled = s.handled ++ [(definition, ended)])
      fun _ _ => False := by
  have called : Triple (fun x => x = s)
      (attempt (onSession ((usbWorkflows interpreter closing).runHandler definition commandId)))
      (fun ended t => ∃ connection,
        runHandler interpreter definition commandId s.session = some (ended, connection) ∧
          t.session = remember ended connection ∧ t.handled = s.handled) fun _ _ => False := by
    rintro _ result t rfl attempted
    obtain ⟨⟨ended, last⟩, inside, same⟩ := Option.map_eq_some_iff.mp attempted
    obtain ⟨rfl, rfl⟩ := Prod.mk.inj same
    obtain ⟨⟨ended, session⟩, exchanged, same⟩ := Option.map_eq_some_iff.mp inside
    obtain ⟨rfl, rfl⟩ := Prod.mk.inj same
    have performed := (exchange_eq _ _).symm.trans exchanged
    obtain ⟨⟨ended, connection⟩, handled, same⟩ := Option.map_eq_some_iff.mp performed
    obtain ⟨rfl, rfl⟩ := Prod.mk.inj same
    exact ⟨connection, handled, rfl, rfl⟩
  apply Triple.bind called
  intro ended
  refine Triple.bind (.change ?_) fun _ => .pure fun _ holds => holds
  rintro t ⟨connection, handled, session, same⟩
  exact ⟨connection, handled, session, congrArg (· ++ _) same⟩

/-- To remember and to record an outcome changes no handler and no connection. -/
theorem keeps_recordOutcome {P : RunState Connection → Prop}
    (keeps : ∀ s outcomes file, P s → P { s with outcomes := outcomes, file := file })
    (status : PyStr) (details : ResultDetails) :
    Triple P (recordOutcome definition status details) (fun _ => P) fun _ => P :=
  .bind (M := fun _ => P) (.change fun s holds => keeps s _ s.file holds) fun _ =>
    Triple.within_keeps fun s file holds => keeps s s.outcomes file holds

/-- The branch for a `KeyboardInterrupt` runs no handler. -/
theorem keeps_cancelTest {handled : List (TestDefinition × HandlerEnd)}
    {workflows : RunnerWorkflows Connection} :
    Triple (fun s => s.handled = handled) (cancelTest workflows definition commandId)
      (fun code t => code ≠ none ∧ t.handled = handled) fun _ t => t.handled = handled := by
  have stops : Triple (fun s : RunState Connection => s.handled = handled)
      (onSession (workflows.stopComponentTest (commandId + 1000) definition.type))
      (fun _ t => t.handled = handled) fun _ t => t.handled = handled :=
    Triple.within_keeps fun _ _ same => same
  refine Triple.bind (M := fun _ t => t.handled = handled) (stops.attempt.mono
    (fun _ same => same) (fun stopped t kept => ?_) fun _ _ never => never.elim) fun stopped => ?_
  · cases stopped with
    | ok _ => exact kept
    | error _ => exact kept
  refine Triple.bind (M := fun _ t => t.handled = handled) ?_ fun unacknowledged => ?_
  · cases stopped with
    | ok _ => exact .pure fun _ same => same
    | error error =>
        exact Triple.ite (fun _ => .pure fun _ same => same) fun _ => .throw fun _ same => same
  apply Triple.bind (keeps_recordOutcome (fun _ _ _ same => same) _ _)
  intro _
  refine Triple.bind (M := fun _ t => t.handled = handled) (.change fun _ same => same) fun _ => ?_
  exact .pure fun _ same => ⟨Option.some_ne_none 130, same⟩

/-- What one test has come to: its handler has returned a result, or it has raised an exception. -/
def RanTest (interpreter : Interpreter) (definition : TestDefinition) (commandId : Int)
    (s t : RunState Connection) (ended : HandlerEnd) : Prop :=
  ∃ connection, runHandler interpreter definition commandId s.session = some (ended, connection) ∧
    t.handled = s.handled ++ [(definition, ended)]

/-- **One test.** The loop goes on only after a result, and on the connection of the handler. -/
theorem triple_runComponent_ran (s : RunState Connection) :
    Triple (fun x => x = s)
      (runComponent (usbWorkflows interpreter closing) definition commandId)
      (fun code t => (code = none ∧ ∃ result,
          runHandler interpreter definition commandId s.session = some (.ok result, t.session) ∧
            t.handled = s.handled ++ [(definition, .ok result)]) ∨
        code ≠ none ∧ ∃ ended, RanTest interpreter definition commandId s t ended)
      fun _ t => ∃ ended, RanTest interpreter definition commandId s t ended := by
  refine Triple.bind ((triple_handle_usb s).mono (fun _ same => same) (fun _ _ holds => holds)
    fun _ _ never => never.elim) fun ended => ?_
  cases ended with
  | ok result =>
      refine Triple.bind (M := fun _ t =>
        runHandler interpreter definition commandId s.session = some (.ok result, t.session) ∧
          t.handled = s.handled ++ [(definition, .ok result)])
        ((keeps_recordOutcome (fun _ _ _ holds => holds) _ _).mono ?_ (fun _ _ holds => holds) ?_)
        fun _ => .pure fun _ holds => .inl ⟨rfl, result, holds⟩
      · rintro t ⟨connection, handled, session, same⟩
        exact ⟨handled.trans (congrArg (fun last => some (Except.ok result, last)) session.symm),
          same⟩
      · rintro _ t ⟨handled, same⟩
        exact ⟨.ok result, _, handled, same⟩
  | error error =>
      have ran : ∀ t : RunState Connection, (∃ connection,
          runHandler interpreter definition commandId s.session =
            some (.error error, connection) ∧
          t.session = remember (.error error : HandlerEnd) connection ∧
          t.handled = s.handled ++ [(definition, .error error)]) →
            RanTest interpreter definition commandId s t (.error error) := by
        rintro t ⟨connection, handled, _, same⟩
        exact ⟨connection, handled, same⟩
      refine Triple.ite (fun _ => ?_) fun _ => Triple.ite (fun _ => ?_) fun _ =>
        .throw fun t holds => ⟨_, ran t holds⟩
      · refine Triple.bind (M := fun _ t =>
          RanTest interpreter definition commandId s t (.error error))
          ((keeps_recordOutcome (P := fun t =>
            RanTest interpreter definition commandId s t (.error error))
            (fun _ _ _ holds => holds) _ _).mono ran (fun _ _ holds => holds)
            fun _ _ holds => ⟨_, holds⟩) fun _ => .throw fun _ holds => ⟨_, holds⟩
      · apply Triple.of_state
        intro t holds
        obtain ⟨connection, handled, same⟩ := ran t holds
        refine keeps_cancelTest.mono (fun _ now => now ▸ same) ?_ ?_
        · rintro code last ⟨exits, kept⟩
          exact .inr ⟨exits, _, connection, handled, kept⟩
        · intro _ last kept
          exact ⟨_, connection, handled, kept⟩

/-- Since a state the handlers have come to what the tests are. -/
def RanTests (interpreter : Interpreter) (commandId : Int) (definitions : List TestDefinition)
    (s t : RunState Connection) : Prop :=
  ∃ handled, t.handled = s.handled ++ handled ∧
    HandledBy (testsOnConnection interpreter commandId s.session) definitions handled

/-- **The last test** that has been run. -/
theorem RanTest.ranTests {s t : RunState Connection} {ended : HandlerEnd}
    (ran : RanTest interpreter definition commandId s t ended) :
    RanTests interpreter commandId (definition :: definitions) s t := by
  obtain ⟨connection, handled, same⟩ := ran
  refine ⟨_, same, ?_⟩
  cases ended with
  | ok result =>
      exact .cons handled (.returned (List.nil_prefix) testsOnConnection_nil rfl)
  | error error =>
      refine @HandledBy.raised _ _ [] definition [] error s.session connection ?_ rfl rfl ?_
      · exact List.cons_prefix_cons.mpr ⟨rfl, List.nil_prefix⟩
      · exact testsOnConnection_raised handled

/-- **The loop of the runner** handles the tests as the dialogue runs them. -/
theorem triple_runComponents_ran (s : RunState Connection) :
    Triple (fun x => x = s) (runComponents (usbWorkflows interpreter closing) commandId definitions)
      (fun _ => RanTests interpreter commandId definitions s)
      fun _ => RanTests interpreter commandId definitions s := by
  induction definitions generalizing commandId s with
  | nil =>
      refine .pure ?_
      rintro _ rfl
      exact ⟨[], (List.append_nil _).symm, .returned List.nil_prefix testsOnConnection_nil rfl⟩
  | cons definition definitions ih =>
      refine Triple.bind ((triple_runComponent_ran s).mono (fun _ same => same)
        (fun _ _ holds => holds) ?_) fun code => Triple.of_state ?_
      · rintro _ t ⟨ended, ran⟩
        exact ran.ranTests
      rintro t (⟨rfl, result, handled, same⟩ | ⟨exits, ended, ran⟩)
      · have later : ∀ last, RanTests interpreter (commandId + 1) definitions t last →
            RanTests interpreter commandId (definition :: definitions) s last := by
          rintro last ⟨rest, same', by_⟩
          refine ⟨(definition, .ok result) :: rest, ?_, .cons handled by_⟩
          rw [same', same, List.append_assoc]
          rfl
        exact (ih t).mono (fun _ now => now) (fun _ => later) fun _ => later
      · cases code with
        | none => exact absurd rfl exits
        | some code =>
            refine .pure ?_
            rintro _ rfl
            exact ran.ranTests

/-! ## Every run -/

variable {configurations : LoadedConfigurations} {connection : Connection}

/-- What is dispatched may be told in another way. -/
theorem HandledBy.congr {dispatched dispatched' : List TestDefinition → Dispatched}
    {handled : List (TestDefinition × HandlerEnd)} (by_ : HandledBy dispatched definitions handled)
    (same : ∀ tests, tests <+: definitions → dispatched' tests = dispatched tests) :
    HandledBy dispatched' definitions handled := by
  cases by_ with
  | returned first returned all => exact .returned first ((same _ first).trans returned) all
  | raised first returned all raised =>
      exact .raised first ((same _ ((List.prefix_append _ _).trans first)).trans returned) all
        ((same _ first).trans raised)

/-- **The dispatch of some of the tests**, once the session has been validated. -/
theorem dispatchOnConnection_eq {response : StartTestResponse} {middle : Connection}
    (started : startTest interpreter.tooDeep configurations.test.uuid connection =
      some (.ok response, middle))
    (passed : (validateSession configurations response).passed = true) {tests : List TestDefinition}
    (first : tests <+: configurations.test.enabledTests) :
    dispatchOnConnection interpreter configurations connection tests =
      testsOnConnection interpreter 2 middle tests := by
  have enabled : (configurations.only tests).test.enabledTests = tests := by
    apply List.filter_eq_self.mpr
    intro test listed
    exact (List.mem_filter.mp (first.subset listed)).2
  have session : (validateSession (configurations.only tests) response).passed = true := passed
  rw [dispatchOnConnection, TesterDialogue.dispatch, onConnection_bind, onConnection_startTest]
  refine (bind_returned started).trans ?_
  rw [if_pos session, enabled]
  rfl

/-- The handlers of a run have come to what is dispatched on its connection, or none has run. -/
def Dispatches (interpreter : Interpreter) (configurations : LoadedConfigurations)
    (connection : Connection) (t : RunState Connection) : Prop :=
  t.handled = [] ∨
    HandledBy (dispatchOnConnection interpreter configurations connection)
      configurations.test.enabledTests t.handled

/-- START_TEST has been answered, and no handler has run. -/
structure Exchanged (interpreter : Interpreter) (configurations : LoadedConfigurations)
    (connection : Connection) (response : StartTestResponse) (t : RunState Connection) : Prop where
  fresh : t.handled = []
  started : startTest interpreter.tooDeep configurations.test.uuid connection =
    some (.ok response, t.session)

theorem triple_startTest_exchanged {s : RunState Connection} (fresh : s.handled = []) :
    Triple (fun x => x = s)
      (onSession ((usbWorkflows interpreter closing).startTest configurations.test.uuid))
      (Exchanged interpreter configurations s.session)
      fun _ => Dispatches interpreter configurations s.session := by
  rintro _ result t rfl called
  obtain ⟨⟨ended, session⟩, inside, same⟩ := Option.map_eq_some_iff.mp called
  obtain ⟨rfl, rfl⟩ := Prod.mk.inj same
  obtain ⟨⟨ended, last⟩, started, same⟩ :=
    Option.map_eq_some_iff.mp ((exchange_eq _ _).symm.trans inside)
  obtain ⟨rfl, rfl⟩ := Prod.mk.inj same
  cases ended with
  | ok response => exact ⟨fresh, started⟩
  | error error => exact .inl fresh

/-- A call on the report changes nothing of this. -/
theorem triple_onFile_exchanged {response : StartTestResponse} {α : Type} (call : ReportCall α) :
    Triple (Exchanged interpreter configurations connection response) (onFile call)
      (fun _ => Exchanged interpreter configurations connection response)
      fun _ => Dispatches interpreter configurations connection := by
  have keeps : Triple (Exchanged interpreter configurations connection response) (onFile call)
      (fun _ => Exchanged interpreter configurations connection response)
      fun _ => Exchanged interpreter configurations connection response :=
    Triple.within_keeps fun _ _ exchanged => ⟨exchanged.fresh, exchanged.started⟩
  exact keeps.mono (fun _ holds => holds) (fun _ _ holds => holds)
    fun _ _ exchanged => .inl exchanged.fresh

/-- **The body of the `with` statement.** -/
theorem triple_connectedRun_dispatches {s : RunState Connection} (fresh : s.handled = []) :
    Triple (fun x => x = s) (connectedRun (usbWorkflows interpreter closing) configurations)
      (fun _ => Dispatches interpreter configurations s.session)
      fun _ => Dispatches interpreter configurations s.session := by
  apply Triple.bind (triple_startTest_exchanged fresh)
  intro response
  apply Triple.bind (triple_onFile_exchanged _)
  intro _
  refine Triple.bind (M := fun _ => Exchanged interpreter configurations s.session response)
    (.change fun _ exchanged => ⟨exchanged.fresh, exchanged.started⟩) fun _ => ?_
  refine Triple.bind (M := fun _ => Exchanged interpreter configurations s.session response)
    (.change fun _ exchanged => ⟨exchanged.fresh, exchanged.started⟩) fun _ => ?_
  refine Triple.bind (triple_onFile_exchanged _) fun _ => Triple.ite (fun passed => ?_) fun _ =>
    .pure fun _ exchanged => .inl exchanged.fresh
  apply Triple.of_state
  intro t exchanged
  have dispatches : ∀ last, RanTests interpreter 2 configurations.test.enabledTests t last →
      Dispatches interpreter configurations s.session last := by
    rintro last ⟨handled, same, by_⟩
    rw [exchanged.fresh, List.nil_append] at same
    rw [Dispatches, same]
    exact .inr (by_.congr fun tests first => dispatchOnConnection_eq exchanged.started passed first)
  refine Triple.bind ((triple_runComponents_ran t).mono (fun _ same => same)
    (fun _ => dispatches) fun _ => dispatches) fun code => ?_
  cases code with
  | some code => exact .pure fun _ holds => holds
  | none =>
      refine Triple.bind (M := fun _ => Dispatches interpreter configurations s.session)
        (Triple.within_keeps fun _ _ holds => holds) fun _ => ?_
      exact Triple.bind (M := fun _ => Dispatches interpreter configurations s.session)
        (.change fun _ holds => holds) fun _ => .pure fun _ holds => holds

theorem triple_withConnection_dispatches {s : RunState Connection} (fresh : s.handled = []) :
    Triple (fun x => x = s) (withConnection (usbWorkflows interpreter closing) configurations)
      (fun _ => Dispatches interpreter configurations s.session)
      fun _ => Dispatches interpreter configurations s.session := by
  have closes : Triple (Dispatches interpreter configurations s.session)
      (onSession (usbWorkflows interpreter closing).closeConnection)
      (fun _ => Dispatches interpreter configurations s.session)
      fun _ => Dispatches interpreter configurations s.session :=
    Triple.within_keeps fun _ _ holds => holds
  refine Triple.bind (M := fun _ t => t = s) ?_ fun _ => ?_
  · rintro _ result t rfl opened
    obtain ⟨rfl, rfl⟩ := Prod.mk.inj (Option.some.inj opened)
    rfl
  · apply Triple.ensuring (triple_connectedRun_dispatches fresh)
    intro result
    cases result with
    | ok _ => exact closes
    | error _ => exact closes

/-- The summary changes nothing of the handlers. -/
theorem keeps_printTestSummary (completed : Bool) :
    Triple (Dispatches interpreter configurations connection) (printTestSummary completed)
      (fun _ => Dispatches interpreter configurations connection)
      fun _ => Dispatches interpreter configurations connection :=
  .change fun _ holds => holds

theorem keeps_handleError (error : TesterError) :
    Triple (Dispatches interpreter configurations connection) (handleError error)
      (fun _ => Dispatches interpreter configurations connection)
      fun _ => Dispatches interpreter configurations connection := by
  refine Triple.ite (fun _ => ?_) fun _ => .throw fun _ holds => holds
  refine Triple.bind (M := fun _ => Dispatches interpreter configurations connection) ?_
    fun _ => .pure fun _ holds => holds
  exact Triple.bind (.get fun _ holds => holds) fun seen =>
    Triple.ite (fun _ => keeps_printTestSummary false) fun _ => .pure fun _ holds => holds

theorem keeps_concludeRun :
    Triple (Dispatches interpreter configurations connection) concludeRun
      (fun _ => Dispatches interpreter configurations connection)
      fun _ => Dispatches interpreter configurations connection := by
  refine Triple.bind (M := fun _ => Dispatches interpreter configurations connection)
    (.get fun _ holds => holds) fun seen => ?_
  cases seen.validation with
  | none => exact .throw fun _ holds => holds
  | some validation =>
      refine Triple.bind (M := fun _ => Dispatches interpreter configurations connection)
        (.get fun _ holds => holds) fun now => Triple.bind (keeps_printTestSummary _) fun _ => ?_
      exact Triple.ite (fun _ => .pure fun _ holds => holds) fun _ => .pure fun _ holds => holds

/-- **The runner handles the tests as the dispatch does**: in every run on an open connection that
ends, however it ends, the handlers have come to what the dispatch of the first tests comes to
on the same connection. -/
theorem handled_by_dispatch {creation : CreationAnswer} {updates : Nat → Bool}
    {result : Except TesterError Nat} {t : RunState Connection}
    (ended : run (usbWorkflows interpreter closing) (.ok configurations) (.ok ())
      (.initial connection creation updates) = some (result, t)) :
    Dispatches interpreter configurations connection t := by
  have whole : Triple (fun x => x = .initial connection creation updates)
      (run (usbWorkflows interpreter closing) (.ok configurations) (.ok ()))
      (fun _ => Dispatches interpreter configurations connection)
      fun _ => Dispatches interpreter configurations connection := by
    refine Triple.bind ((triple_withConnection_dispatches rfl).attempt.mono (fun _ same => same)
      (fun _ _ holds => holds) fun _ _ never => never.elim) fun result => ?_
    cases result with
    | error error => exact keeps_handleError error
    | ok code =>
        cases code with
        | some code => exact .pure fun _ holds => holds
        | none => exact keeps_concludeRun
  have outcome := whole _ result t rfl ended
  cases result with
  | ok code => exact outcome
  | error error => exact outcome

end Runner

end FlightComputer.BoardTester
