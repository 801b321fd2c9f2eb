import FlightComputer.BoardTester.TestReports

/-!
# The runner

`run` of `runner.py`: it loads the configurations, flashes the firmware, opens the
connection, exchanges START_TEST, creates the report, validates the session, and runs the
enabled tests in order. What it calls is a parameter (`RunnerWorkflows`), on a state of its own.
Of its output, the final summaries are kept.

`handled` lists the tests whose handlers have run, with what they returned or raised.
-/

set_option autoImplicit false

namespace FlightComputer.BoardTester

open Library Raising

/-- `ComponentTestResult` -/
structure ComponentTestResult where
  status : PyStr
  details : PyDict

/-- `TestOutcome` -/
structure TestOutcome where
  testType : PyStr
  status : PyStr
  deriving DecidableEq

/-- What the runner calls: the opening and the closing of the connection, the START_TEST
exchange, the handler of a test with its command id, and the stop of a test. -/
structure RunnerWorkflows (κ : Type) where
  openConnection : Raising TesterError κ Unit
  startTest : UUID → Raising TesterError κ StartTestResponse
  runHandler : TestDefinition → Int → Raising TesterError κ ComponentTestResult
  stopComponentTest : Int → PyStr → Raising TesterError κ Unit
  closeConnection : Raising TesterError κ Unit

/-- What a handler came to. -/
abbrev HandlerEnd : Type := Except TesterError ComponentTestResult

/-- The local variables of `run`, the report file, what the workflows work on, the summaries
that have been printed, and the handlers that have run. -/
structure RunState (κ : Type) where
  session : κ
  file : ReportFile
  reportCreated : Bool
  validation : Option SessionValidation
  outcomes : List TestOutcome
  componentRunCompleted : Bool
  summaries : List (List TestOutcome × Bool)
  handled : List (TestDefinition × HandlerEnd)

/-- The state when `run` is called. -/
def RunState.initial {κ : Type} (session : κ) (creation : CreationAnswer) (updates : Nat → Bool) :
    RunState κ where
  session := session
  file := ⟨creation, updates, 0, []⟩
  reportCreated := false
  validation := none
  outcomes := []
  componentRunCompleted := false
  summaries := []
  handled := []

/-- A call of the runner. -/
abbrev RunnerCall (κ α : Type) : Type := Raising TesterError (RunState κ) α

variable {κ : Type} (workflows : RunnerWorkflows κ)

/-- A call of a workflow. -/
def onSession {α : Type} (call : Raising TesterError κ α) : RunnerCall κ α :=
  within RunState.session (fun session s => { s with session := session }) call

/-- A call that works on the report file. -/
def onFile {α : Type} (call : ReportCall α) : RunnerCall κ α :=
  within RunState.file (fun file s => { s with file := file }) call

/-- `summary_writer` -/
def printTestSummary (completed : Bool) : RunnerCall κ Unit :=
  modify fun s => { s with summaries := s.summaries ++ [(s.outcomes, completed)] }

/-- The outcome is remembered for the summary, and the result is written to the report. -/
def recordOutcome (definition : TestDefinition) (status : PyStr) (details : ResultDetails) :
    RunnerCall κ Unit := do
  modify fun s => { s with outcomes := s.outcomes ++ [⟨definition.type, status⟩] }
  onFile (recordComponentResult ⟨definition.type, status, details⟩)

/-- `handler_factory(definition.type).run(...)`, with what it came to. -/
def handle (definition : TestDefinition) (commandId : Int) : RunnerCall κ HandlerEnd := do
  let ended ← attempt (onSession (workflows.runHandler definition commandId))
  modify fun s => { s with handled := s.handled ++ [(definition, ended)] }
  pure ended

/-- The error of a stop that has not been acknowledged. -/
def unacknowledgedStop : Except TesterError Unit → RunnerCall κ (Option TesterError)
  | .ok _ => pure none
  | .error error => if error.isExchangeError then pure (some error) else throw error

/-- The branch for a `KeyboardInterrupt`. -/
def cancelTest (definition : TestDefinition) (commandId : Int) : RunnerCall κ (Option Nat) := do
  let stopped ← attempt (onSession (workflows.stopComponentTest (commandId + 1000) definition.type))
  let unacknowledged ← unacknowledgedStop stopped
  recordOutcome definition (pyStr "stopped") (.cancelled unacknowledged)
  printTestSummary false
  pure (some 130)

/-- One test. The result is the exit code with which `run` returns, if it does. -/
def runComponent (definition : TestDefinition) (commandId : Int) : RunnerCall κ (Option Nat) := do
  match ← handle workflows definition commandId with
  | .ok result =>
      recordOutcome definition result.status (.handler result.details)
      pure none
  | .error error =>
      if error.isExchangeError then
        recordOutcome definition (pyStr "failed") (.failure error)
        throw error
      else if error = .keyboardInterrupt then cancelTest workflows definition commandId
      else throw error

/-- The loop over the enabled tests. -/
def runComponents : Int → List TestDefinition → RunnerCall κ (Option Nat)
  | _, [] => pure none
  | commandId, definition :: definitions => do
      match ← runComponent workflows definition commandId with
      | some code => pure (some code)
      | none => runComponents (commandId + 1) definitions

/-- The tests of a validated session. -/
def runSession (configurations : LoadedConfigurations) : RunnerCall κ (Option Nat) := do
  match ← runComponents workflows 2 configurations.test.enabledTests with
  | some code => pure (some code)
  | none =>
      onFile finalizeComponentRun
      modify fun s => { s with componentRunCompleted := true }
      pure none

/-- The body of the `with` statement. -/
def connectedRun (configurations : LoadedConfigurations) : RunnerCall κ (Option Nat) := do
  let response ← onSession (workflows.startTest configurations.test.uuid)
  onFile (createInitialReport configurations response)
  modify fun s => { s with reportCreated := true }
  let validation := validateSession configurations response
  modify fun s => { s with validation := some validation }
  onFile (recordSessionValidation validation)
  if validation.passed then runSession workflows configurations else pure none

/-- The `with` statement. -/
def withConnection (configurations : LoadedConfigurations) : RunnerCall κ (Option Nat) := do
  onSession workflows.openConnection
  ensuring (connectedRun workflows configurations) (onSession workflows.closeConnection)

/-- The summary of a run that has not been completed, once there is a report. -/
def summarizeFailure : RunnerCall κ Unit := do
  if (← get).reportCreated then printTestSummary false else pure ()

/-- The `except` clause of `run`. -/
def handleError (error : TesterError) : RunnerCall κ Nat :=
  if error.isHandled then do
    summarizeFailure
    pure 1
  else throw error

/-- The end of `run`. -/
def concludeRun : RunnerCall κ Nat := do
  match (← get).validation with
  | none => throw .assertion
  | some validation =>
      printTestSummary (← get).componentRunCompleted
      if validation.passed then pure 0 else pure 1

/-- The errors of the firmware workflow. -/
inductive FlashError where
  | firmwareBuild
  | programming
  deriving DecidableEq

/-- `run`, with what loading the configurations and flashing the firmware came to. -/
def run (loaded : Except ConfigurationError LoadedConfigurations) (flashed : Except FlashError Unit) :
    RunnerCall κ Nat := do
  match loaded with
  | .error _ => pure 2
  | .ok configurations =>
      match flashed with
      | .error _ => pure 1
      | .ok _ =>
          match ← attempt (withConnection workflows configurations) with
          | .error error => handleError error
          | .ok (some code) => pure code
          | .ok none => concludeRun

end FlightComputer.BoardTester
