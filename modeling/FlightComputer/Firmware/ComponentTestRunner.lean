import FlightComputer.Firmware.ComponentRegistry

/-!
# The component test runner

`component_test_runner.c` holds the one active test, and calls its component.
The functions work on the state of the session: the runner, the components behind
it, and, in order, what the session has done so far. A component's callback that
has not returned has no result, and then neither has the function that called it.

The lemmas of the last section say what each function does when it returns.
-/

set_option autoImplicit false

namespace FlightComputer.Firmware

open Library

variable {δ : Type}

/-- `component_test_runner_t` -/
structure ComponentTestRunner (δ : Type) where
  activeDefinition : Option (ComponentTestDefinition δ)
  activeCommandId : UInt32

/-- What the session does, as it can be observed from outside: it takes a request
line, calls a component, and queues a response. A queued response comes with the
answer of the queue. -/
inductive SessionAction where
  | request (line : Bytes)
  | start (type : Bytes) (parameters : ComponentTestParameters)
  | process (type : Bytes) (result : ComponentTestProcessResult)
  | stop (type : Bytes)
  | response (line : Bytes) (accepted : Bool)
  deriving DecidableEq

/-- The static state of the session layer, the components, and the actions so
far. -/
structure SessionState (δ : Type) where
  runner : ComponentTestRunner δ
  device : δ
  actions : List SessionAction

/-- An action is recorded. -/
def SessionState.record (action : SessionAction) (s : SessionState δ) : SessionState δ :=
  { s with actions := s.actions ++ [action] }

@[simp] theorem SessionState.record_runner (action : SessionAction) (s : SessionState δ) :
    (s.record action).runner = s.runner := rfl

@[simp] theorem SessionState.record_actions (action : SessionAction) (s : SessionState δ) :
    (s.record action).actions = s.actions ++ [action] := rfl

/-! ## The callbacks -/

/-- `definition->start(parameters)` -/
def callStart (definition : ComponentTestDefinition δ) (parameters : ComponentTestParameters)
    (s : SessionState δ) : Option (SessionState δ) :=
  (definition.start parameters s.device).map fun returned =>
    { s with device := returned.2 }.record (.start definition.type parameters)

/-- `active_definition->process()` -/
def callProcess (definition : ComponentTestDefinition δ) (s : SessionState δ) :
    Option (ComponentTestProcessResult × SessionState δ) :=
  (definition.process s.device).map fun returned =>
    (returned.1, { s with device := returned.2 }.record (.process definition.type returned.1))

/-- `definition->stop()` -/
def callStop (definition : ComponentTestDefinition δ) (s : SessionState δ) :
    Option (SessionState δ) :=
  (definition.stop s.device).map fun returned =>
    { s with device := returned.2 }.record (.stop definition.type)

/-! ## The runner -/

/-- `component_test_runner_initialize` -/
def componentTestRunnerInitialize : ComponentTestRunner δ where
  activeDefinition := none
  activeCommandId := 0

/-- `component_test_runner_start` -/
def componentTestRunnerStart (definition : Option (ComponentTestDefinition δ))
    (commandId : UInt32) (parameters : ComponentTestParameters) (s : SessionState δ) :
    Option (Bool × SessionState δ) :=
  match s.runner.activeDefinition, definition with
  | none, some definition =>
      if commandId = 0 then some (false, s)
      else
        (callStart definition parameters { s with runner := ⟨some definition, commandId⟩ }).map
          fun s => (true, s)
  | _, _ => some (false, s)

/-- `component_test_runner_update_t` -/
inductive ComponentTestRunnerUpdate where
  | none
  | event
  | passed
  | failed
  deriving DecidableEq

/-- The end of `component_test_runner_process`: the component is stopped, then the
active state is cleared. -/
def finishTest (definition : ComponentTestDefinition δ) (update : ComponentTestRunnerUpdate)
    (s : SessionState δ) : Option (ComponentTestRunnerUpdate × SessionState δ) :=
  (callStop definition s).map fun s => (update, { s with runner := componentTestRunnerInitialize })

/-- `component_test_runner_process` -/
def componentTestRunnerProcess (s : SessionState δ) :
    Option (ComponentTestRunnerUpdate × SessionState δ) :=
  match s.runner.activeDefinition with
  | none => some (.none, s)
  | some definition =>
      (callProcess definition s).bind fun processed =>
        match processed.1 with
        | .running => some (.none, processed.2)
        | .event => some (.event, processed.2)
        | .passed => finishTest definition .passed processed.2
        | .failed => finishTest definition .failed processed.2

/-- `component_test_runner_stop`: the active state is cleared, then the component
is stopped. -/
def componentTestRunnerStop (s : SessionState δ) : Option (Bool × SessionState δ) :=
  match s.runner.activeDefinition with
  | none => some (false, s)
  | some definition =>
      (callStop definition { s with runner := componentTestRunnerInitialize }).map
        fun s => (true, s)

/-- `component_test_runner_state`, true when a test is running. -/
def ComponentTestRunner.isRunning (runner : ComponentTestRunner δ) : Bool :=
  runner.activeDefinition.isSome

/-- `component_test_runner_active_type` -/
def componentTestRunnerActiveType (runner : ComponentTestRunner δ) : Option Bytes :=
  runner.activeDefinition.map ComponentTestDefinition.type

/-- `component_test_runner_event` -/
def componentTestRunnerEvent (s : SessionState δ) : Option ComponentTestEvent :=
  s.runner.activeDefinition.bind fun definition =>
    definition.event.bind fun event => event s.device

/-! ## What they do -/

/-- The session after a callback: the components may have changed, and the call is
recorded. -/
def SessionState.after (s : SessionState δ) (device : δ) (actions : List SessionAction) :
    SessionState δ :=
  { s with device := device, actions := s.actions ++ actions }

/-- **A start of an idle runner** makes the test the active one and calls its
component once. -/
theorem componentTestRunnerStart_idle {definition : ComponentTestDefinition δ}
    {commandId : UInt32} {parameters : ComponentTestParameters} {s t : SessionState δ}
    {result : Bool} (idle : s.runner.activeDefinition = none) (positive : commandId ≠ 0)
    (returned : componentTestRunnerStart (some definition) commandId parameters s =
      some (result, t)) :
    ∃ device, definition.start parameters s.device = some ((), device) ∧ result = true ∧
      t = { s.after device [.start definition.type parameters] with
        runner := ⟨some definition, commandId⟩ } := by
  simp only [componentTestRunnerStart, idle, if_neg positive, callStart] at returned
  cases called : definition.start parameters s.device with
  | none =>
      rw [called] at returned
      cases returned
  | some answer =>
      obtain ⟨⟨⟩, device⟩ := answer
      rw [called] at returned
      cases returned
      exact ⟨device, rfl, rfl, rfl⟩

/-- **A stop of the active test** clears it and calls its component once. -/
theorem componentTestRunnerStop_active {definition : ComponentTestDefinition δ}
    {s t : SessionState δ} {result : Bool}
    (active : s.runner.activeDefinition = some definition)
    (returned : componentTestRunnerStop s = some (result, t)) :
    ∃ device, definition.stop s.device = some ((), device) ∧ result = true ∧
      t = { s.after device [.stop definition.type] with
        runner := componentTestRunnerInitialize } := by
  simp only [componentTestRunnerStop, active, callStop] at returned
  cases called : definition.stop s.device with
  | none =>
      rw [called] at returned
      cases returned
  | some answer =>
      obtain ⟨⟨⟩, device⟩ := answer
      rw [called] at returned
      cases returned
      exact ⟨device, rfl, rfl, rfl⟩

/-- The update that stands for a result of the component. -/
def updateOf : ComponentTestProcessResult → ComponentTestRunnerUpdate
  | .running => .none
  | .event => .event
  | .passed => .passed
  | .failed => .failed

/-- Whether a result of the component ends its test. -/
def ComponentTestProcessResult.isTerminal : ComponentTestProcessResult → Bool
  | .running => false
  | .event => false
  | .passed => true
  | .failed => true

/-- What `finishTest` does when the component's callback returns. -/
theorem finishTest_eq_some {definition : ComponentTestDefinition δ}
    {update update' : ComponentTestRunnerUpdate} {s t : SessionState δ}
    (returned : finishTest definition update s = some (update', t)) :
    ∃ device, definition.stop s.device = some ((), device) ∧ update' = update ∧
      t = { s.after device [.stop definition.type] with
        runner := componentTestRunnerInitialize } := by
  simp only [finishTest, callStop] at returned
  cases called : definition.stop s.device with
  | none =>
      rw [called] at returned
      cases returned
  | some answer =>
      obtain ⟨⟨⟩, device⟩ := answer
      rw [called] at returned
      cases returned
      exact ⟨device, rfl, rfl, rfl⟩

/-- **Processing the active test** calls its component once; a terminal result also
stops the component and clears the active test. -/
theorem componentTestRunnerProcess_active {definition : ComponentTestDefinition δ}
    {s t : SessionState δ} {update : ComponentTestRunnerUpdate}
    (active : s.runner.activeDefinition = some definition)
    (returned : componentTestRunnerProcess s = some (update, t)) :
    ∃ result processed, definition.process s.device = some (result, processed) ∧
      update = updateOf result ∧
      ((result.isTerminal = false ∧ t = s.after processed [.process definition.type result]) ∨
        (result.isTerminal = true ∧ ∃ stopped, definition.stop processed = some ((), stopped) ∧
          t = { s.after stopped
                [.process definition.type result, .stop definition.type] with
            runner := componentTestRunnerInitialize })) := by
  simp only [componentTestRunnerProcess, active, callProcess] at returned
  cases called : definition.process s.device with
  | none =>
      rw [called] at returned
      cases returned
  | some answer =>
      obtain ⟨result, processed⟩ := answer
      rw [called] at returned
      refine ⟨result, processed, rfl, ?_⟩
      cases result with
      | running =>
          cases returned
          exact ⟨rfl, .inl ⟨rfl, rfl⟩⟩
      | event =>
          cases returned
          exact ⟨rfl, .inl ⟨rfl, rfl⟩⟩
      | passed =>
          obtain ⟨device, stopped, rfl, rfl⟩ := finishTest_eq_some returned
          refine ⟨rfl, .inr ⟨rfl, device, stopped, ?_⟩⟩
          simp [SessionState.after, SessionState.record]
      | failed =>
          obtain ⟨device, stopped, rfl, rfl⟩ := finishTest_eq_some returned
          refine ⟨rfl, .inr ⟨rfl, device, stopped, ?_⟩⟩
          simp [SessionState.after, SessionState.record]

end FlightComputer.Firmware
