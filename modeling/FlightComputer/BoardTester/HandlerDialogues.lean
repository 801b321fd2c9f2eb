import FlightComputer.BoardTester.TesterDialogues

/-!
# The handlers as dialogues

A handler either waits for the completion of the device or decides the test itself, at its start
or after an event, and then stops it (`TestHandler`). What it decides by, it takes from the events
and from the operator: it writes and reads nothing but the stop.

All handlers of the tester are of this kind (`createHandler`), and on a connection they are the
handlers of the other modules (`onConnection_createHandler`). The runner exchanges START_TEST and
then runs the enabled tests one after the other (`dispatch`).
-/

set_option autoImplicit false

namespace FlightComputer.BoardTester

open Library Raising

/-- **A handler** with its state: the parameters of the request, what it decides when the test has
been started and after each event, and what it reports. A decision is the status of the test. -/
structure TestHandler (σ : Type) where
  parameters : Option (List (PyStr × Int))
  initial : σ
  onStarted : OperatorDialogue (Option PyStr)
  onEvent : σ → ComponentTestEvent → OperatorDialogue (σ × Option PyStr)
  finish : σ → PyStr → ComponentTestResult

/-- A handler with some state. -/
structure AnyTestHandler where
  State : Type
  handler : TestHandler State

namespace TesterDialogue

variable {σ : Type} (tooDeep : PyStr → Bool) (commandId : Int) (testType : PyStr)

/-- A decided test is stopped. -/
def conclude : Option PyStr → TesterDialogue (Option ComponentTestCompletion)
  | none => pure none
  | some status => do
      stopComponentTest tooDeep (commandId + 1000) testType
      pure (some ⟨commandId, testType, status⟩)

/-- The `on_started` of a handler. -/
def handleStart (handler : TestHandler σ) : TesterDialogue (Option ComponentTestCompletion) := do
  let decision ← consult handler.onStarted
  conclude tooDeep commandId testType decision

/-- The `on_event` of a handler. -/
def handleEvent (handler : TestHandler σ) (state : σ) (event : ComponentTestEvent) :
    TesterDialogue (σ × Option ComponentTestCompletion) := do
  let decided ← consult (handler.onEvent state event)
  let completion ← conclude tooDeep commandId testType decided.2
  pure (decided.1, completion)

/-- The `run` of a handler. -/
def runHandler (handler : TestHandler σ) : TesterDialogue ComponentTestResult := do
  let completed ← runComponentTest tooDeep commandId testType
    (handleEvent tooDeep commandId testType handler) handler.parameters
    (handleStart tooDeep commandId testType handler) handler.initial
  pure (handler.finish completed.1 completed.2.status)

/-- The tests, with the handlers that are made for them. -/
def runTests (handlers : TestDefinition → Except TesterError AnyTestHandler) :
    Int → List TestDefinition → TesterDialogue (List ComponentTestResult)
  | _, [] => pure []
  | commandId, definition :: definitions => do
      match handlers definition with
      | .error error => throw error
      | .ok handler => do
          let result ← runHandler tooDeep commandId definition.type handler.handler
          let results ← runTests handlers (commandId + 1) definitions
          pure (result :: results)

/-- **The dispatch of the runner**: START_TEST, and if the session is valid all enabled tests. -/
def dispatch (handlers : TestDefinition → Except TesterError AnyTestHandler)
    (configurations : LoadedConfigurations) : TesterDialogue (List ComponentTestResult) := do
  let response ← startTest tooDeep configurations.test.uuid
  if (validateSession configurations response).passed then
    runTests tooDeep handlers 2 configurations.test.enabledTests
  else pure []

end TesterDialogue

/-! ## The handlers of the tester -/

/-- `prompt_yes_no` -/
def askOperator : OperatorDialogue Bool :=
  ExceptT.mk (Dialogue.operation OperatorQuestion.promptYesNo)

/-- `answers.get_nowait` -/
def pollOperator : OperatorDialogue (Option PyStr) :=
  ExceptT.lift (Dialogue.operation OperatorQuestion.pollAnswer)

/-- The answer that there may be, once the prompt has been started. -/
def pollSoFar (promptStarted : Bool) : OperatorDialogue (Option PyStr) :=
  if promptStarted then pollOperator else pure none

/-- The decision of an operator who is asked. -/
def confirmDecision : OperatorDialogue (Option PyStr) := do
  let passed ← askOperator
  pure (some (decidedStatus passed))

/-- `LiveOperatorTestHandler` -/
def LiveTest.handler {σ : Type} (live : LiveTest σ) : TestHandler (σ × Bool) where
  parameters := none
  initial := (live.initial, false)
  onStarted := pure none
  onEvent handler event := do
    let handler ← RaisingDialogue.settle
      ((live.presentEvent handler event).mapError TesterError.protocolMessage)
    RaisingDialogue.settle (live.render handler.1)
    let answer ← pollSoFar handler.2
    pure (handler, answer.map fun answer => decidedStatus (!answersWith ["n", "no"] answer))
  finish handler status := ⟨status, live.details handler.1 status⟩

/-- `SdCardTestHandler` -/
def sdCardHandler : TestHandler SdCardProgress where
  parameters := none
  initial := ⟨[], [], none⟩
  onStarted := pure none
  onEvent progress event := do
    let progress ← RaisingDialogue.settle ((sdCardHandleEvent progress event).mapError .protocolMessage)
    pure (progress, none)
  finish progress status := ⟨status, sdCardDetails progress status⟩

/-- `StatusLedTestHandler` -/
def statusLedHandler (colour : PyStr) : TestHandler Unit where
  parameters := none
  initial := ()
  onStarted := confirmDecision
  onEvent _ _ := pure ((), none)
  finish _ status := ⟨status,
    [(pyStr "colour", .str colour), (pyStr "operator_response", .str status)]⟩

/-- `RgbLedTestHandler`, for a test with a colour. -/
def rgbLedHandler (definition : TestDefinition) (rgb : Int × Int × Int) : TestHandler Unit where
  parameters := some (rgbItems rgb)
  initial := ()
  onStarted := pure none
  onEvent _ event :=
    if event.event = pyStr "rgb_colour_active" then do
      let decision ← confirmDecision
      pure ((), decision)
    else pure ((), none)
  finish _ status := ⟨status,
    [(pyStr "colour", configuredColour definition),
      (pyStr "rgb", .dict ((rgbItems rgb).map fun item => (item.1, .int item.2))),
      (pyStr "operator_response", .str status)]⟩

/-- A live test is shown before it runs. -/
def LiveTest.create {σ : Type} (live : LiveTest σ) (_ : Interpreter) (_ : TestDefinition) :
    Except TesterError AnyTestHandler :=
  match live.render live.initial with
  | .ok _ => .ok ⟨_, live.handler⟩
  | .error error => .error error

/-- The colours are converted before the test runs. -/
def createRgbLedHandler (interpreter : Interpreter) (definition : TestDefinition) :
    Except TesterError AnyTestHandler :=
  match (colourToRgb interpreter.colours (.str (pyStr "turquoise"))).mapError .value with
  | .error error => .error error
  | .ok _ =>
      match (colourToRgb interpreter.colours (configuredColour definition)).mapError .value with
      | .error error => .error error
      | .ok rgb => .ok ⟨_, rgbLedHandler definition rgb⟩

/-- `_HANDLER_FACTORIES`, up to the run of the handlers. -/
def testHandlers :
    List (PyStr × (Interpreter → TestDefinition → Except TesterError AnyTestHandler)) :=
  [(pyStr "status_led_red", fun _ _ => .ok ⟨_, statusLedHandler (pyStr "red")⟩),
    (pyStr "status_led_green", fun _ _ => .ok ⟨_, statusLedHandler (pyStr "green")⟩),
    (pyStr "rgb_led", createRgbLedHandler), (pyStr "imu", imuTest.create),
    (pyStr "barometer", barometerTest.create),
    (pyStr "sd_card", fun _ _ => .ok ⟨_, sdCardHandler⟩)]

/-- `create_handler` -/
def createHandler (interpreter : Interpreter) (definition : TestDefinition) :
    Except TesterError AnyTestHandler :=
  match testHandlers.lookup definition.type with
  | some create => create interpreter definition
  | none => .error (.value ⟨"no tester-side handler is registered for " ++
      String.ofList (definition.type.map Char.ofNat)⟩)

/-! ## On a connection -/

section OnConnection

variable {α β σ : Type} (tooDeep : PyStr → Bool) (commandId : Int) (testType : PyStr)

theorem onConnection_consult_bind (first : OperatorDialogue α) (rest : α → OperatorDialogue β) :
    onConnection (TesterDialogue.consult (first >>= rest)) =
      onConnection (TesterDialogue.consult first) >>= fun value =>
        onConnection (TesterDialogue.consult (rest value)) := by
  rw [← onConnection_bind]
  exact congrArg onConnection (RaisingDialogue.perform_bind _ first rest)

theorem onConnection_consult_pure (value : α) :
    onConnection (TesterDialogue.consult (pure value)) = pure value := rfl

theorem onConnection_consult_settle (result : Except TesterError α) :
    onConnection (TesterDialogue.consult (RaisingDialogue.settle result)) = settle result := rfl

theorem onConnection_consult_askOperator :
    onConnection (TesterDialogue.consult askOperator) = promptYesNo :=
  funext fun connection => Option.bind_fun_some (promptYesNo connection)

theorem onConnection_consult_pollOperator :
    onConnection (TesterDialogue.consult pollOperator) = pollAnswer := by
  funext connection
  show some (Except.ok (takePoll connection).1, (takePoll connection).2) = pollAnswer connection
  rw [takePoll, pollAnswer]
  cases connection.polls <;> rfl

theorem onConnection_consult_confirmDecision :
    onConnection (TesterDialogue.consult confirmDecision) =
      promptYesNo >>= fun passed => pure (some (decidedStatus passed)) := by
  rw [confirmDecision, onConnection_consult_bind, onConnection_consult_askOperator]
  rfl

/-- A decided test is stopped, and its completion returned. -/
theorem onConnection_conclude_some (status : PyStr) :
    onConnection (TesterDialogue.conclude tooDeep commandId testType (some status)) =
      stopComponentTest tooDeep (commandId + 1000) testType >>= fun _ =>
        pure (some ⟨commandId, testType, status⟩) := by
  rw [TesterDialogue.conclude, onConnection_bind, onConnection_stopComponentTest]
  rfl

theorem onConnection_handleStart (handler : TestHandler σ) :
    onConnection (TesterDialogue.handleStart tooDeep commandId testType handler) =
      onConnection (TesterDialogue.consult handler.onStarted) >>= fun decision =>
        onConnection (TesterDialogue.conclude tooDeep commandId testType decision) :=
  onConnection_bind _ _

theorem onConnection_handleEvent (handler : TestHandler σ) (state : σ)
    (event : ComponentTestEvent) :
    onConnection (TesterDialogue.handleEvent tooDeep commandId testType handler state event) =
      onConnection (TesterDialogue.consult (handler.onEvent state event)) >>= fun decided =>
        onConnection (TesterDialogue.conclude tooDeep commandId testType decided.2) >>=
          fun completion => pure (decided.1, completion) := by
  rw [TesterDialogue.handleEvent, onConnection_bind]
  refine congrArg _ (funext fun decided => ?_)
  rw [onConnection_bind]
  rfl

/-- **A handler on a connection** runs the workflow with its own functions. -/
theorem onConnection_runHandler_eq (handler : TestHandler σ) :
    onConnection (TesterDialogue.runHandler tooDeep commandId testType handler) =
      runComponentTest tooDeep commandId testType
        (fun state event => onConnection
          (TesterDialogue.handleEvent tooDeep commandId testType handler state event))
        handler.parameters
        (onConnection (TesterDialogue.handleStart tooDeep commandId testType handler))
        handler.initial >>= fun completed =>
          pure (handler.finish completed.1 completed.2.status) := by
  rw [TesterDialogue.runHandler, onConnection_bind, onConnection_runComponentTest]
  rfl

/-- A handler that waits does nothing at the start. -/
theorem onConnection_handleStart_waiting {handler : TestHandler σ}
    (waits : handler.onStarted = pure none) :
    onConnection (TesterDialogue.handleStart tooDeep commandId testType handler) = pure none := by
  rw [onConnection_handleStart, waits]
  rfl

/-- An operator who is asked decides the test. -/
theorem onConnection_confirm :
    (onConnection (TesterDialogue.consult confirmDecision) >>= fun decision =>
        onConnection (TesterDialogue.conclude tooDeep commandId testType decision)) =
      confirmAndStop tooDeep commandId testType := by
  rw [onConnection_consult_confirmDecision, bind_assoc, confirmAndStop]
  refine congrArg _ (funext fun passed => ?_)
  rw [pure_bind, onConnection_conclude_some]

variable (interpreter : Interpreter) (definition : TestDefinition)

theorem onConnection_statusLedHandler (colour : PyStr) :
    onConnection (TesterDialogue.runHandler interpreter.tooDeep commandId definition.type
        (statusLedHandler colour)) =
      runStatusLedTest colour interpreter definition commandId := by
  have starts : onConnection (TesterDialogue.handleStart interpreter.tooDeep commandId
      definition.type (statusLedHandler colour)) =
        confirmAndStop interpreter.tooDeep commandId definition.type :=
    (onConnection_handleStart ..).trans (onConnection_confirm ..)
  rw [onConnection_runHandler_eq, starts]
  rfl

theorem onConnection_sdCardHandler :
    onConnection (TesterDialogue.runHandler interpreter.tooDeep commandId definition.type
        sdCardHandler) = runSdCardTest interpreter definition commandId := by
  have events : ∀ state event, onConnection (TesterDialogue.handleEvent interpreter.tooDeep commandId
      definition.type sdCardHandler state event) =
        settle ((sdCardHandleEvent state event).mapError .protocolMessage) >>= fun progress =>
          pure (progress, none) := by
    intro state event
    rw [onConnection_handleEvent]
    show (onConnection (TesterDialogue.consult (RaisingDialogue.settle _ >>= _)) >>= _) = _
    rw [onConnection_consult_bind, onConnection_consult_settle, bind_assoc]
    rfl
  rw [onConnection_runHandler_eq, onConnection_handleStart_waiting _ _ _ rfl]
  simp only [events]
  rfl

theorem onConnection_rgbLedHandler (rgb : Int × Int × Int) :
    onConnection (TesterDialogue.runHandler interpreter.tooDeep commandId definition.type
        (rgbLedHandler definition rgb)) =
      runComponentTest interpreter.tooDeep commandId definition.type
        (fun handler event => do
          let completion ← rgbHandleEvent interpreter.tooDeep commandId definition.type event
          pure (handler, completion)) (some (rgbItems rgb)) (pure none) () >>= fun completed =>
        pure ⟨completed.2.status,
          [(pyStr "colour", configuredColour definition),
            (pyStr "rgb", .dict ((rgbItems rgb).map fun item => (item.1, .int item.2))),
            (pyStr "operator_response", .str completed.2.status)]⟩ := by
  have events : ∀ (state : Unit) event, onConnection (TesterDialogue.handleEvent interpreter.tooDeep
      commandId definition.type (rgbLedHandler definition rgb) state event) =
        rgbHandleEvent interpreter.tooDeep commandId definition.type event >>= fun completion =>
          pure (state, completion) := by
    intro state event
    rw [onConnection_handleEvent, rgbHandleEvent]
    show (onConnection (TesterDialogue.consult
      (if event.event = pyStr "rgb_colour_active" then _ else _)) >>= _) = _
    split_ifs with active
    · rw [onConnection_consult_bind, bind_assoc, ← onConnection_confirm, bind_assoc]
      rfl
    · rfl
  rw [onConnection_runHandler_eq, onConnection_handleStart_waiting _ _ _ rfl]
  exact congrArg (fun onEvent => runComponentTest interpreter.tooDeep commandId definition.type
    onEvent (some (rgbItems rgb)) (pure none) () >>= _) (funext fun state => funext (events state))

theorem onConnection_liveTest_handler (live : LiveTest σ) :
    onConnection (TesterDialogue.runHandler interpreter.tooDeep commandId definition.type
        live.handler) =
      runComponentTest interpreter.tooDeep commandId definition.type
        (live.handleEvent interpreter.tooDeep commandId definition.type) none (pure none)
        (live.initial, false) >>= fun completed =>
        pure ⟨completed.2.status, live.details completed.1.1 completed.2.status⟩ := by
  have events : ∀ (state : σ × Bool) event, onConnection (TesterDialogue.handleEvent
      interpreter.tooDeep commandId definition.type live.handler state event) =
        live.handleEvent interpreter.tooDeep commandId definition.type state event := by
    intro state event
    rw [onConnection_handleEvent, LiveTest.handleEvent]
    show (onConnection (TesterDialogue.consult (RaisingDialogue.settle _ >>= _)) >>= _) = _
    rw [onConnection_consult_bind, onConnection_consult_settle, bind_assoc]
    refine congrArg _ (funext fun handler => ?_)
    rw [onConnection_consult_bind, onConnection_consult_settle, bind_assoc]
    refine congrArg _ (funext fun _ => ?_)
    have asked : onConnection (TesterDialogue.consult (pollSoFar handler.2)) =
        answerSoFar handler.2 := by
      rw [pollSoFar, answerSoFar]
      split_ifs
      · exact onConnection_consult_pollOperator
      · rfl
    rw [onConnection_consult_bind, asked, bind_assoc]
    refine congrArg _ (funext fun answer => ?_)
    cases answer with
    | none => rfl
    | some answer =>
        rw [onConnection_consult_pure, pure_bind]
        show (onConnection (TesterDialogue.conclude _ _ _ (some _)) >>= _) = _
        rw [onConnection_conclude_some, bind_assoc]
        rfl
  rw [onConnection_runHandler_eq, onConnection_handleStart_waiting _ _ _ rfl]
  exact congrArg (fun onEvent => runComponentTest interpreter.tooDeep commandId definition.type
    onEvent none (pure none) (live.initial, false) >>= _)
    (funext fun state => funext (events state))

end OnConnection

/-- **The handlers on a connection** are the handlers of the tester. -/
theorem onConnection_createHandler (interpreter : Interpreter) (definition : TestDefinition)
    (commandId : Int) :
    (match createHandler interpreter definition with
      | .ok handler => onConnection (TesterDialogue.runHandler interpreter.tooDeep commandId
          definition.type handler.handler)
      | .error error => throw error) = runHandler interpreter definition commandId := by
  have live : ∀ {σ : Type} (live : LiveTest σ),
      (match live.create interpreter definition with
        | .ok handler => onConnection (TesterDialogue.runHandler interpreter.tooDeep commandId
            definition.type handler.handler)
        | .error error => throw error) = live.run interpreter definition commandId := by
    intro σ live
    rw [LiveTest.create, LiveTest.run]
    cases live.render live.initial with
    | error error => rfl
    | ok _ => exact onConnection_liveTest_handler commandId interpreter definition live
  rw [createHandler, runHandler, testHandlers, handlerFactories]
  simp only [List.lookup_cons, List.lookup_nil]
  cases definition.type == pyStr "status_led_red" with
  | true => exact onConnection_statusLedHandler commandId interpreter definition _
  | false =>
      cases definition.type == pyStr "status_led_green" with
      | true => exact onConnection_statusLedHandler commandId interpreter definition _
      | false =>
          cases definition.type == pyStr "rgb_led" with
          | true =>
              dsimp only
              rw [createRgbLedHandler, runRgbLedTest]
              cases (colourToRgb interpreter.colours (.str (pyStr "turquoise"))).mapError
                  TesterError.value with
              | error error => rfl
              | ok _ =>
                  dsimp only
                  cases (colourToRgb interpreter.colours (configuredColour definition)).mapError
                      TesterError.value with
                  | error error => rfl
                  | ok rgb => exact onConnection_rgbLedHandler commandId interpreter definition rgb
          | false =>
              cases definition.type == pyStr "imu" with
              | true => exact live imuTest
              | false =>
                  cases definition.type == pyStr "barometer" with
                  | true => exact live barometerTest
                  | false =>
                      cases definition.type == pyStr "sd_card" with
                      | true => exact onConnection_sdCardHandler commandId interpreter definition
                      | false => rfl

end FlightComputer.BoardTester
