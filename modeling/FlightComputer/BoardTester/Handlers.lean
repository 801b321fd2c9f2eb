import FlightComputer.BoardTester.Colours
import FlightComputer.BoardTester.ComponentSession
import FlightComputer.BoardTester.Runner

/-!
# The component handlers

The handlers that `create_handler` (`tests/registry.py`) makes, one for each test type. They
check the events of the device, ask the operator, stop a test that the operator has decided,
and say what the report is to contain. What they print or draw is left out, except that
a measurement is drawn as a float, and an integer may be too large for one.

The measurements of a live test are shown while a thread waits for the answer of the
operator, which is looked for after each event.
-/

set_option autoImplicit false

namespace FlightComputer.BoardTester

open Library Raising

/-- What the interpreter and its packages decide: the texts that are nested too deeply for
`json.loads`, and the colours. -/
structure Interpreter where
  tooDeep : PyStr → Bool
  colours : ColourLibrary

/-! ## Questions -/

/-- A letter in lower case. No other character is one of the letters of an answer in lower
case. -/
def lowerAscii (code : Nat) : Nat := if 65 ≤ code ∧ code ≤ 90 then code + 32 else code

/-- `answer.strip().lower() in words` -/
def answersWith (words : List String) (answer : PyStr) : Bool :=
  words.any fun word => decide ((pyStrip answer).map lowerAscii = pyStr word)

/-- The loop of `prompt_yes_no`, with the answers to come. -/
def askYesNo : List OperatorAnswer → Except TesterError Bool × List OperatorAnswer
  | [] => (.error .keyboardInterrupt, [])
  | .interrupted :: later => (.error .keyboardInterrupt, later)
  | .entered text :: later =>
      if answersWith ["", "y", "yes"] text then (.ok true, later)
      else if answersWith ["n", "no"] text then (.ok false, later)
      else askYesNo later

/-- `prompt_yes_no` -/
def promptYesNo : ConnectionCall Bool := fun connection =>
  let asked := askYesNo connection.answers
  some (asked.1, { connection with answers := asked.2 })

/-- `answers.get_nowait`, where `Empty` is nothing. -/
def pollAnswer : ConnectionCall (Option PyStr) := fun connection =>
  match connection.polls with
  | answer :: later => some (.ok answer, { connection with polls := later })
  | [] => some (.ok none, connection)

/-- The answer that there may be, once the prompt has been started. -/
def answerSoFar (promptStarted : Bool) : ConnectionCall (Option PyStr) :=
  if promptStarted then pollAnswer else pure none

/-- The status for a decision of the operator. -/
def decidedStatus (passed : Bool) : PyStr := if passed then pyStr "passed" else pyStr "failed"

/-- The `confirm` of a test that the operator looks at: a question, and the stop of the test. -/
def confirmAndStop (tooDeep : PyStr → Bool) (commandId : Int) (testType : PyStr) :
    ConnectionCall (Option ComponentTestCompletion) := do
  let passed ← promptYesNo
  stopComponentTest tooDeep (commandId + 1000) testType
  pure (some ⟨commandId, testType, decidedStatus passed⟩)

/-! ## Events -/

/-- `require_event_integer` -/
def requireEventInteger (data : PyDict) (key event : PyStr) : Except ProtocolMessageError Int :=
  match data.lookup key with
  | some (.int value) => .ok value
  | _ => raiseText [event, pyStr " data.", key, pyStr " must be an integer"]

/-- A text of the failure details. -/
def requireFailureText (data : PyDict) (key : PyStr) : Except ProtocolMessageError PyStr :=
  match data.lookup key with
  | some (.str text) =>
      if text.isEmpty then raiseText [pyStr "component_failure data.", key, pyStr " must be a string"]
      else .ok text
  | _ => raiseText [pyStr "component_failure data.", key, pyStr " must be a string"]

/-- `require_failure_details` -/
def requireFailureDetails (event : ComponentTestEvent) : Except ProtocolMessageError PyDict :=
  match event.data with
  | none => raiseText [pyStr "component_failure event is missing data"]
  | some data => do
      let stage ← requireFailureText data (pyStr "stage")
      let reason ← requireFailureText data (pyStr "reason")
      let code ← requireEventInteger data (pyStr "code") (pyStr "component_failure")
      .ok [(pyStr "stage", .str stage), (pyStr "reason", .str reason), (pyStr "code", .int code)]

/-- Integers from here on are too large for a float. -/
def floatLimit : Nat := 2 ^ 1024 - 2 ^ 970

/-- The division of integers by a float. -/
def requireFloats (values : List Int) : Except TesterError Unit :=
  if values.all fun value => decide (value.natAbs < floatLimit) then .ok () else .error .overflow

/-- An optional value of a JSON object. -/
def optionalValue {α : Type} (value : α → PyJson) : Option α → PyJson
  | some content => value content
  | none => .none

/-! ## Tests that the operator decides while measurements are shown -/

/-- What the subclasses of `LiveOperatorTestHandler` provide, with their state. -/
structure LiveTest (σ : Type) where
  readyEvent : PyStr
  initial : σ
  recordEvent : σ → ComponentTestEvent → Except ProtocolMessageError σ
  render : σ → Except TesterError Unit
  details : σ → PyStr → PyDict

section LiveTests

variable {σ : Type} (live : LiveTest σ)

/-- The first part of `LiveOperatorTestHandler.handle_event`: the prompt is started, or the
event is recorded. The second component tells whether the prompt has been started. -/
def LiveTest.presentEvent (handler : σ × Bool) (event : ComponentTestEvent) :
    Except ProtocolMessageError (σ × Bool) :=
  if event.event = live.readyEvent ∧ handler.2 = false then .ok (handler.1, true)
  else (live.recordEvent handler.1 event).map fun measurements => (measurements, handler.2)

/-- The last part of `LiveOperatorTestHandler.handle_event`. -/
def LiveTest.conclude (tooDeep : PyStr → Bool) (commandId : Int) (testType : PyStr)
    (handler : σ × Bool) :
    Option PyStr → ConnectionCall ((σ × Bool) × Option ComponentTestCompletion)
  | none => pure (handler, none)
  | some answer => do
      stopComponentTest tooDeep (commandId + 1000) testType
      pure (handler, some ⟨commandId, testType, decidedStatus (!answersWith ["n", "no"] answer)⟩)

/-- `LiveOperatorTestHandler.handle_event` -/
def LiveTest.handleEvent (tooDeep : PyStr → Bool) (commandId : Int) (testType : PyStr)
    (handler : σ × Bool) (event : ComponentTestEvent) :
    ConnectionCall ((σ × Bool) × Option ComponentTestCompletion) := do
  let handler ← settle ((live.presentEvent handler event).mapError TesterError.protocolMessage)
  settle (live.render handler.1)
  let answer ← answerSoFar handler.2
  LiveTest.conclude tooDeep commandId testType handler answer

/-- `LiveOperatorTestHandler.run` -/
def LiveTest.run (interpreter : Interpreter) (definition : TestDefinition) (commandId : Int) :
    ConnectionCall ComponentTestResult := do
  settle (live.render live.initial)
  let completed ← runComponentTest interpreter.tooDeep commandId definition.type
    (live.handleEvent interpreter.tooDeep commandId definition.type) none (pure none)
    (live.initial, false)
  pure ⟨completed.2.status, live.details completed.1.1 completed.2.status⟩

end LiveTests

/-! ### The inertial measurement unit -/

/-- The state of `ImuTestHandler`: the latest values by their names, and the number of
samples. -/
structure ImuMeasurements where
  latest : List (PyStr × Int)
  samples : Nat

/-- One group of a sample. -/
def imuGroup (data : PyDict) (groupName : PyStr) :
    Except ProtocolMessageError (List (PyStr × Int)) :=
  match data.lookup groupName with
  | some (.dict group) =>
      [pyStr "x", pyStr "y", pyStr "z"].mapM fun axis => do
        let value ← requireEventInteger group axis (pyStr "imu_sample data." ++ groupName)
        .ok (groupName ++ pyStr "_" ++ axis, value)
  | _ => raiseText [pyStr "imu_sample data.", groupName, pyStr " must be an object"]

/-- `ImuTestHandler.record_event` -/
def imuRecordEvent (measurements : ImuMeasurements) (event : ComponentTestEvent) :
    Except ProtocolMessageError ImuMeasurements :=
  if event.event ≠ pyStr "imu_sample" then .ok measurements
  else match event.data with
    | none => raiseText [pyStr "imu_sample event is missing data"]
    | some data => do
        let acceleration ← imuGroup data (pyStr "acceleration_raw")
        let gyroscope ← imuGroup data (pyStr "gyroscope_raw")
        .ok ⟨acceleration ++ gyroscope, measurements.samples + 1⟩

/-- `ImuTestHandler` -/
def imuTest : LiveTest ImuMeasurements where
  readyEvent := pyStr "imu_ready"
  initial := ⟨[], 0⟩
  recordEvent := imuRecordEvent
  render measurements := requireFloats (measurements.latest.map Prod.snd)
  details measurements status :=
    [(pyStr "firmware_status", .str status), (pyStr "sample_count", .int measurements.samples),
      (pyStr "last_raw_sample", .dict (measurements.latest.map fun item => (item.1, .int item.2)))]

/-! ### The barometer -/

/-- The state of `BarometerTestHandler`. -/
structure BarometerMeasurements where
  pressureCentiPa : Option Int
  temperatureCentiC : Option Int
  initialPressureCentiPa : Option Int
  initialTemperatureCentiC : Option Int
  samples : Nat
  failure : Option PyDict

/-- A sample is recorded. -/
def BarometerMeasurements.withSample (measurements : BarometerMeasurements)
    (pressure temperature : Int) : BarometerMeasurements where
  pressureCentiPa := some pressure
  temperatureCentiC := some temperature
  initialPressureCentiPa :=
    if measurements.initialPressureCentiPa.isNone then some pressure
    else measurements.initialPressureCentiPa
  initialTemperatureCentiC :=
    if measurements.initialPressureCentiPa.isNone then some temperature
    else measurements.initialTemperatureCentiC
  samples := measurements.samples + 1
  failure := measurements.failure

/-- `BarometerTestHandler.record_event` -/
def barometerRecordEvent (measurements : BarometerMeasurements) (event : ComponentTestEvent) :
    Except ProtocolMessageError BarometerMeasurements :=
  if event.event = pyStr "barometer_stabilizing" then .ok measurements
  else if event.event = pyStr "component_failure" then do
    let failure ← requireFailureDetails event
    .ok { measurements with failure := some failure }
  else if event.event ≠ pyStr "barometer_sample" then .ok measurements
  else match event.data with
    | none => raiseText [pyStr "barometer_sample event is missing data"]
    | some data => do
        let pressure ← requireEventInteger data (pyStr "pressure_centi_pa") (pyStr "barometer_sample")
        let temperature ← requireEventInteger data (pyStr "temperature_centi_c")
          (pyStr "barometer_sample")
        .ok (measurements.withSample pressure temperature)

/-- What `_formatted` and `_delta` divide. -/
def displayedValues (value initial : Option Int) : List Int :=
  value.toList ++ (value.bind fun value => initial.map fun initial => value - initial).toList

/-- `_as_decimal`, of a value that has been drawn before. -/
def asDecimal : Option Int → PyJson := optionalValue fun value => .float (.decimal value (-2))

/-- `BarometerTestHandler` -/
def barometerTest : LiveTest BarometerMeasurements where
  readyEvent := pyStr "barometer_ready"
  initial := ⟨none, none, none, none, 0, none⟩
  recordEvent := barometerRecordEvent
  render measurements := requireFloats
    (displayedValues measurements.pressureCentiPa measurements.initialPressureCentiPa ++
      displayedValues measurements.temperatureCentiC measurements.initialTemperatureCentiC)
  details measurements status :=
    [(pyStr "firmware_status", .str status), (pyStr "sample_count", .int measurements.samples),
      (pyStr "initial_pressure_pa", asDecimal measurements.initialPressureCentiPa),
      (pyStr "initial_temperature_c", asDecimal measurements.initialTemperatureCentiC),
      (pyStr "last_pressure_pa", asDecimal measurements.pressureCentiPa),
      (pyStr "last_temperature_c", asDecimal measurements.temperatureCentiC),
      (pyStr "failure", optionalValue .dict measurements.failure)]

/-! ## The SD card -/

/-- The state of `SdCardTestHandler`. -/
structure SdCardProgress where
  events : List PyStr
  card : PyDict
  failure : Option PyDict

/-- The checks of the `sd_card_initialized` event. -/
def checkInitializedCard (card : PyDict) : Except ProtocolMessageError Unit := do
  match card.lookup (pyStr "card_type") with
  | some (.str cardType) =>
      if cardType.isEmpty then
        raiseText [pyStr "sd_card_initialized data.card_type must be a string"]
      else do
        let _ ← requireEventInteger card (pyStr "sector_count") (pyStr "sd_card_initialized")
        let _ ← requireEventInteger card (pyStr "test_sector") (pyStr "sd_card_initialized")
        .ok ()
  | _ => raiseText [pyStr "sd_card_initialized data.card_type must be a string"]

/-- `SdCardTestHandler.handle_event` -/
def sdCardHandleEvent (progress : SdCardProgress) (event : ComponentTestEvent) :
    Except ProtocolMessageError SdCardProgress :=
  let progress := { progress with events := progress.events ++ [event.event] }
  if event.event = pyStr "component_failure" then do
    let failure ← requireFailureDetails event
    .ok { progress with failure := some failure }
  else match event.data with
    | none => .ok progress
    | some data =>
        if event.event = pyStr "sd_card_initialized" then do
          checkInitializedCard data
          .ok { progress with card := data }
        else .ok { progress with card := data }

/-- The details of `SdCardTestHandler.finish`. -/
def sdCardDetails (progress : SdCardProgress) (status : PyStr) : PyDict :=
  [(pyStr "firmware_status", .str status),
    (pyStr "events", .list (progress.events.map .str)), (pyStr "card", .dict progress.card),
    (pyStr "failure", optionalValue .dict progress.failure)]

/-- `SdCardTestHandler.run` -/
def runSdCardTest (interpreter : Interpreter) (definition : TestDefinition) (commandId : Int) :
    ConnectionCall ComponentTestResult := do
  let completed ← runComponentTest interpreter.tooDeep commandId definition.type
    (fun progress event => do
      let progress ← settle ((sdCardHandleEvent progress event).mapError .protocolMessage)
      pure (progress, none)) none (pure none) ⟨[], [], none⟩
  pure ⟨completed.2.status, sdCardDetails completed.1 completed.2.status⟩

/-! ## The status LEDs -/

/-- `StatusLedTestHandler.run`. Its events are ignored. -/
def runStatusLedTest (colour : PyStr) (interpreter : Interpreter) (definition : TestDefinition)
    (commandId : Int) : ConnectionCall ComponentTestResult := do
  let completed ← runComponentTest interpreter.tooDeep commandId definition.type
    (fun handler _ => pure (handler, none)) none
    (confirmAndStop interpreter.tooDeep commandId definition.type) ()
  pure ⟨completed.2.status,
    [(pyStr "colour", .str colour), (pyStr "operator_response", .str completed.2.status)]⟩

/-! ## The RGB LED -/

/-- The colour of a test, `turquoise` by default. -/
def configuredColour (definition : TestDefinition) : PyJson :=
  (definition.parameters.lookup (pyStr "colour")).getD (.str (pyStr "turquoise"))

/-- The items of the dictionary of channels. -/
def rgbItems (rgb : Int × Int × Int) : List (PyStr × Int) :=
  [(pyStr "red", rgb.1), (pyStr "green", rgb.2.1), (pyStr "blue", rgb.2.2)]

/-- `RgbLedTestHandler.handle_event` -/
def rgbHandleEvent (tooDeep : PyStr → Bool) (commandId : Int) (testType : PyStr)
    (event : ComponentTestEvent) : ConnectionCall (Option ComponentTestCompletion) :=
  if event.event = pyStr "rgb_colour_active" then confirmAndStop tooDeep commandId testType
  else pure none

/-- `RgbLedTestHandler`: its initialization, which converts the default colour, and its `run`. -/
def runRgbLedTest (interpreter : Interpreter) (definition : TestDefinition) (commandId : Int) :
    ConnectionCall ComponentTestResult := do
  let _ ← settle ((colourToRgb interpreter.colours (.str (pyStr "turquoise"))).mapError .value)
  let rgb ← settle ((colourToRgb interpreter.colours (configuredColour definition)).mapError .value)
  let completed ← runComponentTest interpreter.tooDeep commandId definition.type
    (fun handler event => do
      let completion ← rgbHandleEvent interpreter.tooDeep commandId definition.type event
      pure (handler, completion)) (some (rgbItems rgb)) (pure none) ()
  pure ⟨completed.2.status,
    [(pyStr "colour", configuredColour definition),
      (pyStr "rgb", .dict ((rgbItems rgb).map fun item => (item.1, .int item.2))),
      (pyStr "operator_response", .str completed.2.status)]⟩

/-! ## The registry -/

/-- `_HANDLER_FACTORIES` -/
def handlerFactories :
    List (PyStr × (Interpreter → TestDefinition → Int → ConnectionCall ComponentTestResult)) :=
  [(pyStr "status_led_red", runStatusLedTest (pyStr "red")),
    (pyStr "status_led_green", runStatusLedTest (pyStr "green")),
    (pyStr "rgb_led", runRgbLedTest), (pyStr "imu", imuTest.run),
    (pyStr "barometer", barometerTest.run), (pyStr "sd_card", runSdCardTest)]

/-- `create_handler`, and the `run` of the handler. -/
def runHandler (interpreter : Interpreter) (definition : TestDefinition) (commandId : Int) :
    ConnectionCall ComponentTestResult :=
  match handlerFactories.lookup definition.type with
  | some factory => factory interpreter definition commandId
  | none => throw (.value ⟨"no tester-side handler is registered for " ++
      String.ofList (definition.type.map Char.ofNat)⟩)

end FlightComputer.BoardTester
