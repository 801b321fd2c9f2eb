import FlightComputer.Firmware.Bmp388
import FlightComputer.Firmware.SdCardTest

/-!
# The production registry

The components of the flight computer and the table of `component_registry.c`. Each
component works on its own part of the state. The LEDs (`status_led_test.c`,
`rgb_led_test.c`) and the IMU (`bmi270_driver.c`, `bmi270_test.c`) are here; what the
hardware and the Bosch driver answer is given in advance.
-/

set_option autoImplicit false

namespace FlightComputer.Firmware

open Library Fallible

/-! ## Status LEDs -/

/-- Which of the two LEDs is lit. -/
structure StatusLeds where
  red : Bool
  green : Bool

/-- `leds_off`, and `initialize_pins` as far as the LEDs are concerned. -/
def ledsOff : ComponentCall StatusLeds Unit := set (⟨false, false⟩ : StatusLeds)

/-- `status_led_red_start` -/
def statusLedRedStart (_ : ComponentTestParameters) : ComponentCall StatusLeds Unit := do
  ledsOff
  modify fun s => { s with red := true }

/-- `status_led_green_start` -/
def statusLedGreenStart (_ : ComponentTestParameters) : ComponentCall StatusLeds Unit := do
  ledsOff
  modify fun s => { s with green := true }

/-- `status_led_process` -/
def statusLedProcess : ComponentCall StatusLeds ComponentTestProcessResult := pure .running

/-- `status_led_stop` -/
def statusLedStop : ComponentCall StatusLeds Unit := ledsOff

/-! ## RGB LED -/

/-- `rgb_test_state_t` -/
inductive RgbTestState where
  | colourReady
  | active
  | failed
  deriving DecidableEq

/-- The static state of the test, the results of `initialize_hardware` to come, and the
colours that have been transmitted. -/
structure RgbLedTest where
  hardwareReady : Bool
  transmissionFailed : Bool
  state : RgbTestState
  latestEvent : ComponentTestEvent
  initResults : List Bool
  transmitted : List (UInt8 × UInt8 × UInt8)

/-- A call of the test. -/
abbrev RgbLedCall (α : Type) : Type := ComponentCall RgbLedTest α

/-- `initialize_hardware` -/
def rgbInitializeHardware : RgbLedCall Bool := fun s =>
  match s.initResults with
  | [] => none
  | ok :: later => some (ok, { s with initResults := later })

/-- `transmit` -/
def rgbTransmit (red green blue : UInt8) : RgbLedCall Bool := do
  if (← get).hardwareReady then do
    modify fun s => { s with transmitted := s.transmitted ++ [(red, green, blue)] }
    pure true
  else pure false

/-- `rgb_led_test_start` -/
def rgbLedTestStart (parameters : ComponentTestParameters) : RgbLedCall Unit := do
  modify fun s => { s with hardwareReady := false, transmissionFailed := !parameters.rgbColourPresent }
  if parameters.rgbColourPresent then do
    let ready ← rgbInitializeHardware
    modify fun s => { s with hardwareReady := ready }
    let ok ← rgbTransmit parameters.red parameters.green parameters.blue
    modify fun s => { s with
      transmissionFailed := !ok
      state := if ok then .colourReady else .failed }
  else modify fun s => { s with state := .failed }

/-- `rgb_led_test_process` -/
def rgbLedTestProcess : RgbLedCall ComponentTestProcessResult := do
  let s ← get
  if s.transmissionFailed = true ∨ s.state = .failed then pure .failed
  else if s.state = .colourReady then do
    modify fun s => { s with latestEvent := messageEvent "rgb_colour_active", state := .active }
    pure .event
  else pure .running

/-- `rgb_led_test_event` -/
def rgbLedTestEvent (s : RgbLedTest) : Option ComponentTestEvent := some s.latestEvent

/-- `rgb_led_test_stop` -/
def rgbLedTestStop : RgbLedCall Unit := do
  if (← get).hardwareReady then do
    let _ ← rgbTransmit 0 0 0
  else pure ()

/-! ## IMU -/

/-- `bmi270_sample_t` -/
structure Bmi270Sample where
  accelerationX : Int16
  accelerationY : Int16
  accelerationZ : Int16
  gyroscopeX : Int16
  gyroscopeY : Int16
  gyroscopeZ : Int16

/-- The static state of the driver, and what the Bosch driver will answer: the results of
its configuration, and samples with their results. -/
structure Bmi270Driver where
  ready : Bool
  results : List Int8
  samples : List (Int8 × Bmi270Sample)

/-- A function of the Bosch driver that configures the sensor. -/
def bmi2Configure (ok : Int8) : Fallible Bmi270Driver Unit := do
  let result ← receive Bmi270Driver.results fun later s => { s with results := later }
  check (result == ok)

/-- `bmi270_driver_initialize`, with the value of BMI2_OK. -/
def bmi270DriverInitialize (ok : Int8) : Fallible Bmi270Driver Unit := do
  change fun s => { s with ready := false }
  bmi2Configure ok
  bmi2Configure ok
  bmi2Configure ok
  change fun s => { s with ready := true }

/-- `bmi270_driver_read_sample`, with a destination. -/
def bmi270DriverReadSample (ok : Int8) : Fallible Bmi270Driver Bmi270Sample := do
  check (← ask Bmi270Driver.ready)
  let answer ← receive Bmi270Driver.samples fun later s => { s with samples := later }
  check (answer.1 == ok)
  pure answer.2

/-- `bmi270_driver_shutdown` -/
def bmi270DriverShutdown (s : Bmi270Driver) : Bmi270Driver := { s with ready := false }

/-- `bmi270_test_state_t` -/
inductive Bmi270TestState where
  | initializing
  | sampling
  | failed
  deriving DecidableEq

/-- `BMI270_SAMPLE_INTERVAL_MS` -/
def bmi270SampleIntervalMs : UInt32 := 100

/-- The static state of the test, the driver below it, and the ticks to come. -/
structure Bmi270Test where
  driver : Bmi270Driver
  state : Bmi270TestState
  nextSampleAt : UInt32
  latestEvent : ComponentTestEvent
  ticks : List UInt32

/-- A call of the test. -/
abbrev ImuCall (α : Type) : Type := ComponentCall Bmi270Test α

/-- `HAL_GetTick` -/
def imuTick : ImuCall UInt32 := fun s =>
  match s.ticks with
  | [] => none
  | now :: later => some (now, { s with ticks := later })

/-- A call of the driver, with its value, or none when it returns false. -/
def imuDriverCall {α : Type} (call : Fallible Bmi270Driver α) : ImuCall (Option α) := fun s =>
  (call s.driver).map fun returned => (returned.1, { s with driver := returned.2 })

/-- The test has failed. -/
def imuFailed : ImuCall ComponentTestProcessResult := do
  modify fun s => { s with state := .failed }
  pure .failed

/-- `bmi270_test_start` -/
def bmi270TestStart (_ : ComponentTestParameters) : ImuCall Unit :=
  modify fun s => { s with state := .initializing, latestEvent := messageEvent "imu_ready" }

/-- The event of a sample. -/
def imuSampleEvent (sample : Bmi270Sample) : ComponentTestEvent where
  kind := .imuSample
  name := some (ascii "imu_sample")
  accelerationX := sample.accelerationX
  accelerationY := sample.accelerationY
  accelerationZ := sample.accelerationZ
  gyroscopeX := sample.gyroscopeX
  gyroscopeY := sample.gyroscopeY
  gyroscopeZ := sample.gyroscopeZ

/-- `bmi270_test_process` in the state BMI270_TEST_INITIALIZING. -/
def imuInitializing (ok : Int8) (now : UInt32) : ImuCall ComponentTestProcessResult := do
  match ← imuDriverCall (bmi270DriverInitialize ok) with
  | none => imuFailed
  | some _ =>
      modify fun s => { s with state := .sampling, nextSampleAt := now }
      pure .event

/-- `bmi270_test_process` in the state BMI270_TEST_SAMPLING. -/
def imuSampling (ok : Int8) (now : UInt32) : ImuCall ComponentTestProcessResult := do
  if (now - (← get).nextSampleAt).toInt32 < 0 then pure .running
  else do
    modify fun s => { s with nextSampleAt := now + bmi270SampleIntervalMs }
    match ← imuDriverCall (bmi270DriverReadSample ok) with
    | none => imuFailed
    | some sample =>
        modify fun s => { s with latestEvent := imuSampleEvent sample }
        pure .event

/-- `bmi270_test_process`, once the tick has been read. -/
def imuStep (ok : Int8) (now : UInt32) : ImuCall ComponentTestProcessResult := do
  match (← get).state with
  | .initializing => imuInitializing ok now
  | .failed => pure .failed
  | .sampling => imuSampling ok now

/-- `bmi270_test_process` -/
def bmi270TestProcess (ok : Int8) : ImuCall ComponentTestProcessResult := do
  let now ← imuTick
  imuStep ok now

/-- `bmi270_test_event` -/
def bmi270TestEvent (s : Bmi270Test) : Option ComponentTestEvent := some s.latestEvent

/-- `bmi270_test_stop` -/
def bmi270TestStop : ImuCall Unit := modify fun s => { s with driver := bmi270DriverShutdown s.driver }

/-! ## The table -/

/-- The static state of all components. -/
structure FlightComputerComponents where
  statusLeds : StatusLeds
  rgbLed : RgbLedTest
  imu : Bmi270Test
  barometer : Bmp388Test
  sdCard : SdCardTest SdCardDriver

/-- A call that works on a part of the state. -/
def ComponentCall.onPart {δ σ α : Type} (part : δ → σ) (put : σ → δ → δ)
    (call : ComponentCall σ α) : ComponentCall δ α := fun s =>
  (call (part s)).map fun returned => (returned.1, put returned.2 s)

/-- A definition whose functions work on a part of the state. -/
def ComponentTestDefinition.onPart {δ σ : Type} (part : δ → σ) (put : σ → δ → δ)
    (definition : ComponentTestDefinition σ) : ComponentTestDefinition δ where
  type := definition.type
  start parameters := (definition.start parameters).onPart part put
  process := definition.process.onPart part put
  event := definition.event.map fun event s => event (part s)
  stop := definition.stop.onPart part put

/-- The values of the constants of the Bosch drivers. -/
structure BoschCodes where
  bmi2Ok : Int8
  bmp3 : Bmp3Codes

/-- The definition of the status LEDs, with the function that starts one of them. -/
def statusLedDefinition (type : String)
    (start : ComponentTestParameters → ComponentCall StatusLeds Unit) :
    ComponentTestDefinition StatusLeds where
  type := ascii type
  start := start
  process := statusLedProcess
  event := none
  stop := statusLedStop

def rgbLedDefinition : ComponentTestDefinition RgbLedTest where
  type := ascii "rgb_led"
  start := rgbLedTestStart
  process := rgbLedTestProcess
  event := some rgbLedTestEvent
  stop := rgbLedTestStop

def imuDefinition (ok : Int8) : ComponentTestDefinition Bmi270Test where
  type := ascii "imu"
  start := bmi270TestStart
  process := bmi270TestProcess ok
  event := some bmi270TestEvent
  stop := bmi270TestStop

def barometerDefinition (codes : Bmp3Codes) : ComponentTestDefinition Bmp388Test where
  type := ascii "barometer"
  start := bmp388TestStart
  process := bmp388TestProcess codes
  event := some bmp388TestEvent
  stop := bmp388TestStop

def sdCardDefinition : ComponentTestDefinition (SdCardTest SdCardDriver) where
  type := ascii "sd_card"
  start := sdCardTestStart sdCardDriverCalls
  process := sdCardTestProcess sdCardDriverCalls
  event := some sdCardTestEvent
  stop := sdCardTestStop sdCardDriverCalls

/-- `production_registry` -/
def productionRegistry (codes : BoschCodes) : ComponentTestRegistry FlightComputerComponents :=
  [(statusLedDefinition "status_led_red" statusLedRedStart).onPart
      FlightComputerComponents.statusLeds fun leds s => { s with statusLeds := leds },
    (statusLedDefinition "status_led_green" statusLedGreenStart).onPart
      FlightComputerComponents.statusLeds fun leds s => { s with statusLeds := leds },
    rgbLedDefinition.onPart
      FlightComputerComponents.rgbLed fun led s => { s with rgbLed := led },
    (imuDefinition codes.bmi2Ok).onPart
      FlightComputerComponents.imu fun imu s => { s with imu := imu },
    (barometerDefinition codes.bmp3).onPart
      FlightComputerComponents.barometer fun barometer s => { s with barometer := barometer },
    sdCardDefinition.onPart
      FlightComputerComponents.sdCard fun card s => { s with sdCard := card }]

/-- `component_registry_capability_at`, for all indices. -/
def componentRegistryCapabilities (codes : BoschCodes) : List Bytes :=
  (productionRegistry codes).map ComponentTestDefinition.type

end FlightComputer.Firmware
