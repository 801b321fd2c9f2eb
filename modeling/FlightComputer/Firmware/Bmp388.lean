import FlightComputer.Firmware.ComponentRegistry
import FlightComputer.Library.Fallible

/-!
# The barometer and its test

`bmp388_driver.c` and `bmp388_test.c`. What the I2C probe, the functions of the Bosch
driver and `HAL_GetTick` answer is given in advance; the codes of the Bosch driver are a
parameter. `detected` lists every failure that a function of the driver has noticed.
-/

set_option autoImplicit false

namespace FlightComputer.Firmware

open Library Fallible

/-! ## The driver -/

/-- The result codes of the Bosch driver. -/
structure Bmp3Codes where
  ok : Int8
  commFail : Int8
  devNotFound : Int8
  invalidOdrOsrSettings : Int8
  cmdExecFailed : Int8
  configurationErr : Int8

/-- `bmp388_failure_t` -/
structure Bmp388Failure where
  stage : Option Bytes
  reason : Option Bytes
  code : Int32
  deriving DecidableEq

/-- `bmp388_sample_t` -/
structure Bmp388Sample where
  pressureCentiPa : Int32
  temperatureCentiC : Int32

/-- What `bmp3_get_sensor_data` answers: its result, the pressure and the temperature. -/
structure Bmp3Data where
  result : Int8
  pressure : UInt64
  temperature : Int64

/-- The static state of the driver, the answers to come, and the failures so far. -/
structure Bmp388Driver where
  ready : Bool
  lastFailure : Bmp388Failure
  probes : List (Bool × UInt32)
  results : List Int8
  samples : List Bmp3Data
  detected : List Bmp388Failure

/-- A call of the driver. -/
abbrev Bmp388Call (α : Type) : Type := Fallible Bmp388Driver α

/-- `flightcomputer_v1_barometer_i2c_probe`, with the error of the HAL. -/
def barometerProbe : Bmp388Call (Bool × UInt32) :=
  receive Bmp388Driver.probes fun later s => { s with probes := later }

/-- A function of the Bosch driver that configures the sensor. -/
def bmp3Configure : Bmp388Call Int8 :=
  receive Bmp388Driver.results fun later s => { s with results := later }

/-- `bmp3_get_sensor_data` -/
def bmp3GetSensorData : Bmp388Call Bmp3Data :=
  receive Bmp388Driver.samples fun later s => { s with samples := later }

variable (codes : Bmp3Codes)

/-- `failure_reason` -/
def failureReason (result : Int8) : String :=
  if result = codes.commFail then "i2c_communication_failed"
  else if result = codes.devNotFound then "unexpected_or_missing_chip_id"
  else if result = codes.invalidOdrOsrSettings then "invalid_sampling_settings"
  else if result = codes.cmdExecFailed then "sensor_command_failed"
  else if result = codes.configurationErr then "sensor_configuration_error"
  else "bosch_driver_error"

/-- The failure is stored, and false is returned. -/
def storeFailure {α : Type} (stage reason : String) (code : Int32) : Bmp388Call α := do
  change fun s => { s with
    lastFailure := ⟨some (ascii stage), some (ascii reason), code⟩
    detected := s.detected ++ [⟨some (ascii stage), some (ascii reason), code⟩] }
  failure

/-- `driver_failed` -/
def driverFailed {α : Type} (stage : String) (result : Int8) : Bmp388Call α :=
  storeFailure stage (failureReason codes result) result.toInt32

/-- A step of the initialization. -/
def configureStep (stage : String) : Bmp388Call Unit := do
  let result ← bmp3Configure
  if result ≠ codes.ok then driverFailed codes stage result else pure ()

/-- `bmp388_driver_initialize` -/
def bmp388DriverInitialize : Bmp388Call Unit := do
  change fun s => { s with ready := false, lastFailure := ⟨none, none, 0⟩ }
  let answer ← barometerProbe
  if answer.1 = false then
    storeFailure "i2c_address_probe" "no_acknowledgement_at_0x76" answer.2.toInt32
  else
    configureStep codes "chip_id_and_calibration"
    configureStep codes "sampling_configuration"
    configureStep codes "normal_mode"
    change fun s => { s with ready := true }

/-- Whether a compensated value does not fit its 32-bit field. -/
def outOfRange (data : Bmp3Data) : Prop :=
  2147483647 < data.pressure ∨ 2147483647 < data.temperature ∨ data.temperature < -2147483648

instance (data : Bmp3Data) : Decidable (outOfRange data) :=
  inferInstanceAs (Decidable (_ ∨ _ ∨ _))

/-- `bmp388_driver_read_sample`; the flag tells that `sample` is `NULL`. -/
def bmp388DriverReadSample (isNull : Bool) : Bmp388Call Bmp388Sample := do
  if (← ask Bmp388Driver.ready) = false ∨ isNull then
    storeFailure "sample_read" "driver_not_ready_or_null_destination" 0
  else
    let data ← bmp3GetSensorData
    if data.result ≠ codes.ok then driverFailed codes "sample_read" data.result
    else if outOfRange data then
      storeFailure "sample_conversion" "compensated_value_out_of_range" 0
    else pure ⟨data.pressure.toInt64.toInt32, data.temperature.toInt32⟩

/-- `bmp388_driver_shutdown`; the result of the Bosch driver is not looked at. -/
def bmp388DriverShutdown : Bmp388Call Unit := do
  if ← ask Bmp388Driver.ready then do
    let _ ← bmp3Configure
    change fun s => { s with ready := false }
  else change fun s => { s with ready := false }

/-! ## The test -/

/-- `bmp388_test_state_t` -/
inductive Bmp388TestState where
  | initializing
  | settling
  | sampling
  | failed
  deriving DecidableEq

/-- `BMP388_SAMPLE_INTERVAL_MS` -/
def bmp388SampleIntervalMs : UInt32 := 200

/-- `BMP388_SETTLING_TIME_MS` -/
def bmp388SettlingTimeMs : UInt32 := 2000

/-- The static state of the test, the driver below it, and the ticks to come. -/
structure Bmp388Test where
  driver : Bmp388Driver
  state : Bmp388TestState
  nextSampleAt : UInt32
  latestEvent : ComponentTestEvent
  ticks : List UInt32

/-- A call of the test. -/
abbrev BarometerCall (α : Type) : Type := ComponentCall Bmp388Test α

/-- `HAL_GetTick` -/
def barometerTick : BarometerCall UInt32 := fun s =>
  match s.ticks with
  | [] => none
  | now :: later => some (now, { s with ticks := later })

/-- A call of the driver, with its value, or none when it returns false. -/
def barometerDriverCall {α : Type} (call : Bmp388Call α) : BarometerCall (Option α) := fun s =>
  (call s.driver).map fun returned => (returned.1, { s with driver := returned.2 })

/-- `report_driver_failure`, after which the test has failed. -/
def reportDriverFailure : BarometerCall ComponentTestProcessResult := do
  modify fun s => { s with
    latestEvent := componentFailure s.driver.lastFailure.stage s.driver.lastFailure.reason
      s.driver.lastFailure.code
    state := .failed }
  pure .event

/-- `bmp388_test_start` -/
def bmp388TestStart (_ : ComponentTestParameters) : BarometerCall Unit :=
  modify fun s => { s with state := .initializing, latestEvent := messageEvent "barometer_ready" }

/-- The event of a sample. -/
def barometerSampleEvent (sample : Bmp388Sample) : ComponentTestEvent where
  kind := .barometerSample
  name := some (ascii "barometer_sample")
  pressureCentiPa := sample.pressureCentiPa
  temperatureCentiC := sample.temperatureCentiC

/-- `bmp388_test_process` in the state BMP388_TEST_INITIALIZING. -/
def barometerInitializing (now : UInt32) : BarometerCall ComponentTestProcessResult := do
  match ← barometerDriverCall (bmp388DriverInitialize codes) with
  | none => reportDriverFailure
  | some _ =>
      modify fun s => { s with
        state := .settling
        nextSampleAt := now + bmp388SettlingTimeMs
        latestEvent := messageEvent "barometer_stabilizing" }
      pure .event

/-- `bmp388_test_process` in the state BMP388_TEST_SETTLING. -/
def barometerSettling (now : UInt32) : BarometerCall ComponentTestProcessResult := do
  if (now - (← get).nextSampleAt).toInt32 < 0 then pure .running
  else do
    modify fun s => { s with
      latestEvent := messageEvent "barometer_ready"
      state := .sampling
      nextSampleAt := now }
    pure .event

/-- `bmp388_test_process` in the state BMP388_TEST_SAMPLING. -/
def barometerSampling (now : UInt32) : BarometerCall ComponentTestProcessResult := do
  if (now - (← get).nextSampleAt).toInt32 < 0 then pure .running
  else do
    modify fun s => { s with nextSampleAt := now + bmp388SampleIntervalMs }
    match ← barometerDriverCall (bmp388DriverReadSample codes false) with
    | none => reportDriverFailure
    | some sample =>
        modify fun s => { s with latestEvent := barometerSampleEvent sample }
        pure .event

/-- `bmp388_test_process`, once the tick has been read. -/
def barometerStep (now : UInt32) : BarometerCall ComponentTestProcessResult := do
  match (← get).state with
  | .initializing => barometerInitializing codes now
  | .settling => barometerSettling now
  | .failed => pure .failed
  | .sampling => barometerSampling codes now

/-- `bmp388_test_process` -/
def bmp388TestProcess : BarometerCall ComponentTestProcessResult := do
  let now ← barometerTick
  barometerStep codes now

/-- `bmp388_test_event` -/
def bmp388TestEvent (s : Bmp388Test) : Option ComponentTestEvent := some s.latestEvent

/-- `bmp388_test_stop` -/
def bmp388TestStop : BarometerCall Unit := do
  let _ ← barometerDriverCall bmp388DriverShutdown

/-! ## Failures of the driver -/

/-- **A failure is diagnosed**: a call has noticed exactly one, and it is stored with its
stage and its reason. -/
structure BarometerDiagnosed (first t : Bmp388Driver) : Prop where
  stored : ∃ stage reason, t.lastFailure.stage = some stage ∧
    t.lastFailure.reason = some reason ∧ IsLabel stage ∧ IsLabel reason
  detected : t.detected = first.detected ++ [t.lastFailure]

variable {codes} {first : Bmp388Driver}

theorem isLabel_failureReason (result : Int8) : IsLabel (ascii (failureReason codes result)) := by
  rw [failureReason]
  split_ifs <;> exact isLabel_of_check (by decide)

theorem triple_storeFailure {α : Type} {after : α → Bmp388Driver → Prop} {stage reason : String}
    {code : Int32} (staged : IsLabel (ascii stage)) (reasoned : IsLabel (ascii reason)) :
    Triple (fun s => s.detected = first.detected) (storeFailure stage reason code) after
      (BarometerDiagnosed first) := by
  refine Triple.bind (M := fun _ => BarometerDiagnosed first) (.change ?_)
    fun _ => .failure fun _ holds => holds
  intro s same
  exact ⟨⟨_, _, rfl, rfl, staged, reasoned⟩, by rw [same]⟩

theorem triple_configureStep {stage : String} (staged : IsLabel (ascii stage)) :
    Triple (fun s => s.detected = first.detected) (configureStep codes stage)
      (fun _ s => s.detected = first.detected) (BarometerDiagnosed first) := by
  refine Triple.bind (M := fun _ s => s.detected = first.detected)
    (.receive fun _ _ _ same _ => same) fun result => Triple.ite (fun _ => ?_)
      fun _ => .pure fun _ same => same
  exact triple_storeFailure staged (isLabel_failureReason result)

/-- **`bmp388_driver_initialize`** -/
theorem triple_bmp388DriverInitialize (first : Bmp388Driver) :
    Triple (fun s => s = first) (bmp388DriverInitialize codes)
      (fun _ s => s.detected = first.detected) (BarometerDiagnosed first) := by
  refine Triple.bind (M := fun _ s => s.detected = first.detected)
    (.change fun s same => by rw [same]) fun _ => ?_
  refine Triple.bind (M := fun _ s => s.detected = first.detected)
    (.receive fun _ _ _ same _ => same) fun answer => Triple.ite
      (fun _ => triple_storeFailure (isLabel_of_check (by decide)) (isLabel_of_check (by decide)))
      fun _ => ?_
  refine Triple.bind (triple_configureStep (isLabel_of_check (by decide))) fun _ => ?_
  refine Triple.bind (triple_configureStep (isLabel_of_check (by decide))) fun _ => ?_
  refine Triple.bind (triple_configureStep (isLabel_of_check (by decide))) fun _ => ?_
  exact .change fun _ same => same

/-- **`bmp388_driver_read_sample`** -/
theorem triple_bmp388DriverReadSample (first : Bmp388Driver) (isNull : Bool) :
    Triple (fun s => s = first) (bmp388DriverReadSample codes isNull)
      (fun _ s => s.detected = first.detected) (BarometerDiagnosed first) := by
  refine Triple.bind (M := fun _ s => s.detected = first.detected)
    (.ask fun s same => by rw [same]) fun ready => Triple.ite
      (fun _ => triple_storeFailure (isLabel_of_check (by decide)) (isLabel_of_check (by decide)))
      fun _ => ?_
  refine Triple.bind (M := fun _ s => s.detected = first.detected)
    (.receive fun _ _ _ same _ => same) fun data => Triple.ite
      (fun _ => triple_storeFailure (isLabel_of_check (by decide)) (isLabel_failureReason _))
      fun _ => Triple.ite
        (fun _ => triple_storeFailure (isLabel_of_check (by decide)) (isLabel_of_check (by decide)))
        fun _ => .pure fun _ same => same

/-! ## What one update can do -/

/-- **What one update of the barometer test can do.** -/
inductive BarometerUpdate (s t : Bmp388Test) : ComponentTestProcessResult → Prop where
  | waits (state : t.state = s.state) (going : s.state ≠ .failed)
      (event : t.latestEvent = s.latestEvent) : BarometerUpdate s t .running
  | tells (going : t.state ≠ .failed) (event : t.latestEvent.IsLabelled) :
      BarometerUpdate s t .event
  | fails (state : t.state = .failed) (event : IsDiagnosis t.latestEvent) :
      BarometerUpdate s t .event
  | failed (before : s.state = .failed) (state : t.state = .failed)
      (event : t.latestEvent = s.latestEvent) : BarometerUpdate s t .failed

variable {s t : Bmp388Test} {result : ComponentTestProcessResult}

theorem barometerTick_returns {now : UInt32} (returned : barometerTick s = some (now, t)) :
    ∃ later, t = { s with ticks := later } := by
  rw [barometerTick] at returned
  cases held : s.ticks with
  | nil =>
      rw [held] at returned
      exact absurd returned.symm (Option.some_ne_none _)
  | cons answer later =>
      rw [held] at returned
      obtain ⟨rfl, rfl⟩ := Prod.mk.inj (Option.some.inj returned)
      exact ⟨later, rfl⟩

/-- A call of the driver whose failures are diagnosed. -/
theorem barometerDriverCall_returns {α : Type} {call : Bmp388Call α} {answer : Option α}
    (triple : ∀ first, Triple (fun s => s = first) call (fun _ s => s.detected = first.detected)
      (BarometerDiagnosed first))
    (returned : barometerDriverCall call s = some (answer, t)) :
    (∃ driver, t = { s with driver := driver }) ∧
      (answer = none → BarometerDiagnosed s.driver t.driver) := by
  obtain ⟨⟨value, driver⟩, called, same⟩ := Option.map_eq_some_iff.mp returned
  obtain ⟨rfl, rfl⟩ := Prod.mk.inj same
  refine ⟨⟨driver, rfl⟩, ?_⟩
  intro missing
  obtain rfl : value = none := missing
  exact (triple s.driver).fails rfl called

theorem reportDriverFailure_returns {first : Bmp388Driver}
    (diagnosed : BarometerDiagnosed first s.driver)
    (returned : reportDriverFailure s = some (result, t)) :
    result = .event ∧ t.state = .failed ∧ IsDiagnosis t.latestEvent := by
  obtain ⟨rfl, rfl⟩ := ComponentCall.pure_eq_some returned
  obtain ⟨stage, reason, hasStage, hasReason, staged, reasoned⟩ := diagnosed.stored
  refine ⟨rfl, rfl, stage, reason, s.driver.lastFailure.code, ?_, staged, reasoned⟩
  show componentFailure s.driver.lastFailure.stage s.driver.lastFailure.reason _ = _
  rw [hasStage, hasReason]

theorem barometerInitializing_returns {now : UInt32}
    (returned : barometerInitializing codes now s = some (result, t)) :
    BarometerUpdate s t result := by
  obtain ⟨answer, called, call, rest⟩ := ComponentCall.bind_eq_some returned
  obtain ⟨⟨driver, rfl⟩, diagnosed⟩ :=
    barometerDriverCall_returns triple_bmp388DriverInitialize call
  cases answer with
  | none =>
      obtain ⟨rfl, state, event⟩ := reportDriverFailure_returns (diagnosed rfl) rest
      exact .fails state event
  | some _ =>
      obtain ⟨rfl, rfl⟩ := ComponentCall.pure_eq_some rest
      exact .tells Bmp388TestState.noConfusion
        (isLabelled_messageEvent (isLabel_of_check (by decide)))

theorem barometerSettling_returns {now : UInt32} (before : s.state = .settling)
    (returned : barometerSettling now s = some (result, t)) : BarometerUpdate s t result := by
  rw [barometerSettling, ComponentCall.get_bind] at returned
  split_ifs at returned with early
  · obtain ⟨rfl, rfl⟩ := ComponentCall.pure_eq_some returned
    exact .waits rfl (by rw [before]; exact Bmp388TestState.noConfusion) rfl
  · obtain ⟨rfl, rfl⟩ := ComponentCall.pure_eq_some returned
    exact .tells Bmp388TestState.noConfusion
      (isLabelled_messageEvent (isLabel_of_check (by decide)))

theorem barometerSampling_returns {now : UInt32} (before : s.state = .sampling)
    (returned : barometerSampling codes now s = some (result, t)) :
    BarometerUpdate s t result := by
  have going : s.state ≠ .failed := by
    rw [before]
    exact Bmp388TestState.noConfusion
  rw [barometerSampling, ComponentCall.get_bind] at returned
  split_ifs at returned with early
  · obtain ⟨rfl, rfl⟩ := ComponentCall.pure_eq_some returned
    exact .waits rfl going rfl
  · rw [ComponentCall.modify_bind] at returned
    obtain ⟨answer, called, call, rest⟩ := ComponentCall.bind_eq_some returned
    obtain ⟨⟨driver, rfl⟩, diagnosed⟩ :=
      barometerDriverCall_returns (fun first => triple_bmp388DriverReadSample first false) call
    cases answer with
    | none =>
        obtain ⟨rfl, state, event⟩ := reportDriverFailure_returns (diagnosed rfl) rest
        exact .fails state event
    | some sample =>
        obtain ⟨rfl, rfl⟩ := ComponentCall.pure_eq_some rest
        exact .tells going ⟨⟨_, rfl, isLabel_of_check (by decide)⟩,
          fun kind => ComponentTestEventKind.noConfusion kind⟩

theorem barometerStep_returns {now : UInt32} (returned : barometerStep codes now s = some (result, t)) :
    BarometerUpdate s t result := by
  rw [barometerStep, ComponentCall.get_bind] at returned
  cases before : s.state with
  | initializing =>
      rw [before] at returned
      exact barometerInitializing_returns returned
  | settling =>
      rw [before] at returned
      exact barometerSettling_returns before returned
  | failed =>
      rw [before] at returned
      obtain ⟨rfl, rfl⟩ := ComponentCall.pure_eq_some returned
      exact .failed before before rfl
  | sampling =>
      rw [before] at returned
      exact barometerSampling_returns before returned

/-- **`bmp388_test_process`** -/
theorem bmp388TestProcess_returns (returned : bmp388TestProcess codes s = some (result, t)) :
    BarometerUpdate s t result := by
  obtain ⟨now, ticked, tick, rest⟩ := ComponentCall.bind_eq_some returned
  obtain ⟨later, rfl⟩ := barometerTick_returns tick
  cases barometerStep_returns rest with
  | waits state going event => exact .waits state going event
  | tells going event => exact .tells going event
  | fails state event => exact .fails state event
  | failed before state event => exact .failed before state event

end FlightComputer.Firmware
