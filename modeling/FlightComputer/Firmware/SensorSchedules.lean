import FlightComputer.Firmware.ProductionRegistry
import FlightComputer.Library.Ticks

/-!
# The sampling schedules

The IMU and the barometer test are polled by the main loop and compare the tick with a deadline
of their own. While the driver succeeds they follow their timetables, also when the tick or the
deadline wraps (`sensor_sampling_schedules`): nothing is told before it is due, and everything
at the first poll from then on.
-/

set_option autoImplicit false

namespace FlightComputer.Firmware

open Library Fallible

/-! ## Timetables -/

/-- What a poll of a component tells: its result and the name of its event. -/
abbrev Told : Type := ComponentTestProcessResult × Option Bytes

/-- An event with a name. -/
def tellsEvent (name : String) : Told := (.event, some (ascii name))

/-- One call of `process`, with what it tells. -/
def pollComponent {σ : Type} (definition : ComponentTestDefinition σ) (s : σ) :
    Option (Option Told × σ) :=
  (definition.process s).map fun returned =>
    (if returned.1 = .running then none
      else some (returned.1, (definition.event.bind fun event => event returned.2).bind
        ComponentTestEvent.name), returned.2)

variable {σ : Type} {definition : ComponentTestDefinition σ} {s t : σ}

theorem pollComponent_running (processed : definition.process s = some (.running, t)) :
    pollComponent definition s = some (none, t) := by
  rw [pollComponent, processed]
  rfl

theorem pollComponent_event {event : σ → Option ComponentTestEvent} {latest : ComponentTestEvent}
    (told : definition.event = some event) (holds : event t = some latest)
    (processed : definition.process s = some (.event, t)) :
    pollComponent definition s = some (some (.event, latest.name), t) := by
  rw [pollComponent, processed, Option.map_some, told, Option.bind_some, holds]
  rfl

/-- The stages of the IMU test. -/
inductive ImuStage where
  | ready
  | sample
  deriving DecidableEq

/-- What the IMU test is to tell: that it is ready, then samples 100 ms apart. -/
def imuTimetable : Timetable ImuStage Told where
  label
    | .ready => tellsEvent "imu_ready"
    | .sample => tellsEvent "imu_sample"
  next _ := .sample
  delay
    | .ready => 0
    | .sample => 100

/-- The stages of the barometer test. -/
inductive BarometerStage where
  | stabilizing
  | ready
  | sample
  deriving DecidableEq

/-- What the barometer test is to tell: that it stabilizes, 2000 ms later that it is ready, then
samples 200 ms apart. -/
def barometerTimetable : Timetable BarometerStage Told where
  label
    | .stabilizing => tellsEvent "barometer_stabilizing"
    | .ready => tellsEvent "barometer_ready"
    | .sample => tellsEvent "barometer_sample"
  next
    | .stabilizing => .ready
    | .ready => .sample
    | .sample => .sample
  delay
    | .stabilizing => 2000
    | .ready => 0
    | .sample => 200

/-! ## The IMU -/

/-- All calls of the IMU driver will succeed, for a number of samples. -/
structure Bmi270Driver.WillSucceed (ok : Int8) (samples : Nat) (driver : Bmi270Driver) : Prop where
  results : ∀ result ∈ driver.results, result = ok
  configured : 3 ≤ driver.results.length
  sampled : ∀ answer ∈ driver.samples, answer.1 = ok
  enough : samples ≤ driver.samples.length

theorem exists_answers {ok : Int8} {results : List Int8} (configured : 3 ≤ results.length)
    (succeed : ∀ result ∈ results, result = ok) : ∃ later, results = ok :: ok :: ok :: later := by
  obtain ⟨first, rest, rfl⟩ := List.exists_cons_of_length_pos
    (Nat.lt_of_lt_of_le (by decide) configured)
  obtain ⟨second, rest, rfl⟩ := List.exists_cons_of_length_pos
    (Nat.lt_of_lt_of_le (by decide) (Nat.le_of_succ_le_succ configured))
  obtain ⟨third, rest, rfl⟩ := List.exists_cons_of_length_pos
    (Nat.lt_of_lt_of_le (by decide) (Nat.le_of_succ_le_succ (Nat.le_of_succ_le_succ configured)))
  obtain ⟨rfl, others⟩ := List.forall_mem_cons.mp succeed
  obtain ⟨rfl, others⟩ := List.forall_mem_cons.mp others
  obtain ⟨rfl, others⟩ := List.forall_mem_cons.mp others
  exact ⟨rest, rfl⟩

theorem bmi2Configure_ok {ok : Int8} {driver : Bmi270Driver} {later : List Int8}
    (answers : driver.results = ok :: later) :
    bmi2Configure ok driver = some (some (), { driver with results := later }) := by
  have received : receive Bmi270Driver.results (fun later s => { s with results := later }) driver =
      some (some ok, { driver with results := later }) := by
    rw [receive, answers]
  rw [bmi2Configure, bind_of_succeeded received, beq_self_eq_true]
  rfl

/-- **The driver is initialized.** -/
theorem bmi270DriverInitialize_ok {ok : Int8} {driver : Bmi270Driver} {later : List Int8}
    (answers : driver.results = ok :: ok :: ok :: later) :
    bmi270DriverInitialize ok driver =
      some (some (), { driver with ready := true, results := later }) := by
  have cleared : change (fun s => { s with ready := false }) driver =
      some (some (), { driver with ready := false }) := rfl
  have first : bmi2Configure ok { driver with ready := false } =
      some (some (), { driver with ready := false, results := ok :: ok :: later }) :=
    bmi2Configure_ok answers
  refine (bind_of_succeeded cleared).trans ?_
  refine (bind_of_succeeded first).trans ?_
  refine (bind_of_succeeded (bmi2Configure_ok rfl)).trans ?_
  exact bind_of_succeeded (bmi2Configure_ok rfl)

/-- **A sample is read.** -/
theorem bmi270DriverReadSample_ok {ok : Int8} {driver : Bmi270Driver} {sample : Bmi270Sample}
    {later : List (Int8 × Bmi270Sample)} (ready : driver.ready = true)
    (answers : driver.samples = (ok, sample) :: later) :
    bmi270DriverReadSample ok driver = some (some sample, { driver with samples := later }) := by
  have asked : ask Bmi270Driver.ready driver = some (some true, driver) := by rw [ask, ready]
  have checked : check true driver = some (some (), driver) := rfl
  have received : receive Bmi270Driver.samples (fun later s => { s with samples := later }) driver =
      some (some (ok, sample), { driver with samples := later }) := by
    rw [receive, answers]
  have accepted : check (ok == ok) { driver with samples := later } =
      some (some (), { driver with samples := later }) := by
    rw [beq_self_eq_true]
    rfl
  refine (bind_of_succeeded asked).trans ?_
  refine (bind_of_succeeded checked).trans ?_
  refine (bind_of_succeeded received).trans ?_
  exact bind_of_succeeded accepted

/-- The IMU test has been started, and no poll is to come before a time. -/
structure ImuStarted (ok : Int8) (due : Nat) (times : List Nat) (s : Bmi270Test) : Prop where
  ticks : s.ticks = times.map tickAt
  state : s.state = .initializing
  event : s.latestEvent.name = some (ascii "imu_ready")
  onward : ∀ now ∈ times.head?, due ≤ now
  driver : s.driver.WillSucceed ok (times.length - 1)

/-- The next sample of the IMU is due at a time. -/
structure ImuSampling (ok : Int8) (due : Nat) (times : List Nat) (s : Bmi270Test) : Prop where
  ticks : s.ticks = times.map tickAt
  state : s.state = .sampling
  deadline : s.nextSampleAt = tickAt due
  ready : s.driver.ready = true
  sampled : ∀ answer ∈ s.driver.samples, answer.1 = ok
  enough : times.length ≤ s.driver.samples.length

/-- The IMU test in a stage that is due at a time, before polls at other times. -/
def ImuOn (ok : Int8) : ImuStage → Nat → List Nat → Bmi270Test → Prop
  | .ready => ImuStarted ok
  | .sample => ImuSampling ok

theorem imuTick_eq {s : Bmi270Test} {now : UInt32} {later : List UInt32}
    (ticks : s.ticks = now :: later) : imuTick s = some (now, { s with ticks := later }) := by
  rw [imuTick, ticks]

theorem bmi270TestProcess_eq (ok : Int8) {s : Bmi270Test} {now : UInt32} {later : List UInt32}
    (ticks : s.ticks = now :: later) :
    bmi270TestProcess ok s = imuStep ok now { s with ticks := later } :=
  ComponentCall.bind_of_returned (imuTick_eq ticks)

/-- The first poll configures the sensor. -/
theorem imu_initializes {ok : Int8} {now : UInt32} {s : Bmi270Test} {later : List Int8}
    (state : s.state = .initializing) (answers : s.driver.results = ok :: ok :: ok :: later) :
    imuStep ok now s = some (.event, { s with
      driver := { s.driver with ready := true, results := later }
      state := .sampling
      nextSampleAt := now }) := by
  have called : imuDriverCall (bmi270DriverInitialize ok) s =
      some (some (), { s with driver := { s.driver with ready := true, results := later } }) := by
    rw [imuDriverCall, bmi270DriverInitialize_ok answers]
    rfl
  rw [imuStep, ComponentCall.get_bind, state]
  exact (ComponentCall.bind_of_returned called).trans rfl

theorem imuStep_sampling {ok : Int8} {now : UInt32} {s : Bmi270Test} (state : s.state = .sampling) :
    imuStep ok now s = imuSampling ok now s := by
  rw [imuStep, ComponentCall.get_bind, state]

/-- A poll that is too early. -/
theorem imu_waits {ok : Int8} {now : UInt32} {s : Bmi270Test}
    (early : (now - s.nextSampleAt).toInt32 < 0) : imuSampling ok now s = some (.running, s) := by
  rw [imuSampling, ComponentCall.get_bind, if_pos early]
  rfl

/-- A poll that is not too early reads a sample. -/
theorem imu_samples {ok : Int8} {now : UInt32} {s : Bmi270Test} {sample : Bmi270Sample}
    {later : List (Int8 × Bmi270Sample)}
    (due : ¬(now - s.nextSampleAt).toInt32 < 0) (ready : s.driver.ready = true)
    (answers : s.driver.samples = (ok, sample) :: later) :
    imuSampling ok now s = some (.event, { s with
      driver := { s.driver with samples := later }
      nextSampleAt := now + bmi270SampleIntervalMs
      latestEvent := imuSampleEvent sample }) := by
  have called : imuDriverCall (bmi270DriverReadSample ok)
      { s with nextSampleAt := now + bmi270SampleIntervalMs } =
        some (some sample, { s with
          nextSampleAt := now + bmi270SampleIntervalMs
          driver := { s.driver with samples := later } }) := by
    rw [imuDriverCall, bmi270DriverReadSample_ok ready answers]
    rfl
  rw [imuSampling, ComponentCall.get_bind, if_neg due, ComponentCall.modify_bind]
  exact (ComponentCall.bind_of_returned called).trans rfl

/-- **One poll of the IMU test** acts as the timetable says. -/
theorem imu_step {ok : Int8} {stage : ImuStage} {due now : Nat} {later : List Nat} {s : Bmi270Test}
    (holds : ImuOn ok stage due (now :: later) s) (near : NearDeadline now due) :
    ∃ done t, pollComponent (imuDefinition ok) s = some (done, t) ∧
      ((now < due ∧ done = none ∧ ImuOn ok stage due later t) ∨
        (due ≤ now ∧ done = some (imuTimetable.label stage) ∧
          ImuOn ok (imuTimetable.next stage) (now + imuTimetable.delay stage) later t)) := by
  cases stage with
  | ready =>
      obtain ⟨ticks, state, event, onward, succeeds⟩ := holds
      obtain ⟨results, configured, sampled, enough⟩ := succeeds
      obtain ⟨rest, answers⟩ := exists_answers configured results
      have processed := (bmi270TestProcess_eq ok ticks).trans (imu_initializes state answers)
      refine ⟨_, _, pollComponent_event rfl rfl processed, .inr ⟨onward now rfl, ?_, ?_⟩⟩
      · rw [event]
        rfl
      · exact ⟨rfl, rfl, rfl, rfl, sampled, enough⟩
  | sample =>
      obtain ⟨ticks, state, deadline, ready, sampled, enough⟩ := holds
      have sampling : bmi270TestProcess ok s =
          imuSampling ok (tickAt now) { s with ticks := later.map tickAt } := by
        rw [bmi270TestProcess_eq ok ticks]
        exact imuStep_sampling state
      by_cases early : now < due
      · have waits := (deadline_early_iff deadline near).mpr early
        have returned := sampling.trans (imu_waits waits)
        refine ⟨_, _, pollComponent_running returned, .inl ⟨early, rfl, ?_⟩⟩
        exact ⟨rfl, state, deadline, ready, sampled, Nat.le_of_succ_le enough⟩
      · have reached := mt (deadline_early_iff deadline near).mp early
        obtain ⟨⟨result, sample⟩, rest, answers⟩ := List.exists_cons_of_length_pos
          (Nat.lt_of_lt_of_le (Nat.succ_pos _) enough)
        rw [answers] at sampled enough
        obtain ⟨rfl, others⟩ := List.forall_mem_cons.mp sampled
        have returned := sampling.trans (imu_samples reached ready answers)
        refine ⟨_, _, pollComponent_event rfl rfl returned, .inr ⟨Nat.le_of_not_lt early, rfl, ?_⟩⟩
        exact ⟨rfl, state, tickAt_add now bmi270SampleIntervalMs, ready, others,
          Nat.le_of_succ_le_succ enough⟩

/-! ## The barometer -/

/-- All calls of the barometer driver will succeed, for a number of samples. -/
structure Bmp388Driver.WillSucceed (codes : Bmp3Codes) (samples : Nat) (driver : Bmp388Driver) :
    Prop where
  probed : ∃ code later, driver.probes = (true, code) :: later
  results : ∀ result ∈ driver.results, result = codes.ok
  configured : 3 ≤ driver.results.length
  sampled : ∀ data ∈ driver.samples, data.result = codes.ok ∧ ¬outOfRange data
  enough : samples ≤ driver.samples.length

variable {codes : Bmp3Codes}

theorem configureStep_ok {stage : String} {driver : Bmp388Driver} {later : List Int8}
    (answers : driver.results = codes.ok :: later) :
    configureStep codes stage driver = some (some (), { driver with results := later }) := by
  have received : bmp3Configure driver = some (some codes.ok, { driver with results := later }) := by
    rw [bmp3Configure, receive, answers]
  rw [configureStep, bind_of_succeeded received, if_neg (not_not_intro rfl)]
  rfl

/-- **The driver is initialized.** -/
theorem bmp388DriverInitialize_ok {driver : Bmp388Driver} {code : UInt32}
    {probes : List (Bool × UInt32)} {later : List Int8}
    (probed : driver.probes = (true, code) :: probes)
    (answers : driver.results = codes.ok :: codes.ok :: codes.ok :: later) :
    bmp388DriverInitialize codes driver = some (some (), { driver with
      ready := true
      lastFailure := ⟨none, none, 0⟩
      probes := probes
      results := later }) := by
  have cleared : change (fun s => { s with ready := false, lastFailure := ⟨none, none, 0⟩ }) driver =
      some (some (), { driver with ready := false, lastFailure := ⟨none, none, 0⟩ }) := rfl
  have acknowledged :
      barometerProbe { driver with ready := false, lastFailure := ⟨none, none, 0⟩ } =
        some (some (true, code), { driver with
          ready := false, lastFailure := ⟨none, none, 0⟩, probes := probes }) := by
    rw [barometerProbe, receive, probed]
  have first : configureStep codes "chip_id_and_calibration" { driver with
      ready := false, lastFailure := ⟨none, none, 0⟩, probes := probes } =
        some (some (), { driver with
          ready := false, lastFailure := ⟨none, none, 0⟩, probes := probes
          results := codes.ok :: codes.ok :: later }) :=
    configureStep_ok answers
  refine (bind_of_succeeded cleared).trans ?_
  refine (bind_of_succeeded acknowledged).trans ?_
  refine (bind_of_succeeded first).trans ?_
  refine (bind_of_succeeded (configureStep_ok rfl)).trans ?_
  exact bind_of_succeeded (configureStep_ok rfl)

/-- **A sample is read.** -/
theorem bmp388DriverReadSample_ok {driver : Bmp388Driver} {data : Bmp3Data} {later : List Bmp3Data}
    (ready : driver.ready = true) (answers : driver.samples = data :: later)
    (result : data.result = codes.ok) (fits : ¬outOfRange data) :
    bmp388DriverReadSample codes false driver =
      some (some ⟨data.pressure.toInt64.toInt32, data.temperature.toInt32⟩,
        { driver with samples := later }) := by
  have asked : ask Bmp388Driver.ready driver = some (some true, driver) := by rw [ask, ready]
  have received : bmp3GetSensorData driver = some (some data, { driver with samples := later }) := by
    rw [bmp3GetSensorData, receive, answers]
  refine (bind_of_succeeded asked).trans ?_
  refine (bind_of_succeeded received).trans ?_
  rw [if_neg (not_not_intro result), if_neg fits]
  rfl

theorem barometerTick_eq {s : Bmp388Test} {now : UInt32} {later : List UInt32}
    (ticks : s.ticks = now :: later) :
    barometerTick s = some (now, { s with ticks := later }) := by
  rw [barometerTick, ticks]

theorem bmp388TestProcess_eq {s : Bmp388Test} {now : UInt32} {later : List UInt32}
    (ticks : s.ticks = now :: later) :
    bmp388TestProcess codes s = barometerStep codes now { s with ticks := later } :=
  ComponentCall.bind_of_returned (barometerTick_eq ticks)

section States

variable {now : UInt32} {s : Bmp388Test}

theorem barometerStep_initializing (state : s.state = .initializing) :
    barometerStep codes now s = barometerInitializing codes now s := by
  rw [barometerStep, ComponentCall.get_bind, state]

theorem barometerStep_settling (state : s.state = .settling) :
    barometerStep codes now s = barometerSettling now s := by
  rw [barometerStep, ComponentCall.get_bind, state]

theorem barometerStep_sampling (state : s.state = .sampling) :
    barometerStep codes now s = barometerSampling codes now s := by
  rw [barometerStep, ComponentCall.get_bind, state]

/-- The first poll configures the sensor. -/
theorem barometer_initializes {code : UInt32} {probes : List (Bool × UInt32)} {later : List Int8}
    (probed : s.driver.probes = (true, code) :: probes)
    (answers : s.driver.results = codes.ok :: codes.ok :: codes.ok :: later) :
    barometerInitializing codes now s = some (.event, { s with
      driver := { s.driver with
        ready := true, lastFailure := ⟨none, none, 0⟩, probes := probes, results := later }
      state := .settling
      nextSampleAt := now + bmp388SettlingTimeMs
      latestEvent := messageEvent "barometer_stabilizing" }) := by
  have called : barometerDriverCall (bmp388DriverInitialize codes) s =
      some (some (), { s with driver := { s.driver with
        ready := true, lastFailure := ⟨none, none, 0⟩, probes := probes, results := later } }) := by
    rw [barometerDriverCall, bmp388DriverInitialize_ok probed answers]
    rfl
  exact (ComponentCall.bind_of_returned called).trans rfl

/-- A poll that is too early to be ready. -/
theorem barometer_settles (early : (now - s.nextSampleAt).toInt32 < 0) :
    barometerSettling now s = some (.running, s) := by
  rw [barometerSettling, ComponentCall.get_bind, if_pos early]
  rfl

/-- A poll that is not too early to be ready. -/
theorem barometer_gets_ready (due : ¬(now - s.nextSampleAt).toInt32 < 0) :
    barometerSettling now s = some (.event, { s with
      latestEvent := messageEvent "barometer_ready", state := .sampling, nextSampleAt := now }) := by
  rw [barometerSettling, ComponentCall.get_bind, if_neg due]
  rfl

/-- A poll that is too early for a sample. -/
theorem barometer_waits (early : (now - s.nextSampleAt).toInt32 < 0) :
    barometerSampling codes now s = some (.running, s) := by
  rw [barometerSampling, ComponentCall.get_bind, if_pos early]
  rfl

/-- A poll that is not too early reads a sample. -/
theorem barometer_samples {data : Bmp3Data} {later : List Bmp3Data}
    (due : ¬(now - s.nextSampleAt).toInt32 < 0) (ready : s.driver.ready = true)
    (answers : s.driver.samples = data :: later) (result : data.result = codes.ok)
    (fits : ¬outOfRange data) :
    barometerSampling codes now s = some (.event, { s with
      driver := { s.driver with samples := later }
      nextSampleAt := now + bmp388SampleIntervalMs
      latestEvent := barometerSampleEvent
        ⟨data.pressure.toInt64.toInt32, data.temperature.toInt32⟩ }) := by
  have called : barometerDriverCall (bmp388DriverReadSample codes false)
      { s with nextSampleAt := now + bmp388SampleIntervalMs } =
        some (some ⟨data.pressure.toInt64.toInt32, data.temperature.toInt32⟩, { s with
          nextSampleAt := now + bmp388SampleIntervalMs
          driver := { s.driver with samples := later } }) := by
    rw [barometerDriverCall, bmp388DriverReadSample_ok ready answers result fits]
    rfl
  rw [barometerSampling, ComponentCall.get_bind, if_neg due, ComponentCall.modify_bind]
  exact (ComponentCall.bind_of_returned called).trans rfl

end States

/-- The barometer test has been started, and no poll is to come before a time. -/
structure BarometerStarted (codes : Bmp3Codes) (due : Nat) (times : List Nat) (s : Bmp388Test) :
    Prop where
  ticks : s.ticks = times.map tickAt
  state : s.state = .initializing
  onward : ∀ now ∈ times.head?, due ≤ now
  driver : s.driver.WillSucceed codes (times.length - 1)

/-- The barometer test is in a state that lasts until a time. -/
structure BarometerWaiting (codes : Bmp3Codes) (state : Bmp388TestState) (due : Nat)
    (times : List Nat) (s : Bmp388Test) : Prop where
  ticks : s.ticks = times.map tickAt
  state : s.state = state
  deadline : s.nextSampleAt = tickAt due
  ready : s.driver.ready = true
  sampled : ∀ data ∈ s.driver.samples, data.result = codes.ok ∧ ¬outOfRange data
  enough : times.length ≤ s.driver.samples.length

/-- The barometer test in a stage that is due at a time, before polls at other times. -/
def BarometerOn (codes : Bmp3Codes) : BarometerStage → Nat → List Nat → Bmp388Test → Prop
  | .stabilizing => BarometerStarted codes
  | .ready => BarometerWaiting codes .settling
  | .sample => BarometerWaiting codes .sampling

/-- **One poll of the barometer test** acts as the timetable says. -/
theorem barometer_step {stage : BarometerStage} {due now : Nat} {later : List Nat} {s : Bmp388Test}
    (holds : BarometerOn codes stage due (now :: later) s) (near : NearDeadline now due) :
    ∃ done t, pollComponent (barometerDefinition codes) s = some (done, t) ∧
      ((now < due ∧ done = none ∧ BarometerOn codes stage due later t) ∨
        (due ≤ now ∧ done = some (barometerTimetable.label stage) ∧
          BarometerOn codes (barometerTimetable.next stage) (now + barometerTimetable.delay stage)
            later t)) := by
  cases stage with
  | stabilizing =>
      obtain ⟨ticks, state, onward, succeeds⟩ := holds
      obtain ⟨⟨code, probes, probed⟩, results, configured, sampled, enough⟩ := succeeds
      obtain ⟨rest, answers⟩ := exists_answers configured results
      have initializing : bmp388TestProcess codes s =
          barometerInitializing codes (tickAt now) { s with ticks := later.map tickAt } := by
        rw [bmp388TestProcess_eq ticks]
        exact barometerStep_initializing state
      have processed := initializing.trans (barometer_initializes probed answers)
      refine ⟨_, _, pollComponent_event rfl rfl processed, .inr ⟨onward now rfl, rfl, ?_⟩⟩
      exact ⟨rfl, rfl, tickAt_add now bmp388SettlingTimeMs, rfl, sampled, enough⟩
  | ready =>
      obtain ⟨ticks, state, deadline, ready, sampled, enough⟩ := holds
      have settling : bmp388TestProcess codes s =
          barometerSettling (tickAt now) { s with ticks := later.map tickAt } := by
        rw [bmp388TestProcess_eq ticks]
        exact barometerStep_settling state
      by_cases early : now < due
      · have waits := (deadline_early_iff deadline near).mpr early
        have returned := settling.trans (barometer_settles waits)
        refine ⟨_, _, pollComponent_running returned, .inl ⟨early, rfl, ?_⟩⟩
        exact ⟨rfl, state, deadline, ready, sampled, Nat.le_of_succ_le enough⟩
      · have reached := mt (deadline_early_iff deadline near).mp early
        have returned := settling.trans (barometer_gets_ready reached)
        refine ⟨_, _, pollComponent_event rfl rfl returned,
          .inr ⟨Nat.le_of_not_lt early, rfl, ?_⟩⟩
        exact ⟨rfl, rfl, rfl, ready, sampled, Nat.le_of_succ_le enough⟩
  | sample =>
      obtain ⟨ticks, state, deadline, ready, sampled, enough⟩ := holds
      have sampling : bmp388TestProcess codes s =
          barometerSampling codes (tickAt now) { s with ticks := later.map tickAt } := by
        rw [bmp388TestProcess_eq ticks]
        exact barometerStep_sampling state
      by_cases early : now < due
      · have waits := (deadline_early_iff deadline near).mpr early
        have returned := sampling.trans (barometer_waits waits)
        refine ⟨_, _, pollComponent_running returned, .inl ⟨early, rfl, ?_⟩⟩
        exact ⟨rfl, state, deadline, ready, sampled, Nat.le_of_succ_le enough⟩
      · have reached := mt (deadline_early_iff deadline near).mp early
        obtain ⟨data, rest, answers⟩ := List.exists_cons_of_length_pos
          (Nat.lt_of_lt_of_le (Nat.succ_pos _) enough)
        rw [answers] at sampled enough
        obtain ⟨⟨result, fits⟩, others⟩ := List.forall_mem_cons.mp sampled
        have returned := sampling.trans (barometer_samples reached ready answers result fits)
        refine ⟨_, _, pollComponent_event rfl rfl returned,
          .inr ⟨Nat.le_of_not_lt early, rfl, ?_⟩⟩
        exact ⟨rfl, state, tickAt_add now bmp388SampleIntervalMs, ready, others,
          Nat.le_of_succ_le_succ enough⟩

/-! ## Whole runs -/

/-- **The schedule of the IMU**: after the first event, samples at least 100 ms apart, and each at
the first poll that is not too early. -/
structure ImuSchedule (start : Nat) (polls : List (Poll Told)) : Prop where
  follows : imuTimetable.Follows .ready start polls
  emitted : ∃ samples, emissions polls = (start, tellsEvent "imu_ready") :: samples ∧
    (∀ sample ∈ samples, sample.2 = tellsEvent "imu_sample") ∧
    samples.Pairwise fun earlier later => earlier.1 + 100 ≤ later.1

/-- **The schedule of the barometer**: after the first event, another one when 2000 ms have
passed, then samples at least 200 ms apart, and each at the first poll that is not too early. -/
structure BarometerSchedule (start : Nat) (polls : List (Poll Told)) : Prop where
  follows : barometerTimetable.Follows .stabilizing start polls
  emitted : ∃ others, emissions polls = (start, tellsEvent "barometer_stabilizing") :: others ∧
    ∀ ready done samples, others = (ready, done) :: samples →
      done = tellsEvent "barometer_ready" ∧ start + 2000 ≤ ready ∧
      (∀ sample ∈ samples, sample.2 = tellsEvent "barometer_sample" ∧ ready ≤ sample.1) ∧
      samples.Pairwise fun earlier later => earlier.1 + 200 ≤ later.1

variable {ok : Int8} {start : Nat} {later : List Nat}

theorem imu_schedule {s : Bmi270Test} (advances : Advances (start :: later))
    (started : ImuOn ok .ready start (start :: later) s) :
    ∃ polls t, runPolls (pollComponent (imuDefinition ok)) (start :: later) s = some (polls, t) ∧
      ImuSchedule start polls := by
  have short : ∀ stage, imuTimetable.delay stage ≤ 2 ^ 31 := by
    intro stage
    cases stage <;> decide
  obtain ⟨polls, t, run, follows⟩ :=
    Timetable.exists_run short (fun _ _ _ _ _ => imu_step) started advances (nearDeadline_head _ _)
  obtain ⟨done, rest, rfl⟩ := runPolls_cons run
  obtain ⟨emitted, spaced⟩ := Timetable.Follows.first follows
  obtain ⟨labelled, apart⟩ := spaced.pairwise rfl
  exact ⟨_, t, run, follows, _, emitted, fun sample listed => (labelled sample listed).1, apart⟩

theorem barometer_schedule {s : Bmp388Test} (advances : Advances (start :: later))
    (started : BarometerOn codes .stabilizing start (start :: later) s) :
    ∃ polls t, runPolls (pollComponent (barometerDefinition codes)) (start :: later) s =
        some (polls, t) ∧ BarometerSchedule start polls := by
  have short : ∀ stage, barometerTimetable.delay stage ≤ 2 ^ 31 := by
    intro stage
    cases stage <;> decide
  obtain ⟨polls, t, run, follows⟩ := Timetable.exists_run short (fun _ _ _ _ _ => barometer_step)
    started advances (nearDeadline_head _ _)
  obtain ⟨done, rest, rfl⟩ := runPolls_cons run
  obtain ⟨emitted, spaced⟩ := Timetable.Follows.first follows
  refine ⟨_, t, run, follows, _, emitted, ?_⟩
  intro ready done samples others
  rw [others] at spaced
  obtain ⟨rfl, settled, sampling⟩ := spaced
  obtain ⟨labelled, apart⟩ := Timetable.Spaced.pairwise rfl sampling
  exact ⟨rfl, settled, labelled, apart⟩

/-- **The sensors are sampled on schedule**, whatever the ticks of the polls, as long as they
advance by less than 2³¹ from one poll to the next. -/
theorem sensor_sampling_schedules {tick : UInt32} {ticks : List UInt32} {imu : Bmi270Test}
    {barometer : Bmp388Test} (parameters : ComponentTestParameters)
    (advance : (tick :: ticks).IsChain fun earlier later => (later - earlier).toNat < 2 ^ 31)
    (imuTicks : imu.ticks = tick :: ticks) (imuDriver : imu.driver.WillSucceed ok ticks.length)
    (barometerTicks : barometer.ticks = tick :: ticks)
    (barometerDriver : barometer.driver.WillSucceed codes ticks.length) :
    (∃ started polls t, (imuDefinition ok).start parameters imu = some ((), started) ∧
      runPolls (pollComponent (imuDefinition ok)) (timesFrom 0 (tick :: ticks)) started =
        some (polls, t) ∧ ImuSchedule tick.toNat polls) ∧
    ∃ started polls t, (barometerDefinition codes).start parameters barometer = some ((), started) ∧
      runPolls (pollComponent (barometerDefinition codes)) (timesFrom 0 (tick :: ticks)) started =
        some (polls, t) ∧ BarometerSchedule tick.toNat polls := by
  have advances : Advances (timesFrom 0 (tick :: ticks)) := advances_timesFrom advance
  have spelled : (timesFrom 0 (tick :: ticks)).map tickAt = tick :: ticks := map_tickAt_timesFrom
  rw [timesFrom_zero] at advances spelled ⊢
  have counted : (timesFrom tick.toNat ticks).length = ticks.length := length_timesFrom
  rw [← counted] at imuDriver barometerDriver
  have onward : ∀ now ∈ (tick.toNat :: timesFrom tick.toNat ticks).head?, tick.toNat ≤ now := by
    intro now head
    exact Nat.le_of_eq (Option.some.inj head)
  have imuStarted : ImuOn ok .ready tick.toNat (tick.toNat :: timesFrom tick.toNat ticks)
      { imu with state := .initializing, latestEvent := messageEvent "imu_ready" } :=
    ⟨imuTicks.trans spelled.symm, rfl, rfl, onward, imuDriver⟩
  have barometerStarted :
      BarometerOn codes .stabilizing tick.toNat (tick.toNat :: timesFrom tick.toNat ticks)
        { barometer with state := .initializing, latestEvent := messageEvent "barometer_ready" } :=
    ⟨barometerTicks.trans spelled.symm, rfl, onward, barometerDriver⟩
  obtain ⟨imuPolls, imuLast, imuRun, imuSchedule⟩ := imu_schedule advances imuStarted
  obtain ⟨polls, last, run, schedule⟩ := barometer_schedule advances barometerStarted
  exact ⟨⟨_, imuPolls, imuLast, rfl, imuRun, imuSchedule⟩, _, polls, last, rfl, run, schedule⟩

/-- Ticks that wrap while the barometer settles. -/
def wrappingTicks : List UInt32 := [100, 1703, 1704, 1705, 1904]

/-- An IMU whose driver will succeed. -/
def healthyImu : Bmi270Test where
  driver :=
    { ready := false, results := List.replicate 3 7
      samples := List.replicate 5 (7, ⟨2, 3, 4, 5, 6, 7⟩) }
  state := .failed
  nextSampleAt := 12
  latestEvent := messageEvent "imu_ready"
  ticks := 4294967000 :: wrappingTicks

/-- Result codes that differ. -/
def bmp3Codes : Bmp3Codes := ⟨7, -2, -3, -4, -5, -6⟩

/-- A barometer whose driver will succeed. -/
def healthyBarometer : Bmp388Test where
  driver :=
    { ready := false, lastFailure := ⟨none, none, 7⟩, probes := [(true, 7)]
      results := List.replicate 3 7
      samples := List.replicate 5 ⟨7, 10132500, 2150⟩, detected := [] }
  state := .failed
  nextSampleAt := 12
  latestEvent := messageEvent "barometer_ready"
  ticks := 4294967000 :: wrappingTicks

theorem sensor_sampling_schedules_wrapping :
    (∃ started polls t, (imuDefinition 7).start ⟨false, 7, 7, 7⟩ healthyImu = some ((), started) ∧
      runPolls (pollComponent (imuDefinition 7)) (timesFrom 0 (4294967000 :: wrappingTicks))
        started = some (polls, t) ∧ ImuSchedule (4294967000 : UInt32).toNat polls) ∧
    ∃ started polls t, (barometerDefinition bmp3Codes).start ⟨false, 7, 7, 7⟩ healthyBarometer =
        some ((), started) ∧
      runPolls (pollComponent (barometerDefinition bmp3Codes))
        (timesFrom 0 (4294967000 :: wrappingTicks)) started =
          some (polls, t) ∧ BarometerSchedule (4294967000 : UInt32).toNat polls := by
  have results : ∀ result ∈ List.replicate 3 (7 : Int8), result = 7 := fun result listed =>
    List.eq_of_mem_replicate listed
  refine sensor_sampling_schedules ⟨false, 7, 7, 7⟩ (by decide) rfl ?_ rfl ?_
  · refine ⟨results, by decide, fun answer listed => ?_, by decide⟩
    rw [List.eq_of_mem_replicate listed]
  · refine ⟨⟨7, [], rfl⟩, results, by decide, fun data listed => ?_, by decide⟩
    rw [List.eq_of_mem_replicate listed]
    exact ⟨rfl, by decide⟩

end FlightComputer.Firmware
