import FlightComputer.Firmware.SdCardAddressing
import FlightComputer.Firmware.SdCardVerdict

/-!
# The clock of the SD card

The speed of the card's SPI device outlives a run of the test: an initialization that
comes to its last step raises it, and nothing lowers it again. So the identification of a
card is slow as long as every run begins at the slow speed (`identification_is_slow`), and
the second run after a success is not (`second_identification_fast`).
-/

set_option autoImplicit false

namespace FlightComputer.Firmware

open Library Fallible

/-! ## What the calls of the driver do to the device -/

/-- Transfers at the speed of the device, which is kept, and no progress of an
initialization. -/
structure AtSameSpeed (s t : SdCardDriver) : Prop where
  sent : SentOnly AnyBytes s.spi t.spi
  highSpeed : t.highSpeedReached = s.highSpeedReached

theorem atSameSpeed_block {s t : SdCardDriver} {operation : BlockOperation} {block : UInt32}
    {result : Option Unit} (returned : operation.call block s = some (result, t)) :
    AtSameSpeed s t := by
  cases result with
  | none =>
      have failed := (triple_blockCall operation block).fails rfl returned
      exact ⟨failed.sent, failed.highSpeed⟩
  | some _ =>
      have done := (triple_blockCall operation block).success rfl returned
      exact ⟨done.sent, done.highSpeed⟩

theorem atSameSpeed_shutdown {s t : SdCardDriver} {result : Option Unit}
    (returned : sdCardDriverShutdown s = some (result, t)) : AtSameSpeed s t := by
  have closed : SpiClosed AnyBytes (AtSameSpeed s) := fun _ _ holds sent =>
    ⟨holds.sent.trans sent, holds.highSpeed⟩
  have spec : Keeps (AtSameSpeed s) (AtSameSpeed s) sdCardDriverShutdown :=
    keeps_bind keeps_ask fun _ =>
      Triple.ite (fun _ => keeps_deselectCard closed fun _ => trivial) fun _ => keeps_pure
  have first : AtSameSpeed s s := ⟨.refl _, rfl⟩
  cases result with
  | none => exact spec.fails first returned
  | some _ => exact spec.success first returned

theorem initialized_of_returned {s t : SdCardDriver} {result : Option Unit}
    (returned : sdCardDriverInitialize false s = some (result, t)) : Initialized s t := by
  cases result with
  | none => exact ((triple_initialization s false).fails rfl returned).toInitialized
  | some _ => exact ((triple_initialization s false).success rfl returned).1

/-! ## Slow identification -/

/-- The slow prescaler, for 328.125 kHz. -/
def identificationPrescaler : Prescaler := 256

/-- **The identification is slow**: every byte that an initialization has transferred from
the initial clocks to the CSD was clocked with the slow prescaler, and the fast one is in
force only if an initialization of the current run has come to its last step. -/
structure SlowIdentification (s : SdCardDriver) : Prop where
  identification : ∀ transfer ∈ s.spi.transfers, transfer.identifying = true →
    transfer.prescaler = identificationPrescaler
  fast : s.spi.speed = 4 → s.highSpeedReached = true

/-- A run begins at the slow speed. -/
def StartsSlow (s : SdCardTest SdCardDriver) (call : SdCardTestCall) : Prop :=
  call = .start → s.driver.spi.speed = identificationPrescaler

/-- **The invariant of the clock.** -/
structure SdClock (s : SdCardTest SdCardDriver) : Prop where
  identification : ∀ transfer ∈ s.driver.spi.transfers, transfer.identifying = true →
    transfer.prescaler = identificationPrescaler
  speed : s.driver.highSpeedReached = true ∨ s.driver.spi.speed = identificationPrescaler
  unmarked : s.driver.spi.identifying = false
  waiting : s.state.isWaiting = true ∨ s.state = .initializing →
    s.driver.spi.speed = identificationPrescaler

namespace SdClock

variable {s t : SdCardTest SdCardDriver}

/-- The driver and the kind of the state decide. -/
theorem congr (clock : SdClock s) (driver : t.driver = s.driver)
    (waiting : t.state.isWaiting = true ∨ t.state = .initializing →
      s.state.isWaiting = true ∨ s.state = .initializing) : SdClock t where
  identification := by
    rw [driver]
    exact clock.identification
  speed := by
    rw [driver]
    exact clock.speed
  unmarked := by
    rw [driver]
    exact clock.unmarked
  waiting state := by
    rw [driver]
    exact clock.waiting (waiting state)

/-- Transfers that are not marked keep it. -/
theorem atSameSpeed (clock : SdClock s) (same : AtSameSpeed s.driver t.driver)
    (waiting : t.state.isWaiting = true ∨ t.state = .initializing →
      s.state.isWaiting = true ∨ s.state = .initializing) : SdClock t := by
  obtain ⟨sent, clocked, _⟩ := same.sent
  refine ⟨?_, ?_, clocked.identifying.trans clock.unmarked, fun state => ?_⟩
  · intro transfer listed marked
    rw [clocked.transfers] at listed
    rcases List.mem_append.mp listed with early | late
    · exact clock.identification transfer early marked
    · obtain ⟨_, _, rfl⟩ := List.mem_map.mp late
      exact absurd (clock.unmarked.symm.trans marked) Bool.false_ne_true
  · rw [same.highSpeed, clocked.speed]
    exact clock.speed
  · rw [clocked.speed]
    exact clock.waiting (waiting state)

/-- An initialization at the slow speed keeps it. -/
theorem initialization (clock : SdClock s) (state : s.state = .initializing)
    (initialized : Initialized s.driver t.driver)
    (working : ¬(t.state.isWaiting = true ∨ t.state = .initializing)) : SdClock t := by
  have slow := clock.waiting (.inr state)
  refine ⟨?_, ?_, initialized.unmarked clock.unmarked, fun waiting => absurd waiting working⟩
  · intro transfer listed marked
    obtain ⟨made, whole, speed⟩ := initialized.transfers
    rw [whole] at listed
    rcases List.mem_append.mp listed with early | late
    · exact clock.identification transfer early marked
    · exact (speed transfer late).trans slow
  · exact initialized.speed.imp_right fun same => same.2.trans slow

theorem not_waiting_of_operation {state : SdCardTestState} (operation : BlockOperation)
    (same : state = operation.state ∨ state = operation.next ∨ state = .failed ∨
      state = .writing) : ¬(state.isWaiting = true ∨ state = .initializing) := by
  rintro (waiting | waiting) <;> rcases same with rfl | rfl | rfl | rfl <;>
    cases operation <;> cases waiting

/-- **An update keeps the invariant.** -/
theorem process {result : ComponentTestProcessResult} (clock : SdClock s)
    (processed : Processed sdCardDriverCalls s t result) : SdClock t := by
  cases processed with
  | waits reads before state block driver actions =>
      exact clock.congr driver fun _ => .inl before
  | announces reads before state block driver listed event actions =>
      exact clock.congr driver fun _ => .inl before
  | removed pending state driver listed event actions =>
      exact clock.congr driver fun waiting =>
        absurd waiting (not_waiting_of_operation .write (.inr (.inr (.inl state))))
  | callFails pending called state event actions =>
      have working := not_waiting_of_operation .write (.inr (.inr (.inl state)))
      cases pending with
      | initialization before =>
          exact clock.initialization before (initialized_of_returned called) working
      | block operation before =>
          exact clock.atSameSpeed (atSameSpeed_block called) fun waiting => absurd waiting working
  | initialized before called state block event actions =>
      exact clock.initialization before (initialized_of_returned called)
        (not_waiting_of_operation .write (.inr (.inr (.inr state))))
  | blockDone operation before called more state block actions =>
      exact clock.atSameSpeed (atSameSpeed_block called) fun waiting =>
        absurd waiting (not_waiting_of_operation operation (.inl (state.trans before)))
  | phaseDone operation before called last state block event actions =>
      exact clock.atSameSpeed (atSameSpeed_block called) fun waiting =>
        absurd waiting (not_waiting_of_operation operation (.inr (.inl state)))
  | passed state same => exact same ▸ clock
  | failed state same => exact same ▸ clock

/-- **Every step of a run that begins slowly keeps the invariant.** -/
theorem step {call : SdCardTestCall} (clock : SdClock s)
    (step : Restricted (SdCardTestStep sdCardDriverCalls) StartsSlow s call t) : SdClock t := by
  obtain ⟨step, slow⟩ := step
  cases step with
  | start returned =>
      obtain ⟨state, _, driver, _⟩ := sdCardTestStart_returns returned
      have device : t.driver.spi = s.driver.spi := by rw [driver]; rfl
      have speed : t.driver.spi.speed = identificationPrescaler := by
        rw [device]
        exact slow rfl
      exact ⟨device ▸ clock.identification, .inr speed, device ▸ clock.unmarked, fun _ => speed⟩
  | process returned =>
      have kept := clock.process (sdCardTestProcess_returns returned)
      refine kept.congr ?_ fun waiting => ?_
      · rw [SdCardTest.emit]
        split_ifs <;> rfl
      · rw [SdCardTest.emit] at waiting
        split_ifs at waiting <;> exact waiting
  | stop returned =>
      obtain ⟨_, driver, called, rfl⟩ := sdCardTestStop_returns returned
      exact clock.atSameSpeed (atSameSpeed_shutdown called) id

/-- The invariant holds after a reset. -/
theorem initial (answers : HardwareAnswers) (ticks : List UInt32) (cardReads : List Bool) :
    SdClock (.initial (.initial answers) ticks cardReads) :=
  ⟨fun _ listed => absurd listed List.not_mem_nil, .inr rfl, rfl, fun _ => rfl⟩

end SdClock

/-- **The identification is slow in every power cycle whose runs begin slowly**, whatever
the hardware answers. -/
theorem identification_is_slow {answers : HardwareAnswers} {ticks : List UInt32}
    {cardReads : List Bool} {labels : List SdCardTestCall} {s : SdCardTest SdCardDriver}
    (run : Run (Restricted (SdCardTestStep sdCardDriverCalls) StartsSlow)
      (.initial (.initial answers) ticks cardReads) labels s) : SlowIdentification s.driver := by
  have clock : SdClock s := run.invariant (I := SdClock) (fun _ _ _ before step => before.step step)
    (.initial answers ticks cardReads)
  refine ⟨clock.identification, fun fast => clock.speed.resolve_right fun slow => ?_⟩
  rw [fast] at slow
  cases slow

/-- A run without a start is unrestricted. -/
theorem restricted_of_no_start {s t : SdCardTest SdCardDriver} {labels : List SdCardTestCall}
    (run : Run (SdCardTestStep sdCardDriverCalls) s labels t) (going : .start ∉ labels) :
    Run (Restricted (SdCardTestStep sdCardDriverCalls) StartsSlow) s labels t := by
  induction run with
  | refl => exact .refl _
  | tail _ last ih =>
      refine .tail (ih fun listed => going (List.mem_append_left _ listed)) ⟨last, ?_⟩
      rintro rfl
      exact absurd (List.mem_append_right _ (List.mem_singleton_self _)) going

/-- The test after a reset: a card of 1024 sectors is inserted, and after one
initialization and a shutdown the hardware fails. -/
def failingLater : SdCardTest SdCardDriver :=
  .initial
    (.initial
      { initResults := [true, true]
        deInitResults := [true]
        replies := ((byteAddressedAnswers (csdOfSize 0 0) ++ [0xFF]).map
          fun byte => some fun _ => byte) ++ [none]
        ticks := List.replicate 7 0 })
    [0, 0, 20, 40, 60, 60, 80, 100]
    [false, true, true, true, true, false, true, true, true, true]

set_option maxRecDepth 4000 in
/-- The first run of a power cycle. -/
theorem identification_is_slow_once : ∃ labels s,
    Run (Restricted (SdCardTestStep sdCardDriverCalls) StartsSlow) failingLater labels s ∧
      s.driver.highSpeedReached = true ∧ SlowIdentification s.driver := by
  have started : (performCall sdCardDriverCalls failingLater .start).isSome = true := by
    decide +kernel
  obtain ⟨begun, starts⟩ := Option.isSome_iff_exists.mp started
  have goes : ((callsToWriting.tail.foldlM (performCall sdCardDriverCalls) begun).map
      fun s => s.driver.highSpeedReached) = some true := by
    have whole : (callsToWriting.foldlM (performCall sdCardDriverCalls) failingLater).map
        (fun s => s.driver.highSpeedReached) = some true := by
      decide +kernel
    rw [callsToWriting, List.foldlM_cons, starts] at whole
    exact whole
  obtain ⟨s, performed, reached⟩ := Option.map_eq_some_iff.mp goes
  have run := Run.head
    (show Restricted (SdCardTestStep sdCardDriverCalls) StartsSlow failingLater .start begun from
      ⟨step_of_performCall starts, fun _ => rfl⟩)
    (restricted_of_no_start (run_of_performed performed) (by decide))
  exact ⟨_, s, run, reached, identification_is_slow run⟩

/-- A run that is stopped after its initialization, and a second one. -/
def twoRuns : List SdCardTestCall := callsToWriting ++ [.stop] ++ callsToWriting

set_option maxRecDepth 4000 in
/-- **The second run after a success identifies the card at the high speed**: its first
byte is clocked with prescaler 4. -/
theorem second_identification_fast : ∃ labels s,
    Run (SdCardTestStep sdCardDriverCalls) failingLater labels s ∧
      ∃ transfer ∈ s.driver.spi.transfers, transfer.identifying = true ∧
        transfer.prescaler = 4 := by
  have runs : (twoRuns.foldlM (performCall sdCardDriverCalls) failingLater).map
      (fun s => s.driver.spi.transfers.any fun transfer =>
        transfer.identifying && transfer.prescaler == 4) = some true := by
    decide +kernel
  obtain ⟨s, performed, found⟩ := Option.map_eq_some_iff.mp runs
  obtain ⟨transfer, listed, marked⟩ := List.any_eq_true.mp found
  obtain ⟨identifying, fast⟩ := Bool.and_eq_true_iff.mp marked
  exact ⟨_, s, run_of_performed performed, transfer, listed, identifying, beq_iff_eq.mp fast⟩

end FlightComputer.Firmware
