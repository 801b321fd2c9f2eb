import FlightComputer.Firmware.SdCardDiagnosis

/-!
# Initializing the SD card

What `sd_card_driver_initialize` does to the state it is called in: all its transfers are
clocked at the speed that the device had before, and the speed changes in the last step
alone. A card that has been initialized has a test area; a failure has been stored
(`triple_initialization`).
-/

set_option autoImplicit false

namespace FlightComputer.Firmware

open Library Fallible

/-- A failure is stored with the labels of its stage and its reason. -/
def FailureStored (s : SdCardDriver) : Prop :=
  ∃ stage reason, s.lastFailure.stage = some stage ∧ s.lastFailure.reason = some reason ∧
    IsLabel stage ∧ IsLabel reason

/-- Transfers at one speed since some state of the device. -/
def TransfersAt (first : SpiDevice) (device : SpiDevice) : Prop :=
  ∃ made, device.transfers = first.transfers ++ made ∧
    ∀ transfer ∈ made, transfer.prescaler = first.speed

/-- **What an initialization has done**, whatever its result: transfers at the speed
that it found, which it has changed only if it came to its last step; and it has not left
the marking of transfers on. -/
structure Initialized (first t : SdCardDriver) : Prop where
  transfers : TransfersAt first.spi t.spi
  speed : t.highSpeedReached = true ∨
    (t.highSpeedReached = first.highSpeedReached ∧ t.spi.speed = first.spi.speed)
  unmarked : first.spi.identifying = false → t.spi.identifying = false

theorem Clocked.transfersAt {first device : SpiDevice} {sent : List Bytes}
    (clocked : Clocked first sent device) : TransfersAt first device := by
  refine ⟨_, clocked.transfers, ?_⟩
  intro transfer listed
  obtain ⟨_, _, rfl⟩ := List.mem_map.mp listed
  rfl

theorem TransfersAt.trans {a b c : SpiDevice} (before : TransfersAt a b) (same : b.speed = a.speed)
    (after : TransfersAt b c) : TransfersAt a c := by
  obtain ⟨made, whole, slow⟩ := before
  obtain ⟨made', whole', slow'⟩ := after
  refine ⟨made ++ made', by rw [whole', whole, List.append_assoc], ?_⟩
  intro transfer listed
  rcases List.mem_append.mp listed with early | late
  · exact slow transfer early
  · exact (slow' transfer late).trans same

/-- Every byte string. -/
def AnyBytes (_ : Bytes) : Prop := True

variable {first : SdCardDriver}

/-- While the card is not identified yet, the call has come so far. -/
theorem Initialized.of_sent {s : SdCardDriver} (sent : SentOnly AnyBytes first.spi s.spi)
    (highSpeed : s.highSpeedReached = first.highSpeedReached) : Initialized first s := by
  obtain ⟨_, clocked, _⟩ := sent
  exact ⟨clocked.transfersAt, .inr ⟨highSpeed, clocked.speed⟩, clocked.identifying.trans⟩

/-- What the identification leaves for the last step. -/
structure Identified (first s : SdCardDriver) : Prop where
  transfers : TransfersAt first.spi s.spi
  speed : s.spi.speed = first.spi.speed
  highSpeed : s.highSpeedReached = first.highSpeedReached
  unmarked : s.spi.identifying = false
  located : Located s.registers s.highCapacity s.information
  stored : s.lastFailure.reason = none
  detected : s.detected = first.detected
  device : s.device = true

/-- A call that fails leaves this behind. -/
structure InitializationFailed (first t : SdCardDriver) : Prop extends Initialized first t where
  stored : FailureStored t
  detected : t.detected = first.detected ++ [t.lastFailure]

theorem InitializationFailed.of_diagnosed {s : SdCardDriver}
    (diagnosed : Diagnosed AnyBytes first (fun _ _ _ => True) s) : InitializationFailed first s :=
  ⟨.of_sent diagnosed.sent diagnosed.highSpeed, diagnosed.stored, diagnosed.detected⟩

/-- **The identification**, its transfers marked. -/
theorem triple_markedIdentification :
    Triple (fun s => Undiagnosed AnyBytes first (fun _ _ _ => True) s ∧ s.device = true)
      markedIdentification (fun _ => Identified first) (InitializationFailed first) := by
  rintro s result t ⟨holds, device⟩ returned
  obtain ⟨sent, clocked, _⟩ := holds.sent
  -- the marked transfers are counted from the state in which they are marked
  let marked : SdCardDriver := { s with spi := { s.spi with identifying := true } }
  have rest : Triple (fun x => x = s) markedIdentification (fun _ => Identified first)
      (InitializationFailed first) := by
    refine Triple.bind (M := fun _ => Undiagnosed AnyBytes marked fun _ _ _ => True)
      (.change ?_) fun _ => ?_
    · rintro x rfl
      exact ⟨.refl _, rfl, trivial, holds.stored, rfl, holds.stage, id⟩
    · refine Triple.bind (M := fun _ => Undiagnosed AnyBytes marked Located)
        (Triple.orElse (triple_identifyCard fun _ => trivial) ?_) fun _ => .change ?_
      · refine Triple.bind (M := fun _ => InitializationFailed first) (.change ?_)
          fun _ => .failure fun _ failed => failed
        intro x failed
        obtain ⟨_, clocked', _⟩ := failed.sent
        refine ⟨⟨clocked.transfersAt.trans clocked.speed clocked'.transfersAt,
          .inr ⟨failed.highSpeed.trans holds.highSpeed, clocked'.speed.trans clocked.speed⟩,
          fun _ => rfl⟩, failed.stored, ?_⟩
        rw [← holds.detected]
        exact failed.detected
      · intro x found
        obtain ⟨_, clocked', _⟩ := found.sent
        exact ⟨clocked.transfersAt.trans clocked.speed clocked'.transfersAt,
          clocked'.speed.trans clocked.speed, found.highSpeed.trans holds.highSpeed, rfl,
          found.keeps, found.stored, found.detected.trans holds.detected, found.device device⟩
  exact rest s result t rfl returned

/-- What the last step has of the state before it. -/
structure AtHighSpeed (first s : SdCardDriver) : Prop extends Initialized first s where
  reached : s.highSpeedReached = true
  located : Located s.registers s.highCapacity s.information
  stored : s.lastFailure.reason = none
  detected : s.detected = first.detected
  stage : ∃ stage, s.activeStage = some stage ∧ IsLabel stage
  device : s.device = true

/-- A change of the speed keeps it. -/
theorem AtHighSpeed.setPrescaler {s : SdCardDriver} (holds : AtHighSpeed first s)
    {device : SpiDevice} (transfers : device.transfers = s.spi.transfers)
    (identifying : device.identifying = s.spi.identifying) :
    AtHighSpeed first { s with spi := device } := by
  obtain ⟨made, whole, slow⟩ := holds.transfers
  exact ⟨⟨⟨made, transfers.trans whole, slow⟩, .inl holds.reached,
    fun off => identifying.trans (holds.unmarked off)⟩, holds.reached, holds.located, holds.stored,
    holds.detected, holds.stage, holds.device⟩

/-- **The last step** raises the speed. -/
theorem triple_raiseSpeed :
    Triple (Identified first) raiseSpeed
      (fun _ t => Initialized first t ∧ t.highSpeedReached = true ∧
        Located t.registers t.highCapacity t.information ∧ t.device = true)
      (InitializationFailed first) := by
  refine Triple.bind (M := fun _ s => Identified first s ∧
      ∃ stage, s.activeStage = some stage ∧ IsLabel stage)
    (.change fun s holds => ⟨⟨holds.transfers, holds.speed, holds.highSpeed, holds.unmarked,
      holds.located, holds.stored, holds.detected, holds.device⟩, _, rfl,
      isLabel_of_check (by decide)⟩)
    fun _ => ?_
  refine Triple.bind (M := fun _ => AtHighSpeed first) (.change ?_) fun _ => ?_
  · rintro s ⟨holds, stage⟩
    exact ⟨⟨holds.transfers, .inl rfl, fun _ => holds.unmarked⟩, rfl, holds.located, holds.stored,
      holds.detected, stage, holds.device⟩
  · refine Triple.orElse (M := AtHighSpeed first) ?_ ?_
    · refine Triple.bind (M := fun _ => AtHighSpeed first) (.ask fun _ holds => holds)
        fun _ => Triple.bind (M := fun _ => AtHighSpeed first)
          (.check (fun _ _ holds => holds) fun _ _ holds => holds) fun _ => ?_
      refine Triple.within (spiDeviceSetPrescaler_spec 4) ?_ ?_
      · rintro s _ device holds ⟨transfers, identifying, _⟩
        have kept := holds.setPrescaler transfers identifying
        exact ⟨kept.toInitialized, kept.reached, kept.located, kept.device⟩
      · rintro s device holds ⟨transfers, identifying, _⟩
        exact holds.setPrescaler transfers identifying
    · refine Triple.bind (M := fun _ => InitializationFailed first) (.change ?_)
        fun _ => .failure fun _ failed => failed
      intro s holds
      obtain ⟨stage, active, label⟩ := holds.stage
      refine ⟨⟨holds.transfers, .inl holds.reached, holds.unmarked⟩, ⟨stage, _, active, rfl, label,
        isLabel_of_check (by decide)⟩, ?_⟩
      rw [holds.detected]

/-- **`sd_card_driver_initialize`** -/
theorem triple_initialization (first : SdCardDriver) (isNull : Bool) :
    Triple (fun s => s = first) (sdCardDriverInitialize isNull)
      (fun _ t => Initialized first t ∧ t.highSpeedReached = true ∧
        Located t.registers t.highCapacity t.information ∧ t.device = true)
      (InitializationFailed first) := by
  have failing : ∀ s, Diagnosed AnyBytes first (fun _ _ _ => True) s → InitializationFailed first s :=
    fun _ => .of_diagnosed
  refine Triple.bind (triple_beginCall (isLabel_of_check (by decide)) trivial) fun _ =>
    Triple.ite (fun _ => (triple_fail (isLabel_of_check (by decide))).mono (fun _ holds => holds)
      (fun _ _ holds => holds) failing) fun _ => ?_
  refine Triple.bind (keeps_beginStage (isLabel_of_check (by decide))) fun _ => ?_
  refine Triple.bind (M := fun _ s => Undiagnosed AnyBytes first (fun _ _ _ => True) s ∧
      s.device = true) (.change fun s holds => ⟨⟨holds.sent, holds.highSpeed, trivial,
        holds.stored, holds.detected, holds.stage, fun _ => rfl⟩, rfl⟩) fun _ => ?_
  have closed : SpiClosed AnyBytes fun s =>
      Undiagnosed AnyBytes first (fun _ _ _ => True) s ∧ s.device = true :=
    fun s device holds sent => ⟨Undiagnosed.spiClosed s device holds.1 sent, holds.2⟩
  refine Triple.bind (Triple.orElse (keeps_initialization closed)
    ((triple_fail (isLabel_of_check (by decide))).mono (fun _ holds => holds.1)
      (fun _ _ holds => holds) failing)) fun _ => ?_
  exact Triple.bind triple_markedIdentification fun _ => triple_raiseSpeed

/-! ## Blocks, whatever they send -/

/-- Every block call may send what it likes. -/
theorem anyBlockFrames (index : UInt8) (block : UInt32) :
    TestBlockFrames AnyBytes (fun _ _ _ => True) index block where
  single _ := trivial
  data _ _ := trivial
  addressed _ _ _ _ _ _ _ _ _ := trivial
  checksum _ _ _ _ _ := trivial

/-- **A call for a block**, as far as its failures and the speed are concerned. -/
theorem triple_blockCall (operation : BlockOperation) (block : UInt32) :
    Triple (fun s => s = first) (operation.call block)
      (fun _ => Undiagnosed AnyBytes first fun _ _ _ => True)
      (Diagnosed AnyBytes first fun _ _ _ => True) := by
  have frames := anyBlockFrames operation.index block
  cases operation with
  | write => exact frames.triple_writeTestBlock rfl trivial
  | verify => exact frames.triple_verifyTestBlock rfl trivial
  | clear => exact frames.triple_clearTestBlock rfl trivial

end FlightComputer.Firmware
