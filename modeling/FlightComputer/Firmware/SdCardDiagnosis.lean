import FlightComputer.Firmware.SdCardPolling

/-!
# What the calls of the SD card driver keep

While a function of the driver goes on, no failure has been noticed and none is stored
(`Undiagnosed`). Once it returns false, exactly one has been noticed, and this one is
stored with its stage and its reason (`Diagnosed`), whatever the transfers that deselect
the card have done since.

Both states also say what has been sent since the function was called, and a property of
the addressing mode and of the information structure that the function keeps.
-/

set_option autoImplicit false

namespace FlightComputer.Firmware

open Library Fallible

/-! ## States of a call -/

/-- Since `first`, byte strings of some kind have been sent, at one speed. -/
def SentOnly (frames : Bytes → Prop) (first : SpiDevice) (device : SpiDevice) : Prop :=
  ∃ sent, Clocked first sent device ∧ ∀ bytes ∈ sent, frames bytes

/-- What a call keeps: a property of what the card has answered, the addressing mode and
the information structure. -/
abbrev Kept : Type := CardRegisters → Bool → SdCardInformation → Prop

/-- **No failure so far**, since the call began in `first`. -/
structure Undiagnosed (frames : Bytes → Prop) (first : SdCardDriver) (kept : Kept)
    (s : SdCardDriver) : Prop where
  sent : SentOnly frames first.spi s.spi
  highSpeed : s.highSpeedReached = first.highSpeedReached
  keeps : kept s.registers s.highCapacity s.information
  stored : s.lastFailure.reason = none
  detected : s.detected = first.detected
  stage : ∃ stage, s.activeStage = some stage ∧ IsLabel stage
  device : first.device = true → s.device = true

/-- **One failure**, and it is stored. -/
structure Diagnosed (frames : Bytes → Prop) (first : SdCardDriver) (kept : Kept)
    (s : SdCardDriver) : Prop where
  sent : SentOnly frames first.spi s.spi
  highSpeed : s.highSpeedReached = first.highSpeedReached
  keeps : kept s.registers s.highCapacity s.information
  stored : ∃ stage reason, s.lastFailure.stage = some stage ∧
    s.lastFailure.reason = some reason ∧ IsLabel stage ∧ IsLabel reason
  detected : s.detected = first.detected ++ [s.lastFailure]

/-- A property that allowed transfers do not change. -/
def SpiClosed (frames : Bytes → Prop) (P : SdCardDriver → Prop) : Prop :=
  ∀ s device, P s → SentOnly frames s.spi device → P { s with spi := device }

variable {frames : Bytes → Prop} {first : SdCardDriver} {kept : Kept}

theorem SentOnly.refl (device : SpiDevice) : SentOnly frames device device :=
  ⟨[], .refl device, fun _ listed => absurd listed List.not_mem_nil⟩

theorem SentOnly.trans {a b c : SpiDevice} (before : SentOnly frames a b)
    (after : SentOnly frames b c) : SentOnly frames a c := by
  obtain ⟨sent, clocked, allowed⟩ := before
  obtain ⟨later, clocked', allowed'⟩ := after
  refine ⟨sent ++ later, clocked.trans clocked', ?_⟩
  intro bytes listed
  rcases List.mem_append.mp listed with early | late
  · exact allowed bytes early
  · exact allowed' bytes late

theorem Undiagnosed.spiClosed : SpiClosed frames (Undiagnosed frames first kept) := by
  intro s device holds sent
  exact ⟨holds.sent.trans sent, holds.highSpeed, holds.keeps, holds.stored, holds.detected,
    holds.stage, holds.device⟩

theorem Diagnosed.spiClosed : SpiClosed frames (Diagnosed frames first kept) := by
  intro s device holds sent
  exact ⟨holds.sent.trans sent, holds.highSpeed, holds.keeps, holds.stored, holds.detected⟩

/-- A call may forget what it keeps. -/
theorem Diagnosed.mono {s : SdCardDriver} (holds : Diagnosed frames first kept s) {kept' : Kept}
    (weaker : ∀ registers mode information, kept registers mode information →
      kept' registers mode information) :
    Diagnosed frames first kept' s :=
  ⟨holds.sent, holds.highSpeed, weaker _ _ _ holds.keeps, holds.stored, holds.detected⟩

theorem Diagnosed.forget (s : SdCardDriver) (holds : Diagnosed frames first kept s) :
    Diagnosed frames first (fun _ _ _ => True) s :=
  holds.mono fun _ _ _ _ => trivial

/-! ## Failing -/

section Failing

variable {α : Type} {after : α → SdCardDriver → Prop} {reason : String} {code : Int32}
  (label : IsLabel (ascii reason))
include label

/-- **`fail` stores the failure.** -/
theorem triple_fail :
    Triple (Undiagnosed frames first kept) (fail reason code) after
      (Diagnosed frames first kept) := by
  refine Triple.bind (M := fun _ => Diagnosed frames first kept) (.change ?_)
    fun _ => .failure fun _ holds => holds
  intro s holds
  obtain ⟨stage, active, named⟩ := holds.stage
  refine ⟨holds.sent, holds.highSpeed, holds.keeps, ⟨stage, ascii reason, active, rfl, named,
    label⟩, ?_⟩
  rw [holds.detected]

/-- As long as none is stored, `fail_if_unset` does the same. -/
theorem triple_failIfUnset :
    Triple (Undiagnosed frames first kept) (failIfUnset reason code) after
      (Diagnosed frames first kept) := by
  refine Triple.bind
    (M := fun stored s => Undiagnosed frames first kept s ∧ stored = none)
    (.ask fun s holds => ⟨holds, holds.stored⟩) fun stored => Triple.ite (fun _ => ?_) (fun some => ?_)
  · exact (triple_fail label).mono (fun _ holds => holds.1) (fun _ _ holds => holds)
      (fun _ holds => holds)
  · intro s result t holds _
    exact absurd (holds.2 ▸ Option.isNone_none) some

end Failing

theorem keeps_beginStage {stage : String} (label : IsLabel (ascii stage))
    {failed : SdCardDriver → Prop} :
    Keeps (Undiagnosed frames first kept) failed (beginStage stage) :=
  .change fun _ holds => ⟨holds.sent, holds.highSpeed, holds.keeps, holds.stored, holds.detected,
    ⟨ascii stage, rfl, label⟩, holds.device⟩

theorem keeps_halGetTick {failed : SdCardDriver → Prop} :
    Keeps (Undiagnosed frames first kept) failed halGetTick :=
  .receive fun _ _ _ holds _ => ⟨holds.sent, holds.highSpeed, holds.keeps, holds.stored,
    holds.detected, holds.stage, holds.device⟩

/-! ## Using the device -/

section Device

variable {P : SdCardDriver → Prop} (closed : SpiClosed frames P)
include closed

/-- A call of the device keeps what transfers do not change, also when it fails. -/
theorem keeps_onDevice {α : Type} {call : SpiCall α}
    (spec : ∀ device, Triple (fun x => x = device) call (fun _ => SentOnly frames device)
      (SentOnly frames device)) : Keeps P P (onDevice call) := by
  refine Triple.bind (M := fun _ => P) (.ask fun _ holds => holds) fun ready => ?_
  refine Triple.bind (M := fun _ => P) (.check (fun _ _ holds => holds) fun _ _ holds => holds)
    fun _ => ?_
  exact Triple.within spec (fun s _ device holds sent => closed s device holds sent)
    fun s device holds sent => closed s device holds sent

theorem keeps_initialization : Keeps P P (onDevice spiDeviceInitialize) :=
  keeps_onDevice closed fun device => (spiDeviceInitialize_spec device).mono (fun _ same => same)
    (fun _ _ done => ⟨[], done.1, fun _ listed => absurd listed List.not_mem_nil⟩)
    fun _ done => ⟨[], done, fun _ listed => absurd listed List.not_mem_nil⟩

theorem keeps_selection : Keeps P P (onDevice spiDeviceSelect) :=
  keeps_onDevice closed fun device => (spiDeviceSelect_spec device).mono (fun _ same => same)
    (fun _ _ done => ⟨[], done, fun _ listed => absurd listed List.not_mem_nil⟩)
    fun _ done => ⟨[], done, fun _ listed => absurd listed List.not_mem_nil⟩

theorem keeps_deselection : Keeps P P (onDevice spiDeviceDeselect) :=
  keeps_onDevice closed fun device => (spiDeviceDeselect_spec device).mono (fun _ same => same)
    (fun _ _ done => ⟨[], done, fun _ listed => absurd listed List.not_mem_nil⟩)
    fun _ never => never.elim

theorem keeps_transfer {sent : Bytes} (allowed : frames sent) :
    Keeps P P (onDevice (spiDeviceTransfer sent)) := by
  refine keeps_onDevice closed fun device => ?_
  have one : ∀ bytes ∈ [sent], frames bytes := by
    intro bytes listed
    rw [List.mem_singleton.mp listed]
    exact allowed
  refine (spiDeviceTransfer_spec sent device).mono (fun _ same => same)
    (fun _ _ done => ⟨[sent], done.1, one⟩) ?_
  rintro x (done | done)
  · exact ⟨[], done, fun _ listed => absurd listed List.not_mem_nil⟩
  · exact ⟨[sent], done, one⟩

variable (single : ∀ byte, frames [byte]) {failed : SdCardDriver → Prop}
include single

/-- **Deselecting the card** always succeeds and keeps every such property. -/
theorem keeps_deselectCard : Keeps P failed deselectCard := by
  refine keeps_bind (Triple.orElse (M := P) (keeps_deselection closed) keeps_pure) fun _ => ?_
  refine Triple.orElse (M := P) ?_ keeps_pure
  exact keeps_bind (keeps_transfer closed (single 0xFF)) fun _ => keeps_pure

/-- Deselecting the card after a failure keeps the diagnosis. -/
theorem triple_orDeselect {α : Type} {before : SdCardDriver → Prop}
    {after : α → SdCardDriver → Prop} {call : SdCall α}
    (triple : Triple before call after P) : Triple before (orDeselect call) after P :=
  triple.orElse (Triple.bind (keeps_deselectCard closed single)
    fun _ => .failure fun _ holds => holds)

end Device

/-! ## The functions of the driver -/

section Functions

variable (single : ∀ byte, frames [byte])
include single

theorem keeps_transferByte {byte : UInt8} :
    Keeps (Undiagnosed frames first kept) (Diagnosed frames first kept) (transferByte byte) :=
  keeps_bind (Triple.orElse (keeps_transfer Undiagnosed.spiClosed (single byte))
    (triple_failIfUnset (isLabel_of_check (by decide)))) fun _ => keeps_pure

theorem pollable_undiagnosed :
    Pollable (Undiagnosed frames first kept) (Diagnosed frames first kept) where
  byte _ := keeps_transferByte single
  tick := keeps_halGetTick
  failure := triple_failIfUnset

theorem keeps_command {index : UInt8} {argument : UInt32} {crc : UInt8}
    (allowed : frames (commandFrame index argument crc)) :
    Keeps (Undiagnosed frames first kept) (Diagnosed frames first kept)
      (command index argument crc) :=
  keeps_bind (Triple.orElse (keeps_transfer Undiagnosed.spiClosed allowed)
    (triple_failIfUnset (isLabel_of_check (by decide)))) fun _ => (pollable_undiagnosed single).awaitResponse

theorem keeps_selectCard :
    Keeps (Undiagnosed frames first kept) (Diagnosed frames first kept) selectCard :=
  keeps_bind (Triple.orElse (keeps_selection Undiagnosed.spiClosed)
    (triple_failIfUnset (isLabel_of_check (by decide)))) fun _ => (pollable_undiagnosed single).waitReady

theorem keeps_selectAndCommand {index : UInt8} {argument : UInt32} {crc : UInt8}
    (allowed : frames (commandFrame index argument crc)) :
    Keeps (Undiagnosed frames first kept) (Diagnosed frames first kept)
      (orDeselect (do selectCard; command index argument crc)) :=
  triple_orDeselect Diagnosed.spiClosed single
    (keeps_bind (keeps_selectCard single) fun _ => keeps_command single allowed)

theorem triple_deselectAndFail {α : Type} {after : α → SdCardDriver → Prop} {reason : String}
    {code : Int32} (label : IsLabel (ascii reason)) :
    Triple (Undiagnosed frames first kept) (deselectAndFail reason code) after
      (Diagnosed frames first kept) :=
  Triple.bind (keeps_deselectCard Undiagnosed.spiClosed single) fun _ => triple_fail label

end Functions

/-! ## Blocks -/

/-- A call begins without a failure. -/
theorem triple_beginCall {stage : String} (label : IsLabel (ascii stage))
    (holds : kept first.registers first.highCapacity first.information) {failed : SdCardDriver → Prop} :
    Triple (fun s => s = first) (beginCall stage) (fun _ => Undiagnosed frames first kept)
      failed := by
  refine Triple.bind (M := fun _ s => s = { first with lastFailure := ⟨none, none, 0⟩ })
    (.change fun s same => by rw [same]) fun _ => .change ?_
  rintro s rfl
  exact ⟨.refl _, rfl, holds, rfl, rfl, ⟨ascii stage, rfl, label⟩, id⟩

/-- A change of what is not observed, or of what the call keeps. -/
theorem triple_change {K : Kept} {update : SdCardDriver → SdCardDriver}
    {failed : SdCardDriver → Prop}
    (same : ∀ s, (update s).spi = s.spi ∧ (update s).highSpeedReached = s.highSpeedReached ∧
      (update s).lastFailure = s.lastFailure ∧ (update s).detected = s.detected ∧
      (update s).activeStage = s.activeStage ∧ (s.device = true → (update s).device = true))
    (keeping : ∀ s, kept s.registers s.highCapacity s.information →
      K (update s).registers (update s).highCapacity (update s).information) :
    Triple (Undiagnosed frames first kept) (change update)
      (fun _ => Undiagnosed frames first K) failed := by
  refine .change fun s holds => ?_
  obtain ⟨spi, highSpeed, lastFailure, detected, stage, device⟩ := same s
  exact ⟨spi ▸ holds.sent, highSpeed.trans holds.highSpeed, keeping s holds.keeps,
    lastFailure ▸ holds.stored, detected.trans holds.detected, stage ▸ holds.stage,
    fun set => device (holds.device set)⟩

section Blocks

variable (single : ∀ byte, frames [byte]) {sector : UInt32}
include single

/-- The command for a sector is sent with the address under the mode in force. -/
theorem keeps_addressSector {index : UInt8}
    (allowed : ∀ registers mode information, kept registers mode information →
      frames (commandFrame index (wireAddress mode sector) 0xFF)) :
    Keeps (Undiagnosed frames first kept) (Diagnosed frames first kept)
      (orDeselect (do
        selectCard
        command index (wireAddress (← ask SdCardDriver.highCapacity) sector) 0xFF)) := by
  refine triple_orDeselect Diagnosed.spiClosed single
    (keeps_bind (keeps_selectCard single) fun _ => ?_)
  refine Triple.bind
    (M := fun mode s => Undiagnosed frames first kept s ∧
      frames (commandFrame index (wireAddress mode sector) 0xFF))
    (.ask fun s holds => ⟨holds, allowed _ _ _ holds.keeps⟩) fun mode => ?_
  rintro s result t ⟨holds, frame⟩ returned
  exact keeps_command single frame s result t holds returned

/-- **`write_block`** -/
theorem keeps_writeBlock {buffer : Bytes} (block : frames buffer)
    (allowed : ∀ registers mode information, kept registers mode information →
      frames (commandFrame 24 (wireAddress mode sector) 0xFF)) :
    Keeps (Undiagnosed frames first kept) (Diagnosed frames first kept)
      (writeBlock sector buffer) := by
  refine keeps_bind (keeps_addressSector single allowed) fun response =>
    Triple.ite (fun _ => triple_deselectAndFail single (isLabel_of_check (by decide))) fun _ => ?_
  refine keeps_bind (triple_orDeselect Diagnosed.spiClosed single ((pollable_undiagnosed single).waitReady))
    fun _ => ?_
  refine keeps_bind (triple_orDeselect Diagnosed.spiClosed single (keeps_transferByte single))
    fun _ => ?_
  refine keeps_bind (Triple.orElse (keeps_transfer Undiagnosed.spiClosed block)
    (triple_deselectAndFail single (isLabel_of_check (by decide)))) fun _ => ?_
  refine keeps_bind (triple_orDeselect Diagnosed.spiClosed single
    (keeps_bind (keeps_transferByte single) fun _ =>
      keeps_bind (keeps_transferByte single) fun _ => keeps_transferByte single)) fun response => ?_
  refine Triple.ite (fun _ => triple_deselectAndFail single (isLabel_of_check (by decide)))
    fun _ => ?_
  exact keeps_bind (triple_orDeselect Diagnosed.spiClosed single ((pollable_undiagnosed single).waitReady))
    fun _ => keeps_deselectCard Undiagnosed.spiClosed single

/-- **`read_block`** -/
theorem keeps_readBlock
    (allowed : ∀ registers mode information, kept registers mode information →
      frames (commandFrame 17 (wireAddress mode sector) 0xFF)) :
    Keeps (Undiagnosed frames first kept) (Diagnosed frames first kept) (readBlock sector) := by
  refine keeps_bind (keeps_addressSector single allowed) fun response =>
    Triple.ite (fun _ => triple_deselectAndFail single (isLabel_of_check (by decide))) fun _ => ?_
  refine keeps_bind (triple_orDeselect Diagnosed.spiClosed single
    (keeps_bind ((pollable_undiagnosed single).waitForDataToken) fun _ => keeps_bind ((pollable_undiagnosed single).readBytes)
      fun _ => keeps_bind ((pollable_undiagnosed single).readBytes) fun _ => keeps_pure)) fun buffer => ?_
  exact keeps_bind (keeps_deselectCard Undiagnosed.spiClosed single) fun _ => keeps_pure

end Blocks

/-- What the functions for test blocks may send: single bytes, data blocks, and one
command for the sectors of the test area. -/
structure TestBlockFrames (frames : Bytes → Prop) (kept : Kept) (index : UInt8)
    (block : UInt32) : Prop where
  single : ∀ byte, frames [byte]
  data : ∀ buffer, buffer.length = sdBlockSize.toNat → frames buffer
  addressed : ∀ registers mode information registers' mode' information',
    block < sdCardTestBlockCount → kept registers mode information →
    kept registers' mode' information' →
    frames (commandFrame index (wireAddress mode' (information.testSector + block)) 0xFF)
  checksum : ∀ registers mode information checksum, kept registers mode information →
    kept registers mode { information with checksum := checksum }

namespace TestBlockFrames

variable {index : UInt8} {block : UInt32} (allowed : TestBlockFrames frames kept index block)
  {isNull : Bool}
include allowed

/-- The sector of a block is read off the information structure. -/
theorem triple_sector {α : Type} {next : UInt32 → SdCall α} (inside : block < sdCardTestBlockCount)
    (triple : ∀ sector, (∀ registers mode information, kept registers mode information →
        frames (commandFrame index (wireAddress mode (sector + block)) 0xFF)) →
      Keeps (Undiagnosed frames first kept) (Diagnosed frames first kept) (next sector)) :
    Keeps (Undiagnosed frames first kept) (Diagnosed frames first kept)
      ((ask fun s => s.information.testSector) >>= next) := by
  refine Triple.bind
    (M := fun sector s => Undiagnosed frames first kept s ∧
      ∀ registers mode information, kept registers mode information →
        frames (commandFrame index (wireAddress mode (sector + block)) 0xFF))
    (.ask fun s holds => ⟨holds, fun registers mode information later =>
      allowed.addressed _ _ _ registers mode information inside holds.keeps later⟩) fun sector => ?_
  rintro s result t ⟨holds, frame⟩ returned
  exact triple sector frame s result t holds returned

/-- A change of a checksum. -/
theorem keeps_checksum {update : SdCardDriver → SdCardDriver} {failed : SdCardDriver → Prop}
    (same : ∀ s, ∃ write verify checksum, update s = { s with
      writeChecksum := write, verifyChecksum := verify,
      information := { s.information with checksum := checksum } }) :
    Keeps (Undiagnosed frames first kept) failed (change update) := by
  refine triple_change (fun s => ?_) fun s holds => ?_
  · obtain ⟨_, _, _, changed⟩ := same s
    rw [changed]
    exact ⟨rfl, rfl, rfl, rfl, rfl, id⟩
  · obtain ⟨_, _, checksum, changed⟩ := same s
    rw [changed]
    exact allowed.checksum _ _ _ checksum holds

/-- **`sd_card_driver_write_test_block`** -/
theorem triple_writeTestBlock (command : index = 24)
    (holds : kept first.registers first.highCapacity first.information) :
    Triple (fun s => s = first) (sdCardDriverWriteTestBlock isNull block)
      (fun _ => Undiagnosed frames first kept) (Diagnosed frames first kept) := by
  subst command
  refine Triple.bind (triple_beginCall (isLabel_of_check (by decide)) holds) fun _ =>
    Triple.ite (fun _ => triple_fail (isLabel_of_check (by decide))) fun valid => ?_
  have inside : block < sdCardTestBlockCount := UInt32.not_le.mp (not_or.mp valid).2
  refine keeps_bind (allowed.keeps_checksum fun s => ⟨_, _, _, rfl⟩) fun _ => ?_
  refine allowed.triple_sector inside fun sector frame => ?_
  refine keeps_bind (allowed.keeps_checksum fun s => ⟨_, _, _, rfl⟩) fun _ => ?_
  refine keeps_bind (keeps_writeBlock allowed.single
    (allowed.data _ (by simp only [pattern, List.length_map, List.length_range])) frame) fun _ => ?_
  exact Triple.ite (fun _ => allowed.keeps_checksum fun s => ⟨_, _, _, rfl⟩) fun _ => keeps_pure

/-- **`sd_card_driver_verify_test_block`** -/
theorem triple_verifyTestBlock (command : index = 17)
    (holds : kept first.registers first.highCapacity first.information) :
    Triple (fun s => s = first) (sdCardDriverVerifyTestBlock isNull block)
      (fun _ => Undiagnosed frames first kept) (Diagnosed frames first kept) := by
  subst command
  refine Triple.bind (triple_beginCall (isLabel_of_check (by decide)) holds) fun _ =>
    Triple.ite (fun _ => triple_fail (isLabel_of_check (by decide))) fun valid => ?_
  have inside : block < sdCardTestBlockCount := UInt32.not_le.mp (not_or.mp valid).2
  refine keeps_bind (allowed.keeps_checksum fun s => ⟨_, _, _, rfl⟩) fun _ => ?_
  refine allowed.triple_sector inside fun sector frame => ?_
  refine keeps_bind (keeps_readBlock allowed.single frame) fun received =>
    Triple.ite (fun _ => triple_fail (isLabel_of_check (by decide))) fun _ => ?_
  refine keeps_bind (allowed.keeps_checksum fun s => ⟨_, _, _, rfl⟩) fun _ => ?_
  refine keeps_bind keeps_ask fun _ => keeps_bind keeps_ask fun _ =>
    Triple.ite (fun _ => triple_fail (isLabel_of_check (by decide))) fun _ => keeps_pure

/-- **`sd_card_driver_clear_test_block`** -/
theorem triple_clearTestBlock (command : index = 24)
    (holds : kept first.registers first.highCapacity first.information) :
    Triple (fun s => s = first) (sdCardDriverClearTestBlock isNull block)
      (fun _ => Undiagnosed frames first kept) (Diagnosed frames first kept) := by
  subst command
  refine Triple.bind (triple_beginCall (isLabel_of_check (by decide)) holds) fun _ =>
    Triple.ite (fun _ => triple_fail (isLabel_of_check (by decide))) fun valid => ?_
  have inside : block < sdCardTestBlockCount := UInt32.not_le.mp (not_or.mp valid).2
  refine allowed.triple_sector inside fun sector frame => ?_
  exact keeps_writeBlock allowed.single (allowed.data _ (List.length_replicate ..)) frame

end TestBlockFrames

/-! ## Initialization -/

section Initialization

variable (everything : ∀ bytes, frames bytes)
include everything

theorem keeps_resetCard :
    Keeps (Undiagnosed frames first kept) (Diagnosed frames first kept) resetCard := by
  have single : ∀ byte, frames [byte] := fun byte => everything [byte]
  refine keeps_bind (keeps_beginStage (isLabel_of_check (by decide))) fun _ =>
    keeps_bind ((pollable_undiagnosed single).clockBytes) fun _ =>
      keeps_bind (keeps_beginStage (isLabel_of_check (by decide))) fun _ => ?_
  refine keeps_bind (Triple.orElse (keeps_selection Undiagnosed.spiClosed)
    (triple_fail (isLabel_of_check (by decide)))) fun _ => ?_
  refine keeps_bind (triple_orDeselect Diagnosed.spiClosed single
    (keeps_command single (everything _))) fun response => Triple.ite
      (fun _ => triple_deselectAndFail single (isLabel_of_check (by decide))) fun _ => ?_
  exact keeps_deselectCard Undiagnosed.spiClosed single

theorem keeps_interfaceCondition :
    Keeps (Undiagnosed frames first kept) (Diagnosed frames first kept) interfaceCondition := by
  have single : ∀ byte, frames [byte] := fun byte => everything [byte]
  have deselected : ∀ version : Bool, Keeps (Undiagnosed frames first kept)
      (Diagnosed frames first kept) (do deselectCard; pure version) := fun version =>
    keeps_bind (keeps_deselectCard Undiagnosed.spiClosed single) fun _ => keeps_pure
  refine keeps_bind (keeps_beginStage (isLabel_of_check (by decide))) fun _ =>
    keeps_bind (keeps_selectAndCommand single (everything _)) fun response =>
      Triple.ite (fun _ => ?_) fun _ => Triple.ite (fun _ => deselected false)
        fun _ => triple_deselectAndFail single (isLabel_of_check (by decide))
  exact keeps_bind (triple_orDeselect Diagnosed.spiClosed single ((pollable_undiagnosed single).readBytes))
    fun r7 => Triple.ite (fun _ => triple_deselectAndFail single (isLabel_of_check (by decide)))
      fun _ => deselected true

theorem keeps_operatingConditionLoop {versionTwo : Bool} {started : UInt32} {bound : Nat} :
    Keeps (Undiagnosed frames first kept) (Diagnosed frames first kept)
      (operatingConditionLoop versionTwo started bound) := by
  have single : ∀ byte, frames [byte] := fun byte => everything [byte]
  induction bound with
  | zero => exact Triple.never
  | succ bound ih =>
      refine keeps_bind (keeps_beginStage (isLabel_of_check (by decide))) fun _ =>
        keeps_bind (keeps_selectAndCommand single (everything _)) fun _ => Triple.ite
          (fun _ => triple_deselectAndFail single (isLabel_of_check (by decide))) fun _ => ?_
      refine keeps_bind (keeps_beginStage (isLabel_of_check (by decide))) fun _ =>
        keeps_bind (triple_orDeselect Diagnosed.spiClosed single
          (keeps_command single (everything _))) fun response =>
          keeps_bind (keeps_deselectCard Undiagnosed.spiClosed single) fun _ => ?_
      refine Triple.ite (fun _ => keeps_pure) fun _ => Triple.ite
        (fun _ => triple_fail (isLabel_of_check (by decide))) fun _ => ?_
      exact keeps_bind keeps_halGetTick fun _ => Triple.ite (fun _ => ih) fun _ => keeps_pure

theorem keeps_operatingCondition {versionTwo : Bool} :
    Keeps (Undiagnosed frames first kept) (Diagnosed frames first kept)
      (operatingCondition versionTwo) :=
  keeps_bind keeps_halGetTick fun _ => keeps_bind keeps_ask fun _ =>
    keeps_bind (keeps_operatingConditionLoop everything) fun _ => Triple.ite
      (fun _ => triple_fail (isLabel_of_check (by decide))) fun _ => keeps_pure

theorem keeps_setBlockLength :
    Keeps (Undiagnosed frames first kept) (Diagnosed frames first kept) setBlockLength := by
  have single : ∀ byte, frames [byte] := fun byte => everything [byte]
  refine keeps_bind keeps_ask fun _ => Triple.ite (fun _ => keeps_pure) fun _ => ?_
  refine keeps_bind (keeps_beginStage (isLabel_of_check (by decide))) fun _ =>
    keeps_bind (keeps_selectAndCommand single (everything _)) fun _ => Triple.ite
      (fun _ => triple_deselectAndFail single (isLabel_of_check (by decide))) fun _ => ?_
  exact keeps_deselectCard Undiagnosed.spiClosed single

end Initialization

/-- The addressing mode is the one that the card wants. -/
def ModeRead : Kept := fun registers mode _ => mode = registers.sectorAddressed

/-- The information structure has this mode too. -/
def SameMode : Kept := fun registers mode information =>
  information.highCapacity = mode ∧ mode = registers.sectorAddressed

/-- The sector count was parsed from the CSD, and the card is larger than the distance of
the test area from its end. -/
structure Measured (registers : CardRegisters) (mode : Bool) (information : SdCardInformation) :
    Prop where
  reported : information.highCapacity = mode
  wanted : mode = registers.sectorAddressed
  parsed : sdCardParseCsd registers.csd = some information.sectorCount
  large : sdTestAreaDistanceFromEnd < information.sectorCount

/-- **The test area of an initialized card.** -/
structure Located (registers : CardRegisters) (mode : Bool) (information : SdCardInformation) :
    Prop extends Measured registers mode information where
  testSector : information.testSector =
    (information.sectorCount - sdTestAreaDistanceFromEnd).toUInt32

section Locate

variable (everything : ∀ bytes, frames bytes)
include everything

/-- The fifth step reads the addressing mode. -/
theorem triple_readOcr {versionTwo : Bool} :
    Triple (Undiagnosed frames first fun _ _ _ => True) (readOcr versionTwo)
      (fun _ => Undiagnosed frames first ModeRead) (Diagnosed frames first fun _ _ _ => True) := by
  have single : ∀ byte, frames [byte] := fun byte => everything [byte]
  refine Triple.bind (keeps_beginStage (isLabel_of_check (by decide))) fun _ =>
    Triple.bind (keeps_selectAndCommand single (everything _)) fun _ => Triple.ite
      (fun _ => triple_deselectAndFail single (isLabel_of_check (by decide))) fun _ => ?_
  refine Triple.bind (triple_orDeselect Diagnosed.spiClosed single ((pollable_undiagnosed single).readBytes))
    fun ocr => Triple.bind (triple_change (K := ModeRead) (fun s => ⟨rfl, rfl, rfl, rfl, rfl, id⟩)
      fun _ _ => rfl) fun _ => keeps_deselectCard Undiagnosed.spiClosed single

/-- **`read_csd`** -/
theorem triple_readCsd :
    Triple (Undiagnosed frames first SameMode) readCsd (fun _ => Undiagnosed frames first Measured)
      (Diagnosed frames first fun _ _ _ => True) := by
  have single : ∀ byte, frames [byte] := fun byte => everything [byte]
  refine Triple.bind (keeps_beginStage (isLabel_of_check (by decide))) fun _ => ?_
  refine Triple.bind ((keeps_selectAndCommand single (everything _)).mono (fun _ holds => holds)
    (fun _ _ holds => holds) Diagnosed.forget) fun response => Triple.ite
      (fun _ => (triple_deselectAndFail single (isLabel_of_check (by decide))).mono
        (fun _ holds => holds) (fun _ _ holds => holds) Diagnosed.forget) fun _ => ?_
  have register : Keeps (Undiagnosed frames first SameMode) (Diagnosed frames first SameMode)
      (orDeselect (do waitForDataToken; let csd ← readBytes 16; let _ ← readBytes 2; pure csd)) :=
    triple_orDeselect Diagnosed.spiClosed single
      (keeps_bind ((pollable_undiagnosed single).waitForDataToken) fun _ => keeps_bind ((pollable_undiagnosed single).readBytes)
        fun _ => keeps_bind ((pollable_undiagnosed single).readBytes) fun _ => keeps_pure)
  refine Triple.bind (register.mono (fun _ holds => holds) (fun _ _ holds => holds)
    Diagnosed.forget) fun csd =>
      Triple.bind (keeps_deselectCard Undiagnosed.spiClosed single) fun _ => ?_
  refine Triple.bind (triple_change
    (K := fun registers mode information => SameMode registers mode information ∧
      registers.csd = csd) (fun s => ⟨rfl, rfl, rfl, rfl, rfl, id⟩) fun s holds => ⟨holds, rfl⟩)
    fun _ => ?_
  cases parsed : sdCardParseCsd csd with
  | none =>
      exact (triple_fail (isLabel_of_check (by decide))).mono (fun _ holds => holds)
        (fun _ _ holds => holds) Diagnosed.forget
  | some sectorCount =>
      refine Triple.bind (triple_change
          (K := fun registers mode information => SameMode registers mode information ∧
            sdCardParseCsd registers.csd = some information.sectorCount ∧
              information.sectorCount = sectorCount)
          (fun s => ⟨rfl, rfl, rfl, rfl, rfl, id⟩) fun s holds => ?_)
        fun _ => Triple.ite (fun _ => ?_) fun large => .pure fun s holds => ?_
      · exact ⟨holds.1, by rw [holds.2, parsed], rfl⟩
      · exact (triple_fail (isLabel_of_check (by decide))).mono (fun _ holds => holds)
          (fun _ _ holds => holds) Diagnosed.forget
      · obtain ⟨⟨mode, wanted⟩, same, count⟩ := holds.keeps
        exact ⟨holds.sent, holds.highSpeed,
          ⟨mode, wanted, same, count ▸ UInt64.not_le.mp large⟩, holds.stored, holds.detected,
          holds.stage, holds.device⟩

/-- The seventh step locates the test area. -/
theorem triple_locateTestArea :
    Triple (Undiagnosed frames first ModeRead) locateTestArea
      (fun _ => Undiagnosed frames first Located) (Diagnosed frames first fun _ _ _ => True) := by
  refine Triple.bind (triple_change (K := SameMode) (fun s => ⟨rfl, rfl, rfl, rfl, rfl, id⟩)
    fun s wanted => ⟨rfl, wanted⟩) fun _ => Triple.bind (triple_readCsd everything) fun _ => ?_
  exact triple_change (fun s => ⟨rfl, rfl, rfl, rfl, rfl, id⟩) fun s measured =>
    ⟨⟨measured.reported, measured.wanted, measured.parsed, measured.large⟩, rfl⟩

/-- **The identification of the card**, from the initial clocks to the CSD. -/
theorem triple_identifyCard :
    Triple (Undiagnosed frames first fun _ _ _ => True) identifyCard
      (fun _ => Undiagnosed frames first Located) (Diagnosed frames first fun _ _ _ => True) :=
  Triple.bind (keeps_resetCard everything) fun _ =>
    Triple.bind (keeps_interfaceCondition everything) fun _ =>
      Triple.bind (keeps_operatingCondition everything) fun _ =>
        Triple.bind (triple_readOcr everything) fun _ =>
          Triple.bind ((keeps_setBlockLength everything).mono (fun _ holds => holds)
            (fun _ _ holds => holds) Diagnosed.forget) fun _ =>
            triple_locateTestArea everything

end Locate

end FlightComputer.Firmware
