import FlightComputer.Firmware.SdCardDiagnosis
import FlightComputer.Library.Runs

/-!
# The chip select of the SD card

Every function of the driver that selects the card also deselects it, on each of its returns: the
chip select is high whenever a call has returned (`chip_select_released`). In a period in which the
chip select is low, at most one command is sent, or CMD55 and ACMD41.

`OnBus` says what holds of the chip select between the steps of a call. Single bytes do not change
it (`Steady`), a command frame adds its command, and deselecting the card ends the
period, whether the call goes on or fails.
-/

set_option autoImplicit false

namespace FlightComputer.Firmware

open Library Fallible

/-! ## Commands in a period -/

/-- The commands among the byte strings that have been sent: the frames of six bytes. -/
def sentCommands (sent : List Bytes) : List UInt8 :=
  (sent.filter fun bytes => bytes.length == 6).map fun frame => frame.headD 0 &&& 0x3F

theorem sentCommands_append (sent later : List Bytes) :
    sentCommands (sent ++ later) = sentCommands sent ++ sentCommands later := by
  rw [sentCommands, List.filter_append, List.map_append]
  rfl

theorem sentCommands_other {bytes : Bytes} (other : bytes.length ≠ 6) : sentCommands [bytes] = [] := by
  rw [sentCommands, List.filter_cons_of_neg (by rw [beq_iff_eq]; exact other)]
  rfl

/-- What may be sent in one period: one command at most, or CMD55 and ACMD41. -/
def IsLegal (commands : List UInt8) : Prop := commands.length ≤ 1 ∨ commands = [55, 41]

theorem isLegal_nil : IsLegal [] := .inl (Nat.zero_le 1)

theorem isLegal_singleton (index : UInt8) : IsLegal [index] := .inl (Nat.le_refl 1)

namespace ChipSelect

/-- All ended periods were legal, and in the one that lasts these commands have been sent. -/
structure Within (commands : List UInt8) (chipSelect : ChipSelect) : Prop where
  finished : ∀ sent ∈ chipSelect.finished, IsLegal (sentCommands sent)
  current : ∀ sent, chipSelect.current = some sent → sentCommands sent = commands

/-- All ended periods were legal, and the one that lasts is, too. -/
def Held (chipSelect : ChipSelect) : Prop :=
  ∃ commands, IsLegal commands ∧ chipSelect.Within commands

/-- All periods have ended, and they were legal. -/
structure Released (chipSelect : ChipSelect) : Prop where
  finished : ∀ sent ∈ chipSelect.finished, IsLegal (sentCommands sent)
  high : chipSelect.current = none

variable {chipSelect : ChipSelect} {commands : List UInt8}

theorem Within.held (within : chipSelect.Within commands) (legal : IsLegal commands) :
    chipSelect.Held :=
  ⟨commands, legal, within⟩

theorem Released.within (released : chipSelect.Released) (commands : List UInt8) :
    chipSelect.Within commands where
  finished := released.finished
  current sent lasts := by
    rw [released.high] at lasts
    cases lasts

theorem Released.held (released : chipSelect.Released) : chipSelect.Held :=
  (released.within []).held isLegal_nil

/-- **Driving the chip select high** ends the period. -/
theorem Held.driveHigh (held : chipSelect.Held) : chipSelect.driveHigh.Released where
  finished sent listed := by
    obtain ⟨commands, legal, within⟩ := held
    rcases List.mem_append.mp listed with earlier | last
    · exact within.finished sent earlier
    · rw [within.current sent (Option.mem_toList.mp last)]
      exact legal
  high := rfl

theorem Held.released (held : chipSelect.Held) (high : chipSelect.current = none) :
    chipSelect.Released := by
  obtain ⟨_, _, within⟩ := held
  exact ⟨within.finished, high⟩

/-- **Driving it low** begins one. -/
theorem Released.driveLow (released : chipSelect.Released) : chipSelect.driveLow.Within [] where
  finished := released.finished
  current sent lasts := by
    rw [ChipSelect.driveLow, released.high] at lasts
    rw [← Option.some.inj lasts]
    rfl

/-- **Sending** adds to the period. -/
theorem Within.send (within : chipSelect.Within commands) (sent : Bytes) :
    (chipSelect.send sent).Within (commands ++ sentCommands [sent]) where
  finished := within.finished
  current whole lasts := by
    obtain ⟨before, lasted, rfl⟩ := Option.map_eq_some_iff.mp lasts
    rw [sentCommands_append, within.current before lasted]

theorem Within.sendOther (within : chipSelect.Within commands) {sent : Bytes}
    (other : sent.length ≠ 6) : (chipSelect.send sent).Within commands := by
  have sends := within.send sent
  rw [sentCommands_other other, List.append_nil] at sends
  exact sends

theorem Released.send (released : chipSelect.Released) (sent : Bytes) :
    (chipSelect.send sent).Released where
  finished := released.finished
  high := by rw [ChipSelect.send, released.high, Option.map_none]

end ChipSelect

open ChipSelect

/-- What neither the initialization of the device nor a single byte changes. -/
structure Steady (C : ChipSelect → Prop) : Prop where
  high : ∀ chipSelect, C chipSelect → C chipSelect.driveHigh
  byte : ∀ chipSelect byte, C chipSelect → C (chipSelect.send [byte])

theorem steady_within {commands : List UInt8} (legal : IsLegal commands) :
    Steady (Within commands) where
  high _ within := (within.held legal).driveHigh.within commands
  byte _ _ within := within.sendOther (show 1 ≠ 6 by decide)

theorem steady_released : Steady Released where
  high _ released := released.held.driveHigh
  byte _ _ released := released.send _

/-! ## The SPI device -/

section Device

variable {C D : ChipSelect → Prop}

theorem chipSelect_initialization (high : ∀ chipSelect, C chipSelect → C chipSelect.driveHigh) :
    Keeps (fun device => C device.chipSelect) (fun device => C device.chipSelect)
      spiDeviceInitialize := by
  refine Triple.bind (M := fun _ device => C device.chipSelect) (.ask fun _ holds => holds)
    fun ready => .ite (fun _ => .pure fun _ holds => holds) fun _ => ?_
  refine Triple.bind (M := fun _ device => C device.chipSelect)
    (.change fun _ holds => high _ holds) fun _ => ?_
  refine Triple.bind (M := fun _ device => C device.chipSelect)
    (.receive fun _ _ _ holds _ => holds) fun ok => ?_
  exact Triple.bind (M := fun _ device => C device.chipSelect) (.change fun _ holds => holds)
    fun _ => .check (fun _ _ holds => holds) fun _ _ holds => holds

/-- **A transfer** may fail before its bytes are sent, or after. -/
theorem chipSelect_transfer (high : ∀ chipSelect, C chipSelect → C chipSelect.driveHigh)
    {sent : Bytes} (sends : ∀ chipSelect, C chipSelect → D (chipSelect.send sent)) :
    Triple (fun device => C device.chipSelect) (spiDeviceTransfer sent)
      (fun _ device => D device.chipSelect)
      (fun device => C device.chipSelect ∨ D device.chipSelect) := by
  refine Triple.bind ((chipSelect_initialization high).mono (fun _ holds => holds)
    (fun _ _ holds => holds) fun _ holds => .inl holds) fun _ => ?_
  refine Triple.bind (M := fun _ device => D device.chipSelect)
    (.receive fun _ _ _ holds _ => sends _ holds) fun reply => ?_
  cases reply with
  | none => exact .failure fun _ holds => .inr holds
  | some received => exact .pure fun _ holds => holds

theorem chipSelect_select :
    Triple (fun device => Released device.chipSelect) spiDeviceSelect
      (fun _ device => Within [] device.chipSelect) (fun device => Released device.chipSelect) :=
  Triple.bind (M := fun _ (device : SpiDevice) => Released device.chipSelect)
    (chipSelect_initialization steady_released.high) fun _ => .change fun _ released => released.driveLow

theorem chipSelect_deselect :
    Triple (fun device => Held device.chipSelect) spiDeviceDeselect
      (fun _ device => Released device.chipSelect) (fun device => Released device.chipSelect) :=
  .change fun _ held => held.driveHigh

theorem chipSelect_setPrescaler (prescaler : Prescaler) :
    Keeps (fun device => Released device.chipSelect) (fun device => Released device.chipSelect)
      (spiDeviceSetPrescaler prescaler) := by
  refine Triple.bind (M := fun _ (device : SpiDevice) => Released device.chipSelect)
    (.ask fun _ holds => holds) fun ready => .ite (fun _ => ?_)
      fun _ => .change fun _ holds => holds
  refine Triple.bind (M := fun _ (device : SpiDevice) => Released device.chipSelect)
    (.receive fun _ _ _ holds _ => holds) fun ok => ?_
  refine Triple.bind (M := fun _ (device : SpiDevice) => Released device.chipSelect)
    (.check (fun _ _ holds => holds) fun _ _ holds => holds) fun _ => ?_
  exact Triple.bind (M := fun _ (device : SpiDevice) => Released device.chipSelect) (.change fun _ holds => holds)
    fun _ => chipSelect_initialization (C := Released) steady_released.high

end Device

/-! ## Steps of the driver -/

/-- The chip select, as the driver uses it: without a device, it has never been low. -/
structure OnBus (C : ChipSelect → Prop) (s : SdCardDriver) : Prop where
  chipSelect : C s.spi.chipSelect
  unset : s.device = false → s.spi.chipSelect.current = none

section Steps

variable {C D F : ChipSelect → Prop} {α : Type}

theorem OnBus.mono {s : SdCardDriver} (onBus : OnBus C s)
    (weaker : ∀ chipSelect, C chipSelect → D chipSelect) : OnBus D s :=
  ⟨weaker _ onBus.chipSelect, onBus.unset⟩

/-- A call of the device, which fails without one. -/
theorem onBus_onDevice {call : SpiCall α}
    (triple : Triple (fun device => C device.chipSelect) call
      (fun _ device => D device.chipSelect) (fun device => F device.chipSelect))
    (missing : ∀ chipSelect, C chipSelect → chipSelect.current = none → F chipSelect) :
    Triple (OnBus C) (onDevice call) (fun _ => OnBus D) (OnBus F) := by
  refine Triple.bind (M := fun device s => OnBus C s ∧ device = s.device)
    (.ask fun s onBus => ⟨onBus, rfl⟩) fun device => ?_
  refine Triple.bind (M := fun _ s => OnBus C s ∧ s.device = true) (.check ?_ ?_) fun _ => ?_
  · rintro rfl s ⟨onBus, set⟩
    exact ⟨onBus, set.symm⟩
  · rintro rfl s ⟨onBus, unset⟩
    exact ⟨missing _ onBus.chipSelect (onBus.unset unset.symm), fun _ => onBus.unset unset.symm⟩
  · rintro s result t ⟨onBus, set⟩ returned
    obtain ⟨⟨answer, spi⟩, called, same⟩ := Option.map_eq_some_iff.mp returned
    obtain ⟨rfl, rfl⟩ := Prod.mk.inj same
    have outcome := triple s.spi answer spi onBus.chipSelect called
    have unset : s.device = false → spi.chipSelect.current = none := by
      intro unset
      rw [set] at unset
      cases unset
    cases answer with
    | none => exact ⟨outcome, unset⟩
    | some value => exact ⟨outcome, unset⟩

theorem onBus_fail {after : α → SdCardDriver → Prop} {reason : String} {code : Int32} :
    Triple (OnBus C) (fail reason code) after (OnBus C) :=
  Triple.bind (M := fun _ => OnBus C) (.change fun _ onBus => ⟨onBus.chipSelect, onBus.unset⟩)
    fun _ => .failure fun _ onBus => onBus

theorem onBus_failIfUnset {after : α → SdCardDriver → Prop} {reason : String} {code : Int32} :
    Triple (OnBus C) (failIfUnset reason code) after (OnBus C) := by
  refine Triple.bind (M := fun _ => OnBus C) (.ask fun _ onBus => onBus) fun stored =>
    .ite (fun _ => onBus_fail) fun _ => ?_
  exact Triple.bind (M := fun _ => OnBus C)
    (.change fun _ onBus => ⟨onBus.chipSelect, onBus.unset⟩) fun _ => .failure fun _ onBus => onBus

theorem onBus_beginStage {stage : String} : Keeps (OnBus C) (OnBus F) (beginStage stage) :=
  .change fun _ onBus => ⟨onBus.chipSelect, onBus.unset⟩

theorem onBus_halGetTick : Keeps (OnBus C) (OnBus F) halGetTick :=
  .receive fun _ _ _ onBus _ => ⟨onBus.chipSelect, onBus.unset⟩

section Bytes

variable (steady : Steady C)
include steady

theorem onBus_transferByte {byte : UInt8} : Keeps (OnBus C) (OnBus C) (transferByte byte) := by
  refine keeps_bind (Triple.orElse (M := OnBus C) (onBus_onDevice ?_ fun _ holds _ => holds)
    onBus_failIfUnset) fun _ => keeps_pure
  exact (chipSelect_transfer steady.high fun _ holds => steady.byte _ byte holds).mono
    (fun _ holds => holds) (fun _ _ holds => holds) fun _ either => either.elim id id

theorem pollable_onBus : Pollable (OnBus C) (OnBus C) where
  byte _ := onBus_transferByte steady
  tick := onBus_halGetTick
  failure _ := onBus_failIfUnset

end Bytes

/-! ## Commands -/

/-- The index of a command, out of its frame. -/
theorem sentCommands_commandFrame {index : UInt8} {argument : UInt32} {crc : UInt8}
    (small : (0x40 ||| index) &&& 0x3F = index) :
    sentCommands [commandFrame index argument crc] = [index] :=
  congrArg (fun command => [command]) small

/-- **`select_card`** begins a period. -/
theorem onBus_selectCard :
    Triple (OnBus Released) selectCard (fun _ => OnBus (Within [])) (OnBus Held) := by
  have selection : Triple (OnBus Released) (onDevice spiDeviceSelect)
      (fun _ => OnBus (Within [])) (OnBus Held) :=
    onBus_onDevice (chipSelect_select.mono (fun _ holds => holds) (fun _ _ holds => holds)
      fun _ released => released.held) fun _ released _ => released.held
  refine Triple.bind (Triple.orElse selection onBus_failIfUnset) fun _ => ?_
  exact ((pollable_onBus (steady_within isLegal_nil)).waitReady).mono (fun _ holds => holds)
    (fun _ _ holds => holds) fun _ within =>
      within.mono fun _ within => within.held isLegal_nil

/-- **`command`** sends its command in the period that lasts. -/
theorem onBus_command {commands : List UInt8} {index : UInt8} {argument : UInt32} {crc : UInt8}
    (small : (0x40 ||| index) &&& 0x3F = index) (before : IsLegal commands)
    (after : IsLegal (commands ++ [index])) :
    Triple (OnBus (Within commands)) (command index argument crc)
      (fun _ => OnBus (Within (commands ++ [index]))) (OnBus Held) := by
  have frame : Triple (OnBus (Within commands))
      (onDevice (spiDeviceTransfer (commandFrame index argument crc)))
      (fun _ => OnBus (Within (commands ++ [index]))) (OnBus Held) := by
    refine onBus_onDevice ((chipSelect_transfer (D := Within (commands ++ [index]))
      (steady_within before).high fun chipSelect within => ?_).mono (fun _ holds => holds)
      (fun _ _ holds => holds) ?_) fun _ within _ => within.held before
    · have sent := within.send (commandFrame index argument crc)
      rw [sentCommands_commandFrame small] at sent
      exact sent
    · rintro device (unsent | sent)
      · exact unsent.held before
      · exact sent.held after
  refine Triple.bind (Triple.orElse frame onBus_failIfUnset) fun _ => ?_
  exact ((pollable_onBus (steady_within after)).awaitResponse).mono (fun _ holds => holds)
    (fun _ _ holds => holds) fun _ within => within.mono fun _ within => within.held after

/-- **`deselect_card`** ends the period, whatever the device answers. -/
theorem onBus_deselectCard {failed : SdCardDriver → Prop} :
    Triple (OnBus Held) deselectCard (fun _ => OnBus Released) failed := by
  refine Triple.bind (M := fun _ => OnBus Released) (Triple.orElse (M := OnBus Released)
    (onBus_onDevice chipSelect_deselect fun _ held high => held.released high) keeps_pure)
    fun _ => ?_
  refine Triple.orElse (M := OnBus Released) ?_ keeps_pure
  refine keeps_bind (onBus_onDevice ?_ fun _ holds _ => holds) fun _ => keeps_pure
  exact (chipSelect_transfer steady_released.high fun _ holds => steady_released.byte _ 0xFF holds).mono
    (fun _ holds => holds) (fun _ _ holds => holds) fun _ either => either.elim id id

/-- Deselecting the card after a failure. -/
theorem onBus_orDeselect {before : SdCardDriver → Prop} {after : α → SdCardDriver → Prop}
    {call : SdCall α} (triple : Triple before call after (OnBus Held)) :
    Triple before (orDeselect call) after (OnBus Released) :=
  triple.orElse (Triple.bind onBus_deselectCard fun _ => .failure fun _ released => released)

theorem onBus_deselectAndFail {commands : List UInt8} (legal : IsLegal commands)
    {after : α → SdCardDriver → Prop} {reason : String} {code : Int32} :
    Triple (OnBus (Within commands)) (deselectAndFail reason code) after (OnBus Released) :=
  Triple.bind (onBus_deselectCard.mono
    (fun _ within => within.mono fun _ within => within.held legal) (fun _ _ holds => holds)
    fun _ holds => holds) fun _ => onBus_fail

end Steps

/-! ## The functions of the driver -/

/-- A command, with its select. -/
theorem onBus_selectAndCommand {index : UInt8} {argument : UInt32} {crc : UInt8}
    (small : (0x40 ||| index) &&& 0x3F = index) :
    Triple (OnBus Released) (orDeselect (do selectCard; command index argument crc))
      (fun _ => OnBus (Within [index])) (OnBus Released) :=
  onBus_orDeselect (Triple.bind onBus_selectCard fun _ =>
    onBus_command small isLegal_nil (isLegal_singleton index))

/-- A call within the period of a command, which is deselected if it fails. -/
theorem onBus_within {α : Type} {commands : List UInt8} (legal : IsLegal commands) {call : SdCall α}
    (keeps : Keeps (OnBus (Within commands)) (OnBus (Within commands)) call) :
    Keeps (OnBus (Within commands)) (OnBus Released) (orDeselect call) :=
  onBus_orDeselect (keeps.mono (fun _ holds => holds) (fun _ _ holds => holds)
    fun _ within => within.mono fun _ within => within.held legal)

/-- The end of a period. -/
theorem onBus_end {commands : List UInt8} (legal : IsLegal commands)
    {failed : SdCardDriver → Prop} :
    Triple (OnBus (Within commands)) deselectCard (fun _ => OnBus Released) failed :=
  onBus_deselectCard.mono (fun _ within => within.mono fun _ within => within.held legal)
    (fun _ _ holds => holds) fun _ holds => holds

/-- A change of what is not on the bus. -/
theorem onBus_change {C : ChipSelect → Prop} {update : SdCardDriver → SdCardDriver}
    {failed : SdCardDriver → Prop} (spi : ∀ s, (update s).spi.chipSelect = s.spi.chipSelect)
    (device : ∀ s, (update s).device = false → s.device = false) :
    Keeps (OnBus C) failed (change update) :=
  .change fun s onBus =>
    ⟨(spi s).symm ▸ onBus.chipSelect, fun unset => (spi s).symm ▸ onBus.unset (device s unset)⟩

theorem onBus_resetCard : Keeps (OnBus Released) (OnBus Released) resetCard := by
  refine keeps_bind onBus_beginStage fun _ => keeps_bind ((pollable_onBus steady_released).clockBytes) fun _ =>
    keeps_bind onBus_beginStage fun _ => ?_
  have selection : Triple (OnBus Released) (onDevice spiDeviceSelect)
      (fun _ => OnBus (Within [])) (OnBus Released) :=
    onBus_onDevice chipSelect_select fun _ released _ => released
  refine Triple.bind (Triple.orElse selection onBus_fail) fun _ => ?_
  refine Triple.bind (onBus_orDeselect (onBus_command (by decide) isLegal_nil
    (isLegal_singleton 0))) fun response => .ite (fun _ => ?_) fun _ => ?_
  · exact onBus_deselectAndFail (isLegal_singleton 0)
  · exact onBus_end (isLegal_singleton 0)

theorem onBus_interfaceCondition :
    Keeps (OnBus Released) (OnBus Released) interfaceCondition := by
  have legal := isLegal_singleton 8
  have version : ∀ versionTwo : Bool, Triple (OnBus (Within [8]))
      (do deselectCard; pure versionTwo) (fun _ => OnBus Released) (OnBus Released) :=
    fun _ => Triple.bind (onBus_end legal) fun _ => keeps_pure
  refine keeps_bind onBus_beginStage fun _ =>
    Triple.bind (onBus_selectAndCommand (by decide)) fun response => .ite (fun _ => ?_)
      fun _ => .ite (fun _ => version false) fun _ => onBus_deselectAndFail legal
  refine Triple.bind (onBus_within legal ((pollable_onBus (steady_within legal)).readBytes))
    fun r7 => .ite (fun _ => onBus_deselectAndFail legal) fun _ => version true

/-- **CMD55 and ACMD41** share a period. -/
theorem onBus_operatingConditionLoop {versionTwo : Bool} {started : UInt32} {bound : Nat} :
    Keeps (OnBus Released) (OnBus Released) (operatingConditionLoop versionTwo started bound) := by
  have pair : IsLegal ([55] ++ [41]) := .inr rfl
  induction bound with
  | zero => exact Triple.never
  | succ bound ih =>
      refine keeps_bind onBus_beginStage fun _ =>
        Triple.bind (onBus_selectAndCommand (by decide)) fun _ => .ite
          (fun _ => onBus_deselectAndFail (isLegal_singleton 55)) fun _ => ?_
      refine Triple.bind onBus_beginStage fun _ => Triple.bind (onBus_orDeselect
        (onBus_command (by decide) (isLegal_singleton 55) pair)) fun response =>
          Triple.bind (onBus_end pair) fun _ => ?_
      refine .ite (fun _ => keeps_pure) fun _ => .ite (fun _ => onBus_fail) fun _ => ?_
      exact keeps_bind onBus_halGetTick fun _ => .ite (fun _ => ih) fun _ => keeps_pure

theorem onBus_operatingCondition {versionTwo : Bool} :
    Keeps (OnBus Released) (OnBus Released) (operatingCondition versionTwo) :=
  keeps_bind onBus_halGetTick fun _ => keeps_bind keeps_ask fun _ =>
    keeps_bind onBus_operatingConditionLoop fun _ => .ite (fun _ => onBus_fail) fun _ => keeps_pure

theorem onBus_readOcr {versionTwo : Bool} :
    Keeps (OnBus Released) (OnBus Released) (readOcr versionTwo) := by
  have legal := isLegal_singleton 58
  refine keeps_bind onBus_beginStage fun _ =>
    Triple.bind (onBus_selectAndCommand (by decide)) fun _ => .ite
      (fun _ => onBus_deselectAndFail legal) fun _ => ?_
  exact Triple.bind (onBus_within legal ((pollable_onBus (steady_within legal)).readBytes)) fun ocr =>
    Triple.bind (onBus_change (fun _ => rfl) fun _ => id) fun _ => onBus_end legal

theorem onBus_setBlockLength : Keeps (OnBus Released) (OnBus Released) setBlockLength := by
  have legal := isLegal_singleton 16
  refine keeps_bind keeps_ask fun _ => .ite (fun _ => keeps_pure) fun _ => ?_
  exact keeps_bind onBus_beginStage fun _ =>
    Triple.bind (onBus_selectAndCommand (by decide)) fun _ => .ite
      (fun _ => onBus_deselectAndFail legal) fun _ => onBus_end legal

theorem onBus_readCsd : Keeps (OnBus Released) (OnBus Released) readCsd := by
  have legal := isLegal_singleton 9
  have steady := steady_within legal
  refine keeps_bind onBus_beginStage fun _ =>
    Triple.bind (onBus_selectAndCommand (by decide)) fun _ => .ite
      (fun _ => onBus_deselectAndFail legal) fun _ => ?_
  refine Triple.bind (onBus_within legal (keeps_bind ((pollable_onBus steady).waitForDataToken) fun _ =>
    keeps_bind ((pollable_onBus steady).readBytes) fun _ => keeps_bind ((pollable_onBus steady).readBytes)
      fun _ => keeps_pure)) fun csd => Triple.bind (onBus_end legal) fun _ =>
        Triple.bind (onBus_change (fun _ => rfl) fun _ => id) fun _ => ?_
  cases sdCardParseCsd csd with
  | none => exact onBus_fail
  | some sectorCount =>
      exact Triple.bind (onBus_change (fun _ => rfl) fun _ => id) fun _ =>
        .ite (fun _ => onBus_fail) fun _ => keeps_pure

theorem onBus_identifyCard : Keeps (OnBus Released) (OnBus Released) identifyCard := by
  refine keeps_bind onBus_resetCard fun _ => keeps_bind onBus_interfaceCondition fun _ =>
    keeps_bind onBus_operatingCondition fun _ => keeps_bind onBus_readOcr fun _ =>
      keeps_bind onBus_setBlockLength fun _ => ?_
  exact keeps_bind (onBus_change (fun _ => rfl) fun _ => id) fun _ =>
    keeps_bind onBus_readCsd fun _ => onBus_change (fun _ => rfl) fun _ => id

theorem onBus_raiseSpeed : Keeps (OnBus Released) (OnBus Released) raiseSpeed := by
  refine keeps_bind onBus_beginStage fun _ =>
    keeps_bind (onBus_change (fun _ => rfl) fun _ => id) fun _ => ?_
  exact Triple.orElse (onBus_onDevice (chipSelect_setPrescaler 4) fun _ holds _ => holds) onBus_fail

/-- **`sd_card_driver_initialize`** -/
theorem onBus_initialization {isNull : Bool} :
    Keeps (OnBus Released) (OnBus Released) (sdCardDriverInitialize isNull) := by
  refine keeps_bind (keeps_bind (onBus_change (fun _ => rfl) fun _ => id)
    fun _ => onBus_beginStage) fun _ => .ite (fun _ => onBus_fail) fun _ => ?_
  refine keeps_bind onBus_beginStage fun _ => keeps_bind
    (onBus_change (fun _ => rfl) fun _ unset => Bool.noConfusion unset) fun _ => ?_
  refine keeps_bind (Triple.orElse (onBus_onDevice
    (chipSelect_initialization (C := Released) steady_released.high) fun _ holds _ => holds)
    onBus_fail) fun _ => ?_
  have mark : ∀ identifying, Keeps (OnBus Released) (OnBus Released) (markTransfers identifying) :=
    fun _ => onBus_change (fun _ => rfl) fun _ => id
  refine keeps_bind (keeps_bind (mark true) fun _ => keeps_bind (Triple.orElse onBus_identifyCard
    (keeps_bind (mark false) fun _ => .failure fun _ holds => holds)) fun _ => mark false)
    fun _ => onBus_raiseSpeed

/-- The command for a sector, with its select. -/
theorem onBus_addressSector {index : UInt8} {sector : UInt32}
    (small : (0x40 ||| index) &&& 0x3F = index) :
    Triple (OnBus Released) (orDeselect (do
        selectCard
        command index (wireAddress (← ask SdCardDriver.highCapacity) sector) 0xFF))
      (fun _ => OnBus (Within [index])) (OnBus Released) :=
  onBus_orDeselect (Triple.bind onBus_selectCard fun _ => Triple.bind keeps_ask fun _ =>
    onBus_command small isLegal_nil (isLegal_singleton index))

/-- **`write_block`**; the bytes of a block are not a command. -/
theorem onBus_writeBlock {sector : UInt32} {buffer : Bytes} (block : buffer.length = 512) :
    Keeps (OnBus Released) (OnBus Released) (writeBlock sector buffer) := by
  have legal := isLegal_singleton 24
  have steady := steady_within legal
  have notCommand : buffer.length ≠ 6 := by rw [block]; decide
  refine Triple.bind (onBus_addressSector (by decide)) fun _ => .ite
    (fun _ => onBus_deselectAndFail legal) fun _ => ?_
  refine Triple.bind (onBus_within legal ((pollable_onBus steady).waitReady)) fun _ =>
    Triple.bind (onBus_within legal (onBus_transferByte steady)) fun _ => ?_
  have data : Keeps (OnBus (Within [24])) (OnBus (Within [24]))
      (onDevice (spiDeviceTransfer buffer)) :=
    onBus_onDevice ((chipSelect_transfer steady.high fun _ within =>
      within.sendOther notCommand).mono (fun _ holds => holds) (fun _ _ holds => holds)
        fun _ either => either.elim id id) fun _ holds _ => holds
  refine Triple.bind (Triple.orElse data (onBus_deselectAndFail legal)) fun _ => ?_
  refine Triple.bind (onBus_within legal (keeps_bind (onBus_transferByte steady) fun _ =>
    keeps_bind (onBus_transferByte steady) fun _ => onBus_transferByte steady)) fun _ => .ite
      (fun _ => onBus_deselectAndFail legal) fun _ => ?_
  exact Triple.bind (onBus_within legal ((pollable_onBus steady).waitReady)) fun _ => onBus_end legal

/-- **`read_block`** -/
theorem onBus_readBlock {sector : UInt32} :
    Keeps (OnBus Released) (OnBus Released) (readBlock sector) := by
  have legal := isLegal_singleton 17
  have steady := steady_within legal
  refine Triple.bind (onBus_addressSector (by decide)) fun _ => .ite
    (fun _ => onBus_deselectAndFail legal) fun _ => ?_
  refine Triple.bind (onBus_within legal (keeps_bind ((pollable_onBus steady).waitForDataToken) fun _ =>
    keeps_bind ((pollable_onBus steady).readBytes) fun _ => keeps_bind ((pollable_onBus steady).readBytes)
      fun _ => keeps_pure)) fun _ => ?_
  exact Triple.bind (onBus_end legal) fun _ => keeps_pure

/-! ## Calls -/

/-- A call of the driver: its initialization, an operation on a test block, or its shutdown. The
flag tells that the information is `NULL`. -/
inductive DriverCall where
  | initializeDriver (isNull : Bool)
  | writeTestBlock (isNull : Bool) (block : UInt32)
  | verifyTestBlock (isNull : Bool) (block : UInt32)
  | clearTestBlock (isNull : Bool) (block : UInt32)
  | shutdown

/-- The function of a call. -/
def DriverCall.call : DriverCall → SdCall Unit
  | .initializeDriver isNull => sdCardDriverInitialize isNull
  | .writeTestBlock isNull block => sdCardDriverWriteTestBlock isNull block
  | .verifyTestBlock isNull block => sdCardDriverVerifyTestBlock isNull block
  | .clearTestBlock isNull block => sdCardDriverClearTestBlock isNull block
  | .shutdown => sdCardDriverShutdown

/-- A call that returns, with success or failure, whatever the hardware answers. -/
def DriverReturns (s : SdCardDriver) (call : DriverCall) (t : SdCardDriver) : Prop :=
  ∃ answers result, call.call (s.withAnswers answers) = some (result, t)

theorem onBus_call (call : DriverCall) : Keeps (OnBus Released) (OnBus Released) call.call := by
  have begins : ∀ stage, Keeps (OnBus Released) (OnBus Released) (beginCall stage) := fun _ =>
    keeps_bind (onBus_change (fun _ => rfl) fun _ => id) fun _ => onBus_beginStage
  cases call with
  | initializeDriver isNull => exact onBus_initialization
  | writeTestBlock isNull block =>
      refine keeps_bind (begins _) fun _ => .ite (fun _ => onBus_fail) fun _ => ?_
      refine keeps_bind (onBus_change (fun _ => rfl) fun _ => id) fun _ =>
        keeps_bind keeps_ask fun _ => keeps_bind (onBus_change (fun _ => rfl) fun _ => id) fun _ =>
          keeps_bind (onBus_writeBlock ?_) fun _ => .ite
            (fun _ => onBus_change (fun _ => rfl) fun _ => id) fun _ => keeps_pure
      exact (List.length_map _).trans List.length_range
  | verifyTestBlock isNull block =>
      refine keeps_bind (begins _) fun _ => .ite (fun _ => onBus_fail) fun _ => ?_
      refine keeps_bind (onBus_change (fun _ => rfl) fun _ => id) fun _ =>
        keeps_bind keeps_ask fun _ => keeps_bind onBus_readBlock fun _ => .ite
          (fun _ => onBus_fail) fun _ => ?_
      refine keeps_bind (onBus_change (fun _ => rfl) fun _ => id) fun _ =>
        keeps_bind keeps_ask fun _ => keeps_bind keeps_ask fun _ => .ite
          (fun _ => onBus_fail) fun _ => keeps_pure
  | clearTestBlock isNull block =>
      refine keeps_bind (begins _) fun _ => .ite (fun _ => onBus_fail) fun _ => ?_
      exact keeps_bind keeps_ask fun _ => onBus_writeBlock List.length_replicate
  | shutdown =>
      refine keeps_bind keeps_ask fun _ => .ite (fun _ => ?_) fun _ => keeps_pure
      exact onBus_deselectCard.mono (fun _ released => released.mono fun _ released => released.held)
        (fun _ _ holds => holds) fun _ holds => holds

theorem onBus_of_returns {s t : SdCardDriver} {call : DriverCall} (onBus : OnBus Released s)
    (returns : DriverReturns s call t) : OnBus Released t := by
  obtain ⟨answers, result, returned⟩ := returns
  have answered : OnBus Released (s.withAnswers answers) := ⟨onBus.chipSelect, onBus.unset⟩
  cases result with
  | none => exact (onBus_call call).fails answered returned
  | some _ => exact (onBus_call call).success answered returned

/-- **The chip select is released** whenever a call has returned: it is high, and in each period in
which it was low, one command was sent at most, or CMD55 and ACMD41. -/
theorem chip_select_released {answers : HardwareAnswers} {calls : List DriverCall}
    {s : SdCardDriver} (run : Run DriverReturns (.initial answers) calls s) :
    s.spi.chipSelect.current = none ∧
      ∀ sent ∈ s.spi.chipSelect.finished,
        (sentCommands sent).length ≤ 1 ∨ sentCommands sent = [55, 41] := by
  have onBus : OnBus Released s :=
    run.invariant (I := OnBus Released) (fun _ _ _ onBus returns => onBus_of_returns onBus returns)
      ⟨⟨fun _ listed => absurd listed List.not_mem_nil, rfl⟩, fun _ => rfl⟩
  exact ⟨onBus.chipSelect.high, onBus.chipSelect.finished⟩

/-- A card that never answers: CMD0 has no response. -/
def silentCard : HardwareAnswers where
  initResults := [true]
  deInitResults := []
  replies := List.replicate 28 (some fun _ => 0xFF)
  ticks := []

/-- After the initialization of such a card. -/
theorem chip_select_released_silent : ∃ s,
    DriverReturns (.initial silentCard) (.initializeDriver false) s ∧
      s.spi.chipSelect.current = none ∧
      ∀ sent ∈ s.spi.chipSelect.finished,
        (sentCommands sent).length ≤ 1 ∨ sentCommands sent = [55, 41] := by
  have returns : ((sdCardDriverInitialize false (.initial silentCard)).map Prod.fst) =
      some none := by decide +kernel
  obtain ⟨⟨result, s⟩, returned, _⟩ := Option.map_eq_some_iff.mp returns
  have step : DriverReturns (.initial silentCard) (.initializeDriver false) s :=
    ⟨silentCard, result, returned⟩
  exact ⟨s, step, chip_select_released (.single step)⟩

end FlightComputer.Firmware
