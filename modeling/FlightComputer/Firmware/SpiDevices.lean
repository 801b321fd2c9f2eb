import FlightComputer.Library.Ascii
import FlightComputer.Library.Fallible

/-!
# SPI devices

The SPI access of `spi_devices.c`, for one device. The peripheral is configured with
the prescaler of the device's context when it is initialized, and it keeps this
configuration while it is ready; `setPrescaler` initializes it anew. What the HAL
answers is given in advance, call by call, and a call whose answer is missing has not
returned.

The transfers are recorded with the prescaler that the peripheral is configured with
when they are made, and apart from that by the periods in which the chip select is low.
-/

set_option autoImplicit false

namespace FlightComputer.Firmware

open Library Fallible

/-- A prescaler, by its divisor. -/
abbrev Prescaler : Type := Nat

/-- What `HAL_SPI_TransmitReceive` answers: nothing when it does not return `HAL_OK`,
else the bytes it has received. -/
abbrev SpiReply : Type := Option (Nat → UInt8)

/-- A transfer: the prescaler in force, the bytes that are sent, and whether the card
is being identified. -/
structure SpiTransfer where
  prescaler : Prescaler
  sent : Bytes
  identifying : Bool
  deriving DecidableEq

/-- The chip select, by what has been sent in the periods in which it was low: in the
one that lasts, unless the chip select is high, and in those that have ended. -/
structure ChipSelect where
  current : Option (List Bytes)
  finished : List (List Bytes)

/-- `HAL_GPIO_WritePin(..., GPIO_PIN_RESET)` -/
def ChipSelect.driveLow (chipSelect : ChipSelect) : ChipSelect :=
  { chipSelect with current := some (chipSelect.current.getD []) }

/-- `HAL_GPIO_WritePin(..., GPIO_PIN_SET)` -/
def ChipSelect.driveHigh (chipSelect : ChipSelect) : ChipSelect where
  current := none
  finished := chipSelect.finished ++ chipSelect.current.toList

/-- Bytes are sent. -/
def ChipSelect.send (sent : Bytes) (chipSelect : ChipSelect) : ChipSelect :=
  { chipSelect with current := chipSelect.current.map (· ++ [sent]) }

/-- `flightcomputer_spi_context_t`, the answers of the HAL that are still to come, and
what has been transferred. The prescaler that the peripheral is configured with is that
of the handle; `identifying` marks the transfers. -/
structure SpiDevice where
  prescaler : Prescaler
  ready : Bool
  configured : Prescaler
  initResults : List Bool
  deInitResults : List Bool
  replies : List SpiReply
  transfers : List SpiTransfer
  identifying : Bool
  chipSelect : ChipSelect

/-- A call that works on an SPI device. -/
abbrev SpiCall (α : Type) : Type := Fallible SpiDevice α

/-- `HAL_SPI_Init`, true for `HAL_OK`. -/
def halSpiInit : SpiCall Bool :=
  receive SpiDevice.initResults fun later device => { device with initResults := later }

/-- `HAL_SPI_DeInit`, true for `HAL_OK`. -/
def halSpiDeInit : SpiCall Bool :=
  receive SpiDevice.deInitResults fun later device => { device with deInitResults := later }

/-- `HAL_SPI_TransmitReceive`. A transfer that is not completed may have been clocked
all the same. -/
def halSpiTransmitReceive (sent : Bytes) : SpiCall Bytes := do
  let reply ← receive SpiDevice.replies fun later device =>
    { device with
      replies := later
      transfers := device.transfers ++ [⟨device.configured, sent, device.identifying⟩]
      chipSelect := device.chipSelect.send sent }
  match reply with
  | none => failure
  | some received => pure ((List.range sent.length).map received)

/-- `initialize` -/
def spiDeviceInitialize : SpiCall Unit := do
  if ← ask SpiDevice.ready then pure ()
  else
    change fun device => { device with
      configured := device.prescaler
      chipSelect := device.chipSelect.driveHigh }
    let ok ← halSpiInit
    change fun device => { device with ready := ok }
    check ok

/-- `select_device` -/
def spiDeviceSelect : SpiCall Unit := do
  spiDeviceInitialize
  change fun device => { device with chipSelect := device.chipSelect.driveLow }

/-- `deselect_device` -/
def spiDeviceDeselect : SpiCall Unit :=
  change fun device => { device with chipSelect := device.chipSelect.driveHigh }

/-- `transfer`, for a length from 1 to 65535. -/
def spiDeviceTransfer (sent : Bytes) : SpiCall Bytes := do
  spiDeviceInitialize
  halSpiTransmitReceive sent

/-- `set_prescaler` -/
def spiDeviceSetPrescaler (prescaler : Prescaler) : SpiCall Unit := do
  if ← ask SpiDevice.ready then
    let ok ← halSpiDeInit
    check ok
    change fun device => { device with ready := false, prescaler := prescaler }
    spiDeviceInitialize
  else change fun device => { device with prescaler := prescaler }

/-! ## What they do -/

/-- The prescaler that the next transfer will be clocked with. -/
def SpiDevice.speed (device : SpiDevice) : Prescaler :=
  if device.ready then device.configured else device.prescaler

/-- A device has been used to send some byte strings, at the speed it had. -/
structure Clocked (before : SpiDevice) (sent : List Bytes) (after : SpiDevice) : Prop where
  speed : after.speed = before.speed
  prescaler : after.prescaler = before.prescaler
  identifying : after.identifying = before.identifying
  transfers : after.transfers =
    before.transfers ++ sent.map fun bytes => ⟨before.speed, bytes, before.identifying⟩

namespace Clocked

theorem refl (device : SpiDevice) : Clocked device [] device :=
  ⟨rfl, rfl, rfl, (List.append_nil _).symm⟩

theorem trans {first second third : SpiDevice} {sent later : List Bytes}
    (before : Clocked first sent second) (after : Clocked second later third) :
    Clocked first (sent ++ later) third where
  speed := after.speed.trans before.speed
  prescaler := after.prescaler.trans before.prescaler
  identifying := after.identifying.trans before.identifying
  transfers := by
    rw [after.transfers, before.transfers, before.speed, before.identifying, List.map_append,
      List.append_assoc]

end Clocked

/-- **Initializing** sends nothing and keeps the speed. -/
theorem spiDeviceInitialize_spec (before : SpiDevice) :
    Triple (fun device => device = before) spiDeviceInitialize
      (fun _ device => Clocked before [] device ∧ device.ready = true)
      (fun device => Clocked before [] device) := by
  refine Triple.bind (M := fun ready device => device = before ∧ ready = before.ready)
    (.ask fun device same => ⟨same, by rw [same]⟩) fun ready => ?_
  refine Triple.ite (fun isReady => ?_) (fun notReady => ?_)
  · refine .pure ?_
    rintro device ⟨rfl, same⟩
    exact ⟨.refl device, same.symm.trans isReady⟩
  · refine Triple.bind
      (M := fun _ device => before.ready = false ∧ device = { before with
        configured := before.prescaler, chipSelect := before.chipSelect.driveHigh })
      (.change ?_) fun _ => ?_
    · rintro device ⟨rfl, same⟩
      exact ⟨same.symm.trans (Bool.eq_false_iff.mpr notReady), rfl⟩
    · refine Triple.bind
        (M := fun _ device => before.ready = false ∧ ∃ later, device = { before with
          configured := before.prescaler, chipSelect := before.chipSelect.driveHigh,
          initResults := later })
        (.receive ?_) fun ok => ?_
      · rintro device answer later ⟨idle, rfl⟩ _
        exact ⟨idle, later, rfl⟩
      · refine Triple.bind
          (M := fun _ device => before.ready = false ∧ ∃ later, device = { before with
            configured := before.prescaler, chipSelect := before.chipSelect.driveHigh,
            initResults := later, ready := ok })
          (.change ?_) fun _ => .check ?_ ?_
        · rintro device ⟨idle, later, rfl⟩
          exact ⟨idle, later, rfl⟩
        · rintro rfl device ⟨idle, later, rfl⟩
          exact ⟨⟨by simp [SpiDevice.speed, idle], rfl, rfl, (List.append_nil _).symm⟩, rfl⟩
        · rintro rfl device ⟨idle, later, rfl⟩
          exact ⟨by simp [SpiDevice.speed, idle], rfl, rfl, (List.append_nil _).symm⟩

/-- A change of the chip select sends nothing. -/
theorem clocked_chipSelect {before device : SpiDevice} {sent : List Bytes}
    (clocked : Clocked before sent device) (chipSelect : ChipSelect) :
    Clocked before sent { device with chipSelect := chipSelect } :=
  ⟨clocked.speed, clocked.prescaler, clocked.identifying, clocked.transfers⟩

/-- **Selecting** sends nothing and keeps the speed. -/
theorem spiDeviceSelect_spec (before : SpiDevice) :
    Triple (fun device => device = before) spiDeviceSelect
      (fun _ device => Clocked before [] device) (fun device => Clocked before [] device) :=
  Triple.bind (spiDeviceInitialize_spec before) fun _ =>
    .change fun _ done => clocked_chipSelect done.1 _

/-- **Deselecting** sends nothing, and always succeeds. -/
theorem spiDeviceDeselect_spec (before : SpiDevice) :
    Triple (fun device => device = before) spiDeviceDeselect
      (fun _ device => Clocked before [] device) (fun _ => False) := by
  refine .change ?_
  rintro device rfl
  exact clocked_chipSelect (.refl device) _

/-- **A transfer** sends its bytes, or nothing when the device cannot be initialized. -/
theorem spiDeviceTransfer_spec (sent : Bytes) (before : SpiDevice) :
    Triple (fun device => device = before) (spiDeviceTransfer sent)
      (fun received device => Clocked before [sent] device ∧ received.length = sent.length)
      (fun device => Clocked before [] device ∨ Clocked before [sent] device) := by
  refine Triple.bind ((spiDeviceInitialize_spec before).mono (fun _ same => same)
    (fun _ _ done => done) (fun _ done => .inl done)) fun _ => ?_
  refine Triple.bind (M := fun reply device => Clocked before [sent] device)
    (.receive ?_) fun reply => ?_
  · rintro device answer later ⟨initialized, ready⟩ _
    refine Clocked.trans initialized ⟨?_, rfl, rfl, ?_⟩
    · rfl
    · simp [SpiDevice.speed, ready]
  · cases reply with
    | none => exact .failure fun _ done => .inr done
    | some received => exact .pure fun _ done => ⟨done, by simp⟩

/-- **Setting the prescaler** sends nothing. It succeeds only after it has stored the
prescaler, and a device that is ready then runs at it. -/
theorem spiDeviceSetPrescaler_spec (prescaler : Prescaler) (before : SpiDevice) :
    Triple (fun device => device = before) (spiDeviceSetPrescaler prescaler)
      (fun _ device => device.transfers = before.transfers ∧
        device.identifying = before.identifying ∧ device.prescaler = prescaler)
      (fun device => device.transfers = before.transfers ∧
        device.identifying = before.identifying ∧
        (device.prescaler = prescaler ∨ device.prescaler = before.prescaler)) := by
  refine Triple.bind (M := fun _ device => device = before)
    (.ask fun device same => same) fun ready => Triple.ite (fun _ => ?_) (fun _ => ?_)
  · refine Triple.bind (M := fun _ device => ∃ later,
        device = { before with deInitResults := later })
      (.receive ?_) fun ok => ?_
    · rintro device answer later rfl _
      exact ⟨later, rfl⟩
    · refine Triple.bind (M := fun _ device => ∃ later,
          device = { before with deInitResults := later })
        (.check (fun _ _ same => same) ?_) fun _ => ?_
      · rintro _ device ⟨later, rfl⟩
        exact ⟨rfl, rfl, .inr rfl⟩
      · refine Triple.bind (M := fun _ device => device.transfers = before.transfers ∧
            device.identifying = before.identifying ∧ device.prescaler = prescaler)
          (.change ?_) fun _ => ?_
        · rintro device ⟨later, rfl⟩
          exact ⟨rfl, rfl, rfl⟩
        · intro device result after stored returned
          have spec := spiDeviceInitialize_spec device device result after rfl returned
          have kept : ∀ after, Clocked device [] after → after.transfers = before.transfers ∧
              after.identifying = before.identifying ∧ after.prescaler = prescaler := by
            intro after done
            refine ⟨?_, done.identifying.trans stored.2.1, done.prescaler.trans stored.2.2⟩
            rw [done.transfers, List.map_nil, List.append_nil]
            exact stored.1
          cases result with
          | none =>
              obtain ⟨transfers, identifying, same⟩ := kept after spec
              exact ⟨transfers, identifying, .inl same⟩
          | some _ => exact kept after spec.1
  · refine .change ?_
    rintro device rfl
    exact ⟨rfl, rfl, rfl⟩

end FlightComputer.Firmware
