import FlightComputer.Firmware.SpiDevices

/-!
# The SD card driver

`sd_card_driver.c` and `sd_card_csd.c`, on the SPI device of the card. A function that
returns `bool` fails where the source returns false; the structure its pointer argument
points to is part of the state. What `HAL_GetTick` answers is given in advance, like the
answers of the SPI device.

Three fields only observe. `registers` holds what the card has answered about itself,
`detected` lists every failure that a function of the driver has noticed, stored or not,
and `highSpeedReached` tells that an initialization has come to its last step.
-/

set_option autoImplicit false

namespace FlightComputer.Firmware

open Library Fallible

/-! ## The CSD register -/

/-- A byte of the register, as it is used in 32-bit arithmetic. -/
def csdByte (csd : Bytes) (index : Nat) : UInt32 := (csd.getD index 0).toUInt32

/-- `C_SIZE` of a version 2 register. -/
def csdSizeV2 (csd : Bytes) : UInt32 :=
  ((csdByte csd 7 &&& 0x3F) <<< 16) ||| (csdByte csd 8 <<< 8) ||| csdByte csd 9

/-- `C_SIZE` of a version 1 register. -/
def csdSizeV1 (csd : Bytes) : UInt32 :=
  ((csdByte csd 6 &&& 0x03) <<< 10) ||| (csdByte csd 7 <<< 2) ||| (csdByte csd 8 >>> 6)

/-- `C_SIZE_MULT` of a version 1 register. -/
def csdMultiplier (csd : Bytes) : UInt32 :=
  ((csdByte csd 9 &&& 0x03) <<< 1) ||| (csdByte csd 10 >>> 7)

/-- `sd_card_parse_csd`, with the sector count. -/
def sdCardParseCsd (csd : Bytes) : Option UInt64 :=
  let version := csdByte csd 0 >>> 6
  if version = 1 then some ((csdSizeV2 csd + 1).toUInt64 * 1024)
  else if version = 0 then
    let readLength := csdByte csd 5 &&& 0x0F
    some (((csdSizeV1 csd + 1).toUInt64 <<< (csdMultiplier csd + 2 + readLength).toUInt64) / 512)
  else none

/-! ## The state -/

/-- `SD_CARD_TEST_BLOCK_COUNT` -/
def sdCardTestBlockCount : UInt32 := 8

/-- `SD_BLOCK_SIZE` -/
def sdBlockSize : UInt32 := 512

/-- `SD_TEST_AREA_DISTANCE_FROM_END` -/
def sdTestAreaDistanceFromEnd : UInt64 := 16

/-- `SD_READY_TIMEOUT_MS` -/
def sdReadyTimeoutMs : UInt32 := 1000

/-- `SD_DATA_TIMEOUT_MS` -/
def sdDataTimeoutMs : UInt32 := 250

/-- `SD_RESPONSE_ATTEMPTS` -/
def sdResponseAttempts : Nat := 16

/-- `sd_card_information_t` -/
structure SdCardInformation where
  sectorCount : UInt64
  testSector : UInt32
  checksum : UInt32
  highCapacity : Bool
  deriving DecidableEq

/-- `sd_card_failure_t` -/
structure SdCardFailure where
  stage : Option Bytes
  reason : Option Bytes
  code : Int32
  deriving DecidableEq

/-- What the card has answered about itself: whether it knows CMD8, its OCR and its CSD. -/
structure CardRegisters where
  versionTwo : Bool
  ocr : Bytes
  csd : Bytes

/-- The card wants sector numbers: it knows CMD8, and CCS is set in its OCR. -/
def CardRegisters.sectorAddressed (registers : CardRegisters) : Bool :=
  registers.versionTwo && (registers.ocr.getD 0 0 &&& 0x40) != 0

/-- The static state of the driver, its SPI device, the information structure of its
caller, and the ticks to come. The flag `device` tells that the pointer is set. -/
structure SdCardDriver where
  spi : SpiDevice
  device : Bool
  highCapacity : Bool
  writeChecksum : UInt32
  verifyChecksum : UInt32
  activeStage : Option Bytes
  lastFailure : SdCardFailure
  information : SdCardInformation
  ticks : List UInt32
  registers : CardRegisters
  detected : List SdCardFailure
  highSpeedReached : Bool

/-- What the hardware will answer. -/
structure HardwareAnswers where
  initResults : List Bool
  deInitResults : List Bool
  replies : List SpiReply
  ticks : List UInt32

/-- The same driver in front of other hardware. -/
def SdCardDriver.withAnswers (s : SdCardDriver) (answers : HardwareAnswers) : SdCardDriver :=
  { s with
    spi := { s.spi with
      initResults := answers.initResults
      deInitResults := answers.deInitResults
      replies := answers.replies }
    ticks := answers.ticks }

/-- The driver after a reset. The prescaler of its SPI device is the one in the device's
initializer. -/
def SdCardDriver.initial (answers : HardwareAnswers) : SdCardDriver where
  spi :=
    { prescaler := 256
      ready := false
      configured := 0
      initResults := answers.initResults
      deInitResults := answers.deInitResults
      replies := answers.replies
      transfers := []
      identifying := false
      chipSelect := ⟨none, []⟩ }
  device := false
  highCapacity := false
  writeChecksum := 0
  verifyChecksum := 0
  activeStage := none
  lastFailure := ⟨none, none, 0⟩
  information := ⟨0, 0, 0, false⟩
  ticks := answers.ticks
  registers := ⟨false, [], []⟩
  detected := []
  highSpeedReached := false

/-- A call of the driver. -/
abbrev SdCall (α : Type) : Type := Fallible SdCardDriver α

/-- `HAL_GetTick` -/
def halGetTick : SdCall UInt32 := receive SdCardDriver.ticks fun later s => { s with ticks := later }

/-- A bound on the number of iterations of a loop that reads the tick in each of them. -/
def tickBound : SdCall Nat := ask fun s => s.ticks.length + 1

/-- A call of `spi_device.c`, which fails without a device. -/
def onDevice {α : Type} (call : SpiCall α) : SdCall α := do
  check (← ask SdCardDriver.device)
  within SdCardDriver.spi (fun device s => { s with spi := device }) call

/-! ## Failures -/

/-- `begin_stage` -/
def beginStage (stage : String) : SdCall Unit :=
  change fun s => { s with activeStage := some (ascii stage) }

/-- The failure that is noticed in the active stage. -/
def failureNoticed (reason : String) (code : Int32) (s : SdCardDriver) : SdCardFailure :=
  ⟨s.activeStage, some (ascii reason), code⟩

/-- `return fail(reason, code)` -/
def fail {α : Type} (reason : String) (code : Int32) : SdCall α := do
  change fun s => { s with
    lastFailure := failureNoticed reason code s
    detected := s.detected ++ [failureNoticed reason code s] }
  failure

/-- `return fail_if_unset(reason, code)` -/
def failIfUnset {α : Type} (reason : String) (code : Int32) : SdCall α := do
  if (← ask fun s => s.lastFailure.reason).isNone then fail reason code
  else
    change fun s => { s with detected := s.detected ++ [failureNoticed reason code s] }
    failure

/-- A byte as the code of a failure. -/
def byteCode (byte : UInt8) : Int32 := Int32.ofNat byte.toNat

/-! ## Transfers -/

/-- `transfer_byte` -/
def transferByte (transmitted : UInt8) : SdCall UInt8 := do
  let received ← (onDevice (spiDeviceTransfer [transmitted])).orElse
    (failIfUnset "spi_transfer_failed" 0)
  pure (received.headD 0)

/-- `clock_bytes` -/
def clockBytes (value : UInt8) : Nat → SdCall Unit
  | 0 => pure ()
  | count + 1 => do
      let _ ← transferByte value
      clockBytes value count

/-- `read_bytes` -/
def readBytes : Nat → SdCall Bytes
  | 0 => pure []
  | length + 1 => do
      let byte ← transferByte 0xFF
      let later ← readBytes length
      pure (byte :: later)

/-- The loop of `wait_ready`, as long as its bound lasts. -/
def waitReadyLoop (timeoutMs started : UInt32) : Nat → SdCall Unit
  | 0 => never
  | bound + 1 => do
      let value ← transferByte 0xFF
      if value = 0xFF then pure ()
      else
        let now ← halGetTick
        if now - started < timeoutMs then waitReadyLoop timeoutMs started bound
        else failIfUnset "card_busy_timeout" (byteCode value)

/-- `wait_ready` -/
def waitReady (timeoutMs : UInt32) : SdCall Unit := do
  let started ← halGetTick
  waitReadyLoop timeoutMs started (← tickBound)

/-- The frame of a command. -/
def commandFrame (index : UInt8) (argument : UInt32) (crc : UInt8) : Bytes :=
  [0x40 ||| index, (argument >>> 24).toUInt8, (argument >>> 16).toUInt8, (argument >>> 8).toUInt8,
    argument.toUInt8, crc]

/-- The polls for an R1 response. -/
def awaitResponse : Nat → SdCall UInt8
  | 0 => failIfUnset "no_r1_response" 0xFF
  | attempts + 1 => do
      let response ← transferByte 0xFF
      if response &&& 0x80 = 0 then pure response else awaitResponse attempts

/-- `command`, with the response. -/
def command (index : UInt8) (argument : UInt32) (crc : UInt8) : SdCall UInt8 := do
  let _ ← (onDevice (spiDeviceTransfer (commandFrame index argument crc))).orElse
    (failIfUnset "command_frame_transfer_failed" (byteCode index))
  awaitResponse sdResponseAttempts

/-- `wire_address` -/
def wireAddress (highCapacity : Bool) (sector : UInt32) : UInt32 :=
  if highCapacity then sector else sector * sdBlockSize

/-- `select_card` -/
def selectCard : SdCall Unit := do
  (onDevice spiDeviceSelect).orElse (failIfUnset "card_select_failed" 0)
  waitReady sdReadyTimeoutMs

/-- `deselect_card`; the result of its transfer is not looked at. -/
def deselectCard : SdCall Unit := do
  (onDevice spiDeviceDeselect).orElse (pure ())
  (do let _ ← onDevice (spiDeviceTransfer [0xFF])).orElse (pure ())

/-- `if (!...) { deselect_card(); return false; }` -/
def orDeselect {α : Type} (call : SdCall α) : SdCall α :=
  call.orElse (do deselectCard; failure)

/-- `deselect_card(); return fail(...)` -/
def deselectAndFail {α : Type} (reason : String) (code : Int32) : SdCall α := do
  deselectCard
  fail reason code

/-- The loop of `wait_for_data_token`, as long as its bound lasts. -/
def awaitToken (started : UInt32) : Nat → SdCall UInt8
  | 0 => never
  | bound + 1 => do
      let token ← transferByte 0xFF
      if token = 0xFF then
        let now ← halGetTick
        if now - started < sdDataTimeoutMs then awaitToken started bound else pure token
      else pure token

/-- `wait_for_data_token` -/
def waitForDataToken : SdCall Unit := do
  let started ← halGetTick
  let token ← awaitToken started (← tickBound)
  if token = 0xFE then pure () else failIfUnset "unexpected_data_token" (byteCode token)

/-! ## Initialization -/

/-- `read_csd` -/
def readCsd : SdCall Unit := do
  beginStage "cmd9_read_csd"
  let response ← orDeselect (do selectCard; command 9 0 0xFF)
  if response ≠ 0 then deselectAndFail "unexpected_r1_response" (byteCode response)
  else
    let csd ← orDeselect (do
      waitForDataToken
      let csd ← readBytes 16
      let _ ← readBytes 2
      pure csd)
    deselectCard
    change fun s => { s with registers := { s.registers with csd := csd } }
    match sdCardParseCsd csd with
    | none => fail "invalid_csd" (byteCode (csd.headD 0))
    | some sectorCount =>
        change fun s => { s with information := { s.information with sectorCount := sectorCount } }
        if sectorCount ≤ sdTestAreaDistanceFromEnd then fail "card_too_small" 0 else pure ()

/-- The first two steps of `sd_card_driver_initialize`: initial clocks and CMD0. -/
def resetCard : SdCall Unit := do
  beginStage "initial_clocks"
  clockBytes 0xFF 10
  beginStage "cmd0_go_idle"
  (onDevice spiDeviceSelect).orElse (fail "card_select_failed" 0)
  let response ← orDeselect (command 0 0 0x95)
  if response ≠ 1 then deselectAndFail "unexpected_r1_response" (byteCode response)
  else deselectCard

/-- The third step: CMD8, which tells whether the card is of version 2. -/
def interfaceCondition : SdCall Bool := do
  beginStage "cmd8_interface_condition"
  let response ← orDeselect (do selectCard; command 8 0x1AA 0x87)
  if response = 1 then
    let r7 ← orDeselect (readBytes 4)
    if r7.getD 2 0 ≠ 1 ∨ r7.getD 3 0 ≠ 0xAA then
      deselectAndFail "invalid_r7_voltage_or_check_pattern"
        ((byteCode (r7.getD 2 0) <<< 8) ||| byteCode (r7.getD 3 0))
    else
      deselectCard
      pure true
  else if response = 5 then
    deselectCard
    pure false
  else deselectAndFail "unexpected_r1_response" (byteCode response)

/-- The loop of the fourth step, as long as its bound lasts: CMD55 and ACMD41, until the
card leaves the idle state. -/
def operatingConditionLoop (versionTwo : Bool) (started : UInt32) : Nat → SdCall UInt8
  | 0 => never
  | bound + 1 => do
      beginStage "cmd55_application_prefix"
      let applicationResponse ← orDeselect (do selectCard; command 55 0 0xFF)
      if applicationResponse ≠ 0 ∧ applicationResponse ≠ 1 then
        deselectAndFail "unexpected_r1_response" (byteCode applicationResponse)
      else
        beginStage "acmd41_initialize"
        let response ← orDeselect (command 41 (if versionTwo then 0x40000000 else 0) 0xFF)
        deselectCard
        if response = 0 then pure response
        else if response ≠ 1 then fail "unexpected_r1_response" (byteCode response)
        else
          let now ← halGetTick
          if now - started < sdReadyTimeoutMs then operatingConditionLoop versionTwo started bound
          else pure response

/-- The fourth step. -/
def operatingCondition (versionTwo : Bool) : SdCall Unit := do
  let started ← halGetTick
  let response ← operatingConditionLoop versionTwo started (← tickBound)
  if response ≠ 0 then fail "card_stayed_idle_until_timeout" (byteCode response) else pure ()

/-- The fifth step: CMD58, which tells how the card is addressed. -/
def readOcr (versionTwo : Bool) : SdCall Unit := do
  beginStage "cmd58_read_ocr"
  let response ← orDeselect (do selectCard; command 58 0 0xFF)
  if response ≠ 0 then deselectAndFail "unexpected_r1_response" (byteCode response)
  else
    let ocr ← orDeselect (readBytes 4)
    change fun s => { s with
      highCapacity := versionTwo && (ocr.getD 0 0 &&& 0x40) != 0
      registers := { s.registers with versionTwo := versionTwo, ocr := ocr } }
    deselectCard

/-- The sixth step: CMD16, for a card with byte addresses. -/
def setBlockLength : SdCall Unit := do
  if ← ask SdCardDriver.highCapacity then pure ()
  else
    beginStage "cmd16_set_block_length"
    let response ← orDeselect (do selectCard; command 16 sdBlockSize 0xFF)
    if response ≠ 0 then deselectAndFail "unexpected_r1_response" (byteCode response)
    else deselectCard

/-- The seventh step: the capacity and the test area. -/
def locateTestArea : SdCall Unit := do
  change fun s => { s with information := { s.information with highCapacity := s.highCapacity } }
  readCsd
  change fun s => { s with information := { s.information with
    testSector := (s.information.sectorCount - sdTestAreaDistanceFromEnd).toUInt32 } }

/-- The steps of `sd_card_driver_initialize` from the initial clocks to the CSD. -/
def identifyCard : SdCall Unit := do
  resetCard
  let versionTwo ← interfaceCondition
  operatingCondition versionTwo
  readOcr versionTwo
  setBlockLength
  locateTestArea

/-- Mark the transfers, or cease to. -/
def markTransfers (identifying : Bool) : SdCall Unit :=
  change fun s => { s with spi := { s.spi with identifying := identifying } }

/-- The identification of the card, its transfers marked. -/
def markedIdentification : SdCall Unit := do
  markTransfers true
  identifyCard.orElse (do markTransfers false; failure)
  markTransfers false

/-- The last step of `sd_card_driver_initialize`. -/
def raiseSpeed : SdCall Unit := do
  beginStage "spi_high_speed"
  change fun s => { s with highSpeedReached := true }
  (onDevice (spiDeviceSetPrescaler 4)).orElse (fail "spi_prescaler_change_failed" 0)

/-- Forget the last failure, and begin a stage. -/
def beginCall (stage : String) : SdCall Unit := do
  change fun s => { s with lastFailure := ⟨none, none, 0⟩ }
  beginStage stage

/-- `sd_card_driver_initialize`; the flag tells that `information` is `NULL`. -/
def sdCardDriverInitialize (isNull : Bool) : SdCall Unit := do
  beginCall "arguments"
  if isNull then fail "null_information_destination" 0
  else
    beginStage "spi_initialization"
    change fun s => { s with device := true }
    (onDevice spiDeviceInitialize).orElse (fail "spi_initialization_failed" 0)
    markedIdentification
    raiseSpeed

/-! ## Blocks -/

/-- `checksum_update` -/
def checksumUpdate (checksum : UInt32) (buffer : Bytes) : UInt32 :=
  buffer.foldl (fun checksum byte =>
    (List.range 8).foldl (fun checksum _ =>
      (checksum >>> 1) ^^^ (if checksum &&& 1 ≠ 0 then 0xEDB88320 else 0))
      (checksum ^^^ byte.toUInt32)) checksum

/-- `pattern` -/
def pattern (sector : UInt32) : Bytes :=
  (List.range sdBlockSize.toNat).map fun index => (sector + UInt32.ofNat index * 37).toUInt8

/-- `write_block` -/
def writeBlock (sector : UInt32) (buffer : Bytes) : SdCall Unit := do
  let response ← orDeselect (do
    selectCard
    command 24 (wireAddress (← ask SdCardDriver.highCapacity) sector) 0xFF)
  if response ≠ 0 then deselectAndFail "unexpected_r1_response" (byteCode response)
  else
    orDeselect (waitReady sdReadyTimeoutMs)
    let _ ← orDeselect (transferByte 0xFE)
    let _ ← (onDevice (spiDeviceTransfer buffer)).orElse
      (deselectAndFail "sector_data_transfer_failed" 0)
    let response ← orDeselect (do
      let _ ← transferByte 0xFF
      let _ ← transferByte 0xFF
      transferByte 0xFF)
    if response &&& 0x1F ≠ 0x05 then
      deselectAndFail "write_rejected_data_response" (byteCode (response &&& 0x1F))
    else
      orDeselect (waitReady sdReadyTimeoutMs)
      deselectCard

/-- `read_block` -/
def readBlock (sector : UInt32) : SdCall Bytes := do
  let response ← orDeselect (do
    selectCard
    command 17 (wireAddress (← ask SdCardDriver.highCapacity) sector) 0xFF)
  if response ≠ 0 then deselectAndFail "unexpected_r1_response" (byteCode response)
  else
    let buffer ← orDeselect (do
      waitForDataToken
      let buffer ← readBytes sdBlockSize.toNat
      let _ ← readBytes 2
      pure buffer)
    deselectCard
    pure buffer

/-- `sd_card_driver_write_test_block` -/
def sdCardDriverWriteTestBlock (isNull : Bool) (block : UInt32) : SdCall Unit := do
  beginCall "cmd24_write_test_sector"
  if isNull ∨ sdCardTestBlockCount ≤ block then fail "invalid_block_argument" block.toInt32
  else
    change fun s => { s with writeChecksum := if block = 0 then 0xFFFFFFFF else s.writeChecksum }
    let sector := (← ask fun s => s.information.testSector) + block
    change fun s => { s with writeChecksum := checksumUpdate s.writeChecksum (pattern sector) }
    writeBlock sector (pattern sector)
    if block = sdCardTestBlockCount - 1 then
      change fun s =>
        { s with information := { s.information with checksum := ~~~s.writeChecksum } }

/-- `sd_card_driver_verify_test_block` -/
def sdCardDriverVerifyTestBlock (isNull : Bool) (block : UInt32) : SdCall Unit := do
  beginCall "cmd17_read_test_sector"
  if isNull ∨ sdCardTestBlockCount ≤ block then fail "invalid_block_argument" block.toInt32
  else
    change fun s =>
      { s with verifyChecksum := if block = 0 then 0xFFFFFFFF else s.verifyChecksum }
    let sector := (← ask fun s => s.information.testSector) + block
    let received ← readBlock sector
    if pattern sector ≠ received then fail "read_back_mismatch" block.toInt32
    else
      change fun s => { s with verifyChecksum := checksumUpdate s.verifyChecksum received }
      let checksum ← ask fun s => ~~~s.verifyChecksum
      let expected ← ask fun s => s.information.checksum
      if block = sdCardTestBlockCount - 1 ∧ checksum ≠ expected then
        fail "checksum_mismatch" checksum.toInt32

/-- `sd_card_driver_clear_test_block` -/
def sdCardDriverClearTestBlock (isNull : Bool) (block : UInt32) : SdCall Unit := do
  beginCall "cmd24_clear_test_sector"
  if isNull ∨ sdCardTestBlockCount ≤ block then fail "invalid_block_argument" block.toInt32
  else
    let sector := (← ask fun s => s.information.testSector) + block
    writeBlock sector (List.replicate sdBlockSize.toNat 0)

/-- `sd_card_driver_shutdown` -/
def sdCardDriverShutdown : SdCall Unit := do
  if ← ask SdCardDriver.device then deselectCard

/-- The operations on test blocks. -/
inductive BlockOperation where
  | write
  | verify
  | clear
  deriving DecidableEq

/-- The function of an operation. -/
def BlockOperation.call : BlockOperation → UInt32 → SdCall Unit
  | .write => sdCardDriverWriteTestBlock false
  | .verify => sdCardDriverVerifyTestBlock false
  | .clear => sdCardDriverClearTestBlock false

/-- The command of an operation: CMD24 or CMD17. -/
def BlockOperation.index : BlockOperation → UInt8
  | .write => 24
  | .verify => 17
  | .clear => 24

end FlightComputer.Firmware
