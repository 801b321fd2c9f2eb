import FlightComputer.Firmware.SdCardCapacity
import FlightComputer.Firmware.SdCardInitialization
import FlightComputer.Library.Runs

/-!
# Where the SD card test writes

The capacity of a card comes from its CSD and the addressing mode from its OCR. The
sectors of the test area never wrap, since no CSD declares more than 2³² sectors
(`sectorCount_le`); but the address of a sector under byte addressing does, when the
declared capacity is larger than 4 GiB. The calls for test blocks address their own area
exactly when the card uses sector addresses or is that small
(`addresses_own_area_iff`).
-/

set_option autoImplicit false

namespace FlightComputer.Firmware

open Library Fallible

/-! ## Addresses -/

/-- An argument addresses a sector: by its number, or by its first byte. -/
def Addresses (highCapacity : Bool) (argument : UInt32) (sector : Nat) : Prop :=
  argument.toNat = if highCapacity then sector else sector * sdBlockSize.toNat

section TestArea

variable {registers : CardRegisters} {mode : Bool} {information : SdCardInformation}
  (located : Located registers mode information)
include located

/-- **The sectors of the test area do not wrap.** -/
theorem toNat_testSector_add {block : UInt32} (inside : block < sdCardTestBlockCount) :
    information.testSector.toNat = information.sectorCount.toNat - 16 ∧
      (information.testSector + block).toNat = information.sectorCount.toNat - 16 + block.toNat := by
  have accepted := acceptedCapacity_of_bounds located.large (sectorCount_le located.parsed)
  rw [located.testSector]
  exact ⟨accepted.narrowed, accepted.counted block (Nat.le_of_lt_succ inside)⟩

/-- Whether the address of a block is exact. -/
theorem addresses_block_iff {block : UInt32} (inside : block < sdCardTestBlockCount) :
    Addresses mode (wireAddress mode (information.testSector + block))
        (information.sectorCount.toNat - 16 + block.toNat) ↔
      mode = true ∨ information.sectorCount.toNat - 16 + block.toNat < 2 ^ 23 := by
  obtain ⟨_, sum⟩ := toNat_testSector_add located inside
  have size : sdBlockSize.toNat = 512 := rfl
  cases mode with
  | true => exact iff_of_true sum (.inl rfl)
  | false =>
      have product : (wireAddress false (information.testSector + block)).toNat =
          (information.sectorCount.toNat - 16 + block.toNat) * 512 % 2 ^ 32 := by
        rw [wireAddress, if_neg Bool.false_ne_true, UInt32.toNat_mul, sum, size]
      rw [Addresses, if_neg Bool.false_ne_true, product, size]
      constructor
      · intro exact_
        refine .inr ?_
        have below := Nat.mod_lt ((information.sectorCount.toNat - 16 + block.toNat) * 512)
          (by decide : 0 < 2 ^ 32)
        omega
      · rintro (high | small)
        · cases high
        · exact Nat.mod_eq_of_lt (by omega)

/-- **Every block has an exact address** when the card uses sector addresses, or its last
test block lies below 4 GiB. -/
theorem addresses_all_iff :
    (∀ block, block < sdCardTestBlockCount →
      Addresses mode (wireAddress mode (information.testSector + block))
        (information.sectorCount.toNat - 16 + block.toNat)) ↔
      mode = true ∨ information.sectorCount.toNat ≤ 2 ^ 23 + 8 := by
  have large : 16 < information.sectorCount.toNat := located.large
  constructor
  · intro every
    refine ((addresses_block_iff located (by decide : (7 : UInt32) < sdCardTestBlockCount)).mp
      (every 7 (by decide))).imp_right fun below => ?_
    have last : (7 : UInt32).toNat = 7 := rfl
    omega
  · intro condition block inside
    refine (addresses_block_iff located inside).mpr (condition.imp_right fun bound => ?_)
    have small : block.toNat < 8 := inside
    omega

end TestArea

/-! ## Calls after the initialization -/

/-- A call of the driver after its initialization. -/
inductive CardCall where
  | block (operation : BlockOperation) (block : UInt32)
  | shutdown
  deriving DecidableEq

/-- The calls, with whatever the hardware answers. -/
inductive CardStep : SdCardDriver → CardCall → SdCardDriver → Prop where
  | block {s t : SdCardDriver} {operation : BlockOperation} {block : UInt32}
      {result : Option Unit} (answers : HardwareAnswers)
      (returned : operation.call block (s.withAnswers answers) = some (result, t)) :
      CardStep s (.block operation block) t
  | shutdown {s t : SdCardDriver} {result : Option Unit} (answers : HardwareAnswers)
      (returned : sdCardDriverShutdown (s.withAnswers answers) = some (result, t)) :
      CardStep s .shutdown t

/-- **The test writes only its own area**, on a card of some number of sectors: the
sectors do not wrap, and whatever happens after the initialization, each command that a
call for a test block sends addresses this block. -/
structure AddressesOwnArea (initialized : SdCardDriver) (sectorCount : Nat) : Prop where
  area : initialized.information.testSector.toNat + 16 = sectorCount
  blocks : ∀ block, block < sdCardTestBlockCount →
    (initialized.information.testSector + block).toNat =
      initialized.information.testSector.toNat + block.toNat
  commands : ∀ (calls : List CardCall) (s : SdCardDriver), Run CardStep initialized calls s →
    ∀ (operation : BlockOperation) (block : UInt32) (answers : HardwareAnswers)
      (result : Option Unit) (t : SdCardDriver), block < sdCardTestBlockCount →
      operation.call block (s.withAnswers answers) = some (result, t) →
      ∀ transfer, transfer ∈ t.spi.transfers.drop s.spi.transfers.length →
        transfer.sent.length = 6 → ∃ argument,
          transfer.sent = commandFrame operation.index argument 0xFF ∧
          Addresses initialized.highCapacity argument (sectorCount - 16 + block.toNat)

/-- What the calls keep of the initialization. -/
def SameArea (initialized : SdCardDriver) : Kept := fun _ mode information =>
  mode = initialized.highCapacity ∧
    information.testSector = initialized.information.testSector

/-- The frames of a call for a block: if they are commands, the one for this block. -/
def BlockFrames (initialized : SdCardDriver) (operation : BlockOperation) (block : UInt32)
    (sent : Bytes) : Prop :=
  sent.length = 6 → block < sdCardTestBlockCount ∧ sent = commandFrame operation.index
    (wireAddress initialized.highCapacity (initialized.information.testSector + block)) 0xFF

theorem testBlockFrames (initialized : SdCardDriver) (operation : BlockOperation)
    (block : UInt32) : TestBlockFrames (BlockFrames initialized operation block)
      (SameArea initialized) operation.index block where
  single byte six := absurd six (by simp)
  data buffer length six := absurd (length.symm.trans six) (by decide)
  addressed := by
    rintro _ mode information _ mode' information' inside ⟨_, sector⟩ ⟨rfl, _⟩ _
    exact ⟨inside, by rw [sector]⟩
  checksum _ _ _ _ keeps := keeps

/-- **A call for a block** sends what it may send, and keeps the area. -/
theorem blockCall_spec {initialized s t : SdCardDriver} {operation : BlockOperation}
    {block : UInt32} {result : Option Unit}
    (kept : SameArea initialized s.registers s.highCapacity s.information)
    (returned : operation.call block s = some (result, t)) :
    SentOnly (BlockFrames initialized operation block) s.spi t.spi ∧
      SameArea initialized t.registers t.highCapacity t.information := by
  have spec : Triple (fun x => x = s) (operation.call block)
      (fun _ => Undiagnosed (BlockFrames initialized operation block) s (SameArea initialized))
      (Diagnosed (BlockFrames initialized operation block) s (SameArea initialized)) := by
    have frames := testBlockFrames initialized operation block
    cases operation with
    | write => exact frames.triple_writeTestBlock rfl kept
    | verify => exact frames.triple_verifyTestBlock rfl kept
    | clear => exact frames.triple_clearTestBlock rfl kept
  cases result with
  | none =>
      have failed := spec.fails rfl returned
      exact ⟨failed.sent, failed.keeps⟩
  | some _ =>
      have done := spec.success rfl returned
      exact ⟨done.sent, done.keeps⟩

/-- Shutting down keeps the area. -/
theorem sameArea_shutdown {initialized s t : SdCardDriver} {result : Option Unit}
    (kept : SameArea initialized s.registers s.highCapacity s.information)
    (returned : sdCardDriverShutdown s = some (result, t)) :
    SameArea initialized t.registers t.highCapacity t.information := by
  have closed : SpiClosed AnyBytes
      fun s => SameArea initialized s.registers s.highCapacity s.information := fun _ _ holds _ => holds
  have spec : Keeps (fun s => SameArea initialized s.registers s.highCapacity s.information)
      (fun s => SameArea initialized s.registers s.highCapacity s.information) sdCardDriverShutdown :=
    keeps_bind keeps_ask fun _ =>
      Triple.ite (fun _ => keeps_deselectCard closed fun _ => trivial) fun _ => keeps_pure
  cases result with
  | none => exact spec.fails kept returned
  | some _ => exact spec.success kept returned

/-- Every call keeps the area. -/
theorem sameArea_of_step {initialized s t : SdCardDriver} {call : CardCall}
    (kept : SameArea initialized s.registers s.highCapacity s.information) (step : CardStep s call t) :
    SameArea initialized t.registers t.highCapacity t.information := by
  cases step with
  | block answers returned => exact (blockCall_spec (s := s.withAnswers answers) kept returned).2
  | shutdown answers returned =>
      exact sameArea_shutdown (s := s.withAnswers answers) kept returned

/-- **Every command of a later call** is the one for its block. -/
theorem commands_of_run {initialized s t : SdCardDriver} {calls : List CardCall}
    (run : Run CardStep initialized calls s) {operation : BlockOperation} {block : UInt32}
    {answers : HardwareAnswers} {result : Option Unit}
    (returned : operation.call block (s.withAnswers answers) = some (result, t)) :
    ∀ transfer ∈ t.spi.transfers.drop s.spi.transfers.length, transfer.sent.length = 6 →
      transfer.sent = commandFrame operation.index
        (wireAddress initialized.highCapacity (initialized.information.testSector + block)) 0xFF := by
  have kept : SameArea initialized s.registers s.highCapacity s.information :=
    run.invariant (I := fun s => SameArea initialized s.registers s.highCapacity s.information)
      (fun _ _ _ kept step => sameArea_of_step kept step) ⟨rfl, rfl⟩
  obtain ⟨⟨sent, clocked, allowed⟩, _⟩ :=
    blockCall_spec (s := s.withAnswers answers) kept returned
  have transfers : t.spi.transfers = s.spi.transfers ++
      sent.map fun bytes => ⟨(s.withAnswers answers).spi.speed, bytes, s.spi.identifying⟩ :=
    clocked.transfers
  intro transfer made six
  rw [transfers, List.drop_left] at made
  obtain ⟨bytes, listed, rfl⟩ := List.mem_map.mp made
  exact (allowed bytes listed six).2

/-! ## A call that sends its command -/

/-- The card is ready, and then the hardware fails. -/
def failingAnswers : HardwareAnswers where
  initResults := [true]
  deInitResults := []
  replies := [some fun _ => 0xFF, some fun _ => 0xFF, none, none]
  ticks := [0]

/-- **Whatever state the driver is in, the command for a block can be sent.** -/
theorem command_is_sent {s : SdCardDriver} (device : s.device = true) :
    ∃ result t, BlockOperation.write.call 7 (s.withAnswers failingAnswers) = some (result, t) ∧
      ∃ transfer ∈ t.spi.transfers.drop s.spi.transfers.length,
        transfer.sent = commandFrame 24
          (wireAddress s.highCapacity (s.information.testSector + 7)) 0xFF := by
  obtain ⟨⟨prescaler, ready, configured, _, _, _, transfers, identifying⟩, present, mode, _, _, _, _,
    information, _, _, _⟩ := s
  obtain rfl : present = true := device
  -- the poll for a ready card comes first, then the frame, and its response is missing
  cases ready with
  | false =>
      refine ⟨none, _, rfl, ?_⟩
      simp [SdCardDriver.withAnswers]
  | true =>
      refine ⟨none, _, rfl, ?_⟩
      simp [SdCardDriver.withAnswers]

/-- A frame determines the argument of its command. -/
theorem commandFrame_argument {index crc : UInt8} {first second : UInt32}
    (same : commandFrame index first crc = commandFrame index second crc) : first = second := by
  simp only [commandFrame, List.cons.injEq, and_true, true_and] at same
  obtain ⟨one, two, three, four⟩ := same
  have value : ∀ word : UInt32, word.toNat =
      (word >>> 24).toUInt8.toNat * 2 ^ 24 + (word >>> 16).toUInt8.toNat * 2 ^ 16 +
        (word >>> 8).toUInt8.toNat * 2 ^ 8 + word.toUInt8.toNat := by
    intro word
    have bounded := word.toNat_lt
    simp only [UInt32.toNat_toUInt8, UInt32.toNat_shiftRight, Nat.shiftRight_eq_div_pow,
      UInt32.reduceToNat, Nat.reduceMod, Nat.reducePow]
    omega
  rw [← UInt32.toNat_inj, value first, value second, one, two, three, four]

/-! ## The area of an initialized card -/

/-- The last test block decides. -/
theorem addressesOwnArea_iff {initialized : SdCardDriver} (device : initialized.device = true)
    (located : Located initialized.registers initialized.highCapacity initialized.information) :
    AddressesOwnArea initialized initialized.information.sectorCount.toNat ↔
      initialized.highCapacity = true ∨
        initialized.information.sectorCount.toNat ≤ 2 ^ 23 + 8 := by
  rw [← addresses_all_iff located]
  constructor
  · -- its command can be sent at once
    intro own
    obtain ⟨result, t, returned, transfer, made, sent⟩ := command_is_sent device
    obtain ⟨argument, frame, addresses⟩ := own.commands [] initialized (.refl _) .write 7
      failingAnswers result t (by decide) returned transfer made (by rw [sent]; rfl)
    obtain rfl := commandFrame_argument (frame.symm.trans sent)
    refine (addresses_all_iff located).mpr ?_
    refine ((addresses_block_iff located (by decide)).mp addresses).imp_right fun below => ?_
    have last : (7 : UInt32).toNat = 7 := rfl
    omega
  · intro every
    have large : 16 < initialized.information.sectorCount.toNat := located.large
    have start := (toNat_testSector_add located (by decide : (0 : UInt32) < _)).1
    refine ⟨by omega, fun block inside => ?_, ?_⟩
    · rw [(toNat_testSector_add located inside).2, start]
    · intro calls s' run operation block answers result t inside returned transfer made six
      exact ⟨_, commands_of_run run returned transfer made six, every block inside⟩

/-- **When the test writes only its own area.** After a successful initialization, the
calls for test blocks address the sectors that they are for exactly when the card wants
sector numbers, or declares so few sectors that its last test block lies below 4 GiB. -/
theorem addresses_own_area_iff {s initialized : SdCardDriver} {isNull : Bool}
    {sectorCount : UInt64}
    (succeeds : sdCardDriverInitialize isNull s = some (some (), initialized))
    (declared : sdCardParseCsd initialized.registers.csd = some sectorCount) :
    AddressesOwnArea initialized sectorCount.toNat ↔
      initialized.registers.sectorAddressed = true ∨ sectorCount.toNat ≤ 2 ^ 23 + 8 := by
  obtain ⟨_, _, located, device⟩ := (triple_initialization s isNull).success rfl succeeds
  obtain rfl : initialized.information.sectorCount = sectorCount :=
    Option.some.inj (located.parsed.symm.trans declared)
  rw [← located.wanted]
  exact addressesOwnArea_iff device located

/-- The bytes that a card of version 2 answers, with these registers: it is ready at once
and never busy, and its OCR has CCS clear. -/
def byteAddressedAnswers (csd : Bytes) : Bytes :=
  List.replicate 10 0xFF ++ [0xFF, 0x01, 0xFF] ++
    [0xFF, 0xFF, 0x01, 0x00, 0x00, 0x01, 0xAA, 0xFF] ++
    [0xFF, 0xFF, 0x01, 0xFF, 0x00, 0xFF] ++
    [0xFF, 0xFF, 0x00, 0x80, 0x00, 0x00, 0x00, 0xFF] ++ [0xFF, 0xFF, 0x00, 0xFF] ++
    [0xFF, 0xFF, 0x00, 0xFE] ++ csd ++ [0x00, 0x00, 0xFF]

/-- The driver after a reset, in front of such a card. -/
def poweredCard (csd : Bytes) : SdCardDriver :=
  .initial
    { initResults := [true, true]
      deInitResults := [true]
      replies := (byteAddressedAnswers csd).map fun byte => some fun _ => byte
      ticks := List.replicate 7 0 }

/-- A register of version 2, with this `C_SIZE`. -/
def csdOfSize (high low : UInt8) : Bytes :=
  [0x40, 0, 0, 0, 0, 0, 0, 0, high, low, 0, 0, 0, 0, 0, 0]

/-- Its initialization, as far as it has been evaluated. -/
theorem initialize_poweredCard {csd : Bytes} {sectorCount : UInt64}
    (runs : ((sdCardDriverInitialize false (poweredCard csd)).map fun returned =>
      (returned.1, returned.2.registers.csd, returned.2.highCapacity)) =
        some (some (), csd, false))
    (declared : sdCardParseCsd csd = some sectorCount) :
    ∃ initialized, sdCardDriverInitialize false (poweredCard csd) = some (some (), initialized) ∧
      sdCardParseCsd initialized.registers.csd = some sectorCount ∧
      initialized.highCapacity = false := by
  obtain ⟨⟨result, initialized⟩, succeeds, same⟩ := Option.map_eq_some_iff.mp runs
  obtain ⟨rfl, register, mode⟩ := Prod.mk.inj same |>.imp_right Prod.mk.inj
  exact ⟨initialized, succeeds, by rw [register, declared], mode⟩

/-- A card of 1024 sectors. -/
theorem addresses_own_area_small : ∃ initialized,
    sdCardDriverInitialize false (poweredCard (csdOfSize 0 0)) = some (some (), initialized) ∧
      AddressesOwnArea initialized 1024 := by
  obtain ⟨initialized, succeeds, declared, _⟩ :=
    initialize_poweredCard (by decide +kernel)
      (by decide : sdCardParseCsd (csdOfSize 0 0) = some 1024)
  exact ⟨initialized, succeeds,
    (addresses_own_area_iff succeeds declared).mpr (.inr (by decide))⟩

/-- A card with byte addresses whose register declares 8389632 sectors: the address of its
last test block wraps. -/
theorem byte_addressed_card_overwritten : ∃ initialized,
    sdCardDriverInitialize false (poweredCard (csdOfSize 0x20 0)) = some (some (), initialized) ∧
      sdCardParseCsd initialized.registers.csd = some 8389632 ∧
      ¬AddressesOwnArea initialized 8389632 := by
  obtain ⟨initialized, succeeds, declared, mode⟩ :=
    initialize_poweredCard (by decide +kernel)
      (by decide : sdCardParseCsd (csdOfSize 0x20 0) = some 8389632)
  obtain ⟨_, _, located, device⟩ := (triple_initialization _ _).success rfl succeeds
  have count : initialized.information.sectorCount.toNat = 8389632 := by
    rw [Option.some.inj (located.parsed.symm.trans declared)]
    rfl
  refine ⟨initialized, succeeds, declared, fun own => ?_⟩
  rcases (addressesOwnArea_iff device located).mp (count ▸ own) with high | few
  · exact Bool.false_ne_true (mode.symm.trans high)
  · exact absurd few (by rw [count]; decide)

end FlightComputer.Firmware
