import FlightComputer.Firmware.SdCardDiagnosis
import FlightComputer.Firmware.SdCardVerdict
import FlightComputer.Library.Crc

/-!
# The data check of the SD card test

What the test writes and what it accepts. From the first block on, a phase of writing leaves eight
blocks on the card, and the checksum that is reported is their CRC-32. The phase of verifying
succeeds if and only if each read returns the block that was written (`sd_data_check`); the
blocks differ from each other and from zeros, so a card that returns another block is rejected.

`checksum_update` and CRC-32 agree over any split of the bytes into blocks
(`not_checksumUpdate`), and the accumulators are set anew at the first block, so what they held
before does not matter.
-/

set_option autoImplicit false

namespace FlightComputer.Firmware

open Library Fallible

/-! ## The checksum -/

/-- The bit that leaves the register, as the source tests it. -/
theorem and_one_ne_zero_iff (checksum : UInt32) :
    checksum &&& 1 ≠ 0 ↔ checksum.toBitVec.getLsbD 0 = true := by
  have low : (checksum &&& 1).toBitVec =
      BitVec.setWidth 32 (BitVec.ofBool (checksum.toBitVec.getLsbD 0)) := by
    rw [UInt32.toBitVec_and]
    exact BitVec.and_one_eq_setWidth_ofBool_getLsbD
  cases bit : checksum.toBitVec.getLsbD 0 with
  | false =>
      rw [bit] at low
      exact iff_of_false (not_not.mpr (UInt32.toBitVec_inj.mp low)) Bool.false_ne_true
  | true =>
      rw [bit] at low
      refine iff_of_true (fun zero => ?_) rfl
      rw [zero] at low
      exact absurd low (by decide)

/-- One round of the loop is a step of the mirrored register. -/
theorem toBitVec_checksumRound (checksum : UInt32) :
    ((checksum >>> 1) ^^^ (if checksum &&& 1 ≠ 0 then 0xEDB88320 else 0)).toBitVec =
      reflectedStep (0x04C11DB7#32).reverse checksum.toBitVec false := by
  have polynomial : (0x04C11DB7#32).reverse = 0xEDB88320#32 := by decide +kernel
  rw [reflectedStep, Bool.xor_false, polynomial, UInt32.toBitVec_xor]
  by_cases bit : checksum.toBitVec.getLsbD 0 = true
  · rw [if_pos ((and_one_ne_zero_iff checksum).mpr bit), if_pos bit]
    rfl
  · rw [if_neg fun odd => bit ((and_one_ne_zero_iff checksum).mp odd), if_neg bit]
    rfl

/-- The bytes may be split into blocks. -/
theorem checksumUpdate_append (checksum : UInt32) (first second : Bytes) :
    checksumUpdate checksum (first ++ second) =
      checksumUpdate (checksumUpdate checksum first) second :=
  List.foldl_append

/-- **One byte**, bit by bit. -/
theorem toBitVec_checksumUpdate_singleton (checksum : UInt32) (byte : UInt8) :
    (checksumUpdate checksum [byte]).toBitVec =
      (byteBits byte).foldl (reflectedStep (0x04C11DB7#32).reverse) checksum.toBitVec := by
  have bits : byteBits byte = (List.range 8).map byte.toUInt32.toBitVec.getLsbD := by
    refine List.map_congr_left fun i listed => ?_
    rw [UInt8.toBitVec_toUInt32, BitVec.getLsbD_setWidth]
    have inside := List.mem_range.mp listed
    rw [decide_eq_true (by omega : i < 32), Bool.true_and]
  have small : byte.toUInt32.toBitVec.toNat < 2 ^ 8 := by
    rw [UInt32.toNat_toBitVec, UInt8.toNat_toUInt32]
    exact byte.toNat_lt
  rw [bits, foldl_reflectedStep _ _ _ _ small]
  have rounds : ∀ (count : List Nat) (checksum : UInt32),
      (count.foldl (fun (checksum : UInt32) _ =>
        (checksum >>> 1) ^^^ (if checksum &&& 1 ≠ 0 then 0xEDB88320 else 0)) checksum).toBitVec =
      count.foldl (fun register _ => reflectedStep (0x04C11DB7#32).reverse register false)
        checksum.toBitVec := by
    intro count checksum
    symm
    apply List.foldl_hom UInt32.toBitVec
    exact fun checksum _ => (toBitVec_checksumRound checksum).symm
  rw [checksumUpdate, List.foldl_cons, List.foldl_nil, rounds, UInt32.toBitVec_xor]

/-- **All bytes.** -/
theorem toBitVec_checksumUpdate (bytes : Bytes) : ∀ checksum,
    (checksumUpdate checksum bytes).toBitVec =
      (bytes.flatMap byteBits).foldl (reflectedStep (0x04C11DB7#32).reverse) checksum.toBitVec := by
  induction bytes with
  | nil => exact fun _ => rfl
  | cons byte later ih =>
      intro checksum
      rw [List.flatMap_cons, List.foldl_append, ← toBitVec_checksumUpdate_singleton, ← ih,
        ← checksumUpdate_append, List.singleton_append]

/-- **The checksum is CRC-32.** -/
theorem not_checksumUpdate (bytes : Bytes) : ~~~checksumUpdate 0xFFFFFFFF bytes = crc32 bytes := by
  have ones : (BitVec.allOnes 32).reverse = (0xFFFFFFFF : UInt32).toBitVec := by decide +kernel
  refine UInt32.toBitVec_inj.mp ?_
  rw [UInt32.toBitVec_not, toBitVec_checksumUpdate, ← ones, ← reverse_foldl_crcStep]
  rfl

/-! ## Blocks on the bus -/

/-- The blocks among the byte strings that have been sent. -/
def dataBlocks (transfers : List SpiTransfer) : List Bytes :=
  (transfers.map SpiTransfer.sent).filter fun sent => sent.length == 512

/-- Frames and single bytes are not blocks. -/
def NotBlock (sent : Bytes) : Prop := sent.length ≠ 512

theorem notBlock_single (byte : UInt8) : NotBlock [byte] := (show 1 ≠ 512 by decide)

theorem notBlock_commandFrame (index : UInt8) (argument : UInt32) (crc : UInt8) :
    NotBlock (commandFrame index argument crc) := (show 6 ≠ 512 by decide)

theorem dataBlocks_append (transfers made : List SpiTransfer) :
    dataBlocks (transfers ++ made) = dataBlocks transfers ++ dataBlocks made := by
  rw [dataBlocks, List.map_append, List.filter_append]
  rfl

theorem dataBlocks_of_sent {first device : SpiDevice} {sent : List Bytes}
    (clocked : Clocked first sent device) :
    dataBlocks device.transfers =
      dataBlocks first.transfers ++ sent.filter fun sent => sent.length == 512 := by
  rw [clocked.transfers, dataBlocks_append]
  refine congrArg _ ?_
  rw [dataBlocks, List.map_map]
  exact congrArg _ (List.map_id sent)

/-- **What the check depends on**: the information structure, the accumulators, and the blocks that
have been sent. -/
structure Holding (information : SdCardInformation) (written verified : UInt32)
    (blocks : List Bytes) (s : SdCardDriver) : Prop where
  information : s.information = information
  writeChecksum : s.writeChecksum = written
  verifyChecksum : s.verifyChecksum = verified
  blocks : dataBlocks s.spi.transfers = blocks

/-- Nothing is said about a call that fails. -/
abbrev Anything : SdCardDriver → Prop := fun _ => True

section Blocks

variable {information : SdCardInformation} {written verified : UInt32} {blocks : List Bytes}
  {α : Type} {before : SdCardDriver → Prop} {after : α → SdCardDriver → Prop}

theorem holding_spiClosed : SpiClosed NotBlock (Holding information written verified blocks) := by
  intro s device holds ⟨sent, clocked, allowed⟩
  refine ⟨holds.information, holds.writeChecksum, holds.verifyChecksum, ?_⟩
  have none : (sent.filter fun sent => sent.length == 512) = [] :=
    List.filter_eq_nil_iff.mpr fun bytes listed same => allowed bytes listed (beq_iff_eq.mp same)
  rw [dataBlocks_of_sent clocked, none, List.append_nil]
  exact holds.blocks

theorem triple_fail_anything {reason : String} {code : Int32} :
    Triple before (fail reason code) after Anything :=
  Triple.bind (M := fun _ => Anything) (.change fun _ _ => trivial) fun _ =>
    .failure fun _ _ => trivial

theorem triple_failIfUnset_anything {reason : String} {code : Int32} :
    Triple before (failIfUnset reason code) after Anything := by
  refine Triple.bind (M := fun _ => Anything) (.ask fun _ _ => trivial) fun stored =>
    .ite (fun _ => triple_fail_anything) fun _ => ?_
  exact Triple.bind (M := fun _ => Anything) (.change fun _ _ => trivial) fun _ =>
    .failure fun _ _ => trivial

theorem triple_deselectCard_anything {failed : SdCardDriver → Prop} :
    Triple before deselectCard (fun _ => Anything) failed :=
  (@keeps_deselectCard NotBlock Anything (fun _ _ _ _ => trivial) notBlock_single).mono
    (fun _ _ => trivial) (fun _ _ holds => holds) fun _ holds => holds

theorem triple_orDeselect_anything {call : SdCall α} (triple : Triple before call after Anything) :
    Triple before (orDeselect call) after Anything :=
  triple.orElse (Triple.bind triple_deselectCard_anything fun _ => .failure fun _ _ => trivial)

theorem triple_deselectAndFail_anything {reason : String} {code : Int32} :
    Triple before (deselectAndFail reason code) after Anything :=
  Triple.bind triple_deselectCard_anything fun _ => triple_fail_anything

theorem holding_transfer {sent : Bytes} (notBlock : NotBlock sent) :
    Keeps (Holding information written verified blocks) Anything
      (onDevice (spiDeviceTransfer sent)) :=
  (keeps_transfer holding_spiClosed notBlock).mono (fun _ holds => holds) (fun _ _ holds => holds)
    fun _ _ => trivial

theorem holding_transferByte (byte : UInt8) :
    Keeps (Holding information written verified blocks) Anything (transferByte byte) :=
  keeps_bind (Triple.orElse (holding_transfer (notBlock_single byte)) triple_failIfUnset_anything)
    fun _ => keeps_pure

theorem pollable_holding : Pollable (Holding information written verified blocks) Anything where
  byte := holding_transferByte
  tick := .receive fun _ _ _ holds _ =>
    ⟨holds.information, holds.writeChecksum, holds.verifyChecksum, holds.blocks⟩
  failure _ := triple_failIfUnset_anything

theorem holding_deselectCard {failed : SdCardDriver → Prop} :
    Keeps (Holding information written verified blocks) failed deselectCard :=
  keeps_deselectCard holding_spiClosed notBlock_single

/-- The command for a sector, with its select. -/
theorem holding_addressSector {index : UInt8} {sector : UInt32} :
    Keeps (Holding information written verified blocks) Anything
      (orDeselect (do
        selectCard
        command index (wireAddress (← ask SdCardDriver.highCapacity) sector) 0xFF)) := by
  have selection : Keeps (Holding information written verified blocks) Anything
      (onDevice spiDeviceSelect) :=
    (keeps_selection holding_spiClosed).mono (fun _ holds => holds) (fun _ _ holds => holds)
      fun _ _ => trivial
  refine triple_orDeselect_anything (keeps_bind (keeps_bind
    (Triple.orElse selection triple_failIfUnset_anything) fun _ => pollable_holding.waitReady)
      fun _ => keeps_bind keeps_ask fun _ => ?_)
  exact keeps_bind (Triple.orElse (holding_transfer (notBlock_commandFrame _ _ _))
    triple_failIfUnset_anything) fun _ => pollable_holding.awaitResponse

/-- **A block is sent.** -/
theorem holding_transferBlock {buffer : Bytes} (block : buffer.length = 512) :
    Triple (Holding information written verified blocks) (onDevice (spiDeviceTransfer buffer))
      (fun _ => Holding information written verified (blocks ++ [buffer])) Anything := by
  refine Triple.bind (M := fun _ => Holding information written verified blocks)
    (.ask fun _ holds => holds) fun _ => ?_
  refine Triple.bind (M := fun _ => Holding information written verified blocks)
    (.check (fun _ _ holds => holds) fun _ _ _ => trivial) fun _ => ?_
  refine Triple.within (fun device => spiDeviceTransfer_spec buffer device) ?_
    fun _ _ _ _ => trivial
  intro s received device holds ⟨clocked, _⟩
  refine ⟨holds.information, holds.writeChecksum, holds.verifyChecksum, ?_⟩
  have one : ([buffer].filter fun sent => sent.length == 512) = [buffer] :=
    List.filter_cons_of_pos (by rw [beq_iff_eq]; exact block)
  rw [dataBlocks_of_sent clocked, holds.blocks, one]

/-- **`write_block`** sends its block once. -/
theorem holding_writeBlock {sector : UInt32} {buffer : Bytes} (block : buffer.length = 512) :
    Triple (Holding information written verified blocks) (writeBlock sector buffer)
      (fun _ => Holding information written verified (blocks ++ [buffer])) Anything := by
  refine Triple.bind holding_addressSector fun response =>
    .ite (fun _ => triple_deselectAndFail_anything) fun _ => ?_
  refine Triple.bind (triple_orDeselect_anything pollable_holding.waitReady) fun _ =>
    Triple.bind (triple_orDeselect_anything (pollable_holding.byte 0xFE)) fun _ => ?_
  refine Triple.bind (Triple.orElse (holding_transferBlock block)
    triple_deselectAndFail_anything) fun _ => ?_
  refine Triple.bind (triple_orDeselect_anything (keeps_bind (pollable_holding.byte 0xFF)
    fun _ => keeps_bind (pollable_holding.byte 0xFF) fun _ => pollable_holding.byte 0xFF))
      fun _ => .ite (fun _ => triple_deselectAndFail_anything) fun _ => ?_
  exact Triple.bind (triple_orDeselect_anything pollable_holding.waitReady) fun _ =>
    holding_deselectCard

/-- **`read_block`** sends none. -/
theorem holding_readBlock {sector : UInt32} :
    Keeps (Holding information written verified blocks) Anything (readBlock sector) := by
  refine keeps_bind holding_addressSector fun response =>
    .ite (fun _ => triple_deselectAndFail_anything) fun _ => ?_
  refine keeps_bind (triple_orDeselect_anything (keeps_bind pollable_holding.waitForDataToken
    fun _ => keeps_bind pollable_holding.readBytes fun _ => keeps_bind pollable_holding.readBytes
      fun _ => keeps_pure)) fun _ => ?_
  exact keeps_bind holding_deselectCard fun _ => keeps_pure

end Blocks

/-! ## The functions for test blocks -/

/-- The block for a sector. -/
theorem length_pattern (sector : UInt32) : (pattern sector).length = 512 :=
  (List.length_map _).trans List.length_range

/-- An accumulator at a block: set anew at the first one. -/
def accumulated (block checksum : UInt32) : UInt32 := if block = 0 then 0xFFFFFFFF else checksum

section TestBlocks

variable {information : SdCardInformation} {written verified : UInt32} {blocks : List Bytes}
  {block : UInt32}

theorem not_invalid (inside : block < sdCardTestBlockCount) :
    ¬(false = true ∨ sdCardTestBlockCount ≤ block) := by
  rintro (null | outside)
  · cases null
  · exact absurd inside (UInt32.not_lt.mpr outside)

/-- **Writing a block** adds it to the accumulator and sends it; after the last one the checksum
is stored. -/
theorem holding_writeTestBlock (inside : block < sdCardTestBlockCount) :
    Triple (Holding information written verified blocks) (sdCardDriverWriteTestBlock false block)
      (fun _ => Holding
        (if block = sdCardTestBlockCount - 1 then
          { information with
            checksum := ~~~checksumUpdate (accumulated block written)
              (pattern (information.testSector + block)) }
        else information)
        (checksumUpdate (accumulated block written) (pattern (information.testSector + block)))
        verified (blocks ++ [pattern (information.testSector + block)])) Anything := by
  refine Triple.bind (M := fun _ => Holding information written verified blocks)
    (keeps_bind (.change fun _ holds =>
      ⟨holds.information, holds.writeChecksum, holds.verifyChecksum, holds.blocks⟩)
      fun _ => .change fun _ holds =>
        ⟨holds.information, holds.writeChecksum, holds.verifyChecksum, holds.blocks⟩) fun _ => ?_
  refine .ite (fun invalid => absurd invalid (not_invalid inside)) fun _ => ?_
  refine Triple.bind (M := fun _ => Holding information (accumulated block written) verified blocks)
    (.change fun s holds => ⟨holds.information, ?_, holds.verifyChecksum, holds.blocks⟩) fun _ => ?_
  · rw [accumulated, ← holds.writeChecksum]
  refine Triple.bind (M := fun testSector s => testSector = information.testSector ∧
    Holding information (accumulated block written) verified blocks s)
    (.ask fun s holds => ⟨by rw [holds.information], holds⟩) fun testSector => ?_
  rintro s result t ⟨rfl, holds⟩ returned
  refine (?_ : Triple (Holding information (accumulated block written) verified blocks) _ _ _)
    s result t holds returned
  refine Triple.bind (M := fun _ => Holding information
    (checksumUpdate (accumulated block written) (pattern (information.testSector + block)))
    verified blocks)
    (.change fun s holds => ⟨holds.information, ?_, holds.verifyChecksum, holds.blocks⟩) fun _ => ?_
  · rw [← holds.writeChecksum]
  refine Triple.bind (holding_writeBlock (length_pattern _)) fun _ => .ite (fun last => ?_)
    fun notLast => .pure fun s holds => ?_
  · refine .change fun s holds => ⟨?_, holds.writeChecksum, holds.verifyChecksum, holds.blocks⟩
    rw [if_pos last, ← holds.writeChecksum, ← holds.information]
  · rw [if_neg notLast]
    exact holds

/-- The state in which `sd_card_driver_verify_test_block` reads its block. -/
def verifyBegun (block : UInt32) (s : SdCardDriver) : SdCardDriver :=
  { s with
    lastFailure := ⟨none, none, 0⟩
    activeStage := some (ascii "cmd17_read_test_sector")
    verifyChecksum := accumulated block s.verifyChecksum }

/-- What the card returns for a block: nothing if the read fails. -/
def CardReturns (s : SdCardDriver) (block : UInt32) (received : Option Bytes) (t : SdCardDriver) :
    Prop :=
  readBlock (s.information.testSector + block) (verifyBegun block s) = some (received, t)

/-- **Verifying a block**, by what the card returns for it. -/
theorem verifyTestBlock_eq {s t : SdCardDriver} {received : Bytes}
    (inside : block < sdCardTestBlockCount) (returns : CardReturns s block (some received) t) :
    sdCardDriverVerifyTestBlock false block s =
      (if pattern (s.information.testSector + block) ≠ received then
        fail "read_back_mismatch" block.toInt32
      else do
        change fun s => { s with verifyChecksum := checksumUpdate s.verifyChecksum received }
        let checksum ← ask fun s => ~~~s.verifyChecksum
        let expected ← ask fun s => s.information.checksum
        if block = sdCardTestBlockCount - 1 ∧ checksum ≠ expected then
          fail "checksum_mismatch" checksum.toInt32 : SdCall Unit) t := by
  rw [CardReturns] at returns
  simp only [sdCardDriverVerifyTestBlock, if_neg (not_invalid inside)]
  show andThen (readBlock (s.information.testSector + block)) _ (verifyBegun block s) = _
  rw [andThen, returns]

/-- A block is verified only if the card returns one. -/
theorem cardReturns_of_verified {s t : SdCardDriver} (inside : block < sdCardTestBlockCount)
    (verified : sdCardDriverVerifyTestBlock false block s = some (some (), t)) :
    ∃ received u, CardReturns s block (some received) u := by
  simp only [sdCardDriverVerifyTestBlock, if_neg (not_invalid inside)] at verified
  replace verified : andThen (readBlock (s.information.testSector + block)) _ (verifyBegun block s) =
      some (some (), t) := verified
  rw [andThen] at verified
  cases read : readBlock (s.information.testSector + block) (verifyBegun block s) with
  | none =>
      rw [read] at verified
      exact absurd verified.symm (Option.some_ne_none _)
  | some answer =>
      obtain ⟨received, u⟩ := answer
      cases received with
      | none =>
          rw [read] at verified
          cases verified
      | some received => exact ⟨received, u, read⟩

/-- Reading a block keeps what the check depends on. -/
theorem holding_of_cardReturns {s u : SdCardDriver} {received : Bytes}
    (returns : CardReturns s block (some received) u) :
    u.information = s.information ∧ u.verifyChecksum = accumulated block s.verifyChecksum := by
  have begun : Holding s.information s.writeChecksum (accumulated block s.verifyChecksum)
      (dataBlocks s.spi.transfers) (verifyBegun block s) := ⟨rfl, rfl, rfl, rfl⟩
  have read := holding_readBlock.success begun returns
  exact ⟨read.information, read.verifyChecksum⟩

/-- **A block that is returned as it was written** is accepted; at the last one, if the accumulators
agree. -/
theorem verifyTestBlock_accepts {s u : SdCardDriver} (inside : block < sdCardTestBlockCount)
    (returns : CardReturns s block (some (pattern (s.information.testSector + block))) u)
    (agrees : block = sdCardTestBlockCount - 1 → s.information.checksum =
      ~~~checksumUpdate (accumulated block s.verifyChecksum)
        (pattern (s.information.testSector + block))) :
    ∃ t, sdCardDriverVerifyTestBlock false block s = some (some (), t) ∧
      t.information = s.information ∧ t.verifyChecksum =
        checksumUpdate (accumulated block s.verifyChecksum)
          (pattern (s.information.testSector + block)) := by
  obtain ⟨information, verifyChecksum⟩ := holding_of_cardReturns returns
  rw [verifyTestBlock_eq inside returns, if_neg (not_not.mpr rfl)]
  rw [← verifyChecksum, ← information] at agrees ⊢
  -- what the block consists of does not matter for the rest
  generalize pattern (u.information.testSector + block) = written at agrees ⊢
  have matching : ¬(block = sdCardTestBlockCount - 1 ∧
      ~~~checksumUpdate u.verifyChecksum written ≠ u.information.checksum) :=
    fun mismatch => mismatch.2 (agrees mismatch.1).symm
  refine ⟨{ u with verifyChecksum := checksumUpdate u.verifyChecksum written }, ?_, rfl, rfl⟩
  show (if block = sdCardTestBlockCount - 1 ∧
      ~~~checksumUpdate u.verifyChecksum written ≠ u.information.checksum then
      fail "checksum_mismatch" (~~~checksumUpdate u.verifyChecksum written).toInt32
    else pure () : SdCall Unit)
      { u with verifyChecksum := checksumUpdate u.verifyChecksum written } = _
  rw [if_neg matching]
  rfl

/-- **Any other block** is rejected. -/
theorem verifyTestBlock_rejects {s u : SdCardDriver} {received : Bytes}
    (inside : block < sdCardTestBlockCount) (returns : CardReturns s block (some received) u)
    (differs : received ≠ pattern (s.information.testSector + block)) :
    ∃ v, sdCardDriverVerifyTestBlock false block s = some (none, v) ∧
      v.lastFailure.reason = some (ascii "read_back_mismatch") := by
  rw [verifyTestBlock_eq inside returns, if_pos differs.symm]
  exact ⟨_, rfl, rfl⟩

end TestBlocks

/-! ## The blocks differ -/

/-- The blocks of the first so many test sectors. -/
def writtenBlocks (testSector : UInt32) (count : Nat) : List Bytes :=
  (List.range count).map fun index => pattern (testSector + UInt32.ofNat index)

theorem writtenBlocks_succ (testSector : UInt32) (count : Nat) :
    writtenBlocks testSector (count + 1) =
      writtenBlocks testSector count ++ [pattern (testSector + UInt32.ofNat count)] := by
  rw [writtenBlocks, List.range_succ, List.map_append]
  rfl

theorem getElem?_writtenBlocks {testSector : UInt32} {count index : Nat} (inside : index < count) :
    (writtenBlocks testSector count)[index]? =
      some (pattern (testSector + UInt32.ofNat index)) := by
  rw [writtenBlocks, List.getElem?_map, List.getElem?_range inside]
  rfl

theorem of_getElem?_writtenBlocks {testSector : UInt32} {count index : Nat} {block : Bytes}
    (listed : (writtenBlocks testSector count)[index]? = some block) :
    index < count ∧ block = pattern (testSector + UInt32.ofNat index) := by
  obtain ⟨short, _⟩ := List.getElem?_eq_some_iff.mp listed
  have inside : index < count := by
    rw [writtenBlocks, List.length_map, List.length_range] at short
    exact short
  exact ⟨inside, Option.some.inj (listed.symm.trans (getElem?_writtenBlocks inside))⟩

theorem getElem?_pattern (sector : UInt32) {index : Nat} (inside : index < 512) :
    (pattern sector)[index]? = some (sector + UInt32.ofNat index * 37).toUInt8 := by
  rw [pattern, List.getElem?_map, List.getElem?_range (show index < sdBlockSize.toNat from inside)]
  rfl

/-- **The blocks of two test sectors differ**, in their first byte. -/
theorem pattern_ne_pattern {testSector : UInt32} {first second : Nat} (inside : first < 8)
    (inside' : second < 8) (differ : first ≠ second) :
    pattern (testSector + UInt32.ofNat first) ≠ pattern (testSector + UInt32.ofNat second) := by
  intro same
  have byte : (testSector + UInt32.ofNat first + UInt32.ofNat 0 * 37).toUInt8 =
      (testSector + UInt32.ofNat second + UInt32.ofNat 0 * 37).toUInt8 := by
    refine Option.some.inj ?_
    rw [← getElem?_pattern _ (by decide), ← getElem?_pattern _ (by decide), same]
  have residue := congrArg UInt8.toNat byte
  simp only [UInt32.toNat_toUInt8, UInt32.toNat_add, UInt32.toNat_mul, UInt32.toNat_ofNat'] at residue
  omega

/-- **No block consists of zeros**: of its first two bytes, one is not zero. -/
theorem pattern_ne_zeros (sector : UInt32) : pattern sector ≠ List.replicate 512 0 := by
  intro same
  have zero : ∀ index, index < 2 → (sector + UInt32.ofNat index * 37).toUInt8 = 0 := by
    intro index inside
    refine Option.some.inj ?_
    rw [← getElem?_pattern _ (by omega), same, List.getElem?_replicate_of_lt (by omega)]
  have first := congrArg UInt8.toNat (zero 0 (by decide))
  have second := congrArg UInt8.toNat (zero 1 (by decide))
  have factor : (37 : UInt32).toNat = 37 := rfl
  have none : (0 : UInt8).toNat = 0 := rfl
  simp only [UInt32.toNat_toUInt8, UInt32.toNat_add, UInt32.toNat_mul, UInt32.toNat_ofNat', factor,
    none] at first second
  omega

/-! ## One call of the test -/

section Process

variable {δ : Type} {calls : SdCardDriverCalls δ} {s t : SdCardTest δ} {operation : BlockOperation}
  {result : ComponentTestProcessResult}

/-- In the phase of an operation, `process` goes on with it. -/
theorem process_of_phase (calls : SdCardDriverCalls δ) (state : s.state = operation.state) :
    ∃ stage restart, sdCardTestProcess calls s =
      blockPhase calls stage operation operation.next restart operation.event s := by
  rw [sdCardTestProcess, ComponentCall.get_bind, state]
  cases operation with
  | write => exact ⟨_, _, rfl⟩
  | verify => exact ⟨_, _, rfl⟩
  | clear => exact ⟨_, _, rfl⟩

/-- It does not go on without a card. -/
theorem present_of_process (state : s.state = operation.state)
    (returned : sdCardTestProcess calls s = some (result, t)) (going : t.state ≠ .failed) :
    ∃ later, s.cardReads = true :: later := by
  obtain ⟨stage, restart, same⟩ := process_of_phase calls state
  rw [same, blockPhase, ComponentCall.get_bind, callWithCard] at returned
  obtain ⟨present, read, inserted, rest⟩ := ComponentCall.bind_eq_some returned
  rw [sdCardInserted] at inserted
  cases reads : s.cardReads with
  | nil =>
      rw [reads] at inserted
      exact absurd inserted.symm (Option.some_ne_none _)
  | cons answer later =>
      rw [reads] at inserted
      obtain ⟨rfl, rfl⟩ := Prod.mk.inj (Option.some.inj inserted)
      cases answer with
      | true => exact ⟨later, rfl⟩
      | false =>
          obtain ⟨_, rfl⟩ := ComponentCall.pure_eq_some rest
          exact absurd rfl going

variable {later : List Bool} {driver : δ}

theorem sdCardInserted_of_present (present : s.cardReads = true :: later) :
    sdCardInserted s = some (true, { s with cardReads := later }.record (.cardRead true)) := by
  rw [sdCardInserted, present]

/-- **A block that is done**: the next one is due, or the next phase. -/
theorem process_of_success (calls : SdCardDriverCalls δ) (operation : BlockOperation)
    (state : s.state = operation.state)
    (present : s.cardReads = true :: later)
    (called : calls.block operation s.currentBlock s.driver = some (some (), driver)) :
    ∃ result t, sdCardTestProcess calls s = some (result, t) ∧
      result = (if s.currentBlock + 1 < sdCardTestBlockCount then .running else .event) ∧
      (¬s.currentBlock + 1 < sdCardTestBlockCount → t.state = operation.next) := by
  obtain ⟨stage, restart, same⟩ := process_of_phase calls state
  have drives : sdDriverCall (calls.block operation s.currentBlock)
      (.block operation s.currentBlock) ({ s with cardReads := later }.record (.cardRead true)) =
      some (true, ({ ({ s with cardReads := later }.record (.cardRead true)) with
        driver := driver }).record (.block operation s.currentBlock true)) := by
    rw [sdDriverCall]
    show (calls.block operation s.currentBlock s.driver).map _ = _
    rw [called]
    rfl
  rw [same, blockPhase, ComponentCall.get_bind, callWithCard,
    ComponentCall.bind_of_returned (sdCardInserted_of_present present), if_pos rfl,
    ComponentCall.bind_of_returned drives, if_pos rfl, ComponentCall.modify_bind,
    ComponentCall.get_bind]
  by_cases more : s.currentBlock + 1 < sdCardTestBlockCount
  · exact ⟨_, _, congrFun (if_pos more) _, (if_pos more).symm, fun last => absurd more last⟩
  · exact ⟨_, _, congrFun (if_neg more) _, (if_neg more).symm, fun _ => rfl⟩

/-- **A block that fails** ends the test, with the failure of the driver. -/
theorem process_of_failure (calls : SdCardDriverCalls δ) (operation : BlockOperation)
    (state : s.state = operation.state)
    (present : s.cardReads = true :: later)
    (called : calls.block operation s.currentBlock s.driver = some (none, driver)) :
    ∃ t, sdCardTestProcess calls s = some (.event, t) ∧ t.state = .failed ∧
      t.latestEvent.failureReason = (calls.lastFailure driver).reason := by
  obtain ⟨stage, restart, same⟩ := process_of_phase calls state
  have drives : sdDriverCall (calls.block operation s.currentBlock)
      (.block operation s.currentBlock) ({ s with cardReads := later }.record (.cardRead true)) =
      some (false, ({ ({ s with cardReads := later }.record (.cardRead true)) with
        driver := driver }).record (.block operation s.currentBlock false)) := by
    rw [sdDriverCall]
    show (calls.block operation s.currentBlock s.driver).map _ = _
    rw [called]
    rfl
  rw [same, blockPhase, ComponentCall.get_bind, callWithCard,
    ComponentCall.bind_of_returned (sdCardInserted_of_present present), if_pos rfl,
    ComponentCall.bind_of_returned drives, if_neg Bool.false_ne_true]
  exact ⟨_, rfl, rfl, rfl⟩

end Process

/-! ## Steps of a phase -/

section Steps

variable {δ : Type} {calls : SdCardDriverCalls δ} {s t : SdCardTest δ} {operation : BlockOperation}

theorem operation_not_waiting (operation : BlockOperation) :
    operation.state.isWaiting = false := by
  cases operation <;> rfl

theorem operation_not_initializing (operation : BlockOperation) :
    operation.state ≠ .initializing := by
  cases operation <;> exact SdCardTestState.noConfusion

theorem operation_state_injective {first second : BlockOperation}
    (same : first.state = second.state) : first = second := by
  cases first <;> cases second <;> first | rfl | cases same

/-- **A call that announces nothing** has done a block, and another one is due. -/
theorem block_of_running (operation : BlockOperation) (state : s.state = operation.state)
    (step : SdCardTestStep calls s (.process .running) t) :
    calls.block operation s.currentBlock s.driver = some (some (), t.driver) ∧
      s.currentBlock + 1 < sdCardTestBlockCount ∧ t.state = operation.state ∧
      t.currentBlock = s.currentBlock + 1 := by
  cases step with
  | process returned =>
      cases sdCardTestProcess_returns returned with
      | waits reads before _ _ _ _ =>
          rw [state, operation_not_waiting] at before
          cases before
      | blockDone other before called more after block _ =>
          obtain rfl := operation_state_injective (state.symm.trans before)
          exact ⟨called, more, after.trans state, block⟩

/-- **A call that announces an event**, and does not fail, has done the last block. -/
theorem block_of_event (operation : BlockOperation) (state : s.state = operation.state)
    (step : SdCardTestStep calls s (.process .event) t) (going : t.state ≠ .failed) :
    calls.block operation s.currentBlock s.driver = some (some (), t.driver) ∧
      ¬s.currentBlock + 1 < sdCardTestBlockCount ∧ t.state = operation.next ∧
      (t.state ≠ .complete → t.currentBlock = 0) ∧
      t.latestEvent = cardInformation operation.event (calls.information t.driver) := by
  cases step with
  | process returned =>
      cases sdCardTestProcess_returns returned with
      | announces reads before _ _ _ _ _ _ =>
          rw [state, operation_not_waiting] at before
          cases before
      | removed _ after _ _ _ _ => exact absurd after going
      | callFails _ _ after _ _ => exact absurd after going
      | initialized before _ _ _ _ _ =>
          exact absurd (state.symm.trans before) (operation_not_initializing operation)
      | phaseDone other before called last after block event _ =>
          obtain rfl := operation_state_injective (state.symm.trans before)
          exact ⟨called, last, after, block, event⟩

/-- In both cases the card is present. -/
theorem present_of_step {result : ComponentTestProcessResult} (operation : BlockOperation)
    (state : s.state = operation.state)
    (step : SdCardTestStep calls s (.process result) t) (going : t.state ≠ .failed) :
    ∃ later, s.cardReads = true :: later := by
  cases step with
  | process returned =>
      refine present_of_process state returned fun failed => going ?_
      rw [SdCardTest.emit]
      split_ifs
      · exact failed
      · exact failed

end Steps

/-! ## The phases -/

/-- The blocks up to some count have been written. -/
structure Written (first : SdCardTest SdCardDriver) (count : Nat) (s : SdCardTest SdCardDriver) :
    Prop where
  state : s.state = .writing
  block : s.currentBlock = UInt32.ofNat count
  inside : count < 8
  information : s.driver.information = first.driver.information
  checksum : accumulated s.currentBlock s.driver.writeChecksum =
    checksumUpdate 0xFFFFFFFF (writtenBlocks first.driver.information.testSector count).flatten
  blocks : dataBlocks s.driver.spi.transfers = dataBlocks first.driver.spi.transfers ++
    writtenBlocks first.driver.information.testSector count

/-- They have been verified. -/
structure Verified (first : SdCardTest SdCardDriver) (count : Nat) (s : SdCardTest SdCardDriver) :
    Prop where
  state : s.state = .verifying
  block : s.currentBlock = UInt32.ofNat count
  inside : count < 8
  information : s.driver.information = first.driver.information
  checksum : accumulated s.currentBlock s.driver.verifyChecksum =
    checksumUpdate 0xFFFFFFFF (writtenBlocks first.driver.information.testSector count).flatten

section Phases

variable {first s t : SdCardTest SdCardDriver} {count : Nat}

/-- The block that is due, as a number. -/
theorem due_block (inside : count < 8) :
    UInt32.ofNat count < sdCardTestBlockCount ∧
      (UInt32.ofNat count + 1 < sdCardTestBlockCount ↔ count + 1 < 8) ∧
      UInt32.ofNat count + 1 = UInt32.ofNat (count + 1) ∧
      (UInt32.ofNat count = sdCardTestBlockCount - 1 ↔ count = 7) ∧
      UInt32.ofNat (count + 1) ≠ 0 := by
  have cases : ∀ count : Fin 8, UInt32.ofNat count.val < sdCardTestBlockCount ∧
      (UInt32.ofNat count.val + 1 < sdCardTestBlockCount ↔ count.val + 1 < 8) ∧
      UInt32.ofNat count.val + 1 = UInt32.ofNat (count.val + 1) ∧
      (UInt32.ofNat count.val = sdCardTestBlockCount - 1 ↔ count.val = 7) ∧
      UInt32.ofNat (count.val + 1) ≠ 0 := by decide
  exact cases ⟨count, inside⟩

theorem flatten_writtenBlocks_succ (testSector : UInt32) (count : Nat) :
    checksumUpdate 0xFFFFFFFF (writtenBlocks testSector (count + 1)).flatten =
      checksumUpdate (checksumUpdate 0xFFFFFFFF (writtenBlocks testSector count).flatten)
        (pattern (testSector + UInt32.ofNat count)) := by
  rw [writtenBlocks_succ, List.flatten_append, List.flatten_singleton, checksumUpdate_append]

/-- **What the driver does for the block that is due.** -/
theorem Written.writes (written : Written first count s) {driver : SdCardDriver}
    (called : sdCardDriverWriteTestBlock false s.currentBlock s.driver = some (some (), driver)) :
    Holding
      (if count = 7 then
        { first.driver.information with
          checksum := ~~~checksumUpdate 0xFFFFFFFF
            (writtenBlocks first.driver.information.testSector (count + 1)).flatten }
      else first.driver.information)
      (checksumUpdate 0xFFFFFFFF
        (writtenBlocks first.driver.information.testSector (count + 1)).flatten)
      s.driver.verifyChecksum
      (dataBlocks first.driver.spi.transfers ++
        writtenBlocks first.driver.information.testSector (count + 1)) driver := by
  obtain ⟨due, _, _, last, _⟩ := due_block written.inside
  have begun : Holding s.driver.information s.driver.writeChecksum s.driver.verifyChecksum
      (dataBlocks s.driver.spi.transfers) s.driver := ⟨rfl, rfl, rfl, rfl⟩
  have wrote := (holding_writeTestBlock (written.block ▸ due)).success begun called
  rw [written.checksum, written.information, written.blocks, written.block] at wrote
  rw [flatten_writtenBlocks_succ, writtenBlocks_succ, ← List.append_assoc]
  by_cases seven : count = 7
  · rw [if_pos (last.mpr seven)] at wrote
    rw [if_pos seven]
    exact wrote
  · rw [if_neg fun other => seven (last.mp other)] at wrote
    rw [if_neg seven]
    exact wrote

/-- A call that announces nothing has written the block. -/
theorem Written.step (written : Written first count s)
    (step : SdCardTestStep sdCardDriverCalls s (.process .running) t) :
    Written first (count + 1) t := by
  obtain ⟨called, more, state, block⟩ := block_of_running .write written.state step
  obtain ⟨_, another, next, _, notFirst⟩ := due_block written.inside
  rw [written.block] at more block
  have inside := another.mp more
  have holds := written.writes called
  rw [if_neg (by omega : count ≠ 7)] at holds
  refine ⟨state, block.trans next, inside, holds.information, ?_, holds.blocks⟩
  rw [accumulated, block, next, if_neg notFirst, holds.writeChecksum]

/-- **The last call of the phase** has written the last block, and announces the CRC. -/
theorem Written.finish (written : Written first count s)
    (step : SdCardTestStep sdCardDriverCalls s (.process .event) t) (going : t.state = .verifying) :
    count = 7 ∧ t.currentBlock = 0 ∧
      t.latestEvent = cardInformation "sd_card_written" t.driver.information ∧
      t.driver.information = { first.driver.information with
        checksum := crc32 (writtenBlocks first.driver.information.testSector 8).flatten } ∧
      dataBlocks t.driver.spi.transfers = dataBlocks first.driver.spi.transfers ++
        writtenBlocks first.driver.information.testSector 8 := by
  obtain ⟨called, none, _, block, event⟩ := block_of_event .write written.state step
    (by rw [going]; exact SdCardTestState.noConfusion)
  obtain ⟨_, another, _, _, _⟩ := due_block written.inside
  rw [written.block] at none
  have inside := written.inside
  have last : count = 7 := by
    have noMore : ¬count + 1 < 8 := fun more => none (another.mpr more)
    omega
  have holds := written.writes called
  rw [if_pos last, last, not_checksumUpdate] at holds
  refine ⟨last, block ?_, event, holds.information, holds.blocks⟩
  rw [going]
  exact SdCardTestState.noConfusion

/-- What the card returns for the block that is due. -/
def ReturnsBlock (s : SdCardTest SdCardDriver) (received : Bytes) : Prop :=
  (∃ later, s.cardReads = true :: later) ∧
    ∃ after, CardReturns s.driver s.currentBlock (some received) after

/-- **A block is verified only if it is returned as it was written.** -/
theorem returned_of_verified {s : SdCardDriver} {block : UInt32} {driver : SdCardDriver}
    (inside : block < sdCardTestBlockCount)
    (called : sdCardDriverVerifyTestBlock false block s = some (some (), driver)) :
    ∃ after, CardReturns s block (some (pattern (s.information.testSector + block))) after := by
  obtain ⟨received, after, returns⟩ := cardReturns_of_verified inside called
  by_cases same : received = pattern (s.information.testSector + block)
  · exact ⟨after, same ▸ returns⟩
  · obtain ⟨_, fails, _⟩ := verifyTestBlock_rejects inside returns same
    rw [fails] at called
    cases called

/-- A call that announces nothing has verified the block. -/
theorem Verified.step (verified : Verified first count s)
    (step : SdCardTestStep sdCardDriverCalls s (.process .running) t) :
    Verified first (count + 1) t ∧
      ReturnsBlock s (pattern (first.driver.information.testSector + UInt32.ofNat count)) := by
  obtain ⟨called, more, state, block⟩ := block_of_running .verify verified.state step
  obtain ⟨due, another, next, last, notFirst⟩ := due_block verified.inside
  have inside := another.mp (verified.block ▸ more)
  obtain ⟨after, returns⟩ := returned_of_verified (verified.block ▸ due) called
  obtain ⟨driver, accepted, information, verifyChecksum⟩ := verifyTestBlock_accepts
    (verified.block ▸ due) returns fun isLast =>
      absurd (last.mp (verified.block.symm.trans isLast)) (by omega)
  obtain ⟨_, rfl⟩ := Prod.mk.inj (Option.some.inj (accepted.symm.trans called))
  rw [verified.information, verified.block] at returns
  refine ⟨⟨state, ?_, inside, information.trans verified.information, ?_⟩, ?_, after, ?_⟩
  · rw [block, verified.block, next]
  · rw [accumulated, block, verified.block, next, if_neg notFirst, verifyChecksum, verified.checksum,
      verified.information, verified.block, flatten_writtenBlocks_succ]
  · exact present_of_step .verify verified.state step
      (by rw [state]; exact SdCardTestState.noConfusion)
  · rw [verified.block]
    exact returns

/-- **The last call of the phase** succeeds only if the last block is returned as it was written. -/
theorem Verified.finish (verified : Verified first count s)
    (step : SdCardTestStep sdCardDriverCalls s (.process .event) t) (going : t.state ≠ .failed) :
    count = 7 ∧
      ReturnsBlock s (pattern (first.driver.information.testSector + UInt32.ofNat count)) := by
  obtain ⟨called, none, _, _, _⟩ := block_of_event .verify verified.state step going
  obtain ⟨due, another, _, _, _⟩ := due_block verified.inside
  rw [verified.block] at none
  have noMore : ¬count + 1 < 8 := fun more => none (another.mpr more)
  have inside := verified.inside
  obtain ⟨after, returns⟩ := returned_of_verified (verified.block ▸ due) called
  rw [verified.information] at returns
  refine ⟨by omega, present_of_step .verify verified.state step going, after, ?_⟩
  rw [← verified.block]
  exact returns

/-- **A block that is returned as it was written** is accepted. -/
theorem Verified.accepts (verified : Verified first count s)
    (checksum : first.driver.information.checksum =
      crc32 (writtenBlocks first.driver.information.testSector 8).flatten)
    (returns : ReturnsBlock s
      (pattern (first.driver.information.testSector + UInt32.ofNat count))) :
    ∃ result t, SdCardTestStep sdCardDriverCalls s (.process result) t ∧
      result = (if count + 1 < 8 then .running else .event) ∧
      (¬count + 1 < 8 → t.state = .cleaningUp) := by
  obtain ⟨⟨later, present⟩, after, returned⟩ := returns
  obtain ⟨due, another, _, last, _⟩ := due_block verified.inside
  obtain ⟨driver, accepted, _, _⟩ := verifyTestBlock_accepts (u := after) (verified.block ▸ due)
    (by rw [verified.information, verified.block]; rw [verified.block] at returned; exact returned)
    (by
      intro isLast
      have seven := last.mp (verified.block.symm.trans isLast)
      rw [verified.checksum, verified.information, verified.block, ← flatten_writtenBlocks_succ,
        checksum, seven, not_checksumUpdate])
  obtain ⟨result, t, processed, same, next⟩ :=
    process_of_success sdCardDriverCalls .verify verified.state present
      accepted
  rw [verified.block] at same next
  refine ⟨result, t.emit result, .process processed, ?_, fun noMore => ?_⟩
  · rw [same]
    exact if_congr another rfl rfl
  · have state := next fun more => noMore (another.mp more)
    rw [SdCardTest.emit]
    split_ifs
    · exact state
    · exact state

/-- **Any other block** ends the test. -/
theorem Verified.rejects (verified : Verified first count s) {received : Bytes}
    (returns : ReturnsBlock s received)
    (differs : received ≠ pattern (first.driver.information.testSector + UInt32.ofNat count)) :
    ∃ t, SdCardTestStep sdCardDriverCalls s (.process .event) t ∧ t.state = .failed ∧
      t.latestEvent.failureReason = some (ascii "read_back_mismatch") := by
  obtain ⟨⟨later, present⟩, after, returned⟩ := returns
  obtain ⟨due, _, _, _, _⟩ := due_block verified.inside
  rw [← verified.information, ← verified.block] at differs
  obtain ⟨driver, rejected, reason⟩ :=
    verifyTestBlock_rejects (verified.block ▸ due) returned differs
  obtain ⟨t, processed, state, failure⟩ := process_of_failure sdCardDriverCalls .verify
    verified.state present rejected
  exact ⟨t.emit .event, .process processed, state, failure.trans reason⟩

/-! ## Runs of calls -/

/-- A call of `process` is a function. -/
theorem process_unique {result : ComponentTestProcessResult} {u : SdCardTest SdCardDriver}
    (step : SdCardTestStep sdCardDriverCalls s (.process result) t)
    (other : SdCardTestStep sdCardDriverCalls s (.process result) u) : t = u := by
  cases step with
  | process returned =>
      cases other with
      | process returned' =>
          obtain ⟨_, rfl⟩ := Prod.mk.inj (Option.some.inj (returned.symm.trans returned'))
          rfl

/-- The same calls lead to the same state. -/
theorem quiet_unique {u : SdCardTest SdCardDriver}
    (run : Run (SdCardTestStep sdCardDriverCalls) s (List.replicate count (.process .running)) t)
    (other : Run (SdCardTestStep sdCardDriverCalls) s (List.replicate count (.process .running)) u) :
    t = u := by
  refine Run.of_replicate (I := fun count t => ∀ u,
    Run (SdCardTestStep sdCardDriverCalls) s (List.replicate count (.process .running)) u → t = u)
    (fun count before t same step u other => ?_) (fun u other => other.of_nil.symm) run u other
  rw [List.replicate_succ'] at other
  obtain ⟨before', earlier, last⟩ := other.of_concat
  obtain rfl := same before' earlier
  exact process_unique step last

end Phases

/-! ## The check -/

/-- After some blocks have been verified, the card returns these bytes for the next one. -/
def ReadsBack (t : SdCardTest SdCardDriver) (index : Nat) (received : Bytes) : Prop :=
  ∃ u, Run (SdCardTestStep sdCardDriverCalls) t (List.replicate index (.process .running)) u ∧
    ReturnsBlock u received

/-- All blocks are verified. -/
def Verifies (t : SdCardTest SdCardDriver) : Prop :=
  ∃ u, Run (SdCardTestStep sdCardDriverCalls) t phaseCalls u ∧ u.state = .cleaningUp

/-- The test fails at a block, which has not been read back as it was written. -/
def RejectsBlock (t : SdCardTest SdCardDriver) (index : Nat) : Prop :=
  ¬Verifies t ∧
    ∃ u v, Run (SdCardTestStep sdCardDriverCalls) t (List.replicate index (.process .running)) u ∧
      SdCardTestStep sdCardDriverCalls u (.process .event) v ∧ v.state = .failed ∧
      v.latestEvent.failureReason = some (ascii "read_back_mismatch")

/-- **The data check**, on the blocks that have been written from `s` on: they are eight, the event
that announces them carries their CRC-32, and they are verified exactly if the card
returns each of them. -/
structure ChecksData (s t : SdCardTest SdCardDriver) (blocks : List Bytes) : Prop where
  count : blocks.length = 8
  sent : dataBlocks t.driver.spi.transfers = dataBlocks s.driver.spi.transfers ++ blocks
  event : t.latestEvent.name = some (ascii "sd_card_written")
  checksum : t.latestEvent.checksum = crc32 blocks.flatten
  verifies_iff : Verifies t ↔
    ∀ index block, blocks[index]? = some block → ReadsBack t index block
  rejects : ∀ index received, ReadsBack t index received → blocks[index]? ≠ some received →
    RejectsBlock t index
  rejectsOthers : ∀ index received, ReadsBack t index received →
    (received = List.replicate 512 0 ∨
      ∃ other, other ≠ index ∧ blocks[other]? = some received) → RejectsBlock t index

section Check

variable {s t : SdCardTest SdCardDriver}

theorem verified_of_run (begun : Verified t 0 t) {index : Nat} {u : SdCardTest SdCardDriver}
    (run : Run (SdCardTestStep sdCardDriverCalls) t (List.replicate index (.process .running)) u) :
    Verified t index u :=
  Run.of_replicate (I := Verified t) (fun _ _ _ verified step => (verified.step step).1) begun run

theorem inside_of_readsBack (begun : Verified t 0 t) {index : Nat} {received : Bytes}
    (reads : ReadsBack t index received) : index < 8 := by
  obtain ⟨_, run, _⟩ := reads
  exact (verified_of_run begun run).inside

/-- **If all blocks are verified, all have been read back.** -/
theorem readsBack_of_verifies (begun : Verified t 0 t) (verifies : Verifies t) {index : Nat}
    (inside : index < 8) :
    ReadsBack t index (pattern (t.driver.information.testSector + UInt32.ofNat index)) := by
  obtain ⟨u, run, state⟩ := verifies
  obtain ⟨last, quiet, final⟩ := run.of_concat
  by_cases seven : index = 7
  · subst seven
    have verified := verified_of_run begun quiet
    exact ⟨last, quiet, (verified.finish final (by rw [state]; exact SdCardTestState.noConfusion)).2⟩
  · have split : List.replicate 7 (SdCardTestCall.process .running) =
        List.replicate (index + 1) (.process .running) ++ List.replicate (6 - index) (.process .running) := by
      rw [List.replicate_append_replicate]
      exact congrArg (List.replicate · _) (by omega)
    rw [split] at quiet
    obtain ⟨after, front, _⟩ := quiet.of_append
    rw [List.replicate_succ'] at front
    obtain ⟨before, earlier, step⟩ := front.of_concat
    have verified := verified_of_run begun earlier
    exact ⟨before, earlier, (verified.step step).2⟩

/-- **If the last is read back, all are verified**: the calls before it are those in which the
others were. -/
theorem verifies_of_readsBack (begun : Verified t 0 t)
    (checksum : t.driver.information.checksum =
      crc32 (writtenBlocks t.driver.information.testSector 8).flatten)
    (returned : ReadsBack t 7 (pattern (t.driver.information.testSector + UInt32.ofNat 7))) :
    Verifies t := by
  obtain ⟨last, quiet, returns⟩ := returned
  have verified := verified_of_run begun quiet
  obtain ⟨result, u, step, event, finished⟩ := verified.accepts checksum returns
  obtain rfl : result = .event := event
  exact ⟨u, .tail quiet step, finished (by decide)⟩

/-- **A block that is not read back as it was written** is rejected. -/
theorem rejects_of_readsBack (begun : Verified t 0 t) {index : Nat} {received : Bytes}
    (reads : ReadsBack t index received)
    (differs : received ≠ pattern (t.driver.information.testSector + UInt32.ofNat index)) :
    RejectsBlock t index := by
  obtain ⟨u, run, returns⟩ := reads
  have verified := verified_of_run begun run
  refine ⟨fun verifies => ?_, ?_⟩
  · obtain ⟨u', run', _, after, returned⟩ := readsBack_of_verifies begun verifies verified.inside
    obtain ⟨_, after', returned'⟩ := returns
    rw [quiet_unique run' run] at returned
    obtain ⟨same, _⟩ := Prod.mk.inj (Option.some.inj (returned'.symm.trans returned))
    exact differs (Option.some.inj same)
  · obtain ⟨v, step, state, reason⟩ := verified.rejects returns differs
    exact ⟨u, v, run, step, state, reason⟩

/-- **Once all blocks have been written**, none has been verified, and their CRC is known. -/
theorem verified_of_writes (writing : s.state = .writing) (firstBlock : s.currentBlock = 0)
    (writes : Run (SdCardTestStep sdCardDriverCalls) s phaseCalls t) (written : t.state = .verifying) :
    Verified t 0 t ∧
      t.driver.information.testSector = s.driver.information.testSector ∧
      t.driver.information.checksum =
        crc32 (writtenBlocks t.driver.information.testSector 8).flatten ∧
      t.latestEvent = cardInformation "sd_card_written" t.driver.information ∧
      dataBlocks t.driver.spi.transfers = dataBlocks s.driver.spi.transfers ++
        writtenBlocks s.driver.information.testSector 8 := by
  have begun : Written s 0 s := by
    refine ⟨writing, firstBlock, by decide, rfl, ?_, (List.append_nil _).symm⟩
    rw [firstBlock]
    rfl
  obtain ⟨last, quiet, final⟩ := writes.of_concat
  obtain ⟨_, block, event, information, sent⟩ := Written.finish
    (Run.of_replicate (fun _ _ _ => Written.step) begun quiet) final written
  refine ⟨⟨written, block, by decide, rfl, ?_⟩, ?_, ?_, event, sent⟩
  · rw [block]
    rfl
  · rw [information]
  · rw [information]

/-- **The data check is sound and complete**: from any state in which the test is about to write its
first block, if all eight have been written. -/
theorem sd_data_check (writing : s.state = .writing) (firstBlock : s.currentBlock = 0)
    (writes : Run (SdCardTestStep sdCardDriverCalls) s phaseCalls t) (written : t.state = .verifying) :
    ∃ blocks, ChecksData s t blocks := by
  obtain ⟨verifying, area, checksum, event, sent⟩ :=
    verified_of_writes writing firstBlock writes written
  refine ⟨writtenBlocks t.driver.information.testSector 8, ?_, ?_, ?_, ?_, ?_, ?_, ?_⟩
  · exact (List.length_map _).trans List.length_range
  · rw [area]
    exact sent
  · rw [event]
    rfl
  · rw [event]
    exact checksum
  · constructor
    · intro verifies index bytes listed
      obtain ⟨inside, same⟩ := of_getElem?_writtenBlocks listed
      rw [same]
      exact readsBack_of_verifies verifying verifies inside
    · intro returned
      exact verifies_of_readsBack verifying checksum
        (returned 7 _ (getElem?_writtenBlocks (by decide)))
  · intro index received reads differs
    refine rejects_of_readsBack verifying reads fun same => differs ?_
    rw [getElem?_writtenBlocks (inside_of_readsBack verifying reads), same]
  · intro index received reads others
    refine rejects_of_readsBack verifying reads fun same => ?_
    rcases others with zeros | ⟨other, differ, listed⟩
    · exact pattern_ne_zeros _ (same.symm.trans zeros)
    · obtain ⟨inside, same'⟩ := of_getElem?_writtenBlocks listed
      exact pattern_ne_pattern inside (inside_of_readsBack verifying reads) differ
        (same'.symm.trans same)

end Check

/-- A test that is about to write its first block, to a card that accepts all blocks and returns
them. -/
def aboutToWrite : SdCardTest SdCardDriver :=
  let accepted : Bytes := [0xFF, 0xFF, 0x00, 0xFF, 0xFF, 0xFF, 0xFF, 0xFF, 0x05, 0xFF, 0xFF]
  let returned (sector : Nat) : Bytes :=
    [0xFF, 0xFF, 0x00, 0xFE] ++ pattern (UInt32.ofNat sector) ++ [0xFF, 0xFF, 0xFF]
  let driver : SdCardDriver := .initial
    { initResults := [true]
      deInitResults := []
      replies := ((List.replicate 8 accepted).flatten ++ (List.range 8).flatMap returned).map
        fun byte => some fun _ => byte
      ticks := List.replicate 40 0 }
  { SdCardTest.initial { driver with device := true } [] (List.replicate 16 true) with
    state := .writing }

set_option maxRecDepth 4000 in
/-- The check of what it writes: all blocks are read back, and verified. -/
theorem sd_data_check_accepted : ∃ t blocks,
    Run (SdCardTestStep sdCardDriverCalls) aboutToWrite phaseCalls t ∧
      ChecksData aboutToWrite t blocks ∧ Verifies t ∧
      ∀ index block, blocks[index]? = some block → ReadsBack t index block := by
  have writes : (phaseCalls.foldlM (performCall sdCardDriverCalls) aboutToWrite).map
      (fun t => (t.state, t.driver.information.testSector)) = some (.verifying, 0) := by
    decide +kernel
  obtain ⟨t, performed, ended⟩ := Option.map_eq_some_iff.mp writes
  obtain ⟨state, area⟩ := Prod.mk.inj ended
  have run := run_of_performed performed
  obtain ⟨verifying, _, checksum, _, _⟩ := verified_of_writes rfl rfl run state
  -- the seventh call that announces nothing leaves the last block, which the card returns
  have lastReturned : ((phaseCalls ++ List.replicate 7 (SdCardTestCall.process .running)).foldlM
      (performCall sdCardDriverCalls) aboutToWrite).map (fun u => (u.cardReads,
        (readBlock (u.driver.information.testSector + u.currentBlock)
          (verifyBegun u.currentBlock u.driver)).map Prod.fst)) =
      some ([true], some (some (pattern 7))) := by
    decide +kernel
  rw [List.foldlM_append, performed] at lastReturned
  obtain ⟨u, quiet, answers⟩ := Option.map_eq_some_iff.mp lastReturned
  obtain ⟨card, read⟩ := Prod.mk.inj answers
  obtain ⟨⟨received, after⟩, returns, same⟩ := Option.map_eq_some_iff.mp read
  rw [show received = some (pattern 7) from same] at returns
  have last : ReadsBack t 7 (pattern (t.driver.information.testSector + UInt32.ofNat 7)) := by
    rw [area, UInt32.zero_add]
    exact ⟨u, run_of_performed quiet, ⟨[], card⟩, after, returns⟩
  have verifies := verifies_of_readsBack verifying checksum last
  obtain ⟨blocks, checks⟩ := sd_data_check rfl rfl run state
  exact ⟨t, blocks, run, checks, verifies, checks.verifies_iff.mp verifies⟩

end FlightComputer.Firmware
