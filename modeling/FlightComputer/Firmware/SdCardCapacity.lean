import FlightComputer.Firmware.SdCardDriver
import FlightComputer.Library.BitFields

/-!
# The capacity of a card

`sd_card_parse_csd` puts the fields of the CSD together from the bytes that they straddle. What
it computes is the capacity that the SD specification gives for the fields at their bit
positions, and no intermediate result loses a bit (`csd_capacity`).

A capacity that `read_csd` accepts leaves room for the test area before the end of the card,
and the sectors of the area are numbers of 32 bits, also on a card of 2³² sectors
(`AcceptedCapacity`).
-/

set_option autoImplicit false

namespace FlightComputer.Firmware

open Library Fallible

/-! ## Words put together from bytes -/

/-- A word above another one. -/
theorem toNat_shiftLeft_or {word rest shift : UInt32} (small : shift.toNat < 32)
    (below : rest.toNat < 2 ^ shift.toNat) (fits : word.toNat * 2 ^ shift.toNat < 2 ^ 32) :
    (word <<< shift ||| rest).toNat = word.toNat * 2 ^ shift.toNat + rest.toNat := by
  rw [UInt32.toNat_or, UInt32.toNat_shiftLeft, Nat.mod_eq_of_lt small, Nat.shiftLeft_eq,
    Nat.mod_eq_of_lt fits, ← Nat.shiftLeft_eq, ← Nat.shiftLeft_add_eq_or_of_lt below]

theorem toNat_and_mask (word : UInt32) {mask : UInt32} {width : Nat}
    (isMask : mask.toNat = 2 ^ width - 1) : (word &&& mask).toNat = word.toNat % 2 ^ width := by
  rw [UInt32.toNat_and, isMask, Nat.and_two_pow_sub_one_eq_mod]

theorem toNat_shiftRight_div (word : UInt32) {shift : UInt32} (small : shift.toNat < 32) :
    (word >>> shift).toNat = word.toNat / 2 ^ shift.toNat := by
  rw [UInt32.toNat_shiftRight, Nat.mod_eq_of_lt small, Nat.shiftRight_eq_div_pow]

/-! ## The fields -/

/-- A byte of the register, as a number. -/
def csdNat (csd : Bytes) (index : Nat) : Nat := (csd.getD index 0).toNat

theorem csdNat_lt (csd : Bytes) (index : Nat) : csdNat csd index < 256 :=
  (csd.getD index 0).toNat_lt

theorem toNat_csdByte (csd : Bytes) (index : Nat) : (csdByte csd index).toNat = csdNat csd index :=
  rfl

theorem toNat_csdSizeV2 (csd : Bytes) :
    (csdSizeV2 csd).toNat = csdNat csd 7 % 64 * 65536 + (csdNat csd 8 * 256 + csdNat csd 9) := by
  have middle := csdNat_lt csd 8
  have last := csdNat_lt csd 9
  have low : (csdByte csd 8 <<< 8 ||| csdByte csd 9).toNat = csdNat csd 8 * 256 + csdNat csd 9 :=
    toNat_shiftLeft_or (by decide) last (by
      rw [toNat_csdByte]
      exact Nat.lt_trans ((Nat.mul_lt_mul_right (by decide)).mpr middle) (by decide))
  have high : (csdByte csd 7 &&& 0x3F).toNat = csdNat csd 7 % 64 :=
    toNat_and_mask _ (by decide : (0x3F : UInt32).toNat = 2 ^ 6 - 1)
  have first := Nat.mod_lt (csdNat csd 7) (by decide : 0 < 64)
  rw [csdSizeV2, UInt32.or_assoc, toNat_shiftLeft_or (by decide), low, high]
  · rfl
  · rw [low]
    show _ < 65536
    omega
  · rw [high]
    show _ * 65536 < _
    omega

theorem toNat_csdSizeV1 (csd : Bytes) :
    (csdSizeV1 csd).toNat = csdNat csd 6 % 4 * 1024 + (csdNat csd 7 * 4 + csdNat csd 8 / 64) := by
  have middle := csdNat_lt csd 7
  have last := csdNat_lt csd 8
  have shifted : (csdByte csd 8 >>> 6).toNat = csdNat csd 8 / 64 :=
    toNat_shiftRight_div _ (by decide)
  have low : (csdByte csd 7 <<< 2 ||| csdByte csd 8 >>> 6).toNat =
      csdNat csd 7 * 4 + csdNat csd 8 / 64 := by
    rw [toNat_shiftLeft_or (by decide), shifted]
    · rfl
    · rw [shifted]
      show _ < 4
      omega
    · show csdNat csd 7 * 4 < _
      omega
  have high : (csdByte csd 6 &&& 0x03).toNat = csdNat csd 6 % 4 :=
    toNat_and_mask _ (by decide : (0x03 : UInt32).toNat = 2 ^ 2 - 1)
  rw [csdSizeV1, UInt32.or_assoc, toNat_shiftLeft_or (by decide), low, high]
  · rfl
  · rw [low]
    show _ < 1024
    omega
  · rw [high]
    show _ * 1024 < _
    omega

theorem toNat_csdMultiplier (csd : Bytes) :
    (csdMultiplier csd).toNat = csdNat csd 9 % 4 * 2 + csdNat csd 10 / 128 := by
  have last := csdNat_lt csd 10
  have low : (csdByte csd 10 >>> 7).toNat = csdNat csd 10 / 128 :=
    toNat_shiftRight_div _ (by decide)
  have high : (csdByte csd 9 &&& 0x03).toNat = csdNat csd 9 % 4 :=
    toNat_and_mask _ (by decide : (0x03 : UInt32).toNat = 2 ^ 2 - 1)
  rw [csdMultiplier, toNat_shiftLeft_or (by decide), low, high]
  · rfl
  · rw [low]
    show _ < 2
    omega
  · rw [high]
    show _ * 2 < _
    omega

/-! ## Their positions -/

/-- A field of the register, by the positions of its bits. -/
def csdField (csd : Bytes) (high low : Nat) : Nat := bitField (bigEndian csd) high low

theorem csdField_lt (csd : Bytes) (high low : Nat) : csdField csd high low < 2 ^ (high + 1 - low) :=
  Nat.mod_lt _ (Nat.two_pow_pos _)

section Positions

variable {csd : Bytes} (length : csd.length = 16)
include length

/-- A field lies in the bytes from one on. -/
theorem csdField_window (start count : Nat) (inside : start + count ≤ 16) {high low : Nat}
    (within : high < 8 * count) (ordered : low ≤ high + 1) :
    csdField csd (high + 8 * (16 - (start + count))) (low + 8 * (16 - (start + count))) =
      bitField (bigEndian ((List.range count).map fun index => csd.getD (start + index) 0)) high
        low := by
  have window : (csd.drop start).take count =
      (List.range count).map fun index => csd.getD (start + index) 0 := by
    refine List.ext_getElem ?_ fun index early late => ?_
    · rw [List.length_take, List.length_drop, List.length_map, List.length_range]
      omega
    · rw [List.length_take, List.length_drop] at early
      rw [List.getElem_take, List.getElem_drop, List.getElem_map, List.getElem_range]
      exact List.getElem_eq_getD 0
  have after : (csd.drop (start + count)).length = 16 - (start + count) := by
    rw [List.length_drop, length]
  have whole : csd = csd.take start ++ (csd.drop start).take count ++ csd.drop (start + count) := by
    rw [List.append_assoc, ← List.drop_drop, List.take_append_drop, List.take_append_drop]
  have read := @bitField_window (csd.take start) ((csd.drop start).take count)
    (csd.drop (start + count)) high low (by
      rw [List.length_take, List.length_drop, length, Nat.min_eq_left (by omega)]
      exact within) ordered
  rw [← whole, after, window] at read
  exact read

theorem csdField_structure : csdField csd 127 126 = csdNat csd 0 / 64 := by
  have byte := csdNat_lt csd 0
  have spelled : bigEndian ((List.range 1).map fun index => csd.getD (0 + index) 0) =
      csdNat csd 0 := by
    simp [bigEndian, csdNat]
  refine (@csdField_window csd length 0 1 (by decide) 7 6 (by decide) (by decide)).trans ?_
  rw [spelled, bitField]
  omega

theorem csdField_readLength : csdField csd 83 80 = csdNat csd 5 % 16 := by
  have spelled : bigEndian ((List.range 1).map fun index => csd.getD (5 + index) 0) =
      csdNat csd 5 := by
    simp [bigEndian, csdNat]
  refine (@csdField_window csd length 5 1 (by decide) 3 0 (by decide) (by decide)).trans ?_
  rw [spelled, bitField]
  omega

theorem csdField_multiplier : csdField csd 49 47 = (csdMultiplier csd).toNat := by
  have high := csdNat_lt csd 9
  have low := csdNat_lt csd 10
  have spelled : bigEndian ((List.range 2).map fun index => csd.getD (9 + index) 0) =
      csdNat csd 9 * 256 + csdNat csd 10 := by
    simp [bigEndian, csdNat, List.range_succ, Nat.ofDigits_cons]
    omega
  refine (@csdField_window csd length 9 2 (by decide) 9 7 (by decide) (by decide)).trans ?_
  rw [spelled, bitField, toNat_csdMultiplier]
  omega

theorem csdField_sizeV1 : csdField csd 73 62 = (csdSizeV1 csd).toNat := by
  have middle := csdNat_lt csd 7
  have low := csdNat_lt csd 8
  have spelled : bigEndian ((List.range 3).map fun index => csd.getD (6 + index) 0) =
      csdNat csd 6 * 65536 + csdNat csd 7 * 256 + csdNat csd 8 := by
    simp [bigEndian, csdNat, List.range_succ, Nat.ofDigits_cons]
    omega
  refine (@csdField_window csd length 6 3 (by decide) 17 6 (by decide) (by decide)).trans ?_
  rw [spelled, bitField, toNat_csdSizeV1]
  omega

theorem csdField_sizeV2 : csdField csd 69 48 = (csdSizeV2 csd).toNat := by
  have middle := csdNat_lt csd 8
  have low := csdNat_lt csd 9
  have spelled : bigEndian ((List.range 3).map fun index => csd.getD (7 + index) 0) =
      csdNat csd 7 * 65536 + csdNat csd 8 * 256 + csdNat csd 9 := by
    simp [bigEndian, csdNat, List.range_succ, Nat.ofDigits_cons]
    omega
  refine (@csdField_window csd length 7 3 (by decide) 21 0 (by decide) (by decide)).trans ?_
  rw [spelled, bitField, toNat_csdSizeV2]
  omega

end Positions

/-! ## The capacity -/

/-- The count of a version 2 register. -/
theorem toNat_countV2 (csd : Bytes) :
    ((csdSizeV2 csd + 1).toUInt64 * 1024).toNat = ((csdSizeV2 csd).toNat + 1) * 1024 ∧
      (csdSizeV2 csd).toNat < 2 ^ 22 := by
  have size : (csdSizeV2 csd).toNat < 2 ^ 22 := by
    have middle := csdNat_lt csd 8
    have last := csdNat_lt csd 9
    rw [toNat_csdSizeV2]
    omega
  have successor : (csdSizeV2 csd + 1).toNat = (csdSizeV2 csd).toNat + 1 := by
    rw [UInt32.toNat_add]
    exact Nat.mod_eq_of_lt (by
      have one : (1 : UInt32).toNat = 1 := rfl
      omega)
  have factor : (1024 : UInt64).toNat = 1024 := rfl
  rw [UInt64.toNat_mul, UInt32.toNat_toUInt64, successor, factor]
  exact ⟨Nat.mod_eq_of_lt (by omega), size⟩

/-- The count of a version 1 register: the mantissa has at most 13 bits, and it is shifted by at
most 24. -/
theorem toNat_countV1 (csd : Bytes) :
    (((csdSizeV1 csd + 1).toUInt64 <<<
        (csdMultiplier csd + 2 + (csdByte csd 5 &&& 0x0F)).toUInt64) / 512).toNat =
      ((csdSizeV1 csd).toNat + 1) * 2 ^ ((csdMultiplier csd).toNat + 2) * 2 ^ (csdNat csd 5 % 16) /
        512 ∧
      ((csdSizeV1 csd).toNat + 1) * 2 ^ ((csdMultiplier csd).toNat + 2) * 2 ^ (csdNat csd 5 % 16) ≤
        2 ^ 36 := by
  have readByte : (csdByte csd 5 &&& 0x0F).toNat = csdNat csd 5 % 16 :=
    toNat_and_mask _ (by decide : (0x0F : UInt32).toNat = 2 ^ 4 - 1)
  have size : (csdSizeV1 csd).toNat + 1 ≤ 2 ^ 12 := by
    have middle := csdNat_lt csd 7
    have last := csdNat_lt csd 8
    rw [toNat_csdSizeV1]
    omega
  have multiplier : (csdMultiplier csd).toNat ≤ 7 := by
    have last := csdNat_lt csd 10
    rw [toNat_csdMultiplier]
    omega
  have one : (1 : UInt32).toNat = 1 := rfl
  have two : (2 : UInt32).toNat = 2 := rfl
  have block : (512 : UInt64).toNat = 512 := rfl
  have successor : (csdSizeV1 csd + 1).toNat = (csdSizeV1 csd).toNat + 1 := by
    rw [UInt32.toNat_add, one]
    omega
  have shift : (csdMultiplier csd + 2 + (csdByte csd 5 &&& 0x0F)).toNat =
      (csdMultiplier csd).toNat + 2 + csdNat csd 5 % 16 := by
    rw [UInt32.toNat_add, UInt32.toNat_add, two, readByte]
    omega
  have wrapped : ((csdMultiplier csd).toNat + 2 + csdNat csd 5 % 16) % 64 =
      (csdMultiplier csd).toNat + 2 + csdNat csd 5 % 16 := Nat.mod_eq_of_lt (by omega)
  have fits : ((csdSizeV1 csd).toNat + 1) *
      2 ^ ((csdMultiplier csd).toNat + 2 + csdNat csd 5 % 16) ≤ 2 ^ 12 * 2 ^ 24 :=
    Nat.mul_le_mul size (Nat.pow_le_pow_right (by decide) (by omega))
  rw [Nat.mul_assoc _ _ (2 ^ (csdNat csd 5 % 16)), ← Nat.pow_add]
  refine ⟨?_, Nat.le_trans fits (by decide)⟩
  rw [UInt64.toNat_div, UInt64.toNat_shiftLeft, UInt32.toNat_toUInt64, UInt32.toNat_toUInt64,
    successor, shift, wrapped, Nat.shiftLeft_eq,
    Nat.mod_eq_of_lt (Nat.lt_of_le_of_lt fits (by decide)), block]

/-- **No CSD declares more than 2³² sectors.** -/
theorem sectorCount_le {csd : Bytes} {sectorCount : UInt64}
    (parsed : sdCardParseCsd csd = some sectorCount) : sectorCount.toNat ≤ 2 ^ 32 := by
  rw [sdCardParseCsd] at parsed
  dsimp only at parsed
  split_ifs at parsed with two one
  · obtain rfl := Option.some.inj parsed
    obtain ⟨count, size⟩ := toNat_countV2 csd
    omega
  · obtain rfl := Option.some.inj parsed
    obtain ⟨count, size⟩ := toNat_countV1 csd
    rw [count]
    exact Nat.le_trans (Nat.div_le_div_right size) (by decide)

/-- The version of the register is tested as a byte. -/
theorem csdVersion_eq_iff {csd : Bytes} (length : csd.length = 16) (version : UInt32) :
    csdByte csd 0 >>> 6 = version ↔ csdField csd 127 126 = version.toNat := by
  have shifted : (csdByte csd 0 >>> 6).toNat = csdNat csd 0 / 64 :=
    toNat_shiftRight_div _ (by decide)
  rw [csdField_structure length, ← shifted]
  exact ⟨fun same => congrArg UInt32.toNat same, fun same => UInt32.toNat.inj same⟩

/-- The capacity in sectors that the specification gives for a register. -/
def specifiedCapacity (csd : Bytes) : Option Nat :=
  if csdField csd 127 126 = 1 then some ((csdField csd 69 48 + 1) * 1024)
  else if csdField csd 127 126 = 0 then
    some ((csdField csd 73 62 + 1) * 2 ^ (csdField csd 49 47 + 2) * 2 ^ csdField csd 83 80 / 512)
  else none

/-- **The parser computes the specified capacity.** -/
theorem sdCardParseCsd_eq {csd : Bytes} (length : csd.length = 16) :
    (sdCardParseCsd csd).map UInt64.toNat = specifiedCapacity csd := by
  have two : csdByte csd 0 >>> 6 = 1 ↔ csdField csd 127 126 = 1 := csdVersion_eq_iff length 1
  have one : csdByte csd 0 >>> 6 = 0 ↔ csdField csd 127 126 = 0 := csdVersion_eq_iff length 0
  rw [sdCardParseCsd, specifiedCapacity]
  dsimp only
  by_cases isTwo : csdField csd 127 126 = 1
  · rw [if_pos (two.mpr isTwo), if_pos isTwo, Option.map_some, (toNat_countV2 csd).1,
      csdField_sizeV2 length]
  · rw [if_neg (mt two.mp isTwo), if_neg isTwo]
    by_cases isOne : csdField csd 127 126 = 0
    · rw [if_pos (one.mpr isOne), if_pos isOne, Option.map_some, (toNat_countV1 csd).1,
        csdField_sizeV1 length, csdField_multiplier length, csdField_readLength length]
    · rw [if_neg (mt one.mp isOne), if_neg isOne, Option.map_none]

/-! ## What `read_csd` accepts -/

/-- **A capacity whose test area can be located**: the distance from the end is subtracted, the
first sector is narrowed to 32 bits, and the sectors of the area are counted up from it, all of
it exactly. -/
structure AcceptedCapacity (sectorCount : UInt64) : Prop where
  large : 16 < sectorCount.toNat
  bounded : sectorCount.toNat ≤ 2 ^ 32
  subtracted : (sectorCount - sdTestAreaDistanceFromEnd).toNat = sectorCount.toNat - 16
  narrowed : (sectorCount - sdTestAreaDistanceFromEnd).toUInt32.toNat = sectorCount.toNat - 16
  counted : ∀ block : UInt32, block.toNat ≤ 7 →
    ((sectorCount - sdTestAreaDistanceFromEnd).toUInt32 + block).toNat =
      sectorCount.toNat - 16 + block.toNat

theorem acceptedCapacity_of_bounds {sectorCount : UInt64}
    (large : sdTestAreaDistanceFromEnd < sectorCount) (bounded : sectorCount.toNat ≤ 2 ^ 32) :
    AcceptedCapacity sectorCount := by
  have above : 16 < sectorCount.toNat := large
  have distance : (16 : UInt64).toNat = 16 := rfl
  have subtracted : (sectorCount - sdTestAreaDistanceFromEnd).toNat = sectorCount.toNat - 16 := by
    rw [UInt64.toNat_sub_of_le _ _ (UInt64.le_of_lt large), sdTestAreaDistanceFromEnd, distance]
  have narrowed : (sectorCount - sdTestAreaDistanceFromEnd).toUInt32.toNat =
      sectorCount.toNat - 16 := by
    rw [UInt64.toNat_toUInt32, subtracted]
    exact Nat.mod_eq_of_lt (by omega)
  refine ⟨above, bounded, subtracted, narrowed, fun block few => ?_⟩
  rw [UInt32.toNat_add, narrowed]
  exact Nat.mod_eq_of_lt (by omega)

/-- `read_bytes` returns as many bytes as it is asked for. -/
theorem triple_length_readBytes (length : Nat) :
    Triple (fun _ => True) (readBytes length) (fun bytes _ => bytes.length = length)
      fun _ => True := by
  induction length with
  | zero => exact .pure fun _ _ => rfl
  | succ length ih =>
      refine Triple.bind (M := fun _ _ => True) .any fun byte => ?_
      refine Triple.bind (M := fun later _ => later.length = length) ih fun later => ?_
      exact .pure fun s same => by rw [List.length_cons, same]

/-- `fail` never succeeds. -/
theorem triple_fail_any {α : Type} {before : SdCardDriver → Prop} {after : α → SdCardDriver → Prop}
    {reason : String} {code : Int32} :
    Triple before (fail reason code) after fun _ => True :=
  Triple.bind (M := fun _ _ => True) .any fun _ => .failure fun _ _ => trivial

/-- **`read_csd`** accepts a register of 16 bytes that declares the reported capacity. -/
theorem triple_readCsd_accepts :
    Triple (fun _ => True) readCsd (fun _ t => t.registers.csd.length = 16 ∧
      sdCardParseCsd t.registers.csd = some t.information.sectorCount ∧
        sdTestAreaDistanceFromEnd < t.information.sectorCount) fun _ => True := by
  refine Triple.bind (M := fun _ _ => True) .any fun _ => ?_
  refine Triple.bind (M := fun _ _ => True) .any fun response => Triple.ite (fun _ => ?_) fun _ => ?_
  · exact Triple.bind (M := fun _ _ => True) .any fun _ => triple_fail_any
  refine Triple.bind (M := fun csd _ => csd.length = 16)
    (.orElse (M := fun _ => True) ?_ (.bind (M := fun _ _ => True) .any fun _ =>
      .failure fun _ _ => trivial)) fun csd => ?_
  · refine Triple.bind (M := fun _ _ => True) .any fun _ => ?_
    refine Triple.bind (triple_length_readBytes 16) fun csd => ?_
    exact Triple.bind (M := fun _ _ => csd.length = 16) (.fact fun _ length => length)
      fun _ => .pure fun _ length => length
  · refine Triple.bind (M := fun _ _ => csd.length = 16) (.fact fun _ length => length) fun _ => ?_
    refine Triple.bind (M := fun _ s => csd.length = 16 ∧ s.registers.csd = csd)
      (.change fun _ length => ⟨length, rfl⟩) fun _ => ?_
    cases parsed : sdCardParseCsd csd with
    | none => exact triple_fail_any
    | some sectorCount =>
        refine Triple.bind (M := fun _ s => (csd.length = 16 ∧ s.registers.csd = csd) ∧
          s.information.sectorCount = sectorCount) (.change fun _ holds => ⟨holds, rfl⟩) fun _ => ?_
        refine Triple.ite (fun _ => triple_fail_any) fun larger => .pure fun s holds => ?_
        obtain ⟨⟨length, same⟩, count⟩ := holds
        rw [same, count]
        exact ⟨length, parsed, UInt64.not_le.mp larger⟩

/-- **CSD capacity decoding.** The parser fails exactly for the structure codes 2 and 3; for the
others it returns the specified capacity of the fields at their bit positions; and whatever
`read_csd` accepts leaves room for the test area. -/
theorem csd_capacity :
    (∀ csd : Bytes, csd.length = 16 →
      (sdCardParseCsd csd = none ↔ csdField csd 127 126 = 2 ∨ csdField csd 127 126 = 3) ∧
      (csdField csd 127 126 = 1 → (sdCardParseCsd csd).map UInt64.toNat =
        some ((csdField csd 69 48 + 1) * 1024)) ∧
      (csdField csd 127 126 = 0 → (sdCardParseCsd csd).map UInt64.toNat =
        some ((csdField csd 73 62 + 1) * 2 ^ (csdField csd 49 47 + 2) *
          2 ^ csdField csd 83 80 / 512))) ∧
    ∀ s t : SdCardDriver, readCsd s = some (some (), t) →
      t.registers.csd.length = 16 ∧
        sdCardParseCsd t.registers.csd = some t.information.sectorCount ∧
        AcceptedCapacity t.information.sectorCount := by
  refine ⟨fun csd length => ⟨?_, ?_, ?_⟩, fun s t returned => ?_⟩
  · have code := csdField_lt csd 127 126
    rw [← Option.map_eq_none_iff, sdCardParseCsd_eq length, specifiedCapacity]
    split_ifs with two one
    · exact iff_of_false not_false (by omega)
    · exact iff_of_false not_false (by omega)
    · exact iff_of_true rfl (by omega)
  · intro two
    rw [sdCardParseCsd_eq length, specifiedCapacity, if_pos two]
  · intro one
    rw [sdCardParseCsd_eq length, specifiedCapacity, if_neg (by omega), if_pos one]
  · obtain ⟨length, parsed, large⟩ := triple_readCsd_accepts.success trivial returned
    exact ⟨length, parsed, acceptedCapacity_of_bounds large (sectorCount_le parsed)⟩

/-- The register of a card of version 2 with the largest `C_SIZE`. -/
def largestCsd : Bytes := [0x40, 0, 0, 0, 0, 0, 0, 0x3F, 0xFF, 0xFF, 0, 0, 0, 0, 0, 0]

/-- A driver in front of a card that answers CMD9 with this register. -/
def beforeLargestCsd : SdCardDriver :=
  let answers : Bytes := [0xFF, 0xFF, 0x00, 0xFE] ++ largestCsd ++ [0xFF, 0xFF, 0xFF]
  { SdCardDriver.initial
      { initResults := [true]
        deInitResults := []
        replies := answers.map fun byte => some fun _ => byte
        ticks := [0, 0] } with
    device := true }

/-- The largest card has 2³² sectors, and the test area is found at its end. -/
theorem csd_capacity_largest :
    (sdCardParseCsd largestCsd).map UInt64.toNat = some ((csdField largestCsd 69 48 + 1) * 1024) ∧
      csdField largestCsd 69 48 + 1 = 2 ^ 22 ∧
      ∃ t, readCsd beforeLargestCsd = some (some (), t) ∧
        t.information.sectorCount.toNat = 2 ^ 32 ∧
        (t.registers.csd.length = 16 ∧
          sdCardParseCsd t.registers.csd = some t.information.sectorCount ∧
          AcceptedCapacity t.information.sectorCount) := by
  refine ⟨(csd_capacity.1 largestCsd rfl).2.1 (by decide +kernel), by decide +kernel, ?_⟩
  have reads : (readCsd beforeLargestCsd).map (fun returned =>
      (returned.1, returned.2.information.sectorCount.toNat)) = some (some (), 2 ^ 32) := by
    decide +kernel
  obtain ⟨⟨accepted, t⟩, returned, same⟩ := Option.map_eq_some_iff.mp reads
  obtain ⟨rfl, count⟩ := Prod.mk.inj same
  exact ⟨t, returned, count, csd_capacity.2 beforeLargestCsd t returned⟩

end FlightComputer.Firmware
