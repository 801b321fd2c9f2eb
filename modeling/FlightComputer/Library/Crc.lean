import FlightComputer.Library.Ascii

/-!
# Cyclic redundancy checks

The register of a cyclic redundancy check takes in a message bit by bit (`crcStep`). Software
often keeps the mirror image of this register, shifts it the other way, and takes in the bits of a
word at once; it computes the same remainder (`reverse_foldl_crcStep`, `foldl_reflectedStep`).

`crc32` is the CRC-32 of IEEE 802.3: the polynomial `0x04C11DB7`, ones to begin with, each byte from
its least significant bit on, and the remainder mirrored and complemented.
-/

set_option autoImplicit false

namespace FlightComputer.Library

variable {w : Nat}

/-- One bit enters the register: the register is shifted, and the polynomial is subtracted
if the bit that leaves it is not that of the message. -/
def crcStep (polynomial register : BitVec w) (bit : Bool) : BitVec w :=
  (register <<< 1) ^^^ (if register.msb ^^ bit then polynomial else 0#w)

/-- The same in the mirror. -/
def reflectedStep (polynomial register : BitVec w) (bit : Bool) : BitVec w :=
  (register >>> 1) ^^^ (if register.getLsbD 0 ^^ bit then polynomial else 0#w)

/-- The bits of a byte, the least significant one first. -/
def byteBits (byte : UInt8) : List Bool := (List.range 8).map byte.toBitVec.getLsbD

/-- **CRC-32**, of IEEE 802.3. -/
def crc32 (bytes : Bytes) : UInt32 :=
  ⟨~~~((bytes.flatMap byteBits).foldl (crcStep 0x04C11DB7#32) (BitVec.allOnes 32)).reverse⟩

/-- The check value of this CRC. -/
example : crc32 (ascii "123456789") = 0xCBF43926 := by decide +kernel

/-! ## The mirrored register -/

theorem getLsbD_zero_reverse (register : BitVec w) : register.reverse.getLsbD 0 = register.msb := by
  rw [BitVec.getLsbD_reverse, BitVec.msb]

theorem reverse_shiftLeft_one (register : BitVec w) :
    (register <<< 1).reverse = register.reverse >>> 1 := by
  refine BitVec.eq_of_getLsbD_eq fun i inside => ?_
  rw [BitVec.getLsbD_reverse, BitVec.getLsbD_ushiftRight, BitVec.getLsbD_reverse,
    BitVec.getMsbD_shiftLeft, Nat.add_comm]

theorem reverse_xor (first second : BitVec w) :
    (first ^^^ second).reverse = first.reverse ^^^ second.reverse := by
  refine BitVec.eq_of_getLsbD_eq fun i inside => ?_
  rw [BitVec.getLsbD_reverse, BitVec.getMsbD_xor, BitVec.getLsbD_xor, BitVec.getLsbD_reverse,
    BitVec.getLsbD_reverse]

/-- **One step** in the mirror. -/
theorem reverse_crcStep (polynomial register : BitVec w) (bit : Bool) :
    (crcStep polynomial register bit).reverse =
      reflectedStep polynomial.reverse register.reverse bit := by
  rw [crcStep, reflectedStep, reverse_xor, reverse_shiftLeft_one, getLsbD_zero_reverse]
  cases register.msb ^^ bit with
  | false => exact congrArg (register.reverse >>> 1 ^^^ ·) (BitVec.reverse_eq_zero_iff.mpr rfl)
  | true => rfl

/-- **The whole message** in the mirror. -/
theorem reverse_foldl_crcStep (polynomial : BitVec w) (bits : List Bool) :
    ∀ register, (bits.foldl (crcStep polynomial) register).reverse =
      bits.foldl (reflectedStep polynomial.reverse) register.reverse := by
  induction bits with
  | nil => exact fun _ => rfl
  | cons bit later ih =>
      intro register
      rw [List.foldl_cons, ih, reverse_crcStep, List.foldl_cons]

/-! ## The bits of a word at once -/

/-- The first bit of a word, and the others. -/
theorem map_getLsbD_range_succ (count : Nat) (word : BitVec w) :
    (List.range (count + 1)).map word.getLsbD =
      word.getLsbD 0 :: (List.range count).map (word >>> 1).getLsbD := by
  rw [List.range_succ_eq_map, List.map_cons, List.map_map]
  refine congrArg (word.getLsbD 0 :: ·) (List.map_congr_left fun i _ => ?_)
  rw [BitVec.getLsbD_ushiftRight, Nat.add_comm]
  rfl

theorem reflectedStep_xor (polynomial register word : BitVec w) :
    reflectedStep polynomial (register ^^^ word) false =
      reflectedStep polynomial register (word.getLsbD 0) ^^^ (word >>> 1) := by
  rw [reflectedStep, reflectedStep, BitVec.getLsbD_xor, Bool.xor_false, BitVec.ushiftRight_xor_distrib,
    BitVec.xor_assoc, BitVec.xor_comm (word >>> 1), ← BitVec.xor_assoc]

/-- **A word at once**: its bits are added to the register, which is then shifted as often as
the word has bits. -/
theorem foldl_reflectedStep (polynomial : BitVec w) (count : Nat) :
    ∀ register word : BitVec w, word.toNat < 2 ^ count →
      ((List.range count).map word.getLsbD).foldl (reflectedStep polynomial) register =
        (List.range count).foldl (fun register _ => reflectedStep polynomial register false)
          (register ^^^ word) := by
  induction count with
  | zero =>
      intro register word small
      have zero : word = 0#w := BitVec.eq_of_toNat_eq (by
        rw [BitVec.toNat_ofNat, Nat.zero_mod]
        omega)
      rw [zero, BitVec.xor_zero]
      rfl
  | succ count ih =>
      intro register word small
      have shifted : (word >>> 1).toNat < 2 ^ count := by
        rw [BitVec.toNat_ushiftRight, Nat.shiftRight_eq_div_pow]
        omega
      rw [map_getLsbD_range_succ, List.foldl_cons, ih _ _ shifted, ← reflectedStep_xor,
        List.range_succ_eq_map, List.foldl_cons, List.foldl_map]

end FlightComputer.Library
