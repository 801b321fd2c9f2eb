import FlightComputer.Firmware.JsonResponses

/-!
# The session metadata

`session_metadata.c`: the texts of the board and of the firmware, the capabilities of the registry,
and the unique identifier of the microcontroller, which is spelled as 24 hexadecimal digits
(`length_uidText`, `isUpperHex_uidText`). The three words can be read back from the
digits (`wordsOfUid_uidText`).
-/

set_option autoImplicit false

namespace FlightComputer.Firmware

open Library

/-- `hexadecimal` -/
def hexadecimal : Bytes := ascii "0123456789ABCDEF"

/-- `append_word_as_hex` -/
def appendWordAsHex (word : UInt32) : Bytes :=
  (List.range 8).map fun index =>
    let shift := 28 - UInt32.ofNat (index * 4)
    hexadecimal.getD ((word >>> shift) &&& 0xF).toNat 0

/-- The three words at `UID_BASE`. -/
structure UidWords where
  first : UInt32
  second : UInt32
  third : UInt32
  deriving DecidableEq

/-- The `uid` of `session_metadata_read`. -/
def uidText (words : UidWords) : Bytes :=
  appendWordAsHex words.first ++ appendWordAsHex words.second ++ appendWordAsHex words.third

/-- The texts that are compiled in. -/
structure BuildMetadata where
  mcuModel : Bytes
  boardId : Bytes
  boardName : Bytes
  boardRevision : Bytes
  firmwareVersion : Bytes
  firmwareGitRevision : Bytes

/-- `session_metadata_read` -/
def sessionMetadataRead (words : UidWords) (build : BuildMetadata) (capabilities : List Bytes) :
    SessionMetadata where
  uid := uidText words
  mcuModel := build.mcuModel
  boardId := build.boardId
  boardName := build.boardName
  boardRevision := build.boardRevision
  firmwareVersion := build.firmwareVersion
  firmwareGitRevision := build.firmwareGitRevision
  capabilities := capabilities

/-! ## The digits of a word -/

/-- The value of an upper-case hexadecimal digit. -/
def upperHexValue (code : Nat) : Nat := if code ≤ 57 then code - 48 else code - 55

/-- The number that some digits spell. -/
def hexNumber (digits : List Nat) : Nat :=
  digits.foldl (fun value digit => 16 * value + upperHexValue digit) 0

/-- The words that 24 digits spell. -/
def wordsOfUid (uid : List Nat) : UidWords where
  first := UInt32.ofNat (hexNumber (uid.take 8))
  second := UInt32.ofNat (hexNumber ((uid.drop 8).take 8))
  third := UInt32.ofNat (hexNumber (uid.drop 16))

/-- A digit or a letter from A to F. -/
def IsUpperHex (byte : UInt8) : Prop :=
  (48 ≤ byte.toNat ∧ byte.toNat ≤ 57) ∨ (65 ≤ byte.toNat ∧ byte.toNat ≤ 70)

/-- Each digit of the table has its value. -/
theorem hexadecimal_digit {digit : Nat} (small : digit < 16) :
    upperHexValue (hexadecimal.getD digit 0).toNat = digit ∧ IsUpperHex (hexadecimal.getD digit 0) := by
  have each : ∀ digit : Fin 16, upperHexValue (hexadecimal.getD digit.val 0).toNat = digit.val ∧
      ((48 ≤ (hexadecimal.getD digit.val 0).toNat ∧ (hexadecimal.getD digit.val 0).toNat ≤ 57) ∨
        (65 ≤ (hexadecimal.getD digit.val 0).toNat ∧ (hexadecimal.getD digit.val 0).toNat ≤ 70)) := by
    decide
  exact each ⟨digit, small⟩

/-- The nibble that a round of the loop takes. -/
theorem toNat_nibble (word : UInt32) {index : Nat} (inside : index < 8) :
    ((word >>> (28 - UInt32.ofNat (index * 4))) &&& 0xF).toNat =
      word.toNat / 2 ^ (28 - 4 * index) % 16 := by
  have shifts : ∀ index : Fin 8,
      (28 - UInt32.ofNat (index.val * 4)).toNat % 32 = 28 - 4 * index.val := by decide
  have shift := shifts ⟨index, inside⟩
  rw [UInt32.toNat_and, UInt32.toNat_shiftRight, shift, Nat.shiftRight_eq_div_pow]
  exact Nat.and_two_pow_sub_one_eq_mod _ 4

theorem appendWordAsHex_eq (word : UInt32) :
    appendWordAsHex word = (List.range 8).map fun index =>
      hexadecimal.getD (word.toNat / 2 ^ (28 - 4 * index) % 16) 0 := by
  refine List.map_congr_left fun index listed => ?_
  dsimp only
  rw [toNat_nibble word (List.mem_range.mp listed)]

theorem length_appendWordAsHex (word : UInt32) : (appendWordAsHex word).length = 8 :=
  (List.length_map _).trans List.length_range

theorem isUpperHex_appendWordAsHex (word : UInt32) :
    ∀ byte ∈ appendWordAsHex word, IsUpperHex byte := by
  intro byte listed
  rw [appendWordAsHex_eq] at listed
  obtain ⟨index, _, rfl⟩ := List.mem_map.mp listed
  exact (hexadecimal_digit (Nat.mod_lt _ (by decide))).2

/-- **The digits spell the word.** -/
theorem hexNumber_appendWordAsHex (word : UInt32) :
    hexNumber (codes (appendWordAsHex word)) = word.toNat := by
  have value : ∀ number : Nat,
      upperHexValue (hexadecimal.getD (number % 16) 0).toNat = number % 16 := fun number =>
    (hexadecimal_digit (Nat.mod_lt number (by decide))).1
  have bound := word.toNat_lt
  have digits : codes (appendWordAsHex word) = (List.range 8).map fun index =>
      (hexadecimal.getD (word.toNat / 2 ^ (28 - 4 * index) % 16) 0).toNat := by
    rw [appendWordAsHex_eq, codes, List.map_map]
    rfl
  have spelled : (List.range 8).map (fun index =>
      (hexadecimal.getD (word.toNat / 2 ^ (28 - 4 * index) % 16) 0).toNat) =
      [28, 24, 20, 16, 12, 8, 4, 0].map fun shift =>
        (hexadecimal.getD (word.toNat / 2 ^ shift % 16) 0).toNat := rfl
  rw [digits, spelled, hexNumber]
  simp only [List.map_cons, List.map_nil, List.foldl_cons, List.foldl_nil, value]
  omega

/-! ## The identifier -/

theorem length_uidText (words : UidWords) : (uidText words).length = 24 := by
  rw [uidText, List.length_append, List.length_append, length_appendWordAsHex,
    length_appendWordAsHex, length_appendWordAsHex]

theorem isUpperHex_uidText (words : UidWords) : ∀ byte ∈ uidText words, IsUpperHex byte := by
  intro byte listed
  rcases List.mem_append.mp listed with front | third
  · rcases List.mem_append.mp front with first | second
    · exact isUpperHex_appendWordAsHex _ byte first
    · exact isUpperHex_appendWordAsHex _ byte second
  · exact isUpperHex_appendWordAsHex _ byte third

/-- **The three words can be recovered.** -/
theorem wordsOfUid_uidText (words : UidWords) : wordsOfUid (codes (uidText words)) = words := by
  have word : ∀ word : UInt32, UInt32.ofNat (hexNumber (codes (appendWordAsHex word))) = word :=
    fun word => by rw [hexNumber_appendWordAsHex, UInt32.ofNat_toNat]
  have length : ∀ word : UInt32, (codes (appendWordAsHex word)).length = 8 := fun word =>
    (List.length_map _).trans (length_appendWordAsHex word)
  have second : (codes (uidText words)).drop 8 =
      codes (appendWordAsHex words.second) ++ codes (appendWordAsHex words.third) := by
    rw [uidText, List.append_assoc, codes_append, codes_append, List.drop_left' (length _)]
  have third : (codes (uidText words)).drop 16 = codes (appendWordAsHex words.third) := by
    rw [← List.drop_drop (i := 8) (j := 8), second, List.drop_left' (length _)]
  rw [wordsOfUid, second, third, List.take_left' (length _), word, word]
  rw [uidText, List.append_assoc, codes_append, List.take_left' (length _), word]

end FlightComputer.Firmware
