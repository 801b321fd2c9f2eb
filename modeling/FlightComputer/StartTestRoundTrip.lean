import FlightComputer.BoardTester.JsonSpelling
import FlightComputer.BoardTester.ResponseContract
import FlightComputer.ComponentMessageRoundTrip
import FlightComputer.Firmware.ResponseMemory
import FlightComputer.Firmware.SessionMetadata
import Mathlib.Data.List.Nodup

/-!
# The START_TEST response, from the firmware to the tester

The firmware appends the response piece by piece to a destination of some capacity; the tester has
a strict decoder of its own for it. The response is built if and only if it fits, and the decoder
then returns the metadata and the capabilities as the firmware has them, with a UID from which the
three words of the identifier can be read back (`start_test_response_round_trip`).
-/

set_option autoImplicit false

namespace FlightComputer

open Library Firmware BoardTester

/-! ## The text of the response -/

/-- A member whose value is a string. -/
def stringMember (key : String) (text : Bytes) : SpelledMember :=
  ⟨pyStr key, 34 :: (codes text ++ [34]), .str (codes text)⟩

theorem sound_stringMember {key : String} {text : Bytes} (plainKey : IsPlainText (pyStr key))
    (named : IsPlainName text) : (stringMember key text).Sound :=
  ⟨plainKey, spells_str named.isPlainText⟩

/-- The `device` object. -/
def deviceMembers (metadata : SessionMetadata) : List SpelledMember :=
  [stringMember "uid" metadata.uid, stringMember "mcu" metadata.mcuModel,
    stringMember "board_id" metadata.boardId, stringMember "board_name" metadata.boardName,
    stringMember "board_revision" metadata.boardRevision]

/-- The `firmware` object. -/
def firmwareMembers (metadata : SessionMetadata) : List SpelledMember :=
  [stringMember "version" metadata.firmwareVersion,
    stringMember "git_revision" metadata.firmwareGitRevision]

/-- The elements of the `capabilities` array. -/
def capabilityElements (metadata : SessionMetadata) : List SpelledElement :=
  metadata.capabilities.map fun capability =>
    ⟨34 :: (codes capability ++ [34]), .str (codes capability)⟩

/-- A member whose value is an object. -/
def objectMember (key : String) (members : List SpelledMember) : SpelledMember :=
  ⟨pyStr key, objectText members, .dict (readMembers members)⟩

/-- The response. -/
def responseMembers (commandId : UInt32) (metadata : SessionMetadata) : List SpelledMember :=
  [⟨pyStr "protocol_version", codes (signedDecimalText 1), .int 1⟩,
    stringMember "type" (ascii "START_TEST_RESPONSE"),
    ⟨pyStr "command_id", codes (signedDecimalText commandId.toNat), .int commandId.toNat⟩,
    stringMember "status" (ascii "ok"), objectMember "device" (deviceMembers metadata),
    objectMember "firmware" (firmwareMembers metadata),
    ⟨pyStr "capabilities", arrayText (capabilityElements metadata),
      .list ((capabilityElements metadata).map SpelledElement.value)⟩]

/-- The capabilities after the first one, each behind a comma. -/
theorem codes_furtherCapabilities (capabilities : List Bytes) (index : Nat) :
    codes (capabilitiesText (capabilities.zipIdx (index + 1))) ++ [93] =
      furtherElementTexts (capabilities.map fun capability =>
        ⟨34 :: (codes capability ++ [34]), .str (codes capability)⟩) := by
  induction capabilities generalizing index with
  | nil => rfl
  | cons capability later ih =>
      rw [List.zipIdx_cons, capabilitiesText_cons, codes_append, List.append_assoc, ih, List.map_cons,
        furtherElementTexts, capabilityPieces, if_neg (Nat.succ_ne_zero index)]
      simp only [List.flatten_cons, List.flatten_nil, List.append_nil, codes_append,
        List.append_assoc, List.cons_append]
      rfl

/-- **The loop writes an array.** -/
theorem codes_capabilities (metadata : SessionMetadata) :
    91 :: (codes (capabilitiesText metadata.capabilities.zipIdx) ++ [93]) =
      arrayText (capabilityElements metadata) := by
  rw [capabilityElements]
  cases metadata.capabilities with
  | nil => rfl
  | cons capability later =>
      rw [List.zipIdx_cons, capabilitiesText_cons, codes_append, List.append_assoc,
        codes_furtherCapabilities, List.map_cons, arrayText, capabilityPieces, if_pos rfl]
      simp only [List.flatten_cons, List.flatten_nil, List.append_nil, List.nil_append, codes_append,
        List.append_assoc, List.cons_append]
      rfl

set_option maxRecDepth 8000 in
/-- **The firmware's text is that of the object.** -/
theorem codes_startTestText (commandId : UInt32) (metadata : SessionMetadata) :
    codes (startTestText commandId metadata) = objectText (responseMembers commandId metadata) := by
  simp only [startTestText, openingPieces, responseMembers, objectText, memberText, furtherMemberTexts,
    objectMember, stringMember, deviceMembers, firmwareMembers, ← codes_capabilities,
    List.flatten_cons, List.flatten_nil, List.cons_append, List.nil_append, List.append_assoc,
    List.append_nil, codes_append]
  rfl

/-! ## Plain metadata -/

/-- The compiled-in texts and the capabilities are plain names, and no capability is listed twice. -/
structure IsPlainMetadata (metadata : SessionMetadata) : Prop where
  uid : IsPlainName metadata.uid
  mcuModel : IsPlainName metadata.mcuModel
  boardId : IsPlainName metadata.boardId
  boardName : IsPlainName metadata.boardName
  boardRevision : IsPlainName metadata.boardRevision
  firmwareVersion : IsPlainName metadata.firmwareVersion
  firmwareGitRevision : IsPlainName metadata.firmwareGitRevision
  capabilities : ∀ capability ∈ metadata.capabilities, IsPlainName capability
  distinct : metadata.capabilities.Nodup

section Decoding

variable {commandId : UInt32} {metadata : SessionMetadata} (plain : IsPlainMetadata metadata)
include plain

variable (commandId) in
theorem sound_responseMembers :
    ∀ member ∈ responseMembers commandId metadata, member.Sound := by
  have named : ∀ key : String, IsPlainText (pyStr key) → ∀ text, IsPlainName text →
      (stringMember key text).Sound := fun _ plainKey _ named => sound_stringMember plainKey named
  have device : Spells (objectText (deviceMembers metadata))
      (.dict (readMembers (deviceMembers metadata))) := by
    refine spells_object ?_ (show [pyStr "uid", pyStr "mcu", pyStr "board_id", pyStr "board_name",
      pyStr "board_revision"].Nodup by decide)
    simp only [deviceMembers, List.forall_mem_cons, List.not_mem_nil, false_implies, implies_true,
      and_true]
    exact ⟨named _ (isPlainText_pyStr (by decide)) _ plain.uid,
      named _ (isPlainText_pyStr (by decide)) _ plain.mcuModel,
      named _ (isPlainText_pyStr (by decide)) _ plain.boardId,
      named _ (isPlainText_pyStr (by decide)) _ plain.boardName,
      named _ (isPlainText_pyStr (by decide)) _ plain.boardRevision⟩
  have firmware : Spells (objectText (firmwareMembers metadata))
      (.dict (readMembers (firmwareMembers metadata))) := by
    refine spells_object ?_ (show [pyStr "version", pyStr "git_revision"].Nodup by decide)
    simp only [firmwareMembers, List.forall_mem_cons, List.not_mem_nil, false_implies, implies_true,
      and_true]
    exact ⟨named _ (isPlainText_pyStr (by decide)) _ plain.firmwareVersion,
      named _ (isPlainText_pyStr (by decide)) _ plain.firmwareGitRevision⟩
  have capabilities : Spells (arrayText (capabilityElements metadata))
      (.list ((capabilityElements metadata).map SpelledElement.value)) := by
    refine spells_array fun element listed => ?_
    obtain ⟨capability, among, rfl⟩ := List.mem_map.mp listed
    exact spells_str (plain.capabilities capability among).isPlainText
  simp only [responseMembers, List.forall_mem_cons, List.not_mem_nil, false_implies, implies_true,
    and_true]
  exact ⟨⟨isPlainText_pyStr (by decide), spells_int 1⟩,
    named _ (isPlainText_pyStr (by decide)) _ (isPlainName_ascii (by decide) (by decide)),
    ⟨isPlainText_pyStr (by decide), spells_int commandId.toNat⟩,
    named _ (isPlainText_pyStr (by decide)) _ (isPlainName_ascii (by decide) (by decide)),
    ⟨isPlainText_pyStr (by decide), device⟩, ⟨isPlainText_pyStr (by decide), firmware⟩,
    ⟨isPlainText_pyStr (by decide), capabilities⟩⟩

/-- The text is ASCII. -/
theorem ascii_startTestText : ∀ byte ∈ startTestText commandId metadata, byte.toNat < 128 := by
  have named : ∀ text, IsPlainName text → ∀ byte ∈ text, byte.toNat < 128 := fun text named byte listed =>
    Nat.lt_of_le_of_lt (named.plain byte listed).2 (by decide)
  have literal : ∀ text : String, ((ascii text).all fun byte => decide (byte.toNat < 128)) = true →
      ∀ byte ∈ ascii text, byte.toNat < 128 := fun text checked byte listed =>
    of_decide_eq_true (List.all_eq_true.mp checked byte listed)
  have digits : ∀ byte ∈ decimalText commandId.toNat, byte.toNat < 128 := by
    intro byte listed
    have isDigit := isDecimalDigit_of_mem_decimalText byte listed
    simp only [isDecimalDigit, Bool.and_eq_true, decide_eq_true_eq] at isDigit
    omega
  have opening : ∀ piece ∈ openingPieces commandId metadata, ∀ byte ∈ piece, byte.toNat < 128 := by
    simp only [openingPieces, List.forall_mem_cons, List.not_mem_nil, false_implies, implies_true,
      and_true]
    exact ⟨literal _ (by decide), digits, literal _ (by decide), named _ plain.uid,
      literal _ (by decide), named _ plain.mcuModel, literal _ (by decide), named _ plain.boardId,
      literal _ (by decide), named _ plain.boardName, literal _ (by decide),
      named _ plain.boardRevision, literal _ (by decide), named _ plain.firmwareVersion,
      literal _ (by decide), named _ plain.firmwareGitRevision, literal _ (by decide)⟩
  intro byte listed
  rcases List.mem_append.mp listed with front | closing
  · rcases List.mem_append.mp front with first | loop
    · obtain ⟨piece, among, inside⟩ := List.mem_flatten.mp first
      exact opening piece among byte inside
    · obtain ⟨⟨capability, index⟩, among, inside⟩ := List.mem_flatMap.mp loop
      have known : capability ∈ metadata.capabilities := (List.mem_zipIdx' among).2 ▸ List.getElem_mem _
      have pieces : ∀ piece ∈ capabilityPieces capability index, ∀ byte ∈ piece, byte.toNat < 128 := by
        simp only [capabilityPieces, List.forall_mem_cons, List.not_mem_nil, false_implies,
          implies_true, and_true]
        refine ⟨?_, literal _ (by decide), named _ (plain.capabilities capability known),
          literal _ (by decide)⟩
        split_ifs
        · exact fun _ listed => absurd listed List.not_mem_nil
        · exact literal _ (by decide)
      obtain ⟨piece, among', inside'⟩ := List.mem_flatten.mp inside
      exact pieces piece among' byte inside'
  · exact literal _ (by decide) byte closing

/-- **The response is decoded as the object it is.** -/
theorem decodeObject_startTestText :
    decodeObject (startTestText commandId metadata) =
      .ok (readMembers (responseMembers commandId metadata)) := by
  have spells := spells_object (sound_responseMembers commandId plain)
    (show [pyStr "protocol_version", pyStr "type", pyStr "command_id", pyStr "status", pyStr "device",
      pyStr "firmware", pyStr "capabilities"].Nodup by decide)
  rw [decodeObject, decodeUtf8_of_ascii (ascii_startTestText plain)]
  dsimp only
  rw [codes_startTestText, spells.loads (by rintro ⟨⟩)]
  rfl

variable (commandId) in
theorem decodeCapabilities_startTest :
    decodeCapabilities (readMembers (responseMembers commandId metadata)) =
      .ok (metadata.capabilities.map codes) := by
  have listed : (readMembers (responseMembers commandId metadata)).lookup (pyStr "capabilities") =
      some (.list (metadata.capabilities.map fun capability => .str (codes capability))) := by
    have values : (capabilityElements metadata).map SpelledElement.value =
        metadata.capabilities.map fun capability => .str (codes capability) := by
      rw [capabilityElements, List.map_map]
      rfl
    rw [← values]
    rfl
  have names : (metadata.capabilities.map fun capability => PyJson.str (codes capability)).mapM
      capabilityName = some (metadata.capabilities.map codes) := by
    refine (mapM_capabilityName_eq_some_iff _ _).mpr ⟨List.map_map.symm, fun name listed empty => ?_⟩
    obtain ⟨capability, among, rfl⟩ := List.mem_map.mp listed
    exact (plain.capabilities capability among).nonempty (List.map_eq_nil_iff.mp empty)
  have distinct : (metadata.capabilities.map codes).Nodup :=
    List.Nodup.map (fun _ _ same => codes_injective same) plain.distinct
  rw [decodeCapabilities, listed]
  dsimp only
  rw [names]
  dsimp only
  rw [if_pos distinct]

variable (commandId) in
theorem decodeDevice_startTest (uid : isUid (codes metadata.uid) = true) :
    decodeDevice (readMembers (responseMembers commandId metadata)) =
      .ok (readMembers (deviceMembers metadata)) := by
  have text : requireString (readMembers (deviceMembers metadata)) (pyStr "uid")
      (pyStr "response.device") = .ok (codes metadata.uid) :=
    requireString_eq rfl plain.uid.isEmpty_codes
  have keys : requireKeys (readMembers (deviceMembers metadata))
      [pyStr "uid", pyStr "mcu", pyStr "board_id", pyStr "board_name", pyStr "board_revision"]
      (pyStr "response.device") = .ok () := rfl
  have object : requireObject (((readMembers (responseMembers commandId metadata)).lookup
      (pyStr "device")).getD .none) (pyStr "response.device") =
      .ok (readMembers (deviceMembers metadata)) := rfl
  rw [decodeDevice, object]
  dsimp only [bind, Except.bind]
  rw [keys]
  dsimp only
  rw [text]
  dsimp only
  rw [uid]
  rfl

theorem startTestResponse_startTest (number : Int) (capabilities : List PyStr) :
    startTestResponse number (readMembers (deviceMembers metadata))
        (readMembers (firmwareMembers metadata)) capabilities =
      .ok ⟨number, ⟨codes metadata.uid, codes metadata.mcuModel, codes metadata.boardId,
        codes metadata.boardName, codes metadata.boardRevision⟩,
        ⟨codes metadata.firmwareVersion, codes metadata.firmwareGitRevision⟩, capabilities⟩ := by
  have field : ∀ (object : PyDict) (key location : PyStr) (text : Bytes),
      object.lookup key = some (.str (codes text)) → IsPlainName text →
        requireString object key location = .ok (codes text) := fun _ _ _ _ found named =>
    requireString_eq found named.isEmpty_codes
  rw [startTestResponse, field _ (pyStr "uid") _ _ rfl plain.uid,
    field _ (pyStr "mcu") _ _ rfl plain.mcuModel, field _ (pyStr "board_id") _ _ rfl plain.boardId,
    field _ (pyStr "board_name") _ _ rfl plain.boardName,
    field _ (pyStr "board_revision") _ _ rfl plain.boardRevision,
    field _ (pyStr "version") _ _ rfl plain.firmwareVersion,
    field _ (pyStr "git_revision") _ _ rfl plain.firmwareGitRevision]
  rfl

/-- **The decoder returns the metadata.** -/
theorem decode_startTestText (positive : commandId ≠ 0)
    (uid : isUid (codes metadata.uid) = true) :
    decodeStartTestResponse (startTestText commandId metadata) commandId.toNat =
      .ok ⟨commandId.toNat, ⟨codes metadata.uid, codes metadata.mcuModel, codes metadata.boardId,
        codes metadata.boardName, codes metadata.boardRevision⟩,
        ⟨codes metadata.firmwareVersion, codes metadata.firmwareGitRevision⟩,
        metadata.capabilities.map codes⟩ := by
  have nonzero : commandId.toNat ≠ 0 := fun zero => positive (UInt32.toNat_inj.mp zero)
  have capabilities := decodeCapabilities_startTest commandId plain
  have device := decodeDevice_startTest commandId plain uid
  have whole := startTestResponse_startTest plain commandId.toNat (metadata.capabilities.map codes)
  rw [decodeStartTestResponse, decodeObject_startTestText plain]
  generalize received : readMembers (responseMembers commandId metadata) = response at *
  have version : isProtocolVersion (response.lookup (pyStr "protocol_version")) = true :=
    received ▸ rfl
  have notError : isPyStr (response.lookup (pyStr "type")) (pyStr "ERROR") = false := received ▸ rfl
  have typed : isPyStr (response.lookup (pyStr "type")) (pyStr "START_TEST_RESPONSE") = true :=
    received ▸ rfl
  have status : isPyStr (response.lookup (pyStr "status")) (pyStr "ok") = true := received ▸ rfl
  have keys : requireKeys response
      [pyStr "protocol_version", pyStr "type", pyStr "command_id", pyStr "status", pyStr "device",
        pyStr "firmware", pyStr "capabilities"] (pyStr "response") = .ok () := received ▸ rfl
  have number : requirePositiveInteger response (pyStr "command_id") (pyStr "response") =
      .ok (commandId.toNat : Int) := requirePositiveInteger_eq (received ▸ rfl) (by omega)
  have firmware : requireObject ((response.lookup (pyStr "firmware")).getD .none)
      (pyStr "response.firmware") = .ok (readMembers (firmwareMembers metadata)) := received ▸ rfl
  have firmwareKeys : requireKeys (readMembers (firmwareMembers metadata))
      [pyStr "version", pyStr "git_revision"] (pyStr "response.firmware") = .ok () := rfl
  dsimp only [bind, Except.bind]
  rw [version, notError, decodeStartTestSuccess, keys]
  dsimp only [bind, Except.bind]
  rw [typed, status, number]
  dsimp only
  rw [if_neg (not_not.mpr rfl), device]
  dsimp only
  rw [firmware]
  dsimp only
  rw [firmwareKeys]
  dsimp only
  rw [capabilities]
  exact whole

end Decoding

/-! ## The identifier -/

theorem isUid_uidText (words : UidWords) : isUid (codes (uidText words)) = true := by
  rw [isUid, length_codes, length_uidText, Bool.and_eq_true, List.all_eq_true]
  refine ⟨rfl, fun code listed => ?_⟩
  obtain ⟨byte, among, rfl⟩ := List.mem_map.mp listed
  rw [Bool.or_eq_true, Bool.and_eq_true, isDecimalDigit, Bool.and_eq_true, decide_eq_true_eq,
    decide_eq_true_eq, decide_eq_true_eq, decide_eq_true_eq]
  exact isUpperHex_uidText words byte among

theorem isPlainName_uidText (words : UidWords) : IsPlainName (uidText words) where
  nonempty empty := by
    have length := length_uidText words
    rw [empty] at length
    cases length
  plain byte listed := by
    have digit := isUpperHex_uidText words byte listed
    rw [IsUpperHex] at digit
    rw [isPlainStringByte_iff]
    omega

/-! ## The round trip -/

/-- The compiled-in texts are plain names. -/
structure HasPlainTexts (build : BuildMetadata) : Prop where
  mcuModel : IsPlainName build.mcuModel
  boardId : IsPlainName build.boardId
  boardName : IsPlainName build.boardName
  boardRevision : IsPlainName build.boardRevision
  firmwareVersion : IsPlainName build.firmwareVersion
  firmwareGitRevision : IsPlainName build.firmwareGitRevision

/-- The first bytes of memory. -/
def readMemory (memory : Memory) (length : Nat) : Bytes := (List.range length).map memory

theorem readMemory_eq {memory : Memory} {text : Bytes}
    (stored : ∀ index byte, text[index]? = some byte → memory index = byte) :
    readMemory memory text.length = text := by
  refine List.ext_getElem ((List.length_map _).trans List.length_range) fun index inside inside' => ?_
  simp only [readMemory, List.getElem_map, List.getElem_range]
  exact stored index _ (List.getElem?_eq_getElem inside')

/-- What the tester makes of the response. -/
def metadataReceived (commandId : UInt32) (metadata : SessionMetadata) : StartTestResponse where
  commandId := commandId.toNat
  device :=
    { uid := codes metadata.uid
      mcu := codes metadata.mcuModel
      boardId := codes metadata.boardId
      boardName := codes metadata.boardName
      boardRevision := codes metadata.boardRevision }
  firmware :=
    { version := codes metadata.firmwareVersion
      gitRevision := codes metadata.firmwareGitRevision }
  capabilities := metadata.capabilities.map codes

/-- **The response arrives, or it is not built**: nothing is written from the capacity on; it is
built exactly if its whole text fits with its NUL; and the text that is reported is the
whole one, from which the tester gets the metadata, with the words of the identifier. -/
structure ArrivesOrFails (commandId : UInt32) (words : UidWords) (metadata : SessionMetadata)
    (capacity : Nat) (before : Memory) (built : Memory × Option Nat) : Prop where
  same : SameFrom capacity before built.1
  fits : built.2.isSome = true ↔ (startTestText commandId metadata).length + 1 ≤ capacity
  whole : ∀ length, built.2 = some length →
    readMemory built.1 length = startTestText commandId metadata ∧ built.1 length = 0
  decoded : ∀ length, built.2 = some length →
    decodeStartTestResponse (readMemory built.1 length) commandId.toNat =
      .ok (metadataReceived commandId metadata)
  isUid : isUid (codes metadata.uid) = true
  words : wordsOfUid (codes metadata.uid) = words

/-- **The START_TEST response arrives as the firmware has it**, for every capacity. -/
theorem start_test_response_round_trip {commandId : UInt32} (positive : commandId ≠ 0)
    (words : UidWords) {build : BuildMetadata} {capabilities : List Bytes}
    (texts : HasPlainTexts build) (names : ∀ capability ∈ capabilities, IsPlainName capability)
    (distinct : capabilities.Nodup) (capacity : Nat) (memory : Memory) :
    ArrivesOrFails commandId words (sessionMetadataRead words build capabilities) capacity memory
      (jsonProtocolBuildStartTestResponseAt commandId
        (sessionMetadataRead words build capabilities) capacity memory) := by
  have plain : IsPlainMetadata (sessionMetadataRead words build capabilities) :=
    ⟨isPlainName_uidText words, texts.mcuModel, texts.boardId, texts.boardName, texts.boardRevision,
      texts.firmwareVersion, texts.firmwareGitRevision, names, distinct⟩
  have built := startTestResponse_in_memory commandId
    (sessionMetadataRead words build capabilities) capacity memory
  have whole : ∀ length, (jsonProtocolBuildStartTestResponseAt commandId
      (sessionMetadataRead words build capabilities) capacity memory).2 = some length →
      readMemory (jsonProtocolBuildStartTestResponseAt commandId
        (sessionMetadataRead words build capabilities) capacity memory).1 length =
        startTestText commandId (sessionMetadataRead words build capabilities) := by
    intro length reported
    obtain ⟨rfl, stored, _⟩ := built.whole length reported
    exact readMemory_eq stored
  refine ⟨built.same, built.fits, fun length reported => ?_, fun length reported => ?_,
    isUid_uidText words, wordsOfUid_uidText words⟩
  · exact ⟨whole length reported, (built.whole length reported).2.2⟩
  · rw [whole length reported]
    exact decode_startTestText plain positive (isUid_uidText words)

/-- The texts of a build. -/
def releaseBuild : BuildMetadata where
  mcuModel := ascii "STM32F405RGT6"
  boardId := ascii "flightcomputer-v1"
  boardName := ascii "Flight Computer V1"
  boardRevision := ascii "1.7"
  firmwareVersion := ascii "0.1.0"
  firmwareGitRevision := ascii "unknown"

/-- With two capabilities, in a buffer of 4097 zeros. -/
theorem start_test_response_round_trip_release :
    ArrivesOrFails 1 ⟨1, 2, 0xDEADBEEF⟩
      (sessionMetadataRead ⟨1, 2, 0xDEADBEEF⟩ releaseBuild [ascii "imu", ascii "barometer"]) 4097
      (fun _ => 0)
      (jsonProtocolBuildStartTestResponseAt 1
        (sessionMetadataRead ⟨1, 2, 0xDEADBEEF⟩ releaseBuild [ascii "imu", ascii "barometer"]) 4097
        fun _ => 0) := by
  have named : ∀ capability ∈ [ascii "imu", ascii "barometer"], IsPlainName capability := by
    simp only [List.forall_mem_cons, List.not_mem_nil, false_implies, implies_true, and_true]
    exact ⟨isPlainName_ascii (by decide) (by decide), isPlainName_ascii (by decide) (by decide)⟩
  exact start_test_response_round_trip (by decide) _
    ⟨isPlainName_ascii (by decide) (by decide), isPlainName_ascii (by decide) (by decide),
      isPlainName_ascii (by decide) (by decide), isPlainName_ascii (by decide) (by decide),
      isPlainName_ascii (by decide) (by decide), isPlainName_ascii (by decide) (by decide)⟩
    named (by decide) _ _

end FlightComputer
