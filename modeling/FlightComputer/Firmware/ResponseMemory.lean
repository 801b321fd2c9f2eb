import FlightComputer.Firmware.JsonResponses

/-!
# The START_TEST response in memory

`append_format` and `json_protocol_build_start_test_response` on the memory that starts at their
destination. A call stores a part of its text, cut to what is left of the capacity, and a NUL
behind it; nothing is ever stored at the capacity or beyond (`sameFrom_appendFormatAt`).

The result does not depend on where the text was cut: the response is built if and only if its
whole text fits with its NUL, and then it is in memory (`startTestResponse_in_memory`).
-/

set_option autoImplicit false

namespace FlightComputer.Firmware

open Library

/-- The bytes of memory, counted from the destination. -/
abbrev Memory : Type := Nat → UInt8

/-- Store bytes. -/
def Memory.store (memory : Memory) (offset : Nat) (bytes : Bytes) : Memory := fun index =>
  if offset ≤ index then (bytes[index - offset]?).getD (memory index) else memory index

/-- `vsnprintf(&destination[offset], size, ...)`, with the formatted text: what it leaves in
memory, and what it returns. -/
def vsnprintf (memory : Memory) (offset size : Nat) (text : Bytes) : Memory × Nat :=
  (if size = 0 then memory else memory.store offset (text.take (size - 1) ++ [0]), text.length)

/-- The destination, and `*offset`. -/
structure Destination where
  memory : Memory
  offset : Nat

/-- `append_format`, with its result. -/
def appendFormatAt (capacity : Nat) (pieces : List Bytes) (destination : Destination) :
    Destination × Bool :=
  if capacity ≤ destination.offset then (destination, false)
  else
    let (memory, written) :=
      vsnprintf destination.memory destination.offset (capacity - destination.offset) pieces.flatten
    if capacity - destination.offset ≤ written then ({ destination with memory := memory }, false)
    else (⟨memory, destination.offset + written⟩, true)

/-- What the first call formats. -/
def openingPieces (commandId : UInt32) (metadata : SessionMetadata) : List Bytes :=
  [ascii "\x7b\"protocol_version\":1,\"type\":\"START_TEST_RESPONSE\",\"command_id\":",
    decimalText commandId.toNat, ascii ",\"status\":\"ok\",\"device\":\x7b\"uid\":\"",
    metadata.uid, ascii "\",\"mcu\":\"", metadata.mcuModel, ascii "\",\"board_id\":\"",
    metadata.boardId, ascii "\",\"board_name\":\"", metadata.boardName,
    ascii "\",\"board_revision\":\"", metadata.boardRevision,
    ascii "\"\x7d,\"firmware\":\x7b\"version\":\"", metadata.firmwareVersion,
    ascii "\",\"git_revision\":\"", metadata.firmwareGitRevision,
    ascii "\"\x7d,\"capabilities\":["]

/-- What the call for a capability formats. -/
def capabilityPieces (capability : Bytes) (index : Nat) : List Bytes :=
  [if index = 0 then [] else ascii ",", ascii "\"", capability, ascii "\""]

/-- The loop over the capabilities. -/
def appendCapabilitiesAt (capacity : Nat) :
    List (Bytes × Nat) → Destination → Destination × Bool
  | [], destination => (destination, true)
  | (capability, index) :: later, destination =>
      let (destination, appended) :=
        appendFormatAt capacity (capabilityPieces capability index) destination
      if appended then appendCapabilitiesAt capacity later destination else (destination, false)

/-- `json_protocol_build_start_test_response`: the memory that it leaves, and `*length` if it
returns true. -/
def jsonProtocolBuildStartTestResponseAt (commandId : UInt32) (metadata : SessionMetadata)
    (capacity : Nat) (memory : Memory) : Memory × Option Nat :=
  let (opened, ok) := appendFormatAt capacity (openingPieces commandId metadata) ⟨memory, 0⟩
  if !ok then (opened.memory, none)
  else
    let (listed, ok) := appendCapabilitiesAt capacity metadata.capabilities.zipIdx opened
    if !ok then (listed.memory, none)
    else
      let (closed, ok) := appendFormatAt capacity [ascii "]\x7d"] listed
      if !ok then (closed.memory, none) else (closed.memory, some closed.offset)

/-! ## Texts in memory -/

/-- A text is at the destination, and `*offset` is behind it. -/
structure Destination.Filled (destination : Destination) (text : Bytes) : Prop where
  offset : destination.offset = text.length
  stored : ∀ index byte, text[index]? = some byte → destination.memory index = byte

/-- Memory is the same from some index on. -/
def SameFrom (bound : Nat) (before after : Memory) : Prop :=
  ∀ index, bound ≤ index → after index = before index

theorem SameFrom.trans {bound : Nat} {first second third : Memory} (before : SameFrom bound first second)
    (after : SameFrom bound second third) : SameFrom bound first third := fun index beyond =>
  (after index beyond).trans (before index beyond)

theorem store_below {memory : Memory} {offset index : Nat} (bytes : Bytes) (below : index < offset) :
    memory.store offset bytes index = memory index :=
  if_neg (Nat.not_le.mpr below)

theorem store_at {memory : Memory} {offset index : Nat} {bytes : Bytes} {byte : UInt8}
    (stored : bytes[index]? = some byte) : memory.store offset bytes (offset + index) = byte := by
  rw [Memory.store, if_pos (Nat.le_add_right _ _), Nat.add_sub_cancel_left, stored]
  rfl

theorem store_beyond {memory : Memory} {offset index : Nat} {bytes : Bytes}
    (beyond : offset + bytes.length ≤ index) : memory.store offset bytes index = memory index := by
  rw [Memory.store, if_pos (by omega), List.getElem?_eq_none (by omega)]
  rfl

/-- **A call stores nothing at its capacity or beyond.** -/
theorem sameFrom_appendFormatAt (capacity : Nat) (pieces : List Bytes) (destination : Destination) :
    SameFrom capacity destination.memory
      (appendFormatAt capacity pieces destination).1.memory := by
  intro index beyond
  rw [appendFormatAt]
  by_cases full : capacity ≤ destination.offset
  · rw [if_pos full]
  · rw [if_neg full]
    have kept : (vsnprintf destination.memory destination.offset (capacity - destination.offset)
        pieces.flatten).1 index = destination.memory index := by
      rw [vsnprintf, if_neg (by omega)]
      refine store_beyond ?_
      rw [List.length_append, List.length_take, List.length_singleton]
      omega
    dsimp only
    split_ifs
    · exact kept
    · exact kept

/-- **One call** appends its text, with a NUL behind it, if there is room for both. -/
theorem appendFormatAt_spec (capacity : Nat) (pieces : List Bytes) {destination : Destination}
    {text : Bytes} (filled : destination.Filled text) :
    ((appendFormatAt capacity pieces destination).2 = true ↔
        (text ++ pieces.flatten).length < capacity) ∧
      ((appendFormatAt capacity pieces destination).2 = true →
        (appendFormatAt capacity pieces destination).1.Filled (text ++ pieces.flatten) ∧
        (appendFormatAt capacity pieces destination).1.memory (text ++ pieces.flatten).length = 0) := by
  rw [appendFormatAt, filled.offset, List.length_append]
  by_cases full : capacity ≤ text.length
  · rw [if_pos full]
    refine ⟨iff_of_false Bool.false_ne_true (by omega), fun appended => ?_⟩
    exact absurd appended Bool.false_ne_true
  · rw [if_neg full, vsnprintf, if_neg (by omega)]
    dsimp only
    by_cases large : capacity - text.length ≤ pieces.flatten.length
    · rw [if_pos large]
      refine ⟨iff_of_false Bool.false_ne_true (by omega), fun appended => ?_⟩
      exact absurd appended Bool.false_ne_true
    · rw [if_neg large, List.take_of_length_le (by omega)]
      refine ⟨iff_of_true rfl (by omega), fun _ => ⟨⟨?_, ?_⟩, ?_⟩⟩
      · rw [List.length_append]
      · intro index byte listed
        by_cases below : index < text.length
        · rw [List.getElem?_append_left below] at listed
          exact (store_below _ below).trans (filled.stored index byte listed)
        · rw [List.getElem?_append_right (Nat.not_lt.mp below)] at listed
          obtain ⟨later, rfl⟩ : ∃ later, index = text.length + later :=
            ⟨index - text.length, by omega⟩
          rw [Nat.add_sub_cancel_left] at listed
          refine store_at ?_
          rw [List.getElem?_append_left (List.getElem?_eq_some_iff.mp listed).1]
          exact listed
      · exact store_at (by rw [List.getElem?_append_right (Nat.le_refl _), Nat.sub_self]; rfl)

/-- The texts of the capabilities. -/
def capabilitiesText (capabilities : List (Bytes × Nat)) : Bytes :=
  capabilities.flatMap fun capability => (capabilityPieces capability.1 capability.2).flatten

theorem capabilitiesText_cons (capability : Bytes) (index : Nat) (later : List (Bytes × Nat)) :
    capabilitiesText ((capability, index) :: later) =
      (capabilityPieces capability index).flatten ++ capabilitiesText later := rfl

/-- **The loop** appends all of them, if there is room. -/
theorem appendCapabilitiesAt_spec {capacity : Nat} (capabilities : List (Bytes × Nat)) :
    ∀ {destination : Destination} {text : Bytes}, destination.Filled text → text.length < capacity →
      ((appendCapabilitiesAt capacity capabilities destination).2 = true ↔
          (text ++ capabilitiesText capabilities).length < capacity) ∧
        ((appendCapabilitiesAt capacity capabilities destination).2 = true →
          (appendCapabilitiesAt capacity capabilities destination).1.Filled
            (text ++ capabilitiesText capabilities)) ∧
        SameFrom capacity destination.memory
          (appendCapabilitiesAt capacity capabilities destination).1.memory := by
  induction capabilities with
  | nil =>
      intro destination text filled small
      rw [capabilitiesText, List.flatMap_nil, List.append_nil]
      exact ⟨iff_of_true rfl small, fun _ => filled, fun _ _ => rfl⟩
  | cons first later ih =>
      intro destination text filled small
      obtain ⟨capability, index⟩ := first
      obtain ⟨fits, appends⟩ :=
        appendFormatAt_spec capacity (capabilityPieces capability index) filled
      have same := sameFrom_appendFormatAt capacity (capabilityPieces capability index) destination
      rw [appendCapabilitiesAt, capabilitiesText_cons, ← List.append_assoc]
      dsimp only
      by_cases appended :
          (appendFormatAt capacity (capabilityPieces capability index) destination).2 = true
      · rw [if_pos appended]
        obtain ⟨fits', fills, same'⟩ := ih (appends appended).1 (fits.mp appended)
        exact ⟨fits', fills, same.trans same'⟩
      · rw [if_neg appended]
        have large : ¬(text ++ (capabilityPieces capability index).flatten).length < capacity :=
          fun small => appended (fits.mpr small)
        rw [List.length_append]
        exact ⟨iff_of_false Bool.false_ne_true (by omega),
          fun done => absurd done Bool.false_ne_true, same⟩

/-- The whole response. -/
def startTestText (commandId : UInt32) (metadata : SessionMetadata) : Bytes :=
  (openingPieces commandId metadata).flatten ++ capabilitiesText metadata.capabilities.zipIdx ++
    ascii "]\x7d"

/-- **What a call of the builder leaves**, in memory and in `*length`. -/
structure BuiltInMemory (text : Bytes) (capacity : Nat) (before : Memory)
    (built : Memory × Option Nat) : Prop where
  same : SameFrom capacity before built.1
  fits : built.2.isSome = true ↔ text.length + 1 ≤ capacity
  whole : ∀ length, built.2 = some length → length = text.length ∧
    (∀ index byte, text[index]? = some byte → built.1 index = byte) ∧ built.1 length = 0

theorem builtInMemory_none {text : Bytes} {capacity : Nat} {before after : Memory}
    (same : SameFrom capacity before after) (large : ¬text.length < capacity) :
    BuiltInMemory text capacity before (after, none) where
  same := same
  fits := iff_of_false Bool.false_ne_true (by omega)
  whole _ built := absurd built.symm (Option.some_ne_none _)

/-- **The response in memory**, whatever the capacity. -/
theorem startTestResponse_in_memory (commandId : UInt32) (metadata : SessionMetadata) (capacity : Nat)
    (memory : Memory) :
    BuiltInMemory (startTestText commandId metadata) capacity memory
      (jsonProtocolBuildStartTestResponseAt commandId metadata capacity memory) := by
  have empty : Destination.Filled ⟨memory, 0⟩ [] :=
    ⟨rfl, fun _ _ listed => absurd listed.symm (Option.some_ne_none _)⟩
  obtain ⟨fits, fills⟩ :=
    appendFormatAt_spec capacity (openingPieces commandId metadata) empty
  have same := sameFrom_appendFormatAt capacity (openingPieces commandId metadata) ⟨memory, 0⟩
  rw [List.nil_append] at fits fills
  rw [jsonProtocolBuildStartTestResponseAt, startTestText]
  generalize appendFormatAt capacity (openingPieces commandId metadata) ⟨memory, 0⟩ = opened at *
  obtain ⟨opened, ok⟩ := opened
  cases ok with
  | false =>
      refine builtInMemory_none same fun small => Bool.false_ne_true (fits.mpr ?_)
      rw [List.length_append, List.length_append] at small
      omega
  | true =>
      obtain ⟨fits', fills', same'⟩ := appendCapabilitiesAt_spec metadata.capabilities.zipIdx
        (fills rfl).1 (fits.mp rfl)
      replace same := same.trans same'
      dsimp only [Bool.not_true, Bool.false_eq_true, if_false]
      generalize appendCapabilitiesAt capacity metadata.capabilities.zipIdx opened = listed at *
      obtain ⟨listed, ok⟩ := listed
      cases ok with
      | false =>
          refine builtInMemory_none same fun small => Bool.false_ne_true (fits'.mpr ?_)
          rw [List.length_append] at small
          omega
      | true =>
          obtain ⟨fits'', fills''⟩ :=
            appendFormatAt_spec capacity [ascii "]\x7d"] (fills' rfl)
          replace same := same.trans (sameFrom_appendFormatAt capacity [ascii "]\x7d"] listed)
          rw [List.flatten_singleton] at fits'' fills''
          dsimp only [Bool.not_true, Bool.false_eq_true, if_false]
          generalize appendFormatAt capacity [ascii "]\x7d"] listed = closed at *
          obtain ⟨closed, ok⟩ := closed
          cases ok with
          | false =>
              exact builtInMemory_none same fun small => Bool.false_ne_true (fits''.mpr small)
          | true =>
              obtain ⟨filled, terminated⟩ := fills'' rfl
              refine ⟨same, iff_of_true rfl (fits''.mp rfl), ?_⟩
              rintro length built
              obtain rfl := Option.some.inj built
              refine ⟨filled.offset, filled.stored, ?_⟩
              rw [filled.offset]
              exact terminated

/-! ## The texts alone -/

theorem appendFormat_eq (capacity : Nat) (pieces : List Bytes) (destination : Bytes) :
    appendFormat capacity pieces destination =
      if (destination ++ pieces.flatten).length < capacity then some (destination ++ pieces.flatten)
      else none := by
  rw [appendFormat, List.length_append]
  split_ifs <;> first | rfl | omega

theorem appendCapabilities_eq {capacity : Nat} (capabilities : List (Bytes × Nat)) :
    ∀ {destination : Bytes}, destination.length < capacity →
      appendCapabilities capacity capabilities destination =
        if (destination ++ capabilitiesText capabilities).length < capacity then
          some (destination ++ capabilitiesText capabilities)
        else none := by
  induction capabilities with
  | nil =>
      intro destination small
      rw [capabilitiesText, List.flatMap_nil, List.append_nil, if_pos small]
      rfl
  | cons first later ih =>
      intro destination small
      obtain ⟨capability, index⟩ := first
      show (appendFormat capacity (capabilityPieces capability index) destination).bind
        (appendCapabilities capacity later) = _
      rw [appendFormat_eq, capabilitiesText_cons, ← List.append_assoc]
      by_cases fits : (destination ++ (capabilityPieces capability index).flatten).length < capacity
      · rw [if_pos fits]
        exact ih fits
      · rw [if_neg fits, if_neg]
        · rfl
        · rw [List.length_append]
          omega

/-- **The builder by its texts** reports the same. -/
theorem jsonProtocolBuildStartTestResponse_eq (commandId : UInt32) (metadata : SessionMetadata)
    (capacity : Nat) :
    jsonProtocolBuildStartTestResponse commandId metadata capacity =
      if (startTestText commandId metadata).length < capacity then
        some (startTestText commandId metadata, (startTestText commandId metadata).length)
      else none := by
  have opened := appendFormat_eq capacity (openingPieces commandId metadata) []
  rw [List.nil_append, openingPieces] at opened
  rw [jsonProtocolBuildStartTestResponse, opened, startTestText, openingPieces]
  generalize List.flatten _ = opening
  by_cases small : opening.length < capacity
  · rw [if_pos small]
    show (appendCapabilities capacity metadata.capabilities.zipIdx opening >>= _) = _
    rw [appendCapabilities_eq _ small]
    generalize opening ++ capabilitiesText metadata.capabilities.zipIdx = listed
    by_cases small' : listed.length < capacity
    · rw [if_pos small']
      show (appendFormat capacity [ascii "]\x7d"] listed >>= _) = _
      rw [appendFormat_eq, List.flatten_singleton]
      split_ifs with fits
      · rfl
      · rfl
    · rw [if_neg small', if_neg]
      · rfl
      · rw [List.length_append]
        omega
  · rw [if_neg small, if_neg]
    · rfl
    · rw [List.length_append, List.length_append]
      omega

end FlightComputer.Firmware
