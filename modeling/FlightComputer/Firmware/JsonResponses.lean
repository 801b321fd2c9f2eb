import FlightComputer.Firmware.ComponentRegistry
import FlightComputer.Library.Decimal

/-!
# The firmware's messages

The builders of `json_response_builder.c` and `json_component_events.c`. Each
formats its message with `snprintf` and reports failure when the text and its
terminating NUL do not fit. A built message is the destination with the length
that is reported for it.

The 64-bit sector count is formatted by hand, in a buffer that is just large
enough (`formatUint64_eq`).
-/

set_option autoImplicit false

namespace FlightComputer.Firmware

open Library

/-! ## Formatting -/

/-- What `snprintf` leaves in the destination before the terminating NUL, and
what it returns. -/
def snprintf (capacity : Nat) (pieces : List Bytes) : Bytes × Nat :=
  (pieces.flatten.take (capacity - 1), pieces.flatten.length)

/-- The last lines of each builder: the destination and `*length`, unless the
text was cut. -/
def written (capacity : Nat) (formatted : Bytes × Nat) : Option (Bytes × Nat) :=
  if capacity ≤ formatted.2 then none else some formatted

/-- **A builder succeeds with the whole text**, when it fits with its NUL. -/
theorem written_eq_some_iff (capacity : Nat) (pieces : List Bytes) (destination : Bytes)
    (length : Nat) :
    written capacity (snprintf capacity pieces) = some (destination, length) ↔
      pieces.flatten.length < capacity ∧ destination = pieces.flatten ∧
        length = pieces.flatten.length := by
  rw [written]
  by_cases large : capacity ≤ (snprintf capacity pieces).2
  · rw [if_pos large]
    exact iff_of_false (Option.some_ne_none _).symm fun right =>
      Nat.not_lt.mpr large right.1
  · have small : pieces.flatten.length < capacity := Nat.not_le.mp large
    rw [if_neg large, snprintf, List.take_of_length_le (by omega), Option.some.injEq,
      Prod.mk.injEq]
    constructor
    · rintro ⟨rfl, rfl⟩
      exact ⟨small, rfl, rfl⟩
    · rintro ⟨_, rfl, rfl⟩
      exact ⟨rfl, rfl⟩

/-- `UINT64_DECIMAL_CAPACITY` -/
def uint64DecimalCapacity : Nat := 21

/-- The first loop of `format_uint64`: the digits, last one first, as long as
there is room in `reversed`. -/
def reversedDigits : Nat → Nat → Option Bytes
  | 0, _ => none
  | room + 1, value =>
      let digit := UInt8.ofNat ('0'.toNat + value % 10)
      if value / 10 = 0 then some [digit]
      else (reversedDigits room (value / 10)).map (digit :: ·)

/-- `format_uint64`, unless it would write past the end of `reversed`. -/
def formatUint64 (value : UInt64) : Option Bytes :=
  (reversedDigits (uint64DecimalCapacity - 1) value.toNat).map List.reverse

/-! ## Responses -/

/-- `session_metadata_t`, with the capabilities that `capability_at` lists. -/
structure SessionMetadata where
  uid : Bytes
  mcuModel : Bytes
  boardId : Bytes
  boardName : Bytes
  boardRevision : Bytes
  firmwareVersion : Bytes
  firmwareGitRevision : Bytes
  capabilities : List Bytes

/-- `append_format`, on the destination as it has been filled so far. -/
def appendFormat (capacity : Nat) (pieces : List Bytes) (destination : Bytes) : Option Bytes :=
  if capacity ≤ destination.length then none
  else if capacity - destination.length ≤ pieces.flatten.length then none
  else some (destination ++ pieces.flatten)

/-- The loop over the capabilities. -/
def appendCapabilities (capacity : Nat) : List (Bytes × Nat) → Bytes → Option Bytes
  | [], destination => some destination
  | (capability, index) :: later, destination =>
      (appendFormat capacity
        [if index = 0 then [] else ascii ",", ascii "\"", capability, ascii "\""] destination).bind
        (appendCapabilities capacity later)

/-- `json_protocol_build_start_test_response` -/
def jsonProtocolBuildStartTestResponse (commandId : UInt32) (metadata : SessionMetadata)
    (capacity : Nat) : Option (Bytes × Nat) := do
  let opened ← appendFormat capacity
    [ascii "\x7b\"protocol_version\":1,\"type\":\"START_TEST_RESPONSE\",\"command_id\":",
      decimalText commandId.toNat, ascii ",\"status\":\"ok\",\"device\":\x7b\"uid\":\"",
      metadata.uid, ascii "\",\"mcu\":\"", metadata.mcuModel, ascii "\",\"board_id\":\"",
      metadata.boardId, ascii "\",\"board_name\":\"", metadata.boardName,
      ascii "\",\"board_revision\":\"", metadata.boardRevision,
      ascii "\"\x7d,\"firmware\":\x7b\"version\":\"", metadata.firmwareVersion,
      ascii "\",\"git_revision\":\"", metadata.firmwareGitRevision,
      ascii "\"\x7d,\"capabilities\":["] []
  let listed ← appendCapabilities capacity metadata.capabilities.zipIdx opened
  let closed ← appendFormat capacity [ascii "]\x7d"] listed
  some (closed, closed.length)

/-- The text of an error response. -/
def errorResponsePieces (commandId : UInt32) (errorCode : Bytes) : List Bytes :=
  [ascii "\x7b\"protocol_version\":1,\"type\":\"ERROR\",\"command_id\":",
    decimalText commandId.toNat, ascii ",\"error\":\"", errorCode, ascii "\"\x7d"]

/-- `json_protocol_build_error_response` -/
def jsonProtocolBuildErrorResponse (commandId : UInt32) (errorCode : Bytes) (capacity : Nat) :
    Option (Bytes × Nat) :=
  written capacity (snprintf capacity (errorResponsePieces commandId errorCode))

/-- The text of a lifecycle response. -/
def testResponsePieces (responseType : Bytes) (commandId : UInt32) (testType status : Bytes) :
    List Bytes :=
  [ascii "\x7b\"protocol_version\":1,\"type\":\"", responseType, ascii "\",\"command_id\":",
    decimalText commandId.toNat, ascii ",\"test_type\":\"", testType, ascii "\",\"status\":\"",
    status, ascii "\"\x7d"]

/-- `json_protocol_build_test_response` -/
def jsonProtocolBuildTestResponse (responseType : Bytes) (commandId : UInt32)
    (testType status : Bytes) (capacity : Nat) : Option (Bytes × Nat) :=
  written capacity (snprintf capacity (testResponsePieces responseType commandId testType status))

/-! ## Events -/

/-- The start of every event with data. -/
def eventHead (commandId : UInt32) (testType name : Bytes) : List Bytes :=
  [ascii "\x7b\"protocol_version\":1,\"type\":\"TEST_EVENT\",\"command_id\":",
    decimalText commandId.toNat, ascii ",\"test_type\":\"", testType, ascii "\",\"event\":\"",
    name]

/-- The text of `build_imu_event`. -/
def imuEventPieces (commandId : UInt32) (testType name : Bytes) (event : ComponentTestEvent) :
    List Bytes :=
  eventHead commandId testType name ++
    [ascii "\",\"data\":\x7b\"acceleration_raw\":\x7b\"x\":",
      signedDecimalText event.accelerationX.toInt, ascii ",\"y\":",
      signedDecimalText event.accelerationY.toInt, ascii ",\"z\":",
      signedDecimalText event.accelerationZ.toInt, ascii "\x7d,\"gyroscope_raw\":\x7b\"x\":",
      signedDecimalText event.gyroscopeX.toInt, ascii ",\"y\":",
      signedDecimalText event.gyroscopeY.toInt, ascii ",\"z\":",
      signedDecimalText event.gyroscopeZ.toInt, ascii "\x7d\x7d\x7d"]

/-- The text of `build_barometer_event`. -/
def barometerEventPieces (commandId : UInt32) (testType name : Bytes)
    (event : ComponentTestEvent) : List Bytes :=
  eventHead commandId testType name ++
    [ascii "\",\"data\":\x7b\"pressure_centi_pa\":",
      signedDecimalText event.pressureCentiPa.toInt, ascii ",\"temperature_centi_c\":",
      signedDecimalText event.temperatureCentiC.toInt, ascii "\x7d\x7d"]

/-- The text of `build_sd_card_event`, with the formatted sector count. -/
def sdCardEventPieces (commandId : UInt32) (testType name : Bytes) (event : ComponentTestEvent)
    (sectorCount : Bytes) : List Bytes :=
  eventHead commandId testType name ++
    [ascii "\",\"data\":\x7b\"card_type\":\"",
      if event.highCapacity then ascii "SDHC/SDXC" else ascii "SDSC",
      ascii "\",\"sector_count\":", sectorCount, ascii ",\"test_sector\":",
      decimalText event.testSector.toNat, ascii ",\"checksum\":",
      decimalText event.checksum.toNat, ascii "\x7d\x7d"]

/-- The text of `build_failure_event`. -/
def failureEventPieces (commandId : UInt32) (testType name stage reason : Bytes)
    (event : ComponentTestEvent) : List Bytes :=
  eventHead commandId testType name ++
    [ascii "\",\"data\":\x7b\"stage\":\"", stage, ascii "\",\"reason\":\"", reason,
      ascii "\",\"code\":", signedDecimalText event.failureCode.toInt, ascii "\x7d\x7d"]

/-- The text of an event without data. -/
def messageEventPieces (commandId : UInt32) (testType name : Bytes) : List Bytes :=
  eventHead commandId testType name ++ [ascii "\"\x7d"]

/-- The text of an event, unless one of the strings it needs is `NULL`. -/
def testEventPieces (commandId : UInt32) (testType : Bytes) (event : ComponentTestEvent) :
    Option (List Bytes) := do
  let name ← event.name
  match event.kind with
  | .imuSample => some (imuEventPieces commandId testType name event)
  | .barometerSample => some (barometerEventPieces commandId testType name event)
  | .sdCardInfo =>
      let sectorCount ← formatUint64 event.sectorCount
      some (sdCardEventPieces commandId testType name event sectorCount)
  | .failure =>
      let stage ← event.failureStage
      let reason ← event.failureReason
      some (failureEventPieces commandId testType name stage reason event)
  | .message => some (messageEventPieces commandId testType name)

/-- `json_protocol_build_test_event` -/
def jsonProtocolBuildTestEvent (commandId : UInt32) (testType : Option Bytes)
    (event : Option ComponentTestEvent) (capacity : Nat) : Option (Bytes × Nat) := do
  let testType ← testType
  let event ← event
  let pieces ← testEventPieces commandId testType event
  written capacity (snprintf capacity pieces)

/-! ## The sector count -/

/-- The digits of a number with at most as many digits as there is room for. -/
theorem reversedDigits_eq {room value : Nat} (positive : 0 < room) (fits : value < 10 ^ room) :
    (reversedDigits room value).map List.reverse = some (decimalText value) := by
  have digitByte : ∀ digit < 10,
      UInt8.ofNat ('0'.toNat + digit) = (Nat.digitChar digit).toUInt8 := by decide
  induction room generalizing value with
  | zero => exact absurd positive (Nat.lt_irrefl 0)
  | succ room ih =>
      rw [reversedDigits]
      by_cases last : value / 10 = 0
      · have small : value < 10 := by omega
        rw [if_pos last, Nat.mod_eq_of_lt small, digitByte value small, decimalText_of_lt small]
        rfl
      · have fits' : value / 10 < 10 ^ room := by
          rw [Nat.div_lt_iff_lt_mul (by decide), ← Nat.pow_succ]
          exact fits
        have positive' : 0 < room := by
          refine Nat.pos_of_ne_zero fun none => last ?_
          rw [none, Nat.pow_zero] at fits'
          omega
        rw [if_neg last, digitByte (value % 10) (Nat.mod_lt _ (by decide)),
          decimalText_of_le (by omega)]
        obtain ⟨digits, found, reversed⟩ := Option.map_eq_some_iff.mp (ih positive' fits')
        rw [found, ← reversed]
        simp

/-- **The hand-written formatter spells the number in decimal**, and twenty
digits are enough room for every 64-bit number. -/
theorem formatUint64_eq (value : UInt64) : formatUint64 value = some (decimalText value.toNat) :=
  reversedDigits_eq (by decide) (Nat.lt_trans value.toNat_lt (by decide))

end FlightComputer.Firmware
