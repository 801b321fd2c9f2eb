import FlightComputer.BoardTester.ComponentMessages

/-!
# Session messages

How the tester decodes the response to START_TEST (`session_messages.py`). The
branch for an ERROR response reports the error of the device without looking at its
command id (`decodeStartTestResponse_error`).
-/

set_option autoImplicit false

namespace FlightComputer.BoardTester

open Library

/-- `DeviceMetadata` -/
structure DeviceMetadata where
  uid : PyStr
  mcu : PyStr
  boardId : PyStr
  boardName : PyStr
  boardRevision : PyStr
  deriving DecidableEq

/-- `FirmwareMetadata` -/
structure FirmwareMetadata where
  version : PyStr
  gitRevision : PyStr
  deriving DecidableEq

/-- `StartTestResponse` -/
structure StartTestResponse where
  commandId : Int
  device : DeviceMetadata
  firmware : FirmwareMetadata
  capabilities : List PyStr
  deriving DecidableEq

/-- `_UID_PATTERN.fullmatch(uid)` -/
def isUid (text : PyStr) : Bool :=
  text.length == 24 && text.all fun code =>
    isDecimalDigit code || (decide (65 ≤ code) && decide (code ≤ 70))

/-- A capability: a string that is not empty. -/
def capabilityName : PyJson → Option PyStr
  | .str text => if text.isEmpty then none else some text
  | _ => none

/-- The branch of `decode_start_test_response` for an ERROR response, which never
returns. -/
def decodeStartTestError (response : PyDict) : Except ProtocolMessageError StartTestResponse := do
  requireKeys response
    [pyStr "protocol_version", pyStr "type", pyStr "command_id", pyStr "error"] (pyStr "response")
  let error ← requireString response (pyStr "error") (pyStr "response")
  raiseText [pyStr "device rejected START_TEST: ", error]

/-- The checks of the `device` object. -/
def decodeDevice (response : PyDict) : Except ProtocolMessageError PyDict := do
  let device ← requireObject ((response.lookup (pyStr "device")).getD .none)
    (pyStr "response.device")
  requireKeys device
    [pyStr "uid", pyStr "mcu", pyStr "board_id", pyStr "board_name", pyStr "board_revision"]
    (pyStr "response.device")
  let uid ← requireString device (pyStr "uid") (pyStr "response.device")
  if !isUid uid then raiseText [pyStr "response.device.uid must be 24 uppercase hex digits"]
  else .ok device

/-- The checks of the `capabilities` array. -/
def decodeCapabilities (response : PyDict) : Except ProtocolMessageError (List PyStr) :=
  match response.lookup (pyStr "capabilities") with
  | some (.list values) =>
      match values.mapM capabilityName with
      | some capabilities =>
          if capabilities.Nodup then .ok capabilities
          else raiseText [pyStr "response.capabilities must not contain duplicates"]
      | none => raiseText [pyStr "response.capabilities must be an array of strings"]
  | _ => raiseText [pyStr "response.capabilities must be an array of strings"]

/-- The result of `decode_start_test_response`, field by field. -/
def startTestResponse (commandId : Int) (device firmware : PyDict) (capabilities : List PyStr) :
    Except ProtocolMessageError StartTestResponse := do
  let uid ← requireString device (pyStr "uid") (pyStr "response.device")
  let mcu ← requireString device (pyStr "mcu") (pyStr "response.device")
  let boardId ← requireString device (pyStr "board_id") (pyStr "response.device")
  let boardName ← requireString device (pyStr "board_name") (pyStr "response.device")
  let boardRevision ← requireString device (pyStr "board_revision") (pyStr "response.device")
  let version ← requireString firmware (pyStr "version") (pyStr "response.firmware")
  let gitRevision ← requireString firmware (pyStr "git_revision") (pyStr "response.firmware")
  .ok ⟨commandId, ⟨uid, mcu, boardId, boardName, boardRevision⟩, ⟨version, gitRevision⟩,
    capabilities⟩

/-- The branch of `decode_start_test_response` for any other response. -/
def decodeStartTestSuccess (response : PyDict) (expectedCommandId : Int) :
    Except ProtocolMessageError StartTestResponse := do
  requireKeys response
    [pyStr "protocol_version", pyStr "type", pyStr "command_id", pyStr "status", pyStr "device",
      pyStr "firmware", pyStr "capabilities"] (pyStr "response")
  if !isPyStr (response.lookup (pyStr "type")) (pyStr "START_TEST_RESPONSE") then
    raiseText [pyStr "response type is not START_TEST_RESPONSE"]
  else if !isPyStr (response.lookup (pyStr "status")) (pyStr "ok") then
    raiseText [pyStr "START_TEST response status is not ok"]
  else
    let commandId ← requirePositiveInteger response (pyStr "command_id") (pyStr "response")
    if commandId ≠ expectedCommandId then
      raiseText [pyStr "response command_id ", codes (signedDecimalText commandId),
        pyStr " does not match ", codes (signedDecimalText expectedCommandId)]
    else
      let device ← decodeDevice response
      let firmware ← requireObject ((response.lookup (pyStr "firmware")).getD .none)
        (pyStr "response.firmware")
      requireKeys firmware [pyStr "version", pyStr "git_revision"] (pyStr "response.firmware")
      let capabilities ← decodeCapabilities response
      startTestResponse commandId device firmware capabilities

/-- `decode_start_test_response` -/
def decodeStartTestResponse (line : Bytes) (expectedCommandId : Int) :
    Except ProtocolMessageError StartTestResponse := do
  let response ← decodeObject line
  if !isProtocolVersion (response.lookup (pyStr "protocol_version")) then
    raiseText [pyStr "response has an unsupported protocol_version"]
  else if isPyStr (response.lookup (pyStr "type")) (pyStr "ERROR") then
    decodeStartTestError response
  else decodeStartTestSuccess response expectedCommandId

/-! ## The branches for errors -/

section Errors

variable {line : Bytes} {response : PyDict} {error : PyStr} {number : Int}
  (decoded : decodeObject line = .ok response)
  (version : isProtocolVersion (response.lookup (pyStr "protocol_version")) = true)
  (typed : isPyStr (response.lookup (pyStr "type")) (pyStr "ERROR") = true)
  (keys : requireKeys response
    [pyStr "protocol_version", pyStr "type", pyStr "command_id", pyStr "error"]
      (pyStr "response") = .ok ())
  (hasError : response.lookup (pyStr "error") = some (.str error))
  (nonempty : error.isEmpty = false)
include decoded version typed keys hasError nonempty

/-- **In the session exchange** the error of the device is reported. -/
theorem decodeStartTestResponse_error (expectedCommandId : Int) :
    decodeStartTestResponse line expectedCommandId =
      raiseText [pyStr "device rejected START_TEST: ", error] := by
  rw [decodeStartTestResponse, decoded]
  dsimp only [bind, Except.bind]
  rw [version, typed, decodeStartTestError, keys, requireString_eq hasError nonempty]
  rfl

/-- **In a component exchange** the error of the device is reported when its command
id is the expected one. -/
theorem decodeComponentTestMessage_error (expectedTestType : PyStr)
    (hasId : response.lookup (pyStr "command_id") = some (.int number)) (positive : 0 < number) :
    decodeComponentTestMessage line number expectedTestType =
      raiseText [pyStr "device rejected component test: ", error] := by
  rw [decodeComponentTestMessage, decoded]
  dsimp only [bind, Except.bind]
  rw [decodeComponentTestResponse, version, typed, decodeError, keys,
    requirePositiveInteger_eq hasId positive, requireString_eq hasError nonempty]
  dsimp only [bind, Except.bind]
  rw [if_neg (not_not.mpr rfl)]
  rfl

omit hasError nonempty in
/-- With the id 0 or another command id the error is not read. -/
theorem decodeComponentTestMessage_other_id {expectedCommandId : Int} (expectedTestType : PyStr)
    (hasId : response.lookup (pyStr "command_id") = some (.int number))
    (other : number = 0 ∨ number ≠ expectedCommandId) (nonnegative : 0 ≤ number) :
    decodeComponentTestMessage line expectedCommandId expectedTestType =
      raiseText (if number = 0 then
        [pyStr "response", pyStr ".", pyStr "command_id", pyStr " must be a positive integer"]
      else [pyStr "response command_id does not match active test"]) := by
  rw [decodeComponentTestMessage, decoded]
  dsimp only [bind, Except.bind]
  rw [decodeComponentTestResponse, version, typed, decodeError, keys]
  dsimp only [bind, Except.bind]
  by_cases zero : number = 0
  · rw [requirePositiveInteger, hasId, zero]
    rfl
  · rw [requirePositiveInteger_eq hasId (by omega), if_neg zero]
    dsimp only
    exact if_pos (other.resolve_left zero)

end Errors

end FlightComputer.BoardTester
