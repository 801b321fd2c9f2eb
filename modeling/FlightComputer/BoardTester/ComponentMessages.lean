import FlightComputer.BoardTester.JsonDecoding
import FlightComputer.BoardTester.RequestEncoding

/-!
# Component messages

How the tester decodes a line it received while a component test is active
(`component_messages.py`, `message_validation.py`). Every failure is a
`ProtocolMessageError`.
-/

set_option autoImplicit false

namespace FlightComputer.BoardTester

open Library

/-- A `ProtocolMessageError`, by its message. The message of the JSON decoder and
the `repr` of bytes and strings are not spelled out. -/
inductive ProtocolMessageError where
  | text (message : PyStr)
  | invalidJson (line : Bytes)
  | invalidStatus (status messageType : PyStr)
  deriving DecidableEq

/-- The members of a dictionary. -/
abbrev PyDict : Type := List (PyStr × PyJson)

/-- `raise ProtocolMessageError(...)` -/
def raiseText {α : Type} (pieces : List PyStr) : Except ProtocolMessageError α :=
  .error (.text pieces.flatten)

/-! ## Validation -/

/-- `require_object` -/
def requireObject (value : PyJson) (location : PyStr) : Except ProtocolMessageError PyDict :=
  match value with
  | .dict members => .ok members
  | _ => raiseText [location, pyStr " must be a JSON object"]

/-- `decode_object` -/
def decodeObject (line : Bytes) : Except ProtocolMessageError PyDict :=
  match decodeUtf8 line with
  | none => raiseText [pyStr "response is not valid UTF-8"]
  | some text =>
      match loads text with
      | none => .error (.invalidJson line)
      | some value => requireObject value (pyStr "response")

/-- The order of strings, by code points. -/
def pyStrLe : PyStr → PyStr → Bool
  | [], _ => true
  | _ :: _, [] => false
  | code :: text, code' :: text' => decide (code < code') || (code == code' && pyStrLe text text')

/-- `", ".join(sorted(names))` -/
def joinSorted (names : List PyStr) : PyStr :=
  (pyStr ", ").intercalate (names.mergeSort pyStrLe)

/-- `require_keys` -/
def requireKeys (value : PyDict) (keys : List PyStr) (location : PyStr) :
    Except ProtocolMessageError Unit :=
  let present := value.map Prod.fst
  let missing := keys.filter fun key => !present.contains key
  let unknown := present.filter fun key => !keys.contains key
  if missing.isEmpty && unknown.isEmpty then .ok ()
  else
    let detail := (if missing.isEmpty then [] else [pyStr "missing " ++ joinSorted missing]) ++
      if unknown.isEmpty then [] else [pyStr "unknown " ++ joinSorted unknown]
    raiseText [location, pyStr " has invalid fields (", (pyStr "; ").intercalate detail, pyStr ")"]

/-- `require_string` -/
def requireString (value : PyDict) (field location : PyStr) : Except ProtocolMessageError PyStr :=
  match value.lookup field with
  | some (.str text) =>
      if text.isEmpty then
        raiseText [location, pyStr ".", field, pyStr " must be a non-empty string"]
      else .ok text
  | _ => raiseText [location, pyStr ".", field, pyStr " must be a non-empty string"]

/-- `require_positive_integer` -/
def requirePositiveInteger (value : PyDict) (field location : PyStr) :
    Except ProtocolMessageError Int :=
  match value.lookup field with
  | some (.int result) =>
      if result ≤ 0 then raiseText [location, pyStr ".", field, pyStr " must be a positive integer"]
      else .ok result
  | _ => raiseText [location, pyStr ".", field, pyStr " must be a positive integer"]

/-! ## Messages -/

/-- `ComponentTestEvent` -/
structure ComponentTestEvent where
  commandId : Int
  testType : PyStr
  event : PyStr
  data : Option PyDict

/-- `ComponentTestCompletion` -/
structure ComponentTestCompletion where
  commandId : Int
  testType : PyStr
  status : PyStr
  deriving DecidableEq

/-- What `decode_component_test_message` returns. An acknowledgement is the type
of the message. -/
inductive ComponentTestMessage where
  | event (event : ComponentTestEvent)
  | completion (completion : ComponentTestCompletion)
  | acknowledgement (messageType : PyStr)

/-- Whether a float is the number one: a decimal number rounds to it when it is
not further away than half the distance to its neighbours. -/
def PyFloat.isOne : PyFloat → Bool
  | .decimal significand exponent =>
      let scaled : Int := significand * (10 ^ exponent.toNat * 2 ^ 54 : Nat)
      let unit : Nat := 10 ^ (-exponent).toNat
      decide (((2 ^ 54 - 1) * unit : Nat) ≤ scaled) && decide (scaled ≤ ((2 ^ 54 + 2) * unit : Nat))
  | .nan => false
  | .infinity _ => false

/-- `response.get("protocol_version") == PROTOCOL_VERSION`, as Python compares
numbers. -/
def isProtocolVersion : Option PyJson → Bool
  | some (.int value) => value == protocolVersion
  | some (.bool value) => value
  | some (.float value) => value.isOne
  | _ => false

/-- Whether a value is a given string. -/
def isPyStr (value : Option PyJson) (text : PyStr) : Bool :=
  match value with
  | some (.str other) => other == text
  | _ => false

/-- `_matching_command_id` -/
def matchingCommandId (value : PyDict) (expected : Int) : Except ProtocolMessageError Int := do
  let commandId ← requirePositiveInteger value (pyStr "command_id") (pyStr "response")
  if commandId ≠ expected then
    raiseText [pyStr "response command_id does not match active test"]
  else .ok commandId

/-- `_matching_test_type` -/
def matchingTestType (value : PyDict) (expected : PyStr) : Except ProtocolMessageError PyStr := do
  let testType ← requireString value (pyStr "test_type") (pyStr "response")
  if testType ≠ expected then raiseText [pyStr "response test_type does not match active test"]
  else .ok testType

/-- The fields that `_decode_event` requires. -/
def requiredEventFields : List PyStr :=
  [pyStr "protocol_version", pyStr "type", pyStr "command_id", pyStr "test_type", pyStr "event"]

/-- `_decode_event` -/
def decodeEvent (response : PyDict) (expectedCommandId : Int) (expectedTestType : PyStr) :
    Except ProtocolMessageError ComponentTestEvent := do
  let present := response.map Prod.fst
  if present.any (fun key => !(requiredEventFields ++ [pyStr "data"]).contains key) ||
      requiredEventFields.any fun key => !present.contains key then
    raiseText [pyStr "response has unexpected TEST_EVENT fields"]
  else
    let data ← match response.lookup (pyStr "data") with
      | none => .ok none
      | some .none => .ok none
      | some (.dict members) => .ok (some members)
      | some _ => raiseText [pyStr "response.data must be an object"]
    let commandId ← matchingCommandId response expectedCommandId
    let testType ← matchingTestType response expectedTestType
    let event ← requireString response (pyStr "event") (pyStr "response")
    .ok ⟨commandId, testType, event, data⟩

/-- `expected_statuses[message_type]` -/
def expectedStatuses (messageType : PyStr) : List PyStr :=
  if messageType = pyStr "TEST_STARTED" then [pyStr "running"]
  else if messageType = pyStr "TEST_COMPLETED" then [pyStr "passed", pyStr "failed"]
  else [pyStr "stopped"]

/-- `_decode_lifecycle_response` -/
def decodeLifecycleResponse (response : PyDict) (messageType : PyStr) (expectedCommandId : Int)
    (expectedTestType : PyStr) : Except ProtocolMessageError ComponentTestMessage := do
  requireKeys response
    [pyStr "protocol_version", pyStr "type", pyStr "command_id", pyStr "test_type",
      pyStr "status"] (pyStr "response")
  let commandId ← matchingCommandId response expectedCommandId
  let testType ← matchingTestType response expectedTestType
  let status ← requireString response (pyStr "status") (pyStr "response")
  if !(expectedStatuses messageType).contains status then .error (.invalidStatus status messageType)
  else if messageType = pyStr "TEST_COMPLETED" then
    .ok (.completion ⟨commandId, testType, status⟩)
  else .ok (.acknowledgement messageType)

/-- The branch of `decode_component_test_message` for an `ERROR` response, which
never returns. -/
def decodeError (response : PyDict) (expectedCommandId : Int) :
    Except ProtocolMessageError ComponentTestMessage := do
  requireKeys response
    [pyStr "protocol_version", pyStr "type", pyStr "command_id", pyStr "error"] (pyStr "response")
  let commandId ← requirePositiveInteger response (pyStr "command_id") (pyStr "response")
  if commandId ≠ expectedCommandId then
    raiseText [pyStr "response command_id does not match active test"]
  else
    let error ← requireString response (pyStr "error") (pyStr "response")
    raiseText [pyStr "device rejected component test: ", error]

/-- `decode_component_test_message`, on the decoded object. -/
def decodeComponentTestResponse (response : PyDict) (expectedCommandId : Int)
    (expectedTestType : PyStr) : Except ProtocolMessageError ComponentTestMessage :=
  if !isProtocolVersion (response.lookup (pyStr "protocol_version")) then
    raiseText [pyStr "response has an unsupported protocol_version"]
  else if isPyStr (response.lookup (pyStr "type")) (pyStr "ERROR") then
    decodeError response expectedCommandId
  else do
    let messageType ← requireString response (pyStr "type") (pyStr "response")
    if messageType = pyStr "TEST_EVENT" then
      (decodeEvent response expectedCommandId expectedTestType).map .event
    else if messageType = pyStr "TEST_STARTED" ∨ messageType = pyStr "TEST_COMPLETED" ∨
        messageType = pyStr "TEST_STOPPED" then
      decodeLifecycleResponse response messageType expectedCommandId expectedTestType
    else
      raiseText [pyStr "response type is not a component lifecycle message: ", messageType]

/-- `decode_component_test_message` -/
def decodeComponentTestMessage (line : Bytes) (expectedCommandId : Int)
    (expectedTestType : PyStr) : Except ProtocolMessageError ComponentTestMessage := do
  let response ← decodeObject line
  decodeComponentTestResponse response expectedCommandId expectedTestType

/-! ## The branches of the decoder -/

section Branches

variable {response : PyDict} {messageType : PyStr} (commandId : Int) (testType : PyStr)

theorem requireString_eq {field location text : PyStr} (found : response.lookup field = some (.str text))
    (nonempty : text.isEmpty = false) : requireString response field location = .ok text := by
  rw [requireString, found]
  exact if_neg (nonempty ▸ Bool.false_ne_true)

theorem requirePositiveInteger_eq {field location : PyStr} {number : Int}
    (found : response.lookup field = some (.int number)) (positive : 0 < number) :
    requirePositiveInteger response field location = .ok number := by
  rw [requirePositiveInteger, found]
  exact if_neg (Int.not_le.mpr positive)

variable (version : isProtocolVersion (response.lookup (pyStr "protocol_version")) = true)
include version

theorem decodeComponentTestResponse_event
    (typed : response.lookup (pyStr "type") = some (.str (pyStr "TEST_EVENT"))) :
    decodeComponentTestResponse response commandId testType =
      (decodeEvent response commandId testType).map .event := by
  rw [decodeComponentTestResponse, version, typed, requireString_eq typed (by decide)]
  rfl

theorem decodeComponentTestResponse_lifecycle {messageType : String}
    (typed : response.lookup (pyStr "type") = some (.str (pyStr messageType)))
    (lifecycle : messageType = "TEST_STARTED" ∨ messageType = "TEST_COMPLETED" ∨
      messageType = "TEST_STOPPED") :
    decodeComponentTestResponse response commandId testType =
      decodeLifecycleResponse response (pyStr messageType) commandId testType := by
  rcases lifecycle with rfl | rfl | rfl
  · rw [decodeComponentTestResponse, version, typed, requireString_eq typed (by decide)]
    rfl
  · rw [decodeComponentTestResponse, version, typed, requireString_eq typed (by decide)]
    rfl
  · rw [decodeComponentTestResponse, version, typed, requireString_eq typed (by decide)]
    rfl

end Branches

end FlightComputer.BoardTester
