import FlightComputer.Firmware.Jsmn

/-!
# The request parser

`json_protocol.c` walks the tokens of a request. Keys and values alternate at
the top level; the value of `parameters` is an object whose pairs are walked in
place. A read of a token the tokenizer did not fill is kept apart from a
rejection (`ParseStop`), and C strings are the bytes before their terminator.
-/

set_option autoImplicit false

namespace FlightComputer.Firmware

open Library

/-- `JSON_PROTOCOL_TOKEN_CAPACITY` -/
def jsonProtocolTokenCapacity : Nat := 64

/-- `JSON_PROTOCOL_VERSION` -/
def jsonProtocolVersion : UInt32 := 1

/-- `JSON_PROTOCOL_TEST_UUID_LENGTH` -/
def jsonProtocolTestUuidLength : Nat := 36

/-- `JSON_PROTOCOL_TEST_TYPE_CAPACITY` -/
def jsonProtocolTestTypeCapacity : Nat := 32

/-- `json_protocol_request_type_t` -/
inductive JsonProtocolRequestType where
  | startTest
  | runComponentTest
  | stopComponentTest
  | invalid
  | unsupported
  deriving DecidableEq

/-- `json_protocol_request_t` -/
structure JsonProtocolRequest where
  type : JsonProtocolRequestType
  commandId : UInt32
  testUuid : Bytes
  testType : Bytes
  rgbColourPresent : Bool
  red : UInt8
  green : UInt8
  blue : UInt8
  deriving DecidableEq

/-- Why the parser stops early: it returns false, or it reads a token that was
not filled. -/
inductive ParseStop where
  | rejected
  | outOfRange
  deriving DecidableEq

/-- The bytes a token spans. -/
def tokenText (line : Bytes) (token : JsmnTok) : Bytes :=
  (line.drop token.start.toNat).take (token.end_ - token.start).toNat

/-- `token_equals` -/
def tokenEquals (line : Bytes) (token : JsmnTok) (value : String) : Bool :=
  decide (token.type = .string) && decide (tokenText line token = ascii value)

/-- The loop of `parse_positive_uint32` and `parse_uint8`: the digits are
accumulated until one is no digit or the value exceeds the limit. -/
def accumulateDigits (limit : Nat) : Nat → Bytes → Option Nat
  | parsed, [] => some parsed
  | parsed, character :: rest =>
      if character.toNat < 48 ∨ 57 < character.toNat then none
      else if limit < parsed * 10 + (character.toNat - 48) then none
      else accumulateDigits limit (parsed * 10 + (character.toNat - 48)) rest

/-- `parse_positive_uint32` -/
def parsePositiveUint32 (line : Bytes) (token : JsmnTok) : Option UInt32 :=
  if token.type ≠ .primitive ∨ token.start = token.end_ then none
  else
    match accumulateDigits (2 ^ 32 - 1) 0 (tokenText line token) with
    | none => none
    | some parsed => if parsed = 0 then none else some (UInt32.ofNat parsed)

/-- `parse_uint8` -/
def parseUint8 (line : Bytes) (token : JsmnTok) : Option UInt8 :=
  if token.type ≠ .primitive ∨ token.start = token.end_ then none
  else (accumulateDigits (2 ^ 8 - 1) 0 (tokenText line token)).map UInt8.ofNat

/-- The test of `copy_test_uuid` on one character. -/
def uuidCharacterFits (index : Nat) (character : UInt8) : Bool :=
  let hyphen := index == 8 || index == 13 || index == 18 || index == 23
  let hexadecimal := (decide ('0'.toUInt8 ≤ character) && decide (character ≤ '9'.toUInt8)) ||
    (decide ('a'.toUInt8 ≤ character) && decide (character ≤ 'f'.toUInt8))
  if hyphen then character == '-'.toUInt8 else hexadecimal

/-- The conditions of `copy_test_uuid` on the text of a string token. -/
def isTestUuid (text : Bytes) : Bool :=
  text.length == jsonProtocolTestUuidLength && !text.contains backslash &&
    (text.zipIdx.all fun entry => uuidCharacterFits entry.2 entry.1) &&
      text[14]? == some '4'.toUInt8

/-- `copy_test_uuid` -/
def copyTestUuid (line : Bytes) (token : JsmnTok) : Option Bytes :=
  if token.type = .string && isTestUuid (tokenText line token) then some (tokenText line token)
  else none

/-- The test of `copy_test_type` on one character. -/
def testTypeCharacterFits (character : UInt8) : Bool :=
  (decide ('a'.toUInt8 ≤ character) && decide (character ≤ 'z'.toUInt8)) ||
    (decide ('0'.toUInt8 ≤ character) && decide (character ≤ '9'.toUInt8)) ||
      character == '_'.toUInt8

/-- The conditions of `copy_test_type` on the text of a string token. -/
def isTestType (text : Bytes) : Bool :=
  text.length != 0 && decide (text.length < jsonProtocolTestTypeCapacity) &&
    !text.contains backslash && text.all testTypeCharacterFits

/-- `copy_test_type` -/
def copyTestType (line : Bytes) (token : JsmnTok) : Option Bytes :=
  if token.type = .string && isTestType (tokenText line token) then some (tokenText line token)
  else none

/-- `tokens[index]` -/
def tokenAt (tokens : List JsmnTok) (index : Nat) : Except ParseStop JsmnTok :=
  match tokens[index]? with
  | some token => .ok token
  | none => .error .outOfRange

/-- A value, or `return false`. -/
def orReject {α : Type} : Option α → Except ParseStop α
  | some value => .ok value
  | none => .error .rejected

/-- The request with the flags of `parse_rgb_parameters`. -/
structure RgbState where
  request : JsonProtocolRequest
  redSeen : Bool
  greenSeen : Bool
  blueSeen : Bool
  deriving DecidableEq

/-- The body of the loop of `parse_rgb_parameters`. -/
def parseRgbPair (line : Bytes) (key value : JsmnTok) (state : RgbState) :
    Except ParseStop RgbState :=
  if tokenEquals line key "red" then
    if state.redSeen then .error .rejected
    else (orReject (parseUint8 line value)).map fun red =>
      { state with request := { state.request with red := red }, redSeen := true }
  else if tokenEquals line key "green" then
    if state.greenSeen then .error .rejected
    else (orReject (parseUint8 line value)).map fun green =>
      { state with request := { state.request with green := green }, greenSeen := true }
  else if tokenEquals line key "blue" then
    if state.blueSeen then .error .rejected
    else (orReject (parseUint8 line value)).map fun blue =>
      { state with request := { state.request with blue := blue }, blueSeen := true }
  else .error .rejected

/-- The loop of `parse_rgb_parameters`, as long as its bound lasts. -/
def parseRgbLoop (line : Bytes) (tokens : List JsmnTok) (object : JsmnTok) :
    Nat → Nat → RgbState → Except ParseStop (Nat × RgbState)
  | 0, index, state => .ok (index, state)
  | bound + 1, index, state =>
      if tokens.length ≤ index + 1 then .ok (index, state)
      else do
        let key ← tokenAt tokens index
        if object.end_ ≤ key.start then .ok (index, state)
        else do
          let value ← tokenAt tokens (index + 1)
          let state ← parseRgbPair line key value state
          parseRgbLoop line tokens object bound (index + 2) state

/-- `parse_rgb_parameters`: each iteration of its loop moves on by two tokens. -/
def parseRgbParameters (line : Bytes) (tokens : List JsmnTok) (nextIndex : Nat)
    (request : JsonProtocolRequest) : Except ParseStop (Nat × JsonProtocolRequest) := do
  let object ← tokenAt tokens (nextIndex - 1)
  if object.type ≠ .object then .error .rejected
  else do
    let (index, state) ← parseRgbLoop line tokens object tokens.length nextIndex
      ⟨request, false, false, false⟩
    if tokens.length < index ∨ !state.redSeen ∨ !state.greenSeen ∨ !state.blueSeen then
      .error .rejected
    else .ok (index, { state.request with rgbColourPresent := true })

/-- The request with the flags of `json_protocol_parse_request`. -/
structure RequestState where
  request : JsonProtocolRequest
  versionSeen : Bool
  typeSeen : Bool
  commandIdSeen : Bool
  testUuidSeen : Bool
  testTypeSeen : Bool
  parametersSeen : Bool
  deriving DecidableEq

/-- The assignments before the tokenizer runs. -/
def initialRequestState : RequestState where
  request :=
    { type := .invalid, commandId := 0, testUuid := [], testType := [], rgbColourPresent := false,
      red := 0, green := 0, blue := 0 }
  versionSeen := false
  typeSeen := false
  commandIdSeen := false
  testUuidSeen := false
  testTypeSeen := false
  parametersSeen := false

/-- The request type that a `type` member names. -/
def requestTypeOf (line : Bytes) (value : JsmnTok) : JsonProtocolRequestType :=
  if tokenEquals line value "START_TEST" then .startTest
  else if tokenEquals line value "RUN_COMPONENT_TEST" then .runComponentTest
  else if tokenEquals line value "STOP_COMPONENT_TEST" then .stopComponentTest
  else .unsupported

/-- The body of the loop of `json_protocol_parse_request`; `index` is already
past the value. -/
def parseRequestPair (line : Bytes) (tokens : List JsmnTok) (key value : JsmnTok) (index : Nat)
    (state : RequestState) : Except ParseStop (Nat × RequestState) :=
  if tokenEquals line key "protocol_version" then
    if state.versionSeen then .error .rejected
    else do
      let version ← orReject (parsePositiveUint32 line value)
      if version ≠ jsonProtocolVersion then .error .rejected
      else .ok (index, { state with versionSeen := true })
  else if tokenEquals line key "type" then
    if state.typeSeen ∨ value.type ≠ .string then .error .rejected
    else
      .ok (index,
        { state with
          request := { state.request with type := requestTypeOf line value }
          typeSeen := true })
  else if tokenEquals line key "command_id" then
    if state.commandIdSeen then .error .rejected
    else (orReject (parsePositiveUint32 line value)).map fun commandId =>
      (index,
        { state with
          request := { state.request with commandId := commandId }
          commandIdSeen := true })
  else if tokenEquals line key "test_uuid" then
    if state.testUuidSeen then .error .rejected
    else (orReject (copyTestUuid line value)).map fun testUuid =>
      (index,
        { state with
          request := { state.request with testUuid := testUuid }
          testUuidSeen := true })
  else if tokenEquals line key "test_type" then
    if state.testTypeSeen then .error .rejected
    else (orReject (copyTestType line value)).map fun testType =>
      (index,
        { state with
          request := { state.request with testType := testType }
          testTypeSeen := true })
  else if tokenEquals line key "parameters" then
    if state.parametersSeen then .error .rejected
    else (parseRgbParameters line tokens index state.request).map fun (index, request) =>
      (index, { state with request := request, parametersSeen := true })
  else .error .rejected

/-- The loop of `json_protocol_parse_request`, as long as its bound lasts. -/
def parseRequestLoop (line : Bytes) (tokens : List JsmnTok) :
    Nat → Nat → RequestState → Except ParseStop RequestState
  | 0, _, state => .ok state
  | bound + 1, index, state =>
      if tokens.length ≤ index then .ok state
      else do
        let key ← tokenAt tokens index
        let value ← tokenAt tokens (index + 1)
        let (index, state) ← parseRequestPair line tokens key value (index + 2) state
        parseRequestLoop line tokens bound index state

/-- The conditions at the end of `json_protocol_parse_request`. -/
def requestComplete (tokenCount : Nat) (state : RequestState) : Bool :=
  state.versionSeen && state.typeSeen && state.commandIdSeen &&
    match state.request.type with
    | .startTest =>
        tokenCount == 9 && state.testUuidSeen && !state.testTypeSeen && !state.parametersSeen
    | .runComponentTest =>
        let isRgbLed := decide (state.request.testType = ascii "rgb_led")
        state.testTypeSeen && !state.testUuidSeen &&
          ((isRgbLed && tokenCount == 17 && state.parametersSeen) ||
            (!isRgbLed && tokenCount == 9 && !state.parametersSeen))
    | .stopComponentTest =>
        tokenCount == 7 && !state.testUuidSeen && !state.testTypeSeen && !state.parametersSeen
    | .invalid | .unsupported => false

/-- `json_protocol_parse_request` on the tokens of a line. -/
def parseRequestTokens (line : Bytes) (tokens : List JsmnTok) :
    Except ParseStop JsonProtocolRequest :=
  if tokens.length ≠ 7 ∧ tokens.length ≠ 9 ∧ tokens.length ≠ 17 then .error .rejected
  else do
    let root ← tokenAt tokens 0
    if root.type ≠ .object then .error .rejected
    else do
      let state ← parseRequestLoop line tokens tokens.length 1 initialRequestState
      if requestComplete tokens.length state then .ok state.request else .error .rejected

/-- `json_protocol_parse_request`: the request when it returns true. Its caller
reads the request only then. -/
def jsonProtocolParseRequest (line : Bytes) : Except ParseStop JsonProtocolRequest :=
  match jsmnParse line jsonProtocolTokenCapacity with
  | .error _ => .error .rejected
  | .ok tokens => parseRequestTokens line tokens

end FlightComputer.Firmware
