import FlightComputer.Library.Json
import Mathlib.Data.List.Perm.Basic

/-!
# Requests

The commands that the tester sends: what they say (`Request`), which of them
are allowed (`Request.Valid`), and how one is written as a JSON object
(`Request.IsText`): its members in any order, the members of `parameters` in any
order, any whitespace, plain decimal integers and no escapes.
-/

set_option autoImplicit false

namespace FlightComputer

open Library

/-! ## Members -/

/-- The channels of an RGB colour. -/
inductive RgbChannel where
  | red
  | green
  | blue
  deriving DecidableEq

/-- The name of a channel in the `parameters` object. -/
def RgbChannel.name : RgbChannel → Bytes
  | .red => ascii "red"
  | .green => ascii "green"
  | .blue => ascii "blue"

/-- A member of the `parameters` object: the channel and the literal. -/
abbrev ChannelMember : Type := RgbChannel × Bytes

/-- A member of a request, as it is spelled. -/
inductive RequestMember where
  | protocolVersion (literal : Bytes)
  | type (content : Bytes)
  | commandId (literal : Bytes)
  | testUuid (content : Bytes)
  | testType (content : Bytes)
  | parameters (channels : List ChannelMember)
  deriving DecidableEq

/-- The kinds of members. -/
inductive MemberKind where
  | protocolVersion
  | type
  | commandId
  | testUuid
  | testType
  | parameters
  deriving DecidableEq

/-- The kind of a member. -/
def memberKind : RequestMember → MemberKind
  | .protocolVersion _ => .protocolVersion
  | .type _ => .type
  | .commandId _ => .commandId
  | .testUuid _ => .testUuid
  | .testType _ => .testType
  | .parameters _ => .parameters

/-- The name of the members of a kind. -/
def MemberKind.name : MemberKind → Bytes
  | .protocolVersion => ascii "protocol_version"
  | .type => ascii "type"
  | .commandId => ascii "command_id"
  | .testUuid => ascii "test_uuid"
  | .testType => ascii "test_type"
  | .parameters => ascii "parameters"

/-- The name of a member. -/
def RequestMember.name (member : RequestMember) : Bytes := (memberKind member).name

/-- The tree of a channel. -/
def channelTree (channel : ChannelMember) : Bytes × JsonTree :=
  (channel.1.name, .literal channel.2)

/-- The value of a member. -/
def RequestMember.value : RequestMember → JsonTree
  | .protocolVersion literal => .literal literal
  | .type content => .string content
  | .commandId literal => .literal literal
  | .testUuid content => .string content
  | .testType content => .string content
  | .parameters channels => .object (channels.map channelTree)

/-- The tree of a member. -/
def memberTree (member : RequestMember) : Bytes × JsonTree := (member.name, member.value)

/-- The object that members make. -/
def requestTree (members : List RequestMember) : JsonTree := .object (members.map memberTree)

/-! ## Requests -/

/-- An RGB colour. -/
structure RgbColour where
  red : UInt8
  green : UInt8
  blue : UInt8
  deriving DecidableEq

/-- What a request asks for. -/
inductive RequestBody where
  | startTest (testUuid : Bytes)
  | runComponentTest (testType : Bytes) (colour : Option RgbColour)
  | stopComponentTest
  deriving DecidableEq

/-- A request. -/
structure Request where
  commandId : Nat
  body : RequestBody
  deriving DecidableEq

/-- A hexadecimal digit in lower case. -/
def isLowerHexDigit (byte : UInt8) : Bool :=
  isDecimalDigit byte.toNat || (decide (97 ≤ byte.toNat) && decide (byte.toNat ≤ 102))

/-- Where the hyphens of a UUID stand. -/
def uuidHyphens : List Nat := [8, 13, 18, 23]

/-- A UUID in its canonical form, in lower case. -/
structure IsCanonicalUuid (text : Bytes) : Prop where
  length : text.length = 36
  hyphens : ∀ index ∈ uuidHyphens, text[index]? = some '-'.toUInt8
  digits : ∀ index byte, text[index]? = some byte → index ∉ uuidHyphens →
    isLowerHexDigit byte = true

/-- The version of a UUID is 4. -/
def HasVersion4 (text : Bytes) : Prop := text[14]? = some '4'.toUInt8

/-- The variant of a UUID is that of RFC 9562. -/
def HasRfcVariant (text : Bytes) : Prop :=
  text[19]? = some '8'.toUInt8 ∨ text[19]? = some '9'.toUInt8 ∨
    text[19]? = some 'a'.toUInt8 ∨ text[19]? = some 'b'.toUInt8

/-- The bytes of a test type. -/
def isTestTypeByte (byte : UInt8) : Bool :=
  (decide (97 ≤ byte.toNat) && decide (byte.toNat ≤ 122)) || isDecimalDigit byte.toNat ||
    byte == '_'.toUInt8

/-- A test type. -/
structure IsTestTypeName (text : Bytes) : Prop where
  nonempty : 1 ≤ text.length
  bounded : text.length ≤ 31
  bytes : ∀ byte ∈ text, isTestTypeByte byte = true

/-- No byte of a UUID needs an escape. -/
theorem IsCanonicalUuid.plain {text : Bytes} (uuid : IsCanonicalUuid text) :
    ∀ byte ∈ text, isPlainStringByte byte = true ∧ byte.toNat ≤ 126 := by
  intro byte listed
  obtain ⟨index, found⟩ := List.getElem?_of_mem listed
  by_cases hyphen : index ∈ uuidHyphens
  · have there := uuid.hyphens index hyphen
    rw [found] at there
    obtain rfl := Option.some.inj there
    decide
  · have legal := uuid.digits index byte found hyphen
    simp only [isLowerHexDigit, isDecimalDigit, Bool.or_eq_true, Bool.and_eq_true,
      decide_eq_true_eq] at legal
    rw [isPlainStringByte_iff]
    omega

/-- No byte of a test type needs an escape. -/
theorem IsTestTypeName.plain {text : Bytes} (named : IsTestTypeName text) :
    ∀ byte ∈ text, isPlainStringByte byte = true ∧ byte.toNat ≤ 126 := by
  intro byte listed
  have legal := named.bytes byte listed
  simp only [isTestTypeByte, isDecimalDigit, Bool.or_eq_true, Bool.and_eq_true, decide_eq_true_eq,
    beq_iff_eq] at legal
  rw [isPlainStringByte_iff]
  rcases legal with (letter | digit) | rfl
  · omega
  · omega
  · decide

/-- The only test type with parameters. -/
def rgbLed : Bytes := ascii "rgb_led"

/-- What is allowed in a request of each kind, apart from the variant of a UUID. -/
def RequestBody.Admissible : RequestBody → Prop
  | .startTest testUuid => IsCanonicalUuid testUuid ∧ HasVersion4 testUuid
  | .runComponentTest testType colour =>
      IsTestTypeName testType ∧ (colour.isSome = true ↔ testType = rgbLed)
  | .stopComponentTest => True

/-- What is allowed in a request, apart from the variant of a UUID. -/
structure Request.Admissible (request : Request) : Prop where
  positive : 1 ≤ request.commandId
  bounded : request.commandId ≤ 2 ^ 32 - 1
  body : request.body.Admissible

/-- A request with a canonical UUID of version 4, where it has one. -/
structure Request.Valid (request : Request) : Prop extends request.Admissible where
  variant : ∀ testUuid, request.body = .startTest testUuid → HasRfcVariant testUuid

/-! ## Spelling -/

/-- How a literal may stand for a number. -/
abbrev Numeral : Type := Nat → Bytes → Prop

/-- Plain decimal integers. -/
def plainNumeral : Numeral := fun n literal => literal = decimalText n

/-- Decimal digits, with leading zeros or without. -/
def paddedNumeral : Numeral := fun n literal =>
  AllDigits literal ∧ numeralValue (codes literal) = n

/-- The name of a request type. -/
def RequestBody.typeName : RequestBody → Bytes
  | .startTest _ => ascii "START_TEST"
  | .runComponentTest _ _ => ascii "RUN_COMPONENT_TEST"
  | .stopComponentTest => ascii "STOP_COMPONENT_TEST"

/-- The channels of a colour, in any order. -/
def RgbColour.SpelledBy (numeral : Numeral) (colour : RgbColour)
    (channels : List ChannelMember) : Prop :=
  ∃ red green blue, numeral colour.red.toNat red ∧ numeral colour.green.toNat green ∧
    numeral colour.blue.toNat blue ∧
      channels.Perm [(.red, red), (.green, green), (.blue, blue)]

/-- The members that only some requests have. -/
def RequestBody.SpelledBy (numeral : Numeral) : RequestBody → List RequestMember → Prop
  | .startTest testUuid, members => members = [.testUuid testUuid]
  | .runComponentTest testType none, members => members = [.testType testType]
  | .runComponentTest testType (some colour), members =>
      ∃ channels, colour.SpelledBy numeral channels ∧
        members = [.testType testType, .parameters channels]
  | .stopComponentTest, members => members = []

/-- The members of a request, in any order. -/
def Request.SpelledBy (numeral : Numeral) (request : Request) (members : List RequestMember) :
    Prop :=
  ∃ version commandId others, numeral 1 version ∧ numeral request.commandId commandId ∧
    request.body.SpelledBy numeral others ∧
      members.Perm (.protocolVersion version :: .type request.body.typeName ::
        .commandId commandId :: others)

/-- **The JSON texts of a request**: one object with its members and nothing
else. -/
def Request.IsText (request : Request) (text : Bytes) : Prop :=
  ∃ members, request.SpelledBy plainNumeral members ∧ IsJsonText text (requestTree members)

end FlightComputer
