import Mathlib.Algebra.Group.Nat.Defs
import Mathlib.Data.List.Basic

/-!
# Byte strings

Bytes are 8-bit words and a text is a list of them. `ascii` spells a string
literal as the bytes of its characters.
-/

set_option autoImplicit false

namespace FlightComputer.Library

/-- A byte string. -/
abbrev Bytes : Type := List UInt8

/-- The bytes of an ASCII text. -/
def ascii (text : String) : Bytes := text.toList.map Char.toUInt8

/-- Line feed. -/
def lineFeed : UInt8 := '\n'.toUInt8

/-- Carriage return. -/
def carriageReturn : UInt8 := '\r'.toUInt8

end FlightComputer.Library
