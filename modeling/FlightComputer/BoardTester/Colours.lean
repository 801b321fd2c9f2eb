import FlightComputer.BoardTester.ComponentMessages

/-!
# Colours

`colour_to_rgb` (`rgb_led/colours.py`) takes a CSS colour name, a hexadecimal value or
`rgb(r,g,b)`. Names and hexadecimal values are read by the package `webcolors`, and what
`str.lower` and `\d` of a regular expression do with a character is left to Python
(`ColourLibrary`).
-/

set_option autoImplicit false

namespace FlightComputer.BoardTester

open Library

/-- What is not part of the tester: `str.lower`, the value of a character that `\d` matches,
and `webcolors.hex_to_rgb` and `webcolors.name_to_rgb`, which may raise `ValueError`. -/
structure ColourLibrary where
  lower : PyStr → PyStr
  decimalDigit : Nat → Option Nat
  hexToRgb : PyStr → Option (Int × Int × Int)
  nameToRgb : PyStr → Option (Int × Int × Int)

/-- The channels that `webcolors` returns are bytes. -/
structure ColourLibrary.ReturnsBytes (library : ColourLibrary) : Prop where
  hex : ∀ text red green blue, library.hexToRgb text = some (red, green, blue) →
    ∀ channel ∈ [red, green, blue], 0 ≤ channel ∧ channel ≤ 255
  name : ∀ text red green blue, library.nameToRgb text = some (red, green, blue) →
    ∀ channel ∈ [red, green, blue], 0 ≤ channel ∧ channel ≤ 255

/-- `str.isspace`, for one character. -/
def isPySpace (code : Nat) : Bool :=
  (decide (0x09 ≤ code) && decide (code ≤ 0x0D)) || (decide (0x1C ≤ code) && decide (code ≤ 0x20)) ||
    (decide (0x2000 ≤ code) && decide (code ≤ 0x200A)) ||
    [0x85, 0xA0, 0x1680, 0x2028, 0x2029, 0x202F, 0x205F, 0x3000].contains code

/-- `str.strip` -/
def pyStrip (text : PyStr) : PyStr :=
  ((text.dropWhile isPySpace).reverse.dropWhile isPySpace).reverse

/-- `\s*(\d{1,3})\s*`, followed by a character. -/
def matchChannel (library : ColourLibrary) (after : Nat) (text : PyStr) : Option (Nat × PyStr) :=
  let start := text.dropWhile isPySpace
  let digits := start.takeWhile fun code => (library.decimalDigit code).isSome
  let rest := (start.drop digits.length).dropWhile isPySpace
  if 1 ≤ digits.length ∧ digits.length ≤ 3 ∧ rest.head? = some after then
    some ((digits.filterMap library.decimalDigit).foldl (fun value digit => 10 * value + digit) 0,
      rest.tail)
  else none

/-- `_RGB_FUNCTION.fullmatch(value)`, with its channels as integers. -/
def rgbFunction (library : ColourLibrary) (value : PyStr) : Option (Nat × Nat × Nat) :=
  if value.take 4 = pyStr "rgb(" then do
    let (red, value) ← matchChannel library ','.toNat (value.drop 4)
    let (green, value) ← matchChannel library ','.toNat value
    let (blue, value) ← matchChannel library ')'.toNat value
    if value = [] then some (red, green, blue) else none
  else none

/-- `ColourError` for a colour that `webcolors` does not know. -/
def unknownColour : ValueError := ⟨"colour must be a CSS3 name, #RRGGBB/#RGB value, or rgb(r,g,b)"⟩

/-- The part of `colour_to_rgb` that uses `webcolors`. -/
def convertColour (library : ColourLibrary) (value : PyStr) : Except ValueError (Int × Int × Int) :=
  let converted :=
    if value.head? = some '#'.toNat then library.hexToRgb value else library.nameToRgb value
  match converted with
  | some rgb => .ok rgb
  | none => .error unknownColour

/-- The part of `colour_to_rgb` for a string that is not blank. -/
def colourTextToRgb (library : ColourLibrary) (value : PyStr) :
    Except ValueError (Int × Int × Int) :=
  match rgbFunction library value with
  | some (red, green, blue) =>
      if 255 < red ∨ 255 < green ∨ 255 < blue then
        .error ⟨"rgb() channels must each be from 0 through 255"⟩
      else .ok (red, green, blue)
  | none => convertColour library value

/-- `colour_to_rgb` -/
def colourToRgb (library : ColourLibrary) (colour : PyJson) :
    Except ValueError (Int × Int × Int) :=
  match colour with
  | .str text =>
      if (pyStrip text).isEmpty then
        .error ⟨"colour must be a non-empty CSS name, hex value, or rgb() value"⟩
      else colourTextToRgb library (library.lower (pyStrip text))
  | _ => .error ⟨"colour must be a non-empty CSS name, hex value, or rgb() value"⟩

/-- **The channels of a colour are bytes**, if those of `webcolors` are. -/
theorem colourToRgb_bytes {library : ColourLibrary} (bytes : library.ReturnsBytes)
    {colour : PyJson} {red green blue : Int}
    (converted : colourToRgb library colour = .ok (red, green, blue)) :
    ∀ channel ∈ [red, green, blue], 0 ≤ channel ∧ channel ≤ 255 := by
  unfold colourToRgb at converted
  split at converted
  · split_ifs at converted
    rw [colourTextToRgb] at converted
    split at converted
    · split_ifs at converted with beyond
      obtain ⟨rfl, same⟩ := Prod.mk.inj (Except.ok.inj converted)
      obtain ⟨rfl, rfl⟩ := Prod.mk.inj same
      intro channel listed
      simp only [List.mem_cons, List.not_mem_nil, or_false] at listed
      omega
    · rw [convertColour] at converted
      split at converted
      · next rgb known =>
          obtain rfl := Except.ok.inj converted
          split_ifs at known
          · exact bytes.hex _ _ _ _ known
          · exact bytes.name _ _ _ _ known
      · cases converted
  · cases converted

end FlightComputer.BoardTester
