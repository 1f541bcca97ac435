import FieldMask.Json.Basic
import FieldMask.Text.Point

/-!
# `FieldMask.Json.Printer`: writing JSON

`Json.print` writes a value without white space. A number is written as it is spelled. In a string
the quote, the backslash, the controls below `0x20` and each surrogate without its partner are
escaped; everything else stands for itself.
-/

set_option autoImplicit false

namespace FieldMask.Json

/-- A hexadecimal digit, in small letters. -/
def hexDigit (n : Nat) : CodeUnit :=
  UInt16.ofNat (if n % 16 < 10 then 0x30 + n % 16 else 0x61 + (n % 16 - 10))

/-- The escape of a unit by its number. -/
def unicodeEscape (u : CodeUnit) : Text :=
  let n := u.toNat
  [0x5C, 0x75, hexDigit (n / 0x1000), hexDigit (n / 0x100), hexDigit (n / 0x10), hexDigit n]

/-- A unit that is no half of a surrogate pair, inside a string. -/
def printUnit (u : CodeUnit) : Text :=
  if u = 0x22 ∨ u = 0x5C then [0x5C, u]
  else if u = 0x08 then [0x5C, Text.unit 'b']
  else if u = 0x0C then [0x5C, Text.unit 'f']
  else if u = 0x0A then [0x5C, Text.unit 'n']
  else if u = 0x0D then [0x5C, Text.unit 'r']
  else if u = 0x09 then [0x5C, Text.unit 't']
  else if u < 0x20 ∨ Text.isHigh u ∨ Text.isLow u then unicodeEscape u
  else [u]

/-- The inside of a string. -/
def printUnits : Text → Text
  | [] => []
  | [u] => printUnit u
  | u :: v :: rest =>
    if Text.isHigh u && Text.isLow v then u :: v :: printUnits rest
    else printUnit u ++ printUnits (v :: rest)

/-- A string with its quotes. -/
def printString (t : Text) : Text := 0x22 :: (printUnits t ++ [0x22])

mutual

/-- A value without white space. -/
def print : Json → Text
  | .null => "null"
  | .bool b => if b then "true" else "false"
  | .number spelling => spelling
  | .string t => printString t
  | .array items => 0x5B :: (printItems items ++ [0x5D])
  | .object members => 0x7B :: (printMembers members ++ [0x7D])

/-- The items of an array, with commas. -/
def printItems : List Json → Text
  | [] => []
  | [j] => j.print
  | j :: k :: rest => j.print ++ (0x2C :: printItems (k :: rest))

/-- The members of an object, with commas. -/
def printMembers : List (Text × Json) → Text
  | [] => []
  | [(name, j)] => printString name ++ (0x3A :: j.print)
  | (name, j) :: next :: rest =>
    printString name ++ (0x3A :: (j.print ++ (0x2C :: printMembers (next :: rest))))

end

end FieldMask.Json
