import FieldMask.Unicode.Ranges

/-!
# `FieldMask.Unicode.Packed`: ranges in packed form

A large table lists its ranges as hexadecimal numbers, two for each range: how many code points are
left out since the end of the range before it, and how many follow its first one. The numbers are
separated by spaces and spread over several lines. `Ranges.unpack` reads them.
-/

set_option autoImplicit false

namespace FieldMask.Unicode

/-- Several tables whose code points are taken together. -/
abbrev RangeGroup := List Ranges

/-- The value of a hexadecimal digit, in small letters. -/
def packedDigit (c : Char) : Nat :=
  if c.toNat < 0x61 then c.toNat - 0x30 else c.toNat - 0x61 + 10

/-- The numbers of a line, given the number that is being read. -/
def packedNumbers (value : Nat) : List Char → List Nat
  | [] => [value]
  | ' ' :: rest => value :: packedNumbers 0 rest
  | c :: rest => packedNumbers (value * 16 + packedDigit c) rest

namespace Ranges

/-- The ranges of numbers in pairs, from the code point `start` on. -/
def ofGaps (start : Nat) : List Nat → Ranges
  | gap :: more :: rest => (start + gap, start + gap + more) :: ofGaps (start + gap + more + 1) rest
  | _ => []

/-- The ranges of a packed table. -/
def unpack (lines : List String) : Ranges :=
  ofGaps 0 (lines.flatMap fun line => packedNumbers 0 line.toList)

end Ranges

end FieldMask.Unicode
