import FieldMask.Text.Basic

/-!
# `FieldMask.Unicode.Blank`: white space

`isBlank` holds of the units that separate words and that trimming removes: the ASCII controls
from tab to carriage return, the space separators, the line and paragraph separators and the byte
order mark. All of them are single units. The next-line control and the zero-width space are not
white space.
-/

set_option autoImplicit false

namespace FieldMask.Unicode

/-- The white-space units other than the runs `0x09`–`0x0D` and `0x2000`–`0x200A`. -/
def singleBlanks : List CodeUnit :=
  [0x20, 0xA0, 0x1680, 0x2028, 0x2029, 0x202F, 0x205F, 0x3000, 0xFEFF]

/-- The unit is white space. -/
def isBlank (u : CodeUnit) : Bool :=
  (0x09 ≤ u && u ≤ 0x0D) || (0x2000 ≤ u && u ≤ 0x200A) || singleBlanks.contains u

end FieldMask.Unicode
