/-!
# `FieldMask.Text.Basic`: text as UTF-16 code units

A `Text` is a list of 16-bit code units. The escapes of a JSON string can name any unit, so a
text may hold half of a surrogate pair, which no sequence of Unicode scalar values can hold.
Positions and lengths count units.

`Text.ofString` writes a string in UTF-16. It is a coercion, so fixed wording is written as a
string literal. `Text.isInfix` tests for a contiguous part and `Text.splitWhen` cuts at single
units.
-/

set_option autoImplicit false

namespace FieldMask

/-- A UTF-16 code unit. -/
abbrev CodeUnit := UInt16

/-- A text: its UTF-16 code units in order. -/
abbrev Text := List CodeUnit

namespace Text

/-- The UTF-16 units of a Unicode code point: one below `0x10000`, a surrogate pair from there
on. -/
def ofPoint (point : Nat) : Text :=
  if point < 0x10000 then [UInt16.ofNat point]
  else
    [UInt16.ofNat (0xD800 + (point - 0x10000) / 0x400),
      UInt16.ofNat (0xDC00 + (point - 0x10000) % 0x400)]

/-- A string in UTF-16. -/
def ofString (s : String) : Text := s.toList.flatMap fun c => ofPoint c.toNat

instance : Coe String Text := ⟨ofString⟩

/-- The unit of an ASCII character. -/
def unit (c : Char) : CodeUnit := UInt16.ofNat c.toNat

/-- The decimal digits of a number. -/
def ofNat (n : Nat) : Text := ofString (toString n)

/-- The text `needle` occurs somewhere in the given text. -/
def isInfix (needle : Text) : Text → Bool
  | [] => needle.isEmpty
  | u :: rest => needle.isPrefixOf (u :: rest) || isInfix needle rest

/-- The parts between the units that satisfy `p`, in order. There is one part more than there are
such units, so an empty text has one empty part. -/
def splitWhen (p : CodeUnit → Bool) : Text → List Text
  | [] => [[]]
  | u :: rest =>
    if p u then [] :: splitWhen p rest
    else
      match splitWhen p rest with
      | [] => [[u]]
      | part :: parts => (u :: part) :: parts

/-- The texts one after the other, with `separator` between neighbours. -/
def join (separator : Text) : List Text → Text
  | [] => []
  | [part] => part
  | part :: parts => part ++ separator ++ join separator parts

@[simp]
theorem ofString_empty : ofString "" = [] := by decide

/-- Splitting yields at least one part. -/
theorem splitWhen_ne_nil (p : CodeUnit → Bool) (t : Text) : splitWhen p t ≠ [] := by
  cases t with
  | nil => simp [splitWhen]
  | cons u rest =>
    unfold splitWhen
    split
    · simp
    · split <;> simp

end Text

end FieldMask
