import FieldMask.Text.Point
import FieldMask.Text.Words
import FieldMask.Unicode.DecimalDigit

/-!
# `FieldMask.Mask`: hiding parts of a value

Three masks replace parts of a text by stars. They count code points, and a surrogate without its
partner is one.

* `Mask.name` keeps the first code point of each word.
* `Mask.email` keeps the first code point before the first `@`, and everything from there on.
* `Mask.digits` keeps everything but the decimal digits before the last code points.
-/

set_option autoImplicit false

namespace FieldMask.Mask

/-- The code point that stands for a hidden one. -/
def star : Nat := 0x2A

/-- Hides all code points but the first. -/
def hideTail : List Nat → List Nat
  | [] => []
  | c :: rest => c :: rest.map fun _ => star

/-- Hides all of a text but its first code point. -/
def tail (t : Text) : Text := Text.ofPoints (hideTail t.points)

/-- Hides all of each word but its first code point, and puts one space between the words. A blank
text stays as it is. -/
def name (t : Text) : Text := if t.isBlank then t else Text.join " " (t.words.map tail)

/-- The unit between the two parts of an address. -/
def atSign : CodeUnit := 0x40

/-- Hides all of what stands before the first `@` but its first code point. A text without `@`, or
with less than two code points before it, stays as it is. -/
def email (t : Text) : Text :=
  if t.contains atSign then
    let mailbox : Text := t.takeWhile (· != atSign)
    if mailbox.points.length < 2 then t else tail mailbox ++ t.dropWhile (· != atSign)
  else t

/-- Hides a code point if it is a decimal digit. -/
def hideDigit (c : Nat) : Nat := if Unicode.isDecimalDigit c then star else c

/-- Hides the decimal digits before the last `keep` code points. A text of at most `keep` code
points stays as it is. -/
def digits (keep : Nat) (t : Text) : Text :=
  let ps := t.points
  if ps.length ≤ keep then t
  else
    let cut := ps.length - keep
    Text.ofPoints ((ps.take cut).map hideDigit ++ ps.drop cut)

/-- How many code points of a phone number stay readable. -/
def phoneKeep : Nat := 3

/-- Hides the digits of a phone number but the last ones. -/
def phone (t : Text) : Text := digits phoneKeep t

end FieldMask.Mask
