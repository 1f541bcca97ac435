import FieldMask.Text.Point
import FieldMask.Unicode.Cased
import FieldMask.Unicode.Lowercase

/-!
# `FieldMask.Text.Case`: the lower case of a text

The mapping works on code points and follows the full Unicode mappings, so a text can change its
length. `Text.lower` gives the capital sigma its final form at the end of a word: after a cased
letter and not before one, with case-ignorable code points looked through on both sides.
-/

set_option autoImplicit false

namespace FieldMask.Text

/-- The capital sigma. -/
def capitalSigma : Nat := 0x3A3

/-- The small sigma inside a word. -/
def smallSigma : Nat := 0x3C3

/-- The small sigma at the end of a word. -/
def finalSigma : Nat := 0x3C2

/-- The first code point that is not case-ignorable is there and is cased. -/
def startsCased : List Nat → Bool
  | [] => false
  | c :: rest => if Unicode.isCaseIgnorable c then startsCased rest else Unicode.isCased c

/-- The lower case of a code point between the code points `before`, nearest first, and
`after`. -/
def lowerPoint (before : List Nat) (c : Nat) (after : List Nat) : List Nat :=
  if c = capitalSigma then
    if startsCased before && !startsCased after then [finalSigma] else [smallSigma]
  else Unicode.toLower c

/-- The lower case of code points that follow `before`, which stands nearest first. -/
def lowerPoints (before : List Nat) : List Nat → List Nat
  | [] => []
  | c :: after => lowerPoint before c after ++ lowerPoints (c :: before) after

/-- The text in lower case. -/
def lower (t : Text) : Text := ofPoints (lowerPoints [] (points t))

end FieldMask.Text
