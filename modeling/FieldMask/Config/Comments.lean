import FieldMask.Unicode.Blank

/-!
# `FieldMask.Config.Comments`: comments and trailing commas

A configuration is JSON with comments, which run from `//` to the end of the line, and with a
comma allowed after the last item or member. `Config.strip` removes both and leaves plain JSON,
where strings are copied unit for unit.

A comma is held back, with the white space after it, until the next unit that is no white space: if
that unit is a closing bracket or brace, the comma is left out.
-/

set_option autoImplicit false

namespace FieldMask.Config

/-- Where the scan stands. -/
inductive Region where
  /-- Between tokens, or in a token that is no string. -/
  | plain
  /-- In a comment. -/
  | comment
  /-- In a string. -/
  | string
  /-- In a string, after a backslash. -/
  | escape
  deriving DecidableEq, Repr

/-- The comma that is held back, if there is one, and the white space after it. -/
def release : Option Text → Text
  | none => []
  | some blanks => 0x2C :: blanks

/-- The text without comments and trailing commas, from a region on and after a comma that is held
back with the white space that followed it. -/
def stripFrom : Region → Option Text → Text → Text
  | _, held, [] => release held
  | .string, held, u :: rest =>
    if u = 0x5C then u :: stripFrom .escape held rest
    else if u = 0x22 then u :: stripFrom .plain held rest
    else u :: stripFrom .string held rest
  | .escape, held, u :: rest => u :: stripFrom .string held rest
  | .comment, held, u :: rest =>
    if u = 0x0A then
      match held with
      | some blanks => stripFrom .plain (some (blanks ++ [u])) rest
      | none => u :: stripFrom .plain none rest
    else stripFrom .comment held rest
  | .plain, held, u :: rest =>
    if u = 0x2F ∧ rest.head? = some 0x2F then stripFrom .comment held rest
    else if u = 0x2C then release held ++ stripFrom .plain (some []) rest
    else if Unicode.isBlank u then
      match held with
      | some blanks => stripFrom .plain (some (blanks ++ [u])) rest
      | none => u :: stripFrom .plain none rest
    else if u = 0x5D ∨ u = 0x7D then held.getD [] ++ u :: stripFrom .plain none rest
    else if u = 0x22 then release held ++ u :: stripFrom .string none rest
    else release held ++ u :: stripFrom .plain none rest

/-- The text without comments and trailing commas. -/
def strip (t : Text) : Text := stripFrom .plain none t

end FieldMask.Config
