import FieldMask.Text.Basic

/-!
# `FieldMask.Json.ParseError`: why a text is no JSON document

`ParseError` lists the mistakes of a JSON text with the places where they show, and
`ParseError.message` words them. Places count units from the start of the text.
-/

set_option autoImplicit false

namespace FieldMask.Json

/-- What the text should have gone on with. -/
inductive Expected where
  | value
  | endOfInput
  | comma
  | key
  | keyOrEnd
  | colon
  | item
  | itemOrEnd
  | endOfString
  deriving DecidableEq, Repr

/-- The wording of what was expected. -/
def Expected.text : Expected → Text
  | .value => "JSON value expected"
  | .endOfInput => "Expected end of input"
  | .comma => "Comma ',' expected after value"
  | .key => "Quoted object key expected"
  | .keyOrEnd => "Quoted object key or end of object '\x7d' expected"
  | .colon => "Colon ':' expected after property name"
  | .item => "Array item expected"
  | .itemOrEnd => "Array item or end of array ']' expected"
  | .endOfString => "End of string '\"' expected"

/-- A place in the text and the unit there, if the text has not ended. -/
structure Found where
  unit : Option CodeUnit
  position : Nat
  deriving DecidableEq, Repr

/-- The wording of a position. -/
def atPosition (position : Nat) : Text := " at position " ++ Text.ofNat position

/-- The wording of what was found. -/
def Found.text (f : Found) : Text :=
  (match f.unit with
    | some u => ("but got '" : Text) ++ [u] ++ ("'" : Text)
    | none => "but reached end of input") ++ atPosition f.position

/-- A mistake in a JSON text. -/
inductive ParseError where
  /-- Something else was expected than what was found. -/
  | expected (what : Expected) (found : Found)
  /-- A member has no value. -/
  | memberValueExpected (position : Nat)
  /-- A digit was expected after the beginning of a number. -/
  | digitExpected (beginning : Text) (found : Found)
  /-- A backslash is followed by a unit that makes no escape. -/
  | invalidEscape (escape : Text) (position : Nat)
  /-- The digits of an escape by number are not all there. -/
  | invalidUnicodeEscape (escape : Text) (position : Nat)
  /-- A control stands unescaped in a string. -/
  | invalidCharacter (u : CodeUnit) (position : Nat)
  /-- A member name comes again with another value. -/
  | repeatedKey (key : Text) (position : Nat)
  deriving DecidableEq, Repr

/-- The text in single quotes. -/
def quoted (t : Text) : Text := ("'" : Text) ++ t ++ ("'" : Text)

/-- The wording of a mistake. -/
def ParseError.message : ParseError → Text
  | .expected what found => what.text ++ (" " : Text) ++ found.text
  | .memberValueExpected position =>
    ("Object value expected after ':'" : Text) ++ atPosition position
  | .digitExpected beginning found =>
    ("Invalid number " : Text) ++ quoted beginning ++ (", expecting a digit " : Text) ++ found.text
  | .invalidEscape escape position =>
    ("Invalid escape character " : Text) ++ quoted escape ++ atPosition position
  | .invalidUnicodeEscape escape position =>
    ("Invalid unicode character " : Text) ++ quoted escape ++ atPosition position
  | .invalidCharacter u position =>
    ("Invalid character " : Text) ++ quoted [u] ++ atPosition position
  | .repeatedKey key position =>
    ("Duplicate key " : Text) ++ quoted key ++ (" encountered" : Text) ++ atPosition position

end FieldMask.Json
