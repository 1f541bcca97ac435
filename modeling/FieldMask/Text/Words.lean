import FieldMask.Unicode.Blank

/-!
# `FieldMask.Text.Words`: white space at the ends and between words

`Text.trim` removes white space at both ends of a text, `Text.words` lists its maximal runs
without white space, and `Text.isBlank` holds of the texts without any word. The three use one
set of white-space units.
-/

set_option autoImplicit false

namespace FieldMask.Text

/-- The text is empty or white space throughout. -/
def isBlank (t : Text) : Bool := t.all Unicode.isBlank

/-- The text without the white space at its start. -/
def trimStart (t : Text) : Text := t.dropWhile Unicode.isBlank

/-- The text without the white space at its end. -/
def trimEnd (t : Text) : Text := (t.reverse.dropWhile Unicode.isBlank).reverse

/-- The text without the white space at its ends. -/
def trim (t : Text) : Text := trimEnd (trimStart t)

/-- The maximal runs without white space, in order. -/
def words (t : Text) : List Text := (t.splitWhen Unicode.isBlank).filter fun word => !word.isEmpty

end FieldMask.Text
