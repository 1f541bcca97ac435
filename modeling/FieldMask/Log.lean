import FieldMask.Text.Basic

/-!
# `FieldMask.Log`: what is reported beside the result

A `LogLine` is a message for the operator, with the text of its cause if it reports an error with
one. `LogLine.console` is the line as the default log writes it.
-/

set_option autoImplicit false

namespace FieldMask

/-- A message for the operator. -/
inductive LogLine where
  | info (message : Text)
  | error (message : Text) (cause : Option Text)
  deriving DecidableEq, Repr

namespace LogLine

/-- What every written line begins with. -/
def tag : Text := "[mask] "

/-- The line as the default log writes it. -/
def console : LogLine → Text
  | .info message => tag ++ message
  | .error message none => tag ++ message
  | .error message (some cause) => tag ++ message ++ (": " : Text) ++ cause

/-- The line reports an error. -/
def isError : LogLine → Bool
  | .info _ => false
  | .error .. => true

end LogLine

end FieldMask
