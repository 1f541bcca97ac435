import FieldMask.Json.Basic
import FieldMask.Json.ParseError
import FieldMask.Strategy

/-!
# `FieldMask.Failure`: why a document could not be masked

A `Failure` is the cause, `Failure.reason` its class and `Failure.message` its wording.

A result that may be a failure is an `Except`; two of them can be compared when what they hold can.
-/

set_option autoImplicit false

namespace FieldMask

/-- Results are the same if both are values and the values are the same, or both are errors and the
errors are the same. -/
instance instDecidableEqResult {ε α : Type} [DecidableEq ε] [DecidableEq α] :
    DecidableEq (Except ε α)
  | .ok a, .ok b => decidable_of_iff (a = b) ⟨congrArg _, Except.ok.inj⟩
  | .error a, .error b => decidable_of_iff (a = b) ⟨congrArg _, Except.error.inj⟩
  | .ok _, .error _ => isFalse (by simp)
  | .error _, .ok _ => isFalse (by simp)

/-- Why a document could not be masked. -/
inductive Failure where
  /-- It is no JSON. -/
  | invalidJson (mistake : Json.ParseError)
  /-- It is JSON, but no object. -/
  | unsupportedRoot (kind : Json.Kind)
  /-- A mask refused a value. -/
  | internal (cause : Refusal)
  deriving DecidableEq, Repr

namespace Failure

/-- The class of a failure. -/
def reason : Failure → Text
  | .invalidJson _ => "invalid-json"
  | .unsupportedRoot _ => "unsupported-root"
  | .internal _ => "internal"

/-- The wording of a failure. -/
def message : Failure → Text
  | .invalidJson mistake => ("Invalid JSON: " : Text) ++ mistake.message
  | .unsupportedRoot kind => ("Unsupported document root: " : Text) ++ kind.text
  | .internal cause => ("Data masking failed: " : Text) ++ cause.message

/-- The failure is worth a log line. A root that is no object is passed on as a matter of course. -/
def isLogged : Failure → Bool
  | .unsupportedRoot _ => false
  | _ => true

end Failure

end FieldMask
