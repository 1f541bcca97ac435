import FieldMask.Text.Case
import FieldMask.Text.Words

/-!
# `FieldMask.Allowlist`: the fields in scope

The allowlist says which fields are in scope at all, whatever the strategies say. Field names are
compared in normal form, trimmed and in lower case. `Allowlist.create` takes the names as one text
with commas or as a list; blank names are left out, and if none is left the default fields count.
-/

set_option autoImplicit false

namespace FieldMask

/-- Field names as they are given: one text with commas, or a list. -/
inductive FieldNames where
  | text (csv : Text)
  | list (names : List Text)
  deriving DecidableEq, Repr

/-- The fields in scope, in normal form and without repetitions. -/
structure Allowlist where
  fields : List Text
  deriving DecidableEq, Repr

namespace Allowlist

/-- The normal form of a field name. -/
def normalize (field : Text) : Text := field.trim.lower

/-- The normal forms of names, without those that are empty. -/
def normalizeAll (names : List Text) : List Text :=
  (names.map normalize).filter fun field => !field.isEmpty

/-- The unit between the names of a text. -/
def comma : CodeUnit := 0x2C

/-- The normal forms of the names in a text with commas, without those that are empty. -/
def parse (csv : Text) : List Text := normalizeAll (csv.splitWhen (· == comma))

/-- The fields in scope where nothing is said. -/
def defaultFields : List Text :=
  ["name", "phone", "phonenumber", "phone_number", "email", "emailaddress", "email_address"]

/-- The fields in their order of first occurrence, after those of `seen`. -/
def distinct (seen : List Text) : List Text → List Text
  | [] => []
  | field :: rest =>
    if seen.contains field then distinct seen rest else field :: distinct (field :: seen) rest

/-- The normal forms of names as they are given, without those that are empty. -/
def entries : FieldNames → List Text
  | .text csv => parse csv
  | .list names => normalizeAll names

/-- The allowlist of the names that are given, or else of the default fields. -/
def create (names : Option FieldNames) : Allowlist :=
  let given := (names.map entries).getD []
  ⟨distinct [] (if given.isEmpty then defaultFields else given)⟩

/-- The field is in scope. -/
def allows (a : Allowlist) (field : Text) : Bool := a.fields.contains (normalize field)

end Allowlist

end FieldMask
