import FieldMask.Allowlist
import FieldMask.Config.Issue
import FieldMask.Number.Binary64

/-!
# `FieldMask.Config.Schema`: the shape of a configuration

A `ConfigFile` is what a configuration says. `ConfigFile.ofJson` reads it from JSON and finds the
first issue in the order of the settings: `enabled`, `fields`, `failClosed`, `strategies`, `rules`,
and settings that mean nothing at the end. In a rule the order is `id`, `match`, `keep`; other
members of a rule mean nothing and are not looked at.
-/

set_option autoImplicit false

namespace FieldMask.Config

/-- The strategies that a configuration can ask for by name. -/
inductive OptionalStrategy where
  | account
  deriving DecidableEq, Repr

/-- A rule for a strategy of one's own. -/
structure Rule where
  id : Text
  pattern : Text
  keep : Option Binary64
  deriving DecidableEq, Repr

end FieldMask.Config

namespace FieldMask

/-- What a configuration says. -/
structure ConfigFile where
  enabled : Option Bool
  fields : Option FieldNames
  failClosed : Option Bool
  strategies : Option (List Config.OptionalStrategy)
  rules : Option (List Config.Rule)
  deriving DecidableEq, Repr

end FieldMask

namespace FieldMask.Config

/-- A reading of a JSON value that may find an issue. -/
abbrev Read (α : Type) := Json → Except Issue α

/-- The issue that a value is of another type. -/
def mismatch {α : Type} (expected : Shape) (j : Json) : Except Issue α :=
  .error ⟨[], .wrongType expected j.kind⟩

/-- A reading whose issues are seen from one level further out. -/
def under {α : Type} (step : Text) (r : Except Issue α) : Except Issue α :=
  r.mapError (Issue.inside step)

/-- Reads the value of a name that may be missing. -/
def optional {α : Type} (members : Record Json) (name : Text) (read : Read α) :
    Except Issue (Option α) :=
  match members.get? name with
  | none => .ok none
  | some j => under name ((read j).map some)

/-- Reads the value of a name that has to be there. -/
def required {α : Type} (members : Record Json) (name : Text) (read : Read α) : Except Issue α :=
  match members.get? name with
  | none => .error ⟨[name], .required⟩
  | some j => under name (read j)

/-- Reads items from a number on. -/
def items {α : Type} (read : Read α) (start : Nat) : List Json → Except Issue (List α)
  | [] => .ok []
  | j :: rest => do
    let a ← under (Text.ofNat start) (read j)
    let as ← items read (start + 1) rest
    return a :: as

/-- Reads a list. -/
def list {α : Type} (read : Read α) : Read (List α)
  | .array js => items read 0 js
  | j => mismatch .array j

/-- Reads a truth value. -/
def flag : Read Bool
  | .bool b => .ok b
  | j => mismatch .boolean j

/-- Reads a text. -/
def text : Read Text
  | .string t => .ok t
  | j => mismatch .string j

/-- Reads a text that is not empty. -/
def fullText : Read Text
  | .string t => if t.isEmpty then .error ⟨[], .emptyText⟩ else .ok t
  | j => mismatch .string j

/-- Reads a count. -/
def count : Read Binary64
  | .number spelling =>
    let n := Binary64.ofText spelling
    if !n.isWhole then .error ⟨[], .notWhole⟩
    else if n.isNegative then .error ⟨[], .negative⟩
    else .ok n
  | j => mismatch .number j

/-- Reads field names: one text, or a list of texts. -/
def fieldNames : Read FieldNames
  | .string t => .ok (.text t)
  | j =>
    match list text j with
    | .ok names => .ok (.list names)
    | .error _ => .error ⟨[], .invalidFields⟩

/-- Reads the name of a strategy that can be asked for. -/
def optionalStrategy : Read OptionalStrategy
  | .string t => if t = "account" then .ok .account else .error ⟨[], .unknownStrategy t⟩
  | j => mismatch .strategy j

/-- Reads a rule. -/
def rule : Read Rule
  | .object members => do
    let id ← required members "id" fullText
    let pattern ← required members "match" fullText
    let keep ← optional members "keep" count
    return ⟨id, pattern, keep⟩
  | j => mismatch .object j

/-- The settings that a configuration can have. -/
def knownKeys : List Text := ["enabled", "fields", "failClosed", "strategies", "rules"]

end FieldMask.Config

namespace FieldMask.ConfigFile

open Config

/-- Reads a configuration from JSON. -/
def ofJson : Json → Except Issue ConfigFile
  | .object members => do
    let enabled ← optional members "enabled" flag
    let fields ← optional members "fields" fieldNames
    let failClosed ← optional members "failClosed" flag
    let strategies ← optional members "strategies" (list optionalStrategy)
    let rules ← optional members "rules" (list rule)
    let unknown := (Record.names members).filter fun key => !knownKeys.contains key
    if !unknown.isEmpty then throw ⟨[], .unknownKeys unknown⟩
    return ⟨enabled, fields, failClosed, strategies, rules⟩
  | j => mismatch .object j

end FieldMask.ConfigFile
