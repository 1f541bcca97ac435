import FieldMask.Allowlist
import FieldMask.Registry

/-!
# `FieldMask.Settings`: what an engine is told

`Options` are settings as they are given, each of which may be missing. `Settings` are complete:
`Settings.create` puts the default in place of what is missing.
-/

set_option autoImplicit false

namespace FieldMask

/-- Settings as they are given. -/
structure Options where
  enabled : Option Bool := none
  fields : Option FieldNames := none
  strategies : Option (List Strategy) := none
  failClosed : Option Bool := none

/-- The settings of an engine. -/
structure Settings where
  /-- Documents are masked at all. -/
  enabled : Bool
  fields : Allowlist
  registry : Registry
  /-- A document that cannot be masked is refused, and not passed on. -/
  failClosed : Bool

namespace Settings

/-- The given settings, with defaults for those that are missing. -/
def create (o : Options) : Settings where
  enabled := o.enabled.getD true
  fields := Allowlist.create o.fields
  registry := ⟨o.strategies.getD Strategy.defaults⟩
  failClosed := o.failClosed.getD false

/-- The settings with one more strategy. -/
def register (s : Settings) (strategy : Strategy) : Settings :=
  { s with registry := s.registry.register strategy }

/-- The strategy for the values of a field, if the field is in scope and there is one. -/
def strategyFor? (s : Settings) (field : Text) : Option Strategy :=
  if s.fields.allows field then s.registry.find? field else none

/-- The words for the two truth values. -/
def flagText (b : Bool) : Text := if b then "true" else "false"

/-- The settings in one line. -/
def describe (s : Settings) : Text :=
  let strategies := Text.join ", " s.registry.names
  ("Masking enabled: " : Text) ++ flagText s.enabled ++
    (", Fields: " : Text) ++ Text.join ", " s.fields.fields ++
    (", Strategies: " : Text) ++ if strategies.isEmpty then ("none" : Text) else strategies

end Settings

end FieldMask
