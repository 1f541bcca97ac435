import FieldMask.Settings

/-!
# `FieldMask.Environment`: options in layers

Options come in layers. `Options.orElse` lays options over others, setting by setting: what is given
in the upper layer counts, be it `false`, blank or empty. `Options.resolve` adds the layer of the
environment variables and, at the bottom, the defaults.
-/

set_option autoImplicit false

namespace FieldMask

/-- Environment variables. -/
structure Environment where
  entries : List (Text × Text)

namespace Environment

/-- The value of a variable. -/
def get? (env : Environment) (name : Text) : Option Text := env.entries.lookup name

/-- The words for yes. -/
def trueWords : List Text := ["true", "1", "yes", "on"]

/-- The words for no. -/
def falseWords : List Text := ["false", "0", "no", "off"]

/-- The truth value of a word, in any case and with white space around it. -/
def flagValue? (value : Text) : Option Bool :=
  let word := value.trim.lower
  if falseWords.contains word then some false
  else if trueWords.contains word then some true
  else none

/-- The truth value of a variable. A variable with any other value counts as missing. -/
def flag? (env : Environment) (name : Text) : Option Bool := (env.get? name).bind flagValue?

/-- The field names in a variable. An empty variable counts as missing. -/
def fields? (env : Environment) (name : Text) : Option FieldNames :=
  match env.get? name with
  | none | some [] => none
  | some csv => some (.list (Allowlist.parse csv))

end Environment

namespace Options

/-- The first options where they are given, the second ones where they are not. -/
def orElse (upper lower : Options) : Options where
  enabled := upper.enabled.or lower.enabled
  fields := upper.fields.or lower.fields
  strategies := upper.strategies.or lower.strategies
  failClosed := upper.failClosed.or lower.failClosed

/-- The options over those of the environment and the defaults. -/
def resolve (o : Options) (env : Environment) : Options where
  enabled := some ((o.enabled.or (env.flag? "DATAMASK_ENABLED")).getD true)
  fields := o.fields.or (env.fields? "DATAMASK_FIELDS")
  strategies := some (o.strategies.getD Strategy.defaults)
  failClosed := some ((o.failClosed.or (env.flag? "DATAMASK_FAIL_CLOSED")).getD false)

end Options

end FieldMask
