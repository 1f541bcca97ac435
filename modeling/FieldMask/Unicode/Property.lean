import FieldMask.Unicode.BinaryProperty
import FieldMask.Unicode.Category
import FieldMask.Unicode.Script

/-!
# `FieldMask.Unicode.Property`: properties by name

`property?` finds the code points that a property expression names: `Script=Greek`, `Lu`, `gc=Lu`
or `Alphabetic`. Names are compared exactly. `isIdStart` and `isIdContinue` say which code points a
group name is made of.
-/

set_option autoImplicit false

namespace FieldMask.Unicode

/-- The code points lie in one of the tables. -/
def RangeGroup.contains (group : RangeGroup) (c : Nat) : Bool :=
  group.any fun ranges => ranges.contains c

/-- The code points of a property with a value, or of a category or property without one. -/
def property? (name : String) (value : Option String) : Option RangeGroup :=
  match value with
  | none => (category? name).or ((binaryProperty? name).map ([·]))
  | some value =>
    if name = "General_Category" ∨ name = "gc" then category? value
    else if name = "Script" ∨ name = "sc" then (script? value false).map ([·])
    else if name = "Script_Extensions" ∨ name = "scx" then (script? value true).map ([·])
    else none

/-- The code points that have a property, none if there is no such property. -/
def havingProperty (name : String) (c : Nat) : Bool :=
  ((binaryProperty? name).getD []).contains c

/-- The code point can start a name. -/
def isIdStart (c : Nat) : Bool := c == 0x24 || c == 0x5F || havingProperty "ID_Start" c

/-- The code point can stand inside a name. -/
def isIdContinue (c : Nat) : Bool :=
  c == 0x24 || c == 0x200C || c == 0x200D || havingProperty "ID_Continue" c

end FieldMask.Unicode
