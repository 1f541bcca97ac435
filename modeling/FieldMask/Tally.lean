import FieldMask.Record

/-!
# `FieldMask.Tally`: how many values were masked

A `Tally` counts the masked values, in total and for each strategy name. The name `__proto__` is
reserved: a strategy of that name counts in the total alone. `Tally.add` says which other names are
left out.
-/

set_option autoImplicit false

namespace FieldMask

/-- Counts of masked values. -/
structure Tally where
  total : Nat
  byStrategy : Record Nat
  deriving DecidableEq, Repr

namespace Tally

/-- Nothing masked so far. -/
def empty : Tally := ⟨0, []⟩

/-- The name that has no count of its own. -/
def reservedName : Text := "__proto__"

/-- How many values the strategies of a name have masked. -/
def count (t : Tally) (name : Text) : Nat := (t.byStrategy.get? name).getD 0

/-- One more value masked by a strategy of the given name. A name without a count starts from zero.

This leaves out the names that every plain object inherits, such as `constructor` and `toString`.
Where counts are kept in such an object, a strategy of one of these names starts from the inherited
function in place of zero. Only `__proto__` is set apart here, and what is said about counts by name
is not meant for the other inherited names. -/
def add (t : Tally) (name : Text) : Tally where
  total := t.total + 1
  byStrategy :=
    if name = reservedName then t.byStrategy else t.byStrategy.set name (t.count name + 1)

/-- The counts by name, separated by commas. -/
def details (t : Tally) : Text :=
  Text.join ", " (t.byStrategy.map fun (name, n) => name ++ ("=" : Text) ++ Text.ofNat n)

end Tally

end FieldMask
