import FieldMask.Strategy

/-!
# `FieldMask.Registry`: strategies in order

A registry lists strategies in the order of their registration. The first one that accepts a field
is the strategy of that field.

* `find?_register`: a registration decides only about fields that had no strategy.
-/

set_option autoImplicit false

namespace FieldMask

/-- Strategies in the order of their registration. -/
structure Registry where
  strategies : List Strategy

namespace Registry

/-- The first strategy that accepts a field. -/
def find? (r : Registry) (field : Text) : Option Strategy :=
  r.strategies.find? fun s => s.accepts field

/-- The registry with one more strategy at its end. -/
def register (r : Registry) (s : Strategy) : Registry := ⟨r.strategies ++ [s]⟩

/-- The names of the strategies, in order. -/
def names (r : Registry) : List Text := r.strategies.map Strategy.name

/-- A registration decides only about fields that had no strategy. -/
theorem find?_register (r : Registry) (s : Strategy) (field : Text) :
    (r.register s).find? field =
      (r.find? field).or (if s.accepts field then some s else none) := by
  simp only [find?, register, List.find?_append, List.find?_singleton]

end Registry

end FieldMask
