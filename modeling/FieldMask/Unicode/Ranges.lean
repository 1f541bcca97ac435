/-!
# `FieldMask.Unicode.Ranges`: tables over code points

`Ranges` is a set of code points, written as ranges in ascending order. `CaseTable` is a map
between code points, written as ranges that move by one distance. A case table moves every code
point that it lists and leaves every other one where it is.
-/

set_option autoImplicit false

namespace FieldMask.Unicode

/-- A set of code points: its ranges, first and last point included, in ascending order. -/
abbrev Ranges := List (Nat × Nat)

namespace Ranges

/-- The code point lies in one of the ranges. -/
def contains : Ranges → Nat → Bool
  | [], _ => false
  | (first, last) :: rest, c => if c < first then false else c ≤ last || contains rest c

end Ranges

/-- A range of code points that a case mapping moves by the same distance. With stride 2 the range
holds every other code point, as where capital and small letters alternate. -/
structure CaseRange where
  first : Nat
  last : Nat
  stride : Nat
  offset : Int
  deriving Repr, DecidableEq

/-- The range holds the code point. -/
def CaseRange.contains (r : CaseRange) (c : Nat) : Bool :=
  r.first ≤ c && c ≤ r.last && (c - r.first) % r.stride == 0

/-- The code point moved by a distance. -/
def moved (c : Nat) (offset : Int) : Nat := ((c : Int) + offset).toNat

/-- A map between code points: the ranges that it moves, in ascending order. -/
abbrev CaseTable := List CaseRange

namespace CaseTable

/-- The image of a code point. -/
def map : CaseTable → Nat → Nat
  | [], c => c
  | r :: rest, c =>
    if c < r.first then c else if r.contains c then moved c r.offset else map rest c

/-- The code points that the table moves to `c`. -/
def sources (table : CaseTable) (c : Nat) : List Nat :=
  table.filterMap fun r =>
    let source := moved c (-r.offset)
    if r.contains source then some source else none

end CaseTable

end FieldMask.Unicode
