import FieldMask.Proofs.Json.RoundTrip

/-!
# `FieldMask.Proofs.Json.Numbers`: the texts of a value

A number can be spelled in many ways, and a program that holds the number itself does not know the
spelling any more. `mapNumbers` gives every number of a tree another spelling. Two trees that it
makes equal are the same value, as far as `norm` tells numbers apart: with the identity they are the
same spelled, with the shortest spelling of the nearest double they hold the same doubles.

`IsText norm j t` says that `t` is a JSON text of the value `j`, with its members in their order.
White space, the spelling of strings and the spelling of numbers are free.

Masking looks at no number, so it can come before or after: `visits_mapNumbers` and
`mapNumbers_mapVisits`.
-/

set_option autoImplicit false

namespace FieldMask.Json

variable (norm : Text → Text)

mutual

/-- The tree with every number spelled in another way. -/
def mapNumbers : Json → Json
  | .number spelling => .number (norm spelling)
  | .array items => .array (mapNumbersItems items)
  | .object members => .object (mapNumbersMembers members)
  | j => j

/-- The items with every number in them spelled in another way. -/
def mapNumbersItems : List Json → List Json
  | [] => []
  | j :: rest => j.mapNumbers :: mapNumbersItems rest

/-- The members with every number in them spelled in another way. -/
def mapNumbersMembers : List (Text × Json) → List (Text × Json)
  | [] => []
  | (name, j) :: rest => (name, j.mapNumbers) :: mapNumbersMembers rest

end

mutual

/-- The spelling of numbers has no part in the string members of a tree, neither in which there are
nor in their order. -/
theorem visits_mapNumbers : ∀ j : Json, (j.mapNumbers norm).visits = j.visits
  | .array items => visits_mapNumbersItems items
  | .object members => visits_mapNumbersMembers members
  | .null | .bool _ | .number _ | .string _ => rfl

/-- The same for the items of an array. -/
theorem visits_mapNumbersItems :
    ∀ items : List Json, visitsItems (mapNumbersItems norm items) = visitsItems items
  | [] => rfl
  | j :: rest => by
      rw [mapNumbersItems, visitsItems, visitsItems, visits_mapNumbers j,
        visits_mapNumbersItems rest]

/-- The same for the members of an object. -/
theorem visits_mapNumbersMembers :
    ∀ members : List (Text × Json),
      visitsMembers (mapNumbersMembers norm members) = visitsMembers members
  | [] => rfl
  | (name, j) :: rest => by
      have hj := visits_mapNumbers j
      have hrest := visits_mapNumbersMembers rest
      -- A string is a visit of its own; every other value has the visits of its parts.
      cases j with
      | string value => exact congrArg (⟨name, value⟩ :: ·) hrest
      | _ => exact congrArg₂ (· ++ ·) hj hrest

end

mutual

/-- Rewriting string members and spelling numbers do not get in each other's way, so they can be
done in either order. -/
theorem mapNumbers_mapVisits (g : Visit → Text) :
    ∀ j : Json, (j.mapVisits g).mapNumbers norm = (j.mapNumbers norm).mapVisits g
  | .array items => by simp only [mapVisits, mapNumbers, mapNumbersItems_mapVisitsItems g items]
  | .object members => by
      simp only [mapVisits, mapNumbers, mapNumbersMembers_mapVisitsMembers g members]
  | .null | .bool _ | .number _ | .string _ => rfl

/-- The same for the items of an array. -/
theorem mapNumbersItems_mapVisitsItems (g : Visit → Text) :
    ∀ items : List Json, mapNumbersItems norm (mapVisitsItems g items)
      = mapVisitsItems g (mapNumbersItems norm items)
  | [] => rfl
  | j :: rest => by
      rw [mapVisitsItems, mapNumbersItems, mapNumbersItems, mapVisitsItems,
        mapNumbers_mapVisits g j, mapNumbersItems_mapVisitsItems g rest]

/-- The same for the members of an object, of which the strings are rewritten and the numbers are
not. -/
theorem mapNumbersMembers_mapVisitsMembers (g : Visit → Text) :
    ∀ members : List (Text × Json), mapNumbersMembers norm (mapVisitsMembers g members)
      = mapVisitsMembers g (mapNumbersMembers norm members)
  | [] => rfl
  | (name, j) :: rest => by
      have hj : (mapMember g name j).mapNumbers norm = mapMember g name (j.mapNumbers norm) := by
        have hvalue := mapNumbers_mapVisits g j
        cases j with
        | string value => rfl
        | _ => exact hvalue
      rw [mapVisitsMembers_cons, mapNumbersMembers, mapNumbersMembers, mapVisitsMembers_cons, hj,
        mapNumbersMembers_mapVisitsMembers g rest]

end

/-- The text is a JSON text of the value: with white space around it, it spells a tree that is the
value but for the spelling of its numbers. The members of each object stand in their order, each
name once. -/
inductive IsText (j : Json) : (t : Text) → Prop where
  | mk {raw : Json} {w body w' : Text} (hraw : raw.WellFormed)
      (hvalue : raw.mapNumbers norm = j.mapNumbers norm) (hw : IsSpaces w)
      (hbody : Spells raw body) (hw' : IsSpaces w') : IsText j (w ++ (body ++ w'))

variable {norm}

/-- A text of a value is read as that value, but for the spelling of its numbers, and whatever the
rule for repeated names is, as none is repeated. -/
theorem IsText.parse {j : Json} {t : Text} (h : j.IsText norm t) (repeats : Repeats) :
    ∃ raw : Json, Json.parse repeats t = .ok raw ∧ raw.WellFormed ∧
      raw.mapNumbers norm = j.mapNumbers norm := by
  cases h with
  | mk hraw hvalue hw hbody hw' =>
      exact ⟨_, parse_of_spells (settle_of_wellFormed _ hraw) hbody hw hw', hraw, hvalue⟩

/-- A well-formed tree is printed as a text of each value that it stands for. So what is written
after masking is a text of the masked value. -/
theorem isText_print {raw j : Json} (hraw : raw.WellFormed)
    (hvalue : raw.mapNumbers norm = j.mapNumbers norm) : j.IsText norm raw.print := by
  have htext : j.IsText norm ([] ++ (raw.print ++ [])) :=
    .mk hraw hvalue isSpaces_nil (spells_print raw hraw) isSpaces_nil
  simpa using htext

/-- The same value has the same string members, however its numbers are spelled. -/
theorem visits_eq_of_mapNumbers {a b : Json} (h : a.mapNumbers norm = b.mapNumbers norm) :
    a.visits = b.visits := by
  rw [← visits_mapNumbers norm a, h, visits_mapNumbers norm b]

/-- The same value stays the same when its string members are rewritten, in the same way on both
sides. -/
theorem mapNumbers_mapVisits_eq {a b : Json} (g : Visit → Text)
    (h : a.mapNumbers norm = b.mapNumbers norm) :
    (a.mapVisits g).mapNumbers norm = (b.mapVisits g).mapNumbers norm := by
  rw [mapNumbers_mapVisits, h, mapNumbers_mapVisits]

/-- The same value is an object in both trees or in none. So both are masked, or neither. -/
theorem isObject_eq_of_mapNumbers {a b : Json} (h : a.mapNumbers norm = b.mapNumbers norm) :
    a.isObject = b.isObject := by
  have hkeeps : ∀ j : Json, (j.mapNumbers norm).isObject = j.isObject := by
    intro j
    cases j <;> rfl
  rw [← hkeeps a, h, hkeeps b]

end FieldMask.Json
