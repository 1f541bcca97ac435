import FieldMask.Proofs.Json.Visit
import Mathlib.Logic.Function.Basic

/-!
# `FieldMask.Proofs.Json.Rename`: trees up to the names of their members

`Json.rename ν` puts `ν` of the name in place of the name of every member, at any depth. Trees that
it maps to the same tree are the same up to names that `ν` does not tell apart: they have the same
shape and the same values, and the names of their members correspond, one by one.

A rewriting of the string members that sees names as `ν` does goes alike in such trees:
`rename_mapVisits_eq` for the trees and `renamed_visits_eq` for the members that are visited.
-/

set_option autoImplicit false

namespace FieldMask.Json

mutual

/-- The tree with `ν` of every member's name in its place, at any depth. Values stay as they are. -/
def rename (ν : Text → Text) : Json → Json
  | .array items => .array (renameItems ν items)
  | .object members => .object (renameMembers ν members)
  | j => j

/-- The items with `ν` of every member's name inside them in its place. -/
def renameItems (ν : Text → Text) : List Json → List Json
  | [] => []
  | j :: rest => j.rename ν :: renameItems ν rest

/-- The members with `ν` of every member's name among and inside them in its place. -/
def renameMembers (ν : Text → Text) : List (Text × Json) → List (Text × Json)
  | [] => []
  | (name, j) :: rest => (ν name, j.rename ν) :: renameMembers ν rest

end

/-- A visited member with `ν` of its name, and with its value. -/
def Visit.renamed (ν : Text → Text) (m : Visit) : Visit := ⟨ν m.field, m.value⟩

variable {ν : Text → Text}

/-- Renaming keeps the kind of a value, so an object stays one. -/
theorem kind_rename (j : Json) : (j.rename ν).kind = j.kind := by
  cases j <;> rfl

mutual

/-- The members that are visited after renaming are those before, renamed. -/
theorem visits_rename : ∀ j : Json, (j.rename ν).visits = j.visits.map (Visit.renamed ν)
  | .array items => visits_renameItems items
  | .object members => visits_renameMembers members
  | .null | .bool _ | .number _ | .string _ => rfl

/-- The same for the items of an array. -/
theorem visits_renameItems :
    ∀ items : List Json,
      visitsItems (renameItems ν items) = (visitsItems items).map (Visit.renamed ν)
  | [] => rfl
  | j :: rest => by
      rw [renameItems, visitsItems, visitsItems, visits_rename j, visits_renameItems rest,
        List.map_append]

/-- The same for the members of an object, whose own names are changed as well. -/
theorem visits_renameMembers :
    ∀ members : List (Text × Json),
      visitsMembers (renameMembers ν members) = (visitsMembers members).map (Visit.renamed ν)
  | [] => rfl
  | (name, j) :: rest => by
      have hj := visits_rename j
      have hrest := visits_renameMembers rest
      cases j with
      | string value =>
          simp only [renameMembers, rename, visitsMembers, hrest, List.map_cons, Visit.renamed]
      | null | bool | number =>
          simp only [renameMembers, rename, visitsMembers, visits, hrest, List.nil_append]
      | array | object =>
          simp only [renameMembers, rename, visitsMembers, hrest, List.map_append] at hj ⊢
          rw [hj]

end

section

variable {g h : Visit → Text}

mutual

/-- A rewriting that sees only the new names can be done after renaming as well as before it. -/
theorem rename_mapVisits (hgh : ∀ m, g m = h (m.renamed ν)) :
    ∀ j : Json, (j.mapVisits g).rename ν = (j.rename ν).mapVisits h
  | .array items => by simp only [mapVisits, rename, rename_mapVisitsItems hgh items]
  | .object members => by simp only [mapVisits, rename, rename_mapVisitsMembers hgh members]
  | .null | .bool _ | .number _ | .string _ => rfl

/-- The same for the items of an array. -/
theorem rename_mapVisitsItems (hgh : ∀ m, g m = h (m.renamed ν)) :
    ∀ items : List Json,
      renameItems ν (mapVisitsItems g items) = mapVisitsItems h (renameItems ν items)
  | [] => rfl
  | j :: rest => by
      rw [mapVisitsItems, renameItems, renameItems, mapVisitsItems, rename_mapVisits hgh j,
        rename_mapVisitsItems hgh rest]

/-- The same for the members of an object. -/
theorem rename_mapVisitsMembers (hgh : ∀ m, g m = h (m.renamed ν)) :
    ∀ members : List (Text × Json),
      renameMembers ν (mapVisitsMembers g members) = mapVisitsMembers h (renameMembers ν members)
  | [] => rfl
  | (name, j) :: rest => by
      have hj := rename_mapVisits hgh j
      have hrest := rename_mapVisitsMembers hgh rest
      cases j with
      | string value =>
          simp only [mapVisitsMembers, renameMembers, rename, hrest, hgh, Visit.renamed]
      | null | bool | number =>
          simp only [mapVisitsMembers, renameMembers, mapVisits, rename, hrest]
      | array | object =>
          simp only [mapVisitsMembers, renameMembers, mapVisits, rename, hrest] at hj ⊢
          rw [hj]

end

end

/-- Trees that are the same up to names stay so under a rewriting that does not tell these names
apart. -/
theorem rename_mapVisits_eq {a b : Json} {g : Visit → Text} (h : a.rename ν = b.rename ν)
    (hg : ∀ m n : Visit, m.renamed ν = n.renamed ν → g m = g n) :
    (a.mapVisits g).rename ν = (b.mapVisits g).rename ν := by
  have hfactors : g.FactorsThrough (Visit.renamed ν) := hg
  have hextend : ∀ m, g m = Function.extend (Visit.renamed ν) g Visit.value (m.renamed ν) :=
    fun m => (hfactors.extend_apply Visit.value m).symm
  rw [rename_mapVisits hextend, rename_mapVisits hextend, h]

/-- Trees that are the same up to names have the same members to visit, up to names. -/
theorem renamed_visits_eq {a b : Json} (h : a.rename ν = b.rename ν) :
    a.visits.map (Visit.renamed ν) = b.visits.map (Visit.renamed ν) := by
  rw [← visits_rename, ← visits_rename, h]

end FieldMask.Json
