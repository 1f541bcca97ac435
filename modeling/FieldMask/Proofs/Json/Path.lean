import FieldMask.Proofs.Json.Visit

/-!
# `FieldMask.Proofs.Json.Path`: places in a tree

A path leads from the root of a tree to one place in it, by the names of members and the indices of
items. `follow?` gives what stands there. `follow?_mapVisits` says what rewriting does at the end
of a path: a string member is rewritten, at whatever depth it stands.
-/

set_option autoImplicit false

namespace FieldMask.Json

/-- One step down a tree: to the member of a name, or to the item at an index. -/
inductive Step where
  | member (name : Text)
  | item (index : Nat)
  deriving DecidableEq, Repr

/-- What a path leads to, if it leads anywhere: every step needs an object or an array to go into,
and something there. -/
def follow? : List Step → Json → Option Json
  | [], j => some j
  | .member name :: path, .object members => (Record.get? name members).bind (follow? path)
  | .item index :: path, .array items => items[index]?.bind (follow? path)
  | _ :: _, _ => none

variable (g : Visit → Text)

/-- Under each name stands what rewriting makes of its value. Rewriting adds no name and drops none.
-/
theorem get?_mapVisitsMembers (name : Text) (members : Record Json) :
    Record.get? name (mapVisitsMembers g members)
      = (Record.get? name members).map (mapMember g name) := by
  induction members with
  | nil => rfl
  | cons m rest ih =>
      obtain ⟨other, j⟩ := m
      rw [mapVisitsMembers_cons]
      by_cases ho : other = name
      · rw [ho, Record.get?, Record.get?, if_pos rfl, if_pos rfl, Option.map_some]
      · rw [Record.get?, Record.get?, if_neg ho, if_neg ho, ih]

/-- Each item is rewritten in its place, and a place without an item has none after it either. -/
theorem getElem?_mapVisitsItems (index : Nat) (items : List Json) :
    (mapVisitsItems g items)[index]? = items[index]?.map (mapVisits g) := by
  induction items generalizing index with
  | nil => rfl
  | cons j rest ih =>
      cases index with
      | zero => rfl
      | succ index =>
          rw [mapVisitsItems, List.getElem?_cons_succ, List.getElem?_cons_succ, ih]

/-- A path that goes on to a member leads into no string, so the value it starts from is rewritten
inside and not as a string member. -/
theorem mapMember_of_follow? {name field : Text} {path : List Step} {j k : Json}
    (h : j.follow? (path ++ [.member field]) = some k) : mapMember g name j = j.mapVisits g := by
  cases j with
  | string v => cases path <;> simp [follow?] at h
  | _ => rfl

/-- A string member at the end of a path is rewritten, and the path still leads to it. By induction
on the path. -/
theorem follow?_mapVisits {field value : Text} (path : List Step) {j : Json}
    (h : j.follow? (path ++ [.member field]) = some (.string value)) :
    (j.mapVisits g).follow? (path ++ [.member field]) = some (.string (g ⟨field, value⟩)) := by
  induction path generalizing j with
  | nil =>
      cases j with
      | object members =>
          obtain ⟨k, hget, hk⟩ := Option.bind_eq_some_iff.mp h
          cases hk
          show (Record.get? field (mapVisitsMembers g members)).bind (follow? []) = _
          rw [get?_mapVisitsMembers, hget]
          rfl
      | _ => simp [follow?] at h
  | cons step path ih =>
      cases step with
      | member name =>
          cases j with
          | object members =>
              obtain ⟨k, hget, hk⟩ := Option.bind_eq_some_iff.mp h
              show (Record.get? name (mapVisitsMembers g members)).bind (follow? _) = _
              rw [get?_mapVisitsMembers, hget, Option.map_some, Option.bind_some,
                mapMember_of_follow? g hk]
              exact ih hk
          | _ => simp [follow?] at h
      | item index =>
          cases j with
          | array items =>
              obtain ⟨k, hget, hk⟩ := Option.bind_eq_some_iff.mp h
              show (mapVisitsItems g items)[index]?.bind (follow? _) = _
              rw [getElem?_mapVisitsItems, hget, Option.map_some, Option.bind_some]
              exact ih hk
          | _ => simp [follow?] at h

end FieldMask.Json
