import FieldMask.Json.Basic

/-!
# `FieldMask.Proofs.Json.Visit`: the string members of a tree

A walk over a JSON tree visits the members of objects whose values are strings, depth first and
in order. `Json.visits` lists them. Everything else about the tree is in `Json.skeleton`: the
tree with the values of its string members blanked out. The two determine the tree
(`eq_of_skeleton_eq`), so a statement about both is a statement about the whole tree.

Two references rewrite string members by a function of name and value, by recursion on the tree
alone:

* `Json.mapVisits` rewrites all of them;
* `Json.rewriteFirst` rewrites the first `n` of them, counted over the whole tree.

`skeleton_rewriteFirst` and `visits_rewriteFirst` say what the second does to the two halves of a
tree, and `rewriteFirst_eq_mapVisits` that it is the first when it reaches all of them.
-/

set_option autoImplicit false

namespace FieldMask.Json

/-- A visited member: its name and the string under it. Where in the tree it stands plays no part in
how it is masked. -/
structure Visit where
  field : Text
  value : Text
  deriving DecidableEq, Repr

mutual

/-- The string members of a tree, depth first and in order, as a walk comes to them. A string that
is no member is not among them. -/
def visits : Json → List Visit
  | .array items => visitsItems items
  | .object members => visitsMembers members
  | _ => []

/-- The string members inside the items of an array. -/
def visitsItems : List Json → List Visit
  | [] => []
  | j :: rest => j.visits ++ visitsItems rest

/-- The string members among and inside the members of an object. -/
def visitsMembers : List (Text × Json) → List Visit
  | [] => []
  | (name, .string value) :: rest => ⟨name, value⟩ :: visitsMembers rest
  | (_, j) :: rest => j.visits ++ visitsMembers rest

end

mutual

/-- The tree with an empty text under each string member. It is what masking has to leave alone. -/
def skeleton : Json → Json
  | .array items => .array (skeletonItems items)
  | .object members => .object (skeletonMembers members)
  | j => j

/-- The items with an empty text under each string member. -/
def skeletonItems : List Json → List Json
  | [] => []
  | j :: rest => j.skeleton :: skeletonItems rest

/-- The members with an empty text under each string member. -/
def skeletonMembers : List (Text × Json) → List (Text × Json)
  | [] => []
  | (name, .string _) :: rest => (name, .string []) :: skeletonMembers rest
  | (name, j) :: rest => (name, j.skeleton) :: skeletonMembers rest

end

mutual

/-- The tree with every string member rewritten by `g`, which sees its name and its value. -/
def mapVisits (g : Visit → Text) : Json → Json
  | .array items => .array (mapVisitsItems g items)
  | .object members => .object (mapVisitsMembers g members)
  | j => j

/-- The items with every string member inside them rewritten. -/
def mapVisitsItems (g : Visit → Text) : List Json → List Json
  | [] => []
  | j :: rest => j.mapVisits g :: mapVisitsItems g rest

/-- The members with every string member among and inside them rewritten. -/
def mapVisitsMembers (g : Visit → Text) : List (Text × Json) → List (Text × Json)
  | [] => []
  | (name, .string value) :: rest => (name, .string (g ⟨name, value⟩)) :: mapVisitsMembers g rest
  | (name, j) :: rest => (name, j.mapVisits g) :: mapVisitsMembers g rest

end

mutual

/-- The tree with the first `n` of its string members rewritten by `g`, as a walk leaves it that
breaks off after them. -/
def rewriteFirst (g : Visit → Text) (n : Nat) : Json → Json
  | .array items => .array (rewriteFirstItems g n items)
  | .object members => .object (rewriteFirstMembers g n members)
  | j => j

/-- The items with the first `n` string members inside them rewritten. -/
def rewriteFirstItems (g : Visit → Text) (n : Nat) : List Json → List Json
  | [] => []
  | j :: rest => j.rewriteFirst g n :: rewriteFirstItems g (n - j.visits.length) rest

/-- The members with the first `n` string members among and inside them rewritten. -/
def rewriteFirstMembers (g : Visit → Text) (n : Nat) : List (Text × Json) → List (Text × Json)
  | [] => []
  | (name, .string value) :: rest =>
    (name, .string (if n = 0 then value else g ⟨name, value⟩)) ::
      rewriteFirstMembers g (n - 1) rest
  | (name, j) :: rest =>
    -- The members after this one get what it leaves over.
    (name, j.rewriteFirst g n) :: rewriteFirstMembers g (n - j.visits.length) rest

end

/-! ### What rewriting does to a tree -/

variable (g : Visit → Text)

mutual

/-- Rewriting no string member changes nothing. -/
theorem rewriteFirst_zero : ∀ j : Json, j.rewriteFirst g 0 = j
  | .array items => by simp only [rewriteFirst, rewriteFirstItems_zero items]
  | .object members => by simp only [rewriteFirst, rewriteFirstMembers_zero members]
  | .null | .bool _ | .number _ | .string _ => rfl

/-- The same for the items of an array. -/
theorem rewriteFirstItems_zero : ∀ items : List Json, rewriteFirstItems g 0 items = items
  | [] => rfl
  | j :: rest => by
      simp only [rewriteFirstItems, rewriteFirst_zero j, Nat.zero_sub,
        rewriteFirstItems_zero rest]

/-- The same for the members of an object. -/
theorem rewriteFirstMembers_zero :
    ∀ members : List (Text × Json), rewriteFirstMembers g 0 members = members
  | [] => rfl
  | (_, j) :: rest => by
      have hj := rewriteFirst_zero j
      have hrest := rewriteFirstMembers_zero rest
      cases j <;> simp_all [rewriteFirstMembers]

end

mutual

/-- Rewriting at least as many string members as there are rewrites all of them. -/
theorem rewriteFirst_eq_mapVisits :
    ∀ (j : Json) (n : Nat), j.visits.length ≤ n → j.rewriteFirst g n = j.mapVisits g
  | .array items, n, h => by
      simp only [rewriteFirst, mapVisits, rewriteFirstItems_eq_mapVisitsItems items n h]
  | .object members, n, h => by
      simp only [rewriteFirst, mapVisits, rewriteFirstMembers_eq_mapVisitsMembers members n h]
  | .null, _, _ | .bool _, _, _ | .number _, _, _ | .string _, _, _ => rfl

/-- The same for the items of an array, where each leaves fewer for those after it. -/
theorem rewriteFirstItems_eq_mapVisitsItems :
    ∀ (items : List Json) (n : Nat), (visitsItems items).length ≤ n →
      rewriteFirstItems g n items = mapVisitsItems g items
  | [], _, _ => rfl
  | j :: rest, n, h => by
      simp only [visitsItems, List.length_append] at h
      rw [rewriteFirstItems, mapVisitsItems, rewriteFirst_eq_mapVisits j n (by omega),
        rewriteFirstItems_eq_mapVisitsItems rest (n - j.visits.length) (by omega)]

/-- The same for the members of an object. -/
theorem rewriteFirstMembers_eq_mapVisitsMembers :
    ∀ (members : List (Text × Json)) (n : Nat), (visitsMembers members).length ≤ n →
      rewriteFirstMembers g n members = mapVisitsMembers g members
  | [], _, _ => rfl
  | (name, j) :: rest, n, h => by
      have hj := rewriteFirst_eq_mapVisits j n
      have hrest := fun k => rewriteFirstMembers_eq_mapVisitsMembers rest k
      cases j with
      | string value =>
          simp only [visitsMembers, List.length_cons] at h
          simp only [rewriteFirstMembers, mapVisitsMembers, hrest (n - 1) (by omega),
            show n ≠ 0 by omega, if_false]
      | _ =>
          simp only [visitsMembers, List.length_append] at h
          simp only [rewriteFirstMembers, mapVisitsMembers]
          rw [hj (by omega), hrest _ (by omega)]

end

mutual

/-- Rewriting string members keeps everything else of a tree, however many are rewritten. -/
theorem skeleton_rewriteFirst :
    ∀ (j : Json) (n : Nat), (j.rewriteFirst g n).skeleton = j.skeleton
  | .array items, n => by simp only [rewriteFirst, skeleton, skeleton_rewriteFirstItems items n]
  | .object members, n => by
      simp only [rewriteFirst, skeleton, skeleton_rewriteFirstMembers members n]
  | .null, _ | .bool _, _ | .number _, _ | .string _, _ => rfl

/-- The same for the items of an array. -/
theorem skeleton_rewriteFirstItems :
    ∀ (items : List Json) (n : Nat),
      skeletonItems (rewriteFirstItems g n items) = skeletonItems items
  | [], _ => rfl
  | j :: rest, n => by
      simp only [rewriteFirstItems, skeletonItems, skeleton_rewriteFirst j n,
        skeleton_rewriteFirstItems rest _]

/-- The same for the members of an object. -/
theorem skeleton_rewriteFirstMembers :
    ∀ (members : List (Text × Json)) (n : Nat),
      skeletonMembers (rewriteFirstMembers g n members) = skeletonMembers members
  | [], _ => rfl
  | (name, j) :: rest, n => by
      have hj := skeleton_rewriteFirst j n
      have hrest := fun k => skeleton_rewriteFirstMembers rest k
      cases j <;> simp_all [rewriteFirstMembers, skeletonMembers, rewriteFirst]

end

/-- A visited member after rewriting: it keeps its name. -/
def Visit.rewritten (m : Visit) : Visit := ⟨m.field, g m⟩

/-- The first `n` of two lists in a row are those of the first list, and then as many of the second
as are left. -/
theorem rewritten_append (n : Nat) (as bs : List Visit) :
    ((as ++ bs).take n).map (Visit.rewritten g) ++ (as ++ bs).drop n
      = ((as.take n).map (Visit.rewritten g) ++ as.drop n)
        ++ ((bs.take (n - as.length)).map (Visit.rewritten g) ++ bs.drop (n - as.length)) := by
  rw [List.take_append, List.drop_append, List.map_append]
  -- The cut is inside the first list, or that list is taken as a whole.
  by_cases h : n ≤ as.length
  · simp [Nat.sub_eq_zero_of_le h]
  · have hdrop : as.drop n = [] := List.drop_of_length_le (by omega)
    simp [hdrop]

mutual

/-- Rewriting the first `n` string members of a tree rewrites the first `n` of the list, and leaves
the others. -/
theorem visits_rewriteFirst :
    ∀ (j : Json) (n : Nat), (j.rewriteFirst g n).visits
      = (j.visits.take n).map (Visit.rewritten g) ++ j.visits.drop n
  | .array items, n => by simp only [rewriteFirst, visits, visits_rewriteFirstItems items n]
  | .object members, n => by
      simp only [rewriteFirst, visits, visits_rewriteFirstMembers members n]
  | .null, _ | .bool _, _ | .number _, _ | .string _, _ => by simp [rewriteFirst, visits]

/-- The same for the items of an array. -/
theorem visits_rewriteFirstItems :
    ∀ (items : List Json) (n : Nat), visitsItems (rewriteFirstItems g n items)
      = ((visitsItems items).take n).map (Visit.rewritten g) ++ (visitsItems items).drop n
  | [], _ => by simp [rewriteFirstItems, visitsItems]
  | j :: rest, n => by
      rw [rewriteFirstItems, visitsItems, visitsItems, visits_rewriteFirst j n,
        visits_rewriteFirstItems rest, rewritten_append]

/-- The same for the members of an object. -/
theorem visits_rewriteFirstMembers :
    ∀ (members : List (Text × Json)) (n : Nat), visitsMembers (rewriteFirstMembers g n members)
      = ((visitsMembers members).take n).map (Visit.rewritten g)
        ++ (visitsMembers members).drop n
  | [], _ => by simp [rewriteFirstMembers, visitsMembers]
  | (name, j) :: rest, n => by
      have hj := visits_rewriteFirst j n
      have hrest := fun k => visits_rewriteFirstMembers rest k
      cases j with
      | string value =>
          cases n with
          | zero => simp [rewriteFirstMembers, visitsMembers, hrest]
          | succ n => simp [rewriteFirstMembers, visitsMembers, hrest, Visit.rewritten]
      | null | bool _ | number _ =>
          simp [rewriteFirstMembers, rewriteFirst, visitsMembers, visits, hrest]
      | array _ | object _ =>
          simp only [rewriteFirstMembers, rewriteFirst, visitsMembers] at hj ⊢
          rw [hj, hrest, rewritten_append]

end

/-- Rewriting all string members keeps everything else of a tree. -/
theorem skeleton_mapVisits (j : Json) : (j.mapVisits g).skeleton = j.skeleton := by
  rw [← rewriteFirst_eq_mapVisits g j _ (Nat.le_refl _)]
  exact skeleton_rewriteFirst g j _

/-- Rewriting all string members of a tree rewrites the whole list, one by one. -/
theorem visits_mapVisits (j : Json) :
    (j.mapVisits g).visits = j.visits.map (Visit.rewritten g) := by
  rw [← rewriteFirst_eq_mapVisits g j _ (Nat.le_refl _), visits_rewriteFirst]
  simp

/-! ### The two halves of a tree -/

mutual

/-- The skeleton of a tree decides how many string members it has, as it has the same ones but for
their values. -/
theorem length_visits_skeleton : ∀ j : Json, j.skeleton.visits.length = j.visits.length
  | .array items => length_visits_skeletonItems items
  | .object members => length_visits_skeletonMembers members
  | .null | .bool _ | .number _ | .string _ => rfl

/-- The same for the items of an array. -/
theorem length_visits_skeletonItems :
    ∀ items : List Json, (visitsItems (skeletonItems items)).length = (visitsItems items).length
  | [] => rfl
  | j :: rest => by
      rw [skeletonItems, visitsItems, visitsItems, List.length_append, List.length_append,
        length_visits_skeleton j, length_visits_skeletonItems rest]

/-- The same for the members of an object. -/
theorem length_visits_skeletonMembers :
    ∀ members : List (Text × Json),
      (visitsMembers (skeletonMembers members)).length = (visitsMembers members).length
  | [] => rfl
  | (name, j) :: rest => by
      have hj := length_visits_skeleton j
      have hrest := length_visits_skeletonMembers rest
      cases j <;> simp_all [skeletonMembers, visitsMembers, skeleton]

end

/-- Trees with the same skeleton have equally many string members, so their lists can be compared
one by one. -/
theorem length_visits_eq {a b : Json} (h : a.skeleton = b.skeleton) :
    a.visits.length = b.visits.length := by
  rw [← length_visits_skeleton a, h, length_visits_skeleton b]

/-- The skeleton of members whose first value is no string is taken inside that value. -/
theorem skeletonMembers_cons {name : Text} {j : Json} {rest : List (Text × Json)}
    (h : ∀ v, j ≠ .string v) :
    skeletonMembers ((name, j) :: rest) = (name, j.skeleton) :: skeletonMembers rest := by
  cases j with
  | string v => exact absurd rfl (h v)
  | _ => rfl

/-- The string members of members whose first value is no string are first those inside that value.
-/
theorem visitsMembers_cons {name : Text} {j : Json} {rest : List (Text × Json)}
    (h : ∀ v, j ≠ .string v) :
    visitsMembers ((name, j) :: rest) = j.visits ++ visitsMembers rest := by
  cases j with
  | string v => exact absurd rfl (h v)
  | _ => rfl

mutual

/-- A tree is its skeleton together with its string members. By induction on both trees at once. -/
theorem eq_of_skeleton_eq :
    ∀ a b : Json, a.skeleton = b.skeleton → a.visits = b.visits → a = b
  | .array as, b, hskeleton, hvisits => by
      cases b with
      | array bs =>
          simp only [skeleton, array.injEq] at hskeleton
          rw [eq_of_skeletonItems_eq as bs hskeleton hvisits]
      | _ => simp [skeleton] at hskeleton
  | .object as, b, hskeleton, hvisits => by
      cases b with
      | object bs =>
          simp only [skeleton, object.injEq] at hskeleton
          rw [eq_of_skeletonMembers_eq as bs hskeleton hvisits]
      | _ => simp [skeleton] at hskeleton
  | .null, b, hskeleton, _ | .bool _, b, hskeleton, _ | .number _, b, hskeleton, _
  | .string _, b, hskeleton, _ => by
      cases b <;> simp_all [skeleton]

/-- The same for the items of two arrays: those inside the first items are equally many, so the
lists can be cut there. -/
theorem eq_of_skeletonItems_eq :
    ∀ as bs : List Json, skeletonItems as = skeletonItems bs → visitsItems as = visitsItems bs →
      as = bs
  | [], [], _, _ => rfl
  | [], _ :: _, hskeleton, _ => by simp [skeletonItems] at hskeleton
  | _ :: _, [], hskeleton, _ => by simp [skeletonItems] at hskeleton
  | a :: as, b :: bs, hskeleton, hvisits => by
      simp only [skeletonItems, List.cons.injEq] at hskeleton
      simp only [visitsItems] at hvisits
      -- Equal skeletons have equally many visits, so both lists are cut at the same place.
      obtain ⟨hfirst, hrest⟩ := List.append_inj hvisits (length_visits_eq hskeleton.1)
      rw [eq_of_skeleton_eq a b hskeleton.1 hfirst,
        eq_of_skeletonItems_eq as bs hskeleton.2 hrest]

/-- The same for the members of two objects. -/
theorem eq_of_skeletonMembers_eq :
    ∀ as bs : List (Text × Json), skeletonMembers as = skeletonMembers bs →
      visitsMembers as = visitsMembers bs → as = bs
  | [], [], _, _ => rfl
  | [], (_, b) :: _, hskeleton, _ => by cases b <;> simp [skeletonMembers] at hskeleton
  | (_, a) :: _, [], hskeleton, _ => by cases a <;> simp [skeletonMembers] at hskeleton
  | (name, a) :: as, (other, b) :: bs, hskeleton, hvisits => by
      have hrest := eq_of_skeletonMembers_eq as bs
      have hfirst := eq_of_skeleton_eq a b
      -- A string member is one visit and blank in the skeleton; every other value has its own.
      by_cases ha : ∃ v, a = .string v
      · obtain ⟨v, rfl⟩ := ha
        cases b with
        | string w =>
            simp only [skeletonMembers, List.cons.injEq, Prod.mk.injEq] at hskeleton
            simp only [visitsMembers, List.cons.injEq, Visit.mk.injEq] at hvisits
            rw [hvisits.1.1, hvisits.1.2, hrest hskeleton.2 hvisits.2]
        | _ => simp [skeletonMembers, skeleton] at hskeleton
      by_cases hb : ∃ w, b = .string w
      · obtain ⟨w, rfl⟩ := hb
        cases a with
        | string v => exact absurd ⟨v, rfl⟩ ha
        | _ => simp [skeletonMembers, skeleton] at hskeleton
      rw [skeletonMembers_cons (not_exists.mp ha), skeletonMembers_cons (not_exists.mp hb)]
        at hskeleton
      rw [visitsMembers_cons (not_exists.mp ha), visitsMembers_cons (not_exists.mp hb)] at hvisits
      obtain ⟨hhead, htail⟩ := List.cons.inj hskeleton
      obtain ⟨hname, hvalue⟩ := Prod.mk.inj hhead
      obtain ⟨hvisit, hmore⟩ := List.append_inj hvisits (length_visits_eq hvalue)
      rw [hname, hfirst hvalue hvisit, hrest htail hmore]

end

/-! ### Members -/

/-- What rewriting makes of the value of a member: a string is rewritten as a member of that name,
and any other value inside. -/
def mapMember (name : Text) : Json → Json
  | .string value => .string (g ⟨name, value⟩)
  | j => j.mapVisits g

/-- Rewriting members rewrites the first one and then the rest, each under its own name. -/
theorem mapVisitsMembers_cons (name : Text) (j : Json) (rest : List (Text × Json)) :
    mapVisitsMembers g ((name, j) :: rest)
      = (name, mapMember g name j) :: mapVisitsMembers g rest := by
  cases j <;> rfl

/-- Rewriting keeps the names of the members, in their order, so a record stays one. -/
theorem names_mapVisitsMembers (members : Record Json) :
    Record.names (mapVisitsMembers g members) = members.names := by
  induction members with
  | nil => rfl
  | cons m rest ih =>
      obtain ⟨name, j⟩ := m
      simp only [Record.names] at ih
      simp only [Record.names, mapVisitsMembers_cons, List.map_cons, ih]

end FieldMask.Json
