import FieldMask.Proofs.Json.NumberSpelling
import FieldMask.Proofs.Json.Reader
import FieldMask.Proofs.Json.Visit
import FieldMask.Proofs.Record.Order

/-!
# `FieldMask.Proofs.Json.WellFormed`: the trees that texts spell

A tree is well formed if each of its numbers is spelled as a number and the members of each of its
objects are an ordered record.

* `wellFormed_of_parse`: what is read from a text is well formed.
* `wellFormed_mapVisits`: rewriting string members keeps a tree well formed.

Which texts give an object is decided by one unit: `isObject_of_parse` says that a text is read as
an object exactly when it starts, after white space, with an opening brace.
-/

set_option autoImplicit false

namespace FieldMask.Json

mutual

/-- Every number is spelled as one and every object is an ordered record, at any depth. Whatever
strings there are is all right. -/
def WellFormed : Json → Prop
  | .number spelling => IsNumber spelling
  | .array items => WellFormedItems items
  | .object members => Record.Ordered members ∧ WellFormedMembers members
  | _ => True

/-- All items are well formed. -/
def WellFormedItems : List Json → Prop
  | [] => True
  | j :: rest => j.WellFormed ∧ WellFormedItems rest

/-- The values of all members are well formed. -/
def WellFormedMembers : List (Text × Json) → Prop
  | [] => True
  | (_, j) :: rest => j.WellFormed ∧ WellFormedMembers rest

end

/-! ### Reading -/

/-- The values of all members are well formed, said of the members one by one. -/
theorem wellFormedMembers_iff (members : List (Text × Json)) :
    WellFormedMembers members ↔ ∀ m ∈ members, m.2.WellFormed := by
  induction members with
  | nil => simp [WellFormedMembers]
  | cons m rest ih => simp [WellFormedMembers, ih]

/-- A member is added by setting it, if it is added at all. -/
theorem addMember_eq_ok {repeats : Repeats} {members more : Record Json} {name : Text}
    {value : Json} {p : Nat} (h : addMember repeats members name value p = .ok more) :
    more = members.set name value := by
  unfold addMember at h
  split at h
  · split at h
    · cases h
      rfl
    · exact nomatch h
  · cases h
    rfl

/-- The words that are values are neither numbers nor containers, so there is nothing to ask of
them. -/
theorem wellFormed_of_mem_keywords {word : Text} {j : Json} (h : (word, j) ∈ keywords) :
    j.WellFormed := by
  rcases mem_keywords_iff.mp h with ⟨-, rfl⟩ | ⟨-, rfl⟩ | ⟨-, rfl⟩ <;> exact trivial

variable {repeats : Repeats}

mutual

/-- What is read as a value is well formed. By induction on the fuel, one case for each step of the
reader. -/
theorem wellFormed_of_readValue :
    ∀ (n : Nat) (c d : Cursor) (j : Json), readValue repeats n c = .ok (some j, d) →
      j.WellFormed
  | 0, c, d, j, h => by
      rw [readValue] at h
      exact nomatch h
  | n + 1, c, d, j, h => by
      obtain ⟨e, rfl, hcase⟩ := readValue_cases h
      rcases hcase with ⟨_, t, _, _, rfl⟩ | ⟨_, _, spelling, _, _, hread, rfl⟩ |
        ⟨_, members, _, hread, rfl⟩ | ⟨_, items, _, hread, rfl⟩ | ⟨word, hword, _⟩
      · exact trivial
      · exact (isNumber_of_readNumber hread).1
      · exact wellFormed_of_readMembers n _ e [] members true List.Pairwise.nil trivial hread
      · exact wellFormed_of_readItems n _ e items true hread
      · exact wellFormed_of_mem_keywords hword

/-- What is read as members is an ordered record of well-formed values, if what it goes on from is
one. -/
theorem wellFormed_of_readMembers :
    ∀ (n : Nat) (c d : Cursor) (members all : Record Json) (first : Bool),
      Record.Ordered members → WellFormedMembers members →
      readMembers repeats n members first c = .ok (all, d) →
      Record.Ordered all ∧ WellFormedMembers all
  | 0, c, d, members, all, first, _, _, h => by
      rw [readMembers] at h
      exact nomatch h
  | n + 1, c, d, members, all, first, hordered, hmembers, h => by
      rcases readMembers_cases h with
        ⟨_, _, rfl, _⟩ | ⟨name, colon, value, next, more, _, _, hvalue, hadd, hrest⟩
      · exact ⟨hordered, hmembers⟩
      · have hvalue := wellFormed_of_readValue n _ next value hvalue
        have hmore := addMember_eq_ok hadd
        subst hmore
        -- Setting a member keeps the record ordered and brings in no value but the one just read.
        refine wellFormed_of_readMembers n next d _ all false
          (Record.ordered_set hordered name value) ?_ hrest
        rw [wellFormedMembers_iff] at hmembers ⊢
        intro m hm
        rcases Record.mem_set hm with rfl | hm
        · exact hvalue
        · exact hmembers m hm

/-- What is read as items is well formed, item by item. -/
theorem wellFormed_of_readItems :
    ∀ (n : Nat) (c d : Cursor) (all : List Json) (first : Bool),
      readItems repeats n first c = .ok (all, d) → WellFormedItems all
  | 0, c, d, all, first, h => by
      rw [readItems] at h
      exact nomatch h
  | n + 1, c, d, all, first, h => by
      rcases readItems_cases h with ⟨_, _, rfl, _⟩ | ⟨value, next, items, _, hvalue, hitems, rfl⟩
      · exact trivial
      · exact ⟨wellFormed_of_readValue n _ next value hvalue,
          wellFormed_of_readItems n next d items false hitems⟩

end

/-- What is read from a text is well formed, so it can be printed and read again. -/
theorem wellFormed_of_parse {t : Text} {j : Json} (h : parse repeats t = .ok j) :
    j.WellFormed := by
  obtain ⟨d, hread, _⟩ := parse_eq_ok_iff.mp h
  exact wellFormed_of_readValue _ _ d j hread

/-! ### Objects -/

/-- The words that are values are no objects. -/
theorem isObject_of_mem_keywords {word : Text} {j : Json} (h : (word, j) ∈ keywords) :
    j.isObject = false := by
  rcases mem_keywords_iff.mp h with ⟨-, rfl⟩ | ⟨-, rfl⟩ | ⟨-, rfl⟩ <;> rfl

/-- A text is read as an object exactly when it starts, after white space, with an opening brace.
One unit is enough to know it. -/
theorem isObject_of_parse {t : Text} {j : Json} (h : parse repeats t = .ok j) :
    j.isObject = true ↔ (t.dropWhile Cursor.isSpace).head? = some 0x7B := by
  obtain ⟨d, hread, _⟩ := parse_eq_ok_iff.mp h
  rw [← Cursor.ahead_skipSpace ⟨0, t⟩]
  obtain ⟨e, -, hcase⟩ := readValue_cases hread
  rcases hcase with ⟨_, t, hahead, _, rfl⟩ | ⟨u, _, spelling, hahead, hu, _, rfl⟩ |
    ⟨_, members, hahead, _, rfl⟩ | ⟨_, items, hahead, _, rfl⟩ | ⟨word, hword, hspans⟩
  · simp [hahead, isObject, kind]
  · have hbrace : u ≠ 0x7B := by
      rintro rfl
      exact absurd hu (by decide)
    simp [hahead, isObject, kind, hbrace]
  · simp [hahead, isObject, kind]
  · simp [hahead, isObject, kind]
  · obtain ⟨u, rest, rfl, _, _, hbrace, _⟩ := head_of_mem_keywords hword
    rw [isObject_of_mem_keywords hword, hspans.ahead]
    simp [hbrace]

/-! ### Rewriting -/

mutual

/-- Rewriting string members keeps a tree well formed: it touches no number and no name. -/
theorem wellFormed_mapVisits (g : Visit → Text) :
    ∀ j : Json, j.WellFormed → (j.mapVisits g).WellFormed
  | .array items, h => by
      rw [WellFormed] at h
      rw [mapVisits, WellFormed]
      exact wellFormedItems_mapVisits g items h
  | .object members, h => by
      rw [WellFormed] at h
      rw [mapVisits, WellFormed]
      -- Only names decide about the order, and rewriting keeps them.
      refine ⟨?_, wellFormedMembers_mapVisits g members h.2⟩
      rw [Record.ordered_iff_names, names_mapVisitsMembers, ← Record.ordered_iff_names]
      exact h.1
  | .null, h | .bool _, h | .number _, h | .string _, h => h

/-- The same for the items of an array. -/
theorem wellFormedItems_mapVisits (g : Visit → Text) :
    ∀ items : List Json, WellFormedItems items → WellFormedItems (mapVisitsItems g items)
  | [], h => h
  | j :: rest, h =>
      ⟨wellFormed_mapVisits g j h.1, wellFormedItems_mapVisits g rest h.2⟩

/-- The same for the members of an object. -/
theorem wellFormedMembers_mapVisits (g : Visit → Text) :
    ∀ members : List (Text × Json), WellFormedMembers members →
      WellFormedMembers (mapVisitsMembers g members)
  | [], h => h
  | (name, j) :: rest, h => by
      have hj := wellFormed_mapVisits g j h.1
      have hrest := wellFormedMembers_mapVisits g rest h.2
      cases j with
      | string value => exact ⟨trivial, hrest⟩
      | _ => exact ⟨hj, hrest⟩

end

end FieldMask.Json
