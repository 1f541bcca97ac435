import FieldMask.Proofs.Json.WellFormed

/-!
# `FieldMask.Proofs.Json.Settle`: from what is written to what is meant

A text names the members of an object in any order, and may name one more than once. A tree as it is
written keeps all of that. `settle` makes of it the tree that is meant: the members of each object
are put into a record one after the other, and the rule for repeated names decides what becomes of a
name that is there already. It gives nothing where that rule is broken, which only `Repeats.same`
can be.

A well-formed tree is already settled (`settle_of_wellFormed`).
-/

set_option autoImplicit false

namespace FieldMask.Json

variable (repeats : Repeats)

/-- The members with one more, unless the rule for repeated names forbids it. -/
def join (members : Record Json) (name : Text) (value : Json) : Option (Record Json) :=
  (addMember repeats members name value 0).toOption

/-- The position of a name is part of the complaint and of nothing else. So settling can do without
positions. -/
theorem addMember_eq_ok_iff (members : Record Json) (name : Text) (value : Json) (p : Nat)
    (more : Record Json) :
    addMember repeats members name value p = .ok more ↔
      join repeats members name value = some more := by
  unfold join addMember
  cases repeats with
  | last => simp [Except.toOption]
  | same =>
      cases members.get? name with
      | none => simp [Except.toOption]
      | some old => by_cases hsame : sameValue value old = true <;> simp [hsame, Except.toOption]

mutual

/-- The tree that a tree as it is written stands for: every object in it becomes a record. -/
def settle : Json → Option Json
  | .array items => (settleItems items).map .array
  | .object members => (settleMembers [] members).map .object
  | j => some j

/-- The items that items as they are written stand for. -/
def settleItems : List Json → Option (List Json)
  | [] => some []
  | j :: rest => (settle j).bind fun value => (settleItems rest).map (value :: ·)

/-- The record that members as they are written stand for, after the members before them. -/
def settleMembers (before : Record Json) : List (Text × Json) → Option (Record Json)
  | [] => some before
  | (name, j) :: rest =>
    (settle j).bind fun value =>
      (join repeats before name value).bind fun more => settleMembers more rest

end

variable {repeats}

/-- Settled items are the settled first one and the settled rest. -/
theorem settleItems_cons {j : Json} {rest all : List Json} :
    settleItems repeats (j :: rest) = some all ↔
      ∃ value items, settle repeats j = some value ∧ settleItems repeats rest = some items ∧
        all = value :: items := by
  simp only [settleItems, Option.bind_eq_some_iff, Option.map_eq_some_iff]
  constructor
  · rintro ⟨value, hvalue, items, hitems, rfl⟩
    exact ⟨value, items, hvalue, hitems, rfl⟩
  · rintro ⟨value, items, hvalue, hitems, rfl⟩
    exact ⟨value, hvalue, items, hitems, rfl⟩

/-- Settled members come of joining the settled first one to those before it, and then the rest. -/
theorem settleMembers_cons {before all : Record Json} {name : Text} {j : Json}
    {rest : List (Text × Json)} :
    settleMembers repeats before ((name, j) :: rest) = some all ↔
      ∃ value more, settle repeats j = some value ∧ join repeats before name value = some more ∧
        settleMembers repeats more rest = some all := by
  simp only [settleMembers, Option.bind_eq_some_iff]
  constructor
  · rintro ⟨value, hvalue, more, hmore, hall⟩
    exact ⟨value, more, hvalue, hmore, hall⟩
  · rintro ⟨value, more, hvalue, hmore, hall⟩
    exact ⟨value, hvalue, more, hmore, hall⟩

/-- A member with a new name joins at once, by either rule. -/
theorem join_of_new {members : Record Json} {name : Text} (value : Json)
    (h : members.get? name = none) :
    join repeats members name value = some (members.set name value) := by
  unfold join addMember
  cases repeats <;> simp [h, Except.toOption]

/-- Where the last member of a name counts, every member joins. -/
theorem join_last (members : Record Json) (name : Text) (value : Json) :
    join .last members name value = some (members.set name value) := rfl

mutual

/-- Where the last member of a name counts, every tree stands for something. By induction on the
tree. -/
theorem exists_settle_last : ∀ j : Json, ∃ value, settle .last j = some value
  | .array items => by
      obtain ⟨values, hvalues⟩ := exists_settleItems_last items
      exact ⟨.array values, by rw [settle, hvalues, Option.map_some]⟩
  | .object members => by
      obtain ⟨all, hall⟩ := exists_settleMembers_last members []
      exact ⟨.object all, by rw [settle, hall, Option.map_some]⟩
  | .null => ⟨_, rfl⟩
  | .bool _ => ⟨_, rfl⟩
  | .number _ => ⟨_, rfl⟩
  | .string _ => ⟨_, rfl⟩

/-- The same for the items of an array. -/
theorem exists_settleItems_last :
    ∀ items : List Json, ∃ values, settleItems .last items = some values
  | [] => ⟨[], rfl⟩
  | j :: rest => by
      obtain ⟨value, hvalue⟩ := exists_settle_last j
      obtain ⟨values, hvalues⟩ := exists_settleItems_last rest
      exact ⟨_, settleItems_cons.mpr ⟨value, values, hvalue, hvalues, rfl⟩⟩

/-- The same for members, whatever stands before them. -/
theorem exists_settleMembers_last :
    ∀ (members : List (Text × Json)) (before : Record Json),
      ∃ all, settleMembers .last before members = some all
  | [], before => ⟨before, rfl⟩
  | (name, j) :: rest, before => by
      obtain ⟨value, hvalue⟩ := exists_settle_last j
      obtain ⟨all, hall⟩ := exists_settleMembers_last rest (before.set name value)
      exact ⟨all, settleMembers_cons.mpr ⟨value, _, hvalue, join_last before name value, hall⟩⟩

end

mutual

/-- A well-formed tree stands for itself: no name in it is repeated, and the members are in the
order of a record. -/
theorem settle_of_wellFormed : ∀ j : Json, j.WellFormed → settle repeats j = some j
  | .array items, h => by rw [settle, settleItems_of_wellFormed items h, Option.map_some]
  | .object members, h => by
      have hmembers : settleMembers repeats [] members = some ([] ++ members) :=
        settleMembers_of_wellFormed members h.1 h.2
      rw [settle, hmembers, Option.map_some, List.nil_append]
  | .null, _ | .bool _, _ | .number _, _ | .string _, _ => rfl

/-- The same for the items of an array. -/
theorem settleItems_of_wellFormed :
    ∀ items : List Json, WellFormedItems items → settleItems repeats items = some items
  | [], _ => rfl
  | j :: rest, h =>
      settleItems_cons.mpr
        ⟨j, rest, settle_of_wellFormed j h.1, settleItems_of_wellFormed rest h.2, rfl⟩

/-- Members that continue an ordered record join it one by one, each at the end. -/
theorem settleMembers_of_wellFormed :
    ∀ (members : List (Text × Json)) {before : Record Json},
      Record.Ordered (before ++ members) → WellFormedMembers members →
      settleMembers repeats before members = some (before ++ members)
  | [], before, _, _ => by rw [settleMembers, List.append_nil]
  | (name, j) :: rest, before, hordered, h => by
      -- In an ordered record the next name is new, and its place is behind all others.
      have hjoin : join repeats before name j = some (before.set name j) :=
        join_of_new j (Record.get?_of_ordered_append hordered)
      rw [Record.set_of_ordered_append hordered] at hjoin
      rw [List.append_cons] at hordered ⊢
      exact settleMembers_cons.mpr ⟨j, _, settle_of_wellFormed j h.1, hjoin,
        settleMembers_of_wellFormed rest hordered h.2⟩

end

end FieldMask.Json
