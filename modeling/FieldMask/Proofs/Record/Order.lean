import FieldMask.Record

/-!
# `FieldMask.Proofs.Record.Order`: the order of a record

`Record.Ordered` is the order that `set` keeps: no name comes twice, and no name stands before one
that precedes it. Every record built by `set` is ordered (`ordered_set`), and for ordered records
building is the identity: setting the entries one by one, in order, puts each of them at the end
(`set_of_ordered_append`).
-/

set_option autoImplicit false

namespace FieldMask.Record

variable {α : Type}

/-- A name may stand before another one: they differ, and the later one does not precede. -/
def MayStand (earlier later : Text) : Prop := earlier ≠ later ∧ precedes later earlier = false

/-- The entries are in the order that `set` keeps: of any two, the one in front may stand there. -/
def Ordered (r : Record α) : Prop := r.Pairwise fun a b => MayStand a.1 b.1

/-! ### Precedence -/

/-- A name precedes another one if it is an index, and the other one is a greater index or none. -/
theorem precedes_iff (a b : Text) :
    precedes a b = true ↔ ∃ i, index? a = some i ∧ ∀ j, index? b = some j → i < j := by
  unfold precedes
  cases ha : index? a <;> cases hb : index? b <;> simp

/-- Precedence is transitive, so a name need only be compared with its neighbours. -/
theorem precedes_trans {a b c : Text} (hab : precedes a b = true) (hbc : precedes b c = true) :
    precedes a c = true := by
  rw [precedes_iff] at hab hbc ⊢
  obtain ⟨i, ha, hi⟩ := hab
  obtain ⟨j, hb, hj⟩ := hbc
  exact ⟨i, ha, fun k hk => Nat.lt_trans (hi j hb) (hj k hk)⟩

/-- Precedence goes one way only. Two names of which neither precedes stand in the order in which
they came. -/
theorem precedes_asymm {a b : Text} (hab : precedes a b = true) : precedes b a = false := by
  rw [Bool.eq_false_iff]
  intro hba
  rw [precedes_iff] at hab hba
  obtain ⟨i, ha, hi⟩ := hab
  obtain ⟨j, hb, hj⟩ := hba
  exact Nat.lt_irrefl i (Nat.lt_trans (hi j hb) (hj i ha))

/-! ### Names and values -/

/-- A name has no value exactly when no entry has that name. -/
theorem get?_eq_none_iff (r : Record α) (name : Text) :
    r.get? name = none ↔ ∀ entry ∈ r, entry.1 ≠ name := by
  induction r with
  | nil => simp [get?]
  | cons entry rest ih =>
      obtain ⟨other, v⟩ := entry
      by_cases ho : other = name
      · simp [get?, ho]
      · simp [get?, ho, ih]

/-! ### Setting a value -/

/-- An entry after an insertion is the new one or an old one, so what holds of both holds of all. -/
theorem mem_insert {name : Text} {value : α} {r : Record α} {entry : Text × α}
    (h : entry ∈ r.insert name value) : entry = (name, value) ∨ entry ∈ r := by
  induction r with
  | nil => simpa [insert] using h
  | cons first rest ih =>
      obtain ⟨other, v⟩ := first
      simp only [insert] at h
      split at h
      · exact List.mem_cons.mp h
      · rcases List.mem_cons.mp h with rfl | h
        · exact Or.inr List.mem_cons_self
        · exact (ih h).imp_right (List.mem_cons_of_mem _)

/-- A new name is inserted where it may stand, and the order is kept. By induction on the record, as
the insertion goes along it. -/
theorem ordered_insert {r : Record α} (hr : Ordered r) {name : Text} (value : α)
    (hnew : r.get? name = none) : Ordered (r.insert name value) := by
  rw [get?_eq_none_iff] at hnew
  induction r with
  | nil => exact List.pairwise_singleton _ _
  | cons first rest ih =>
      obtain ⟨other, v⟩ := first
      obtain ⟨hfirst, hrest⟩ := List.pairwise_cons.mp hr
      have hother : other ≠ name := hnew _ List.mem_cons_self
      simp only [insert]
      split
      · next hbefore =>
          refine List.pairwise_cons.mpr ⟨fun entry hentry => ?_, hr⟩
          refine ⟨Ne.symm (hnew entry hentry), ?_⟩
          rcases List.mem_cons.mp hentry with rfl | hmem
          · exact precedes_asymm hbefore
          · -- What follows `other` cannot precede `name`, or it would precede `other`.
            have hnot : ¬ precedes entry.1 other = true :=
              Bool.eq_false_iff.mp (hfirst entry hmem).2
            rw [Bool.eq_false_iff]
            intro hlater
            exact hnot (precedes_trans hlater hbefore)
      · next hafter =>
          have hrest' := ih hrest fun entry hentry => hnew entry (List.mem_cons_of_mem _ hentry)
          refine List.pairwise_cons.mpr ⟨fun entry hentry => ?_, hrest'⟩
          rcases mem_insert hentry with rfl | hmem
          · exact ⟨hother, by simpa using hafter⟩
          · exact hfirst entry hmem

/-- Replacing a value keeps the names, in their order. -/
theorem names_replace (name : Text) (value : α) (r : Record α) :
    (r.replace name value).names = r.names := by
  induction r with
  | nil => rfl
  | cons first rest ih =>
      obtain ⟨other, v⟩ := first
      simp only [replace]
      split
      · rfl
      · exact congrArg (other :: ·) ih

/-- An entry after a replacement is the new one or an old one. -/
theorem mem_replace {name : Text} {value : α} {r : Record α} {entry : Text × α}
    (h : entry ∈ r.replace name value) : entry = (name, value) ∨ entry ∈ r := by
  induction r with
  | nil => exact nomatch h
  | cons first rest ih =>
      obtain ⟨other, v⟩ := first
      simp only [replace] at h
      split at h
      · next ho =>
          rw [ho] at h
          exact (List.mem_cons.mp h).imp_right (List.mem_cons_of_mem _)
      · rcases List.mem_cons.mp h with rfl | h
        · exact Or.inr List.mem_cons_self
        · exact (ih h).imp_right (List.mem_cons_of_mem _)

/-- An entry after a value is set is the new one or an old one, whether its name was there or not.
-/
theorem mem_set {name : Text} {value : α} {r : Record α} {entry : Text × α}
    (h : entry ∈ r.set name value) : entry = (name, value) ∨ entry ∈ r := by
  unfold set at h
  split at h
  · exact mem_replace h
  · exact mem_insert h

/-- The order of a record is the order of its names, so values can change freely. -/
theorem ordered_iff_names (r : Record α) : Ordered r ↔ r.names.Pairwise MayStand :=
  List.pairwise_map.symm

/-- Setting a value keeps a record ordered: a name that is there keeps its place, and a new one is
inserted. -/
theorem ordered_set {r : Record α} (hr : Ordered r) (name : Text) (value : α) :
    Ordered (r.set name value) := by
  unfold set
  split
  · rw [ordered_iff_names, names_replace, ← ordered_iff_names]
    exact hr
  · next h => exact ordered_insert hr value (by simpa using h)

/-- A new name that precedes none of those that are there goes to the end. -/
theorem insert_of_forall {r : Record α} {name : Text} (value : α)
    (h : ∀ entry ∈ r, precedes name entry.1 = false) :
    r.insert name value = r ++ [(name, value)] := by
  induction r with
  | nil => rfl
  | cons first rest ih =>
      obtain ⟨other, v⟩ := first
      have hfirst : precedes name other = false := h _ List.mem_cons_self
      have hrest := ih fun entry hentry => h entry (List.mem_cons_of_mem _ hentry)
      simp [insert, hfirst, hrest]

/-- What stands before an entry of an ordered record may stand before its name. -/
theorem mayStand_of_ordered_append {r rest : Record α} {name : Text} {value : α}
    (h : Ordered (r ++ (name, value) :: rest)) : ∀ entry ∈ r, MayStand entry.1 name :=
  fun entry hentry =>
    (List.pairwise_append.mp h).2.2 entry hentry (name, value) List.mem_cons_self

/-- The next entry of an ordered record has a new name. -/
theorem get?_of_ordered_append {r rest : Record α} {name : Text} {value : α}
    (h : Ordered (r ++ (name, value) :: rest)) : r.get? name = none :=
  (get?_eq_none_iff r name).mpr fun entry hentry =>
    (mayStand_of_ordered_append h entry hentry).1

/-- Setting the next entry of an ordered record puts it at the end. So a record is built again,
entry by entry, from its own entries. -/
theorem set_of_ordered_append {r rest : Record α} {name : Text} {value : α}
    (h : Ordered (r ++ (name, value) :: rest)) :
    r.set name value = r ++ [(name, value)] := by
  rw [set, get?_of_ordered_append h, if_neg (by simp)]
  exact insert_of_forall value fun entry hentry => (mayStand_of_ordered_append h entry hentry).2

end FieldMask.Record
