import FieldMask.Tally
import Mathlib.Algebra.GroupWithZero.Nat

/-!
# `FieldMask.Proofs.Tally`: what counting adds up to

A tally counts one name at a time. After a list of names, whatever was counted before:

* the total has grown by the length of the list (`total_foldl_add`);
* the count of each name has grown by the number of times the name is in the list
  (`count_foldl_add`), and a name has an entry if it had one or is in the list
  (`isSome_foldl_add_iff`);
* with more names no count is less (`count_foldl_add_le`);
* all counts together have grown as much as the total (`sum_foldl_add`).

The reserved name takes part in the first of these alone.
-/

set_option autoImplicit false

namespace FieldMask

namespace Record

/-- The numbers of a record together, whatever names they have. -/
def sum (r : Record Nat) : Nat := (r.map Prod.snd).sum

/-- A replaced number gives way to the new one. By induction on the record, as the replacement goes
along it. -/
theorem sum_replace {name : Text} {old : Nat} (value : Nat) {r : Record Nat}
    (h : r.get? name = some old) : (r.replace name value).sum + old = r.sum + value := by
  induction r with
  | nil => exact nomatch h
  | cons entry rest ih =>
      obtain ⟨other, v⟩ := entry
      by_cases ho : other = name
      · obtain rfl : v = old := by simpa [get?, ho] using h
        simp only [replace, ho, if_true, sum, List.map_cons, List.sum_cons]
        omega
      · have hrest := ih (by simpa [get?, ho] using h)
        simp only [sum] at hrest
        simp only [replace, ho, if_false, sum, List.map_cons, List.sum_cons]
        omega

/-- An inserted number comes on top, wherever it is inserted. -/
theorem sum_insert (name : Text) (value : Nat) (r : Record Nat) :
    (r.insert name value).sum = r.sum + value := by
  induction r with
  | nil => simp [insert, sum]
  | cons entry rest ih =>
      obtain ⟨other, v⟩ := entry
      simp only [sum] at ih
      simp only [insert]
      split
      · simp only [sum, List.map_cons, List.sum_cons]
        omega
      · simp only [sum, List.map_cons, List.sum_cons, ih]
        omega

/-- A number that is set takes the place of the old one, or of zero. It is stated without
subtraction. -/
theorem sum_set (r : Record Nat) (name : Text) (value : Nat) :
    (r.set name value).sum + (r.get? name).getD 0 = r.sum + value := by
  unfold set
  cases h : r.get? name with
  | none => simp [sum_insert]
  | some old => simpa using sum_replace value h

end Record

namespace Tally

/-- The counts of all names together, which a total is compared with. -/
def sum (t : Tally) : Nat := t.byStrategy.sum

/-! ### One name -/

/-- What counting a name does to the entries: that name gets the next count, unless it is
reserved. -/
theorem get?_add (t : Tally) (name n : Text) :
    (t.add name).byStrategy.get? n
      = if n = name ∧ n ≠ reservedName then some (t.count n + 1) else t.byStrategy.get? n := by
  unfold add
  by_cases hreserved : name = reservedName
  · have hnot : ¬ (n = name ∧ n ≠ reservedName) := by
      rintro ⟨rfl, hn⟩
      exact hn hreserved
    rw [if_pos hreserved, if_neg hnot]
  · rw [if_neg hreserved]
    by_cases hn : n = name
    · subst hn
      rw [if_pos ⟨rfl, hreserved⟩]
      exact Record.get?_set_self _ _ _
    · rw [if_neg (fun h => hn h.1)]
      exact Record.get?_set_ne _ _ _ _ hn

/-- A name that is not reserved is counted where it is the one that is added, and keeps its count
otherwise. -/
theorem count_add (t : Tally) (name : Text) {n : Text} (hn : n ≠ reservedName) :
    (t.add name).count n = t.count n + if name = n then 1 else 0 := by
  rw [count, get?_add]
  by_cases h : n = name
  · rw [if_pos ⟨h, hn⟩, if_pos h.symm]
    rfl
  · rw [if_neg (fun hboth => h hboth.1), if_neg (Ne.symm h)]
    rfl

/-- All counts together grow by one with a name that is not reserved. -/
theorem sum_add (t : Tally) {name : Text} (h : name ≠ reservedName) :
    (t.add name).sum = t.sum + 1 := by
  have hset := Record.sum_set t.byStrategy name (t.count name + 1)
  have hold : (t.byStrategy.get? name).getD 0 = t.count name := rfl
  have hnew : (t.add name).sum = (t.byStrategy.set name (t.count name + 1)).sum := by
    unfold sum add
    rw [if_neg h]
  have hsum : t.sum = t.byStrategy.sum := rfl
  omega

/-! ### A list of names -/

/-- The total grows by one for each name, reserved or not. -/
theorem total_foldl_add (names : List Text) (t : Tally) :
    (names.foldl add t).total = t.total + names.length := by
  induction names generalizing t with
  | nil => rfl
  | cons name rest ih =>
      have hone : (t.add name).total = t.total + 1 := rfl
      rw [List.foldl_cons, ih, hone, List.length_cons]
      omega

/-- A name that is not reserved is counted as often as it is there. By induction on the names. -/
theorem count_foldl_add (names : List Text) (t : Tally) {n : Text} (hn : n ≠ reservedName) :
    (names.foldl add t).count n = t.count n + names.count n := by
  induction names generalizing t with
  | nil => rfl
  | cons name rest ih =>
      rw [List.foldl_cons, ih, count_add t name hn, List.count_cons]
      simp only [beq_iff_eq]
      omega

/-- The reserved name keeps the count it had, however often it is there. -/
theorem count_foldl_add_reserved (names : List Text) (t : Tally) :
    (names.foldl add t).count reservedName = t.count reservedName := by
  induction names generalizing t with
  | nil => rfl
  | cons name rest ih =>
      rw [List.foldl_cons, ih, count, get?_add, if_neg fun h => h.2 rfl]
      rfl

/-- Names that come among more names are counted no less often with those. -/
theorem count_foldl_add_le {names more : List Text} (h : names.Sublist more) (t : Tally)
    (n : Text) : (names.foldl add t).count n ≤ (more.foldl add t).count n := by
  by_cases hn : n = reservedName
  · subst hn
    exact Nat.le_of_eq (by rw [count_foldl_add_reserved, count_foldl_add_reserved])
  · rw [count_foldl_add names t hn, count_foldl_add more t hn]
    exact Nat.add_le_add_left (h.count_le n) _

/-- A name has an entry if it had one, or if it is there and not reserved. No entry is ever taken
away. -/
theorem isSome_foldl_add_iff (names : List Text) (t : Tally) (n : Text) :
    ((names.foldl add t).byStrategy.get? n).isSome = true ↔
      (t.byStrategy.get? n).isSome = true ∨ n ≠ reservedName ∧ n ∈ names := by
  induction names generalizing t with
  | nil => simp
  | cons name rest ih =>
      rw [List.foldl_cons, ih, get?_add, List.mem_cons]
      by_cases h : n = name ∧ n ≠ reservedName
      · obtain ⟨rfl, hn⟩ := h
        simp [hn]
      · -- The name in front makes no entry of `n`, and it is `n` only if that is reserved.
        rw [if_neg h]
        constructor
        · rintro (hold | ⟨hn, hmem⟩)
          · exact .inl hold
          · exact .inr ⟨hn, .inr hmem⟩
        · rintro (hold | ⟨hn, rfl | hmem⟩)
          · exact .inl hold
          · exact absurd ⟨rfl, hn⟩ h
          · exact .inr ⟨hn, hmem⟩

/-- All counts together grow by one for each name, if none of them is reserved. So they keep step
with the total. -/
theorem sum_foldl_add (names : List Text) (t : Tally) (h : reservedName ∉ names) :
    (names.foldl add t).sum = t.sum + names.length := by
  induction names generalizing t with
  | nil => rfl
  | cons name rest ih =>
      rw [List.mem_cons, not_or] at h
      rw [List.foldl_cons, ih _ h.2, sum_add t (Ne.symm h.1), List.length_cons]
      omega

end Tally

end FieldMask
