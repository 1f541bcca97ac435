import FieldMask.Text.Basic

/-!
# `FieldMask.Record`: named entries in a fixed order

A `Record` is a list of named entries. A name that is an index, a number from 0 to 4294967294 in
plain decimal digits, stands before all other names, in ascending order of the numbers; the other
names stand in the order in which they came. `Record.set` keeps this order: a name that is there
keeps its place, and a new one goes where it belongs.

* `get?_set_self`, `get?_set_ne`: what `set` does to the value of each name.
-/

set_option autoImplicit false

namespace FieldMask

/-- Named entries in order. -/
abbrev Record (α : Type) := List (Text × α)

namespace Record

variable {α : Type}

/-- The value of a decimal digit. -/
def digitValue? (u : CodeUnit) : Option Nat :=
  if 0x30 ≤ u && u ≤ 0x39 then some (u.toNat - 0x30) else none

/-- The number that decimal digits spell, after those of `value`. -/
def digitsValue? (value : Nat) : Text → Option Nat
  | [] => some value
  | u :: rest => (digitValue? u).bind fun d => digitsValue? (value * 10 + d) rest

/-- The index that a name is, if it is one: decimal digits without a leading zero, below
`0xFFFFFFFF`. -/
def index? (name : Text) : Option Nat :=
  match name with
  | [] => none
  | [0x30] => some 0
  | 0x30 :: _ => none
  | _ => (digitsValue? 0 name).filter (· < 0xFFFFFFFF)

/-- The value of a name. -/
def get? (name : Text) : Record α → Option α
  | [] => none
  | (other, value) :: rest => if other = name then some value else get? name rest

/-- The name goes before another one, as far as their being indices decides. -/
def precedes (name other : Text) : Bool :=
  match index? name, index? other with
  | some i, some j => i < j
  | some _, none => true
  | none, _ => false

/-- Adds a new name where it belongs. -/
def insert (name : Text) (value : α) : Record α → Record α
  | [] => [(name, value)]
  | (other, v) :: rest =>
    if precedes name other then (name, value) :: (other, v) :: rest
    else (other, v) :: insert name value rest

/-- Gives a name a new value in its place. -/
def replace (name : Text) (value : α) : Record α → Record α
  | [] => []
  | (other, v) :: rest =>
    if other = name then (other, value) :: rest else (other, v) :: replace name value rest

/-- Gives a name a value: in its place if it is there, where it belongs if it is not. -/
def set (r : Record α) (name : Text) (value : α) : Record α :=
  if (r.get? name).isSome then r.replace name value else r.insert name value

/-- The names in order. -/
def names (r : Record α) : List Text := r.map Prod.fst

theorem get?_replace_self (name : Text) (value : α) (r : Record α)
    (h : (r.get? name).isSome = true) : (r.replace name value).get? name = some value := by
  induction r with
  | nil => simp [get?] at h
  | cons entry rest ih =>
    obtain ⟨other, v⟩ := entry
    by_cases ho : other = name
    · simp [replace, get?, ho]
    · simp only [get?, ho, if_false] at h
      simp [replace, get?, ho, ih h]

theorem get?_insert_self (name : Text) (value : α) (r : Record α)
    (h : r.get? name = none) : (r.insert name value).get? name = some value := by
  induction r with
  | nil => simp [insert, get?]
  | cons entry rest ih =>
    obtain ⟨other, v⟩ := entry
    by_cases ho : other = name
    · simp [get?, ho] at h
    · simp only [get?, ho, if_false] at h
      simp only [insert]
      split <;> simp [get?, ho, ih h]

/-- A name has the value that it was given. -/
theorem get?_set_self (r : Record α) (name : Text) (value : α) :
    (r.set name value).get? name = some value := by
  unfold set
  split
  · next h => exact get?_replace_self name value r h
  · next h => exact get?_insert_self name value r (by simpa using h)

theorem get?_replace_ne (name other : Text) (value : α) (r : Record α) (h : other ≠ name) :
    (r.replace name value).get? other = r.get? other := by
  induction r with
  | nil => rfl
  | cons entry rest ih =>
    obtain ⟨n, v⟩ := entry
    by_cases hn : n = name
    · subst hn
      simp [replace, get?, Ne.symm h]
    · simp [replace, get?, hn, ih]

theorem get?_insert_ne (name other : Text) (value : α) (r : Record α) (h : other ≠ name) :
    (r.insert name value).get? other = r.get? other := by
  induction r with
  | nil => simp [insert, get?, Ne.symm h]
  | cons entry rest ih =>
    obtain ⟨n, v⟩ := entry
    simp only [insert]
    split
    · simp [get?, Ne.symm h]
    · by_cases ho : n = other <;> simp [get?, ho, ih]

/-- Every other name keeps its value. -/
theorem get?_set_ne (r : Record α) (name other : Text) (value : α) (h : other ≠ name) :
    (r.set name value).get? other = r.get? other := by
  unfold set
  split
  · exact get?_replace_ne name other value r h
  · exact get?_insert_ne name other value r h

end Record

end FieldMask
