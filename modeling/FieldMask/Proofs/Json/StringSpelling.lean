import FieldMask.Json.Parser
import FieldMask.Json.Printer

/-!
# `FieldMask.Proofs.Json.StringSpelling`: which texts spell a string

Between its quotes a string can be spelled in many ways: a unit stands for itself, or is escaped
by a letter or by its number. `SpellsUnits t body` says that `body` is one of the spellings of
`t`; it says nothing about surrogates, so `t` is any text.

* `readUnits_of_spells`: every spelling is read as the text that it spells.
* `spells_of_readUnits`: what is read is a spelling of the text that is given.
* `spellsUnits_printUnits`: what is printed for a text is a spelling of it.
-/

set_option autoImplicit false

namespace FieldMask.Json

/-- The units `body`, between quotes, spell the text `t`, unit by unit. -/
inductive SpellsUnits : (t body : Text) → Prop where
  | nil : SpellsUnits [] []
  /-- A unit that stands for itself. -/
  | plain {u : CodeUnit} {t body : Text} (hquote : u ≠ 0x22) (hbackslash : u ≠ 0x5C)
      (hcontrol : ¬ u < 0x20) (rest : SpellsUnits t body) : SpellsUnits (u :: t) (u :: body)
  /-- A unit escaped by a letter. -/
  | letter {v w : CodeUnit} {t body : Text} (hletter : escaped? v = some w)
      (rest : SpellsUnits t body) : SpellsUnits (w :: t) (0x5C :: v :: body)
  /-- A unit escaped by its number. -/
  | number {a b c d w : CodeUnit} {t body : Text} (hdigits : fourDigits? a b c d = some w)
      (rest : SpellsUnits t body) :
      SpellsUnits (w :: t) (0x5C :: 0x75 :: a :: b :: c :: d :: body)

/-! ### Reading -/

/-- At the closing quote the string is over. -/
theorem readUnits_quote (p : Nat) (rest : Text) :
    readUnits p (0x22 :: rest) = .ok ([], ⟨p + 1, rest⟩) := by
  rw [readUnits.eq_def]
  rfl

/-- A unit that is no quote, no backslash and no control stands for itself. -/
theorem readUnits_plain {u : CodeUnit} (hquote : u ≠ 0x22) (hbackslash : u ≠ 0x5C)
    (hcontrol : ¬ u < 0x20) (p : Nat) (rest : Text) :
    readUnits p (u :: rest) = (readUnits (p + 1) rest).map fun (t, c) => (u :: t, c) := by
  rw [readUnits.eq_def]
  simp only [if_neg hquote, if_neg hbackslash, if_neg hcontrol]

/-- After a backslash a letter stands for the unit that it escapes. -/
theorem readUnits_letter {v w : CodeUnit} (hletter : escaped? v = some w) (p : Nat)
    (rest : Text) :
    readUnits p (0x5C :: v :: rest) = (readUnits (p + 2) rest).map fun (t, c) => (w :: t, c) := by
  rw [readUnits.eq_def]
  simp [hletter]

/-- Four hexadecimal digits after a backslash and `u` stand for the unit of that number. -/
theorem readUnits_number {a b c d w : CodeUnit} (hdigits : fourDigits? a b c d = some w) (p : Nat)
    (rest : Text) :
    readUnits p (0x5C :: 0x75 :: a :: b :: c :: d :: rest)
      = (readUnits (p + 6) rest).map fun (t, c) => (w :: t, c) := by
  have hletter : escaped? 0x75 = none := by decide
  rw [readUnits.eq_def]
  simp [hletter, hdigits]

/-- A unit before what is read, up to the same cursor. This is what each of the steps above leads
to. -/
theorem map_cons_of_eq_ok {r : Except ParseError (Text × Cursor)} {t rest : Text} {p q : Nat}
    (w : CodeUnit) (hr : r = .ok (t, ⟨p, rest⟩)) (hp : p = q) :
    (r.map fun (t, c) => (w :: t, c)) = .ok (w :: t, ⟨q, rest⟩) := by
  rw [hr, hp]
  rfl

/-- Every spelling of a text is read as that text, and the reader stops behind the closing quote. By
induction on the spelling. -/
theorem readUnits_of_spells {t body : Text} (h : SpellsUnits t body) (rest : Text) (p : Nat) :
    readUnits p (body ++ 0x22 :: rest) = .ok (t, ⟨p + (body.length + 1), rest⟩) := by
  induction h generalizing p with
  | nil => exact readUnits_quote p rest
  | plain hquote hbackslash hcontrol _ ih =>
      rw [List.cons_append, readUnits_plain hquote hbackslash hcontrol]
      refine map_cons_of_eq_ok _ (ih _) ?_
      rw [List.length_cons]
      omega
  | letter hletter _ ih =>
      rw [List.cons_append, List.cons_append, readUnits_letter hletter]
      refine map_cons_of_eq_ok _ (ih _) ?_
      rw [List.length_cons, List.length_cons]
      omega
  | number hdigits _ ih =>
      simp only [List.cons_append]
      rw [readUnits_number hdigits]
      refine map_cons_of_eq_ok _ (ih _) ?_
      simp only [List.length_cons]
      omega

/-- A unit before what is read, from the result: the rest was read, and up to the same cursor. -/
theorem eq_ok_of_map_cons {r : Except ParseError (Text × Cursor)} {w : CodeUnit} {t : Text}
    {c : Cursor} (h : (r.map fun (t, c) => (w :: t, c)) = .ok (t, c)) :
    ∃ rest, r = .ok (rest, c) ∧ t = w :: rest := by
  cases r with
  | error e => exact nomatch h
  | ok found =>
      obtain ⟨rest, d⟩ := found
      obtain ⟨rfl, rfl⟩ := Prod.mk.inj (Except.ok.inj h)
      exact ⟨rest, rfl, rfl⟩

/-- What is read up to the closing quote spells the text that is given. By the steps of the reader.
-/
theorem spells_of_readUnits {p : Nat} {ahead t : Text} {c : Cursor}
    (h : readUnits p ahead = .ok (t, c)) :
    ∃ body, SpellsUnits t body ∧ ahead = body ++ 0x22 :: c.ahead ∧
      c.position = p + (body.length + 1) := by
  fun_induction readUnits p ahead generalizing t c with
  | case2 =>
      obtain ⟨rfl, rfl⟩ := Prod.mk.inj (Except.ok.inj h)
      exact ⟨[], .nil, rfl, rfl⟩
  | case4 p v after w hletter _ ih =>
      obtain ⟨rest, hread, rfl⟩ := eq_ok_of_map_cons h
      obtain ⟨body, hbody, rfl, hposition⟩ := ih hread
      refine ⟨0x5C :: v :: body, .letter hletter hbody, rfl, ?_⟩
      rw [hposition, List.length_cons, List.length_cons]
      omega
  | case5 p d₁ d₂ d₃ d₄ after w hdigits _ _ ih =>
      obtain ⟨rest, hread, rfl⟩ := eq_ok_of_map_cons h
      obtain ⟨body, hbody, rfl, hposition⟩ := ih hread
      refine ⟨0x5C :: 0x75 :: d₁ :: d₂ :: d₃ :: d₄ :: body, .number hdigits hbody, rfl, ?_⟩
      rw [hposition]
      simp only [List.length_cons]
      omega
  | case10 p u after hquote hbackslash hcontrol ih =>
      obtain ⟨rest, hread, rfl⟩ := eq_ok_of_map_cons h
      obtain ⟨body, hbody, rfl, hposition⟩ := ih hread
      refine ⟨u :: body, .plain hquote hbackslash hcontrol hbody, rfl, ?_⟩
      rw [hposition, List.length_cons]
      omega
  | _ => exact nomatch h

/-! ### Printing -/

/-- The value of a printed hexadecimal digit is the number that was printed, up to a multiple of
sixteen. -/
theorem hexValue?_hexDigit (n : Nat) : hexValue? (hexDigit n) = some (n % 16) := by
  have hall : ∀ d < 16, hexValue? (UInt16.ofNat (if d < 10 then 0x30 + d else 0x61 + (d - 10)))
      = some d := by decide
  exact hall (n % 16) (Nat.mod_lt n (by decide))

/-- The four printed digits of a unit name that unit, so an escape by number loses nothing. -/
theorem fourDigits?_unicodeEscape (u : CodeUnit) :
    fourDigits? (hexDigit (u.toNat / 0x1000)) (hexDigit (u.toNat / 0x100))
      (hexDigit (u.toNat / 0x10)) (hexDigit u.toNat) = some u := by
  have hlt : u.toNat < 0x10000 := u.toNat_lt
  have hvalue : ((u.toNat / 0x1000 % 16 * 16 + u.toNat / 0x100 % 16) * 16
      + u.toNat / 0x10 % 16) * 16 + u.toNat % 16 = u.toNat := by omega
  simp only [fourDigits?, hexValue?_hexDigit, hvalue, UInt16.ofNat_toNat]

/-- What is printed for one unit goes before a spelling of the rest, be the unit escaped or not. -/
theorem spellsUnits_printUnit (u : CodeUnit) {t body : Text} (rest : SpellsUnits t body) :
    SpellsUnits (u :: t) (printUnit u ++ body) := by
  unfold printUnit
  split
  · next h => exact .letter (by rcases h with rfl | rfl <;> decide) rest
  split
  · next h => subst h; exact .letter (by decide) rest
  split
  · next h => subst h; exact .letter (by decide) rest
  split
  · next h => subst h; exact .letter (by decide) rest
  split
  · next h => subst h; exact .letter (by decide) rest
  split
  · next h => subst h; exact .letter (by decide) rest
  split
  · exact .number (fourDigits?_unicodeEscape u) rest
  · next hspecial _ _ _ _ _ hescaped =>
      rw [not_or] at hspecial hescaped
      exact .plain hspecial.1 hspecial.2 hescaped.1 rest

/-- Half of a surrogate pair stands for itself in a spelling. It is no quote, no backslash and no
control. -/
theorem spellsUnits_surrogate {u : CodeUnit} (hu : Text.isHigh u = true ∨ Text.isLow u = true)
    {t body : Text} (rest : SpellsUnits t body) : SpellsUnits (u :: t) (u :: body) := by
  have hlarge : 0xD800 ≤ u.toNat := by
    simp only [Text.isHigh, Text.isLow, Bool.and_eq_true, decide_eq_true_eq,
      UInt16.le_iff_toNat_le, UInt16.reduceToNat] at hu
    omega
  refine .plain ?_ ?_ ?_ rest
  · rintro rfl
    exact absurd hlarge (by decide)
  · rintro rfl
    exact absurd hlarge (by decide)
  · simp only [UInt16.lt_iff_toNat_lt, UInt16.reduceToNat]
    omega

/-- What is printed for a text is a spelling of it: a pair of surrogates is printed as it is, and a
half alone by its number. -/
theorem spellsUnits_printUnits (t : Text) : SpellsUnits t (printUnits t) := by
  fun_induction printUnits t with
  | case1 => exact .nil
  | case2 u => simpa using spellsUnits_printUnit u .nil
  | case3 u v rest h ih =>
      rw [Bool.and_eq_true] at h
      exact spellsUnits_surrogate (Or.inl h.1) (spellsUnits_surrogate (Or.inr h.2) ih)
  | case4 u v rest _ ih => exact spellsUnits_printUnit u ih

end FieldMask.Json
