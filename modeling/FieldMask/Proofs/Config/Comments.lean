import FieldMask.Config.Comments
import FieldMask.Proofs.Json.Spelling

/-!
# `FieldMask.Proofs.Config.Comments`: what is left without comments

A configuration is spelled like JSON, with two liberties. Between two tokens there may be comments
next to white space, which is a `Gap`. And a comma may stand after the last item or member.
`Spells raw t plain` is that grammar: `t` spells the tree `raw`, and `plain` is `t` without the
comments and without such commas. The line end after a comment is white space, so it stays.

The scan itself is more liberal by one comma: it takes out a comma before every closing bracket,
also one that stands alone in an empty array or object. `Loose` is the grammar with that comma, and
`Spells` is part of it (`loose_of_spells`).

`strip` finds `plain` (`strip_of_loose`). It is one scan from left to right, and the proof follows
it over the grammar. What the scan carries is a comma that it holds back, with the white space after
it. The next token releases the comma, and a closing bracket drops it (`stripFrom_value`,
`stripFrom_items`, `stripFrom_members`). Inside a string nothing is held and nothing is dropped,
whatever it holds (`stripFrom_string`).

What is left is plain JSON for the same tree (`loose_plain`). And plain JSON has neither comments
nor such commas, so nothing is taken from it (`spells_of_plain`).
-/

set_option autoImplicit false

namespace FieldMask.Config

open Json (Cursor IsNumber IsSpaces SpellsUnits keywords)

/-! ### The grammar -/

/-- White space and comments between tokens, and the white space among it. A comment is closed by
its line end, which is white space and stays. Between two tokens a gap may be empty. -/
inductive Gap : (g blanks : Text) → Prop where
  | nil : Gap [] []
  | space {u : CodeUnit} {g w : Text} (hu : Cursor.isSpace u = true) (rest : Gap g w) :
      Gap (u :: g) (u :: w)
  | comment {c g w : Text} (hc : 0x0A ∉ c) (rest : Gap g w) :
      Gap (0x2F :: 0x2F :: (c ++ 0x0A :: g)) (0x0A :: w)

/-- A gap at the end of the text, where the last comment may lack its line end. Nowhere else can a
comment be left open, since what follows would belong to it. -/
inductive LastGap : (g blanks : Text) → Prop where
  | closed {g w : Text} (h : Gap g w) : LastGap g w
  | unclosed {g w c : Text} (h : Gap g w) (hc : 0x0A ∉ c) : LastGap (g ++ 0x2F :: 0x2F :: c) w

/-- What stands before a member or an item: nothing before the first, a comma and a gap before every
other one. Whether it is the first one is an index, so a list is spelled by one judgment. -/
inductive Separator : (first : Bool) → (sep plain : Text) → Prop where
  | none : Separator true [] []
  | comma {g w : Text} (h : Gap g w) : Separator false (0x2C :: g) (0x2C :: w)

mutual

/-- The text, without gaps around it, spells the tree; `plain` is what is left of it. The judgment
relates three things at once, and so each of its rules says both what may be written and what the
scan is to make of it. -/
inductive Spells : (raw : Json) → (t plain : Text) → Prop where
  | word {raw : Json} {t : Text} (h : (t, raw) ∈ keywords) : Spells raw t t
  | number {t : Text} (h : IsNumber t) : Spells (.number t) t t
  | string {t body : Text} (h : SpellsUnits t body) :
      Spells (.string t) (0x22 :: (body ++ [0x22])) (0x22 :: (body ++ [0x22]))
  | array {raws : List Json} {g w body plain : Text} (hg : Gap g w)
      (h : SpellsItems true raws body plain) :
      Spells (.array raws) ([0x5B] ++ (g ++ (body ++ [0x5D]))) ([0x5B] ++ (w ++ (plain ++ [0x5D])))
  | object {raws : List (Text × Json)} {g w body plain : Text} (hg : Gap g w)
      (h : SpellsMembers true raws body plain) :
      Spells (.object raws) ([0x7B] ++ (g ++ (body ++ [0x7D])))
        ([0x7B] ++ (w ++ (plain ++ [0x7D])))

/-- The text spells the items up to the closing bracket. The gap behind an item belongs to the item.
-/
inductive SpellsItems : (first : Bool) → (raws : List Json) → (body plain : Text) → Prop where
  | nil {first : Bool} : SpellsItems first [] [] []
  /-- A comma after the last item, which there has to be. -/
  | trailing {g w : Text} (hg : Gap g w) : SpellsItems false [] (0x2C :: g) w
  | cons {first : Bool} {sep sepPlain t p g w body plain : Text} {raw : Json} {rest : List Json}
      (hsep : Separator first sep sepPlain) (hraw : Spells raw t p) (hg : Gap g w)
      (hrest : SpellsItems false rest body plain) :
      SpellsItems first (raw :: rest) (sep ++ (t ++ g) ++ body) (sepPlain ++ (p ++ w) ++ plain)

/-- The text spells the members up to the closing brace. There can be gaps on both sides of the
colon as well. -/
inductive SpellsMembers :
    (first : Bool) → (raws : List (Text × Json)) → (body plain : Text) → Prop where
  | nil {first : Bool} : SpellsMembers first [] [] []
  /-- A comma after the last member, which there has to be. -/
  | trailing {g w : Text} (hg : Gap g w) : SpellsMembers false [] (0x2C :: g) w
  | cons {first : Bool} {sep sepPlain name key g₁ w₁ g₂ w₂ t p g₃ w₃ body plain : Text} {raw : Json}
      {rest : List (Text × Json)} (hsep : Separator first sep sepPlain)
      (hname : SpellsUnits name key) (hg₁ : Gap g₁ w₁) (hg₂ : Gap g₂ w₂) (hraw : Spells raw t p)
      (hg₃ : Gap g₃ w₃) (hrest : SpellsMembers false rest body plain) :
      SpellsMembers first ((name, raw) :: rest)
        (sep ++ (0x22 :: (key ++ 0x22 :: g₁) ++ ([0x3A] ++ (g₂ ++ (t ++ g₃) ++ body))))
        (sepPlain ++ (0x22 :: (key ++ 0x22 :: w₁) ++ ([0x3A] ++ (w₂ ++ (p ++ w₃) ++ plain))))

end

/-- The whole text spells the tree, with gaps around it; `plain` is what is left of the text. This
is the language of configurations as it is documented. -/
inductive SpellsText : (raw : Json) → (text plain : Text) → Prop where
  | mk {raw : Json} {g w t p g' w' : Text} (hg : Gap g w) (h : Spells raw t p)
      (hg' : LastGap g' w') : SpellsText raw (g ++ (t ++ g')) (w ++ (p ++ w'))

/-! ### A comma in an empty container -/

mutual

/-- The text spells the tree, and a comma may stand before every closing bracket, also in an empty
array or object. This is what the scan accepts; the documented language is smaller by the commas in
empty containers. -/
inductive Loose : (raw : Json) → (t plain : Text) → Prop where
  | word {raw : Json} {t : Text} (h : (t, raw) ∈ keywords) : Loose raw t t
  | number {t : Text} (h : IsNumber t) : Loose (.number t) t t
  | string {t body : Text} (h : SpellsUnits t body) :
      Loose (.string t) (0x22 :: (body ++ [0x22])) (0x22 :: (body ++ [0x22]))
  | array {raws : List Json} {g w body plain : Text} (hg : Gap g w)
      (h : LooseItems true raws body plain) :
      Loose (.array raws) ([0x5B] ++ (g ++ (body ++ [0x5D]))) ([0x5B] ++ (w ++ (plain ++ [0x5D])))
  | object {raws : List (Text × Json)} {g w body plain : Text} (hg : Gap g w)
      (h : LooseMembers true raws body plain) :
      Loose (.object raws) ([0x7B] ++ (g ++ (body ++ [0x7D])))
        ([0x7B] ++ (w ++ (plain ++ [0x7D])))

/-- The text spells the items up to the closing bracket. The only difference to the judgment above
is that a comma at the end needs no item before it. -/
inductive LooseItems : (first : Bool) → (raws : List Json) → (body plain : Text) → Prop where
  | nil {first : Bool} : LooseItems first [] [] []
  /-- A comma after the last item, or without one. -/
  | trailing {first : Bool} {g w : Text} (hg : Gap g w) : LooseItems first [] (0x2C :: g) w
  | cons {first : Bool} {sep sepPlain t p g w body plain : Text} {raw : Json} {rest : List Json}
      (hsep : Separator first sep sepPlain) (hraw : Loose raw t p) (hg : Gap g w)
      (hrest : LooseItems false rest body plain) :
      LooseItems first (raw :: rest) (sep ++ (t ++ g) ++ body) (sepPlain ++ (p ++ w) ++ plain)

/-- The text spells the members up to the closing brace, with the same difference. -/
inductive LooseMembers :
    (first : Bool) → (raws : List (Text × Json)) → (body plain : Text) → Prop where
  | nil {first : Bool} : LooseMembers first [] [] []
  /-- A comma after the last member, or without one. -/
  | trailing {first : Bool} {g w : Text} (hg : Gap g w) : LooseMembers first [] (0x2C :: g) w
  | cons {first : Bool} {sep sepPlain name key g₁ w₁ g₂ w₂ t p g₃ w₃ body plain : Text} {raw : Json}
      {rest : List (Text × Json)} (hsep : Separator first sep sepPlain)
      (hname : SpellsUnits name key) (hg₁ : Gap g₁ w₁) (hg₂ : Gap g₂ w₂) (hraw : Loose raw t p)
      (hg₃ : Gap g₃ w₃) (hrest : LooseMembers false rest body plain) :
      LooseMembers first ((name, raw) :: rest)
        (sep ++ (0x22 :: (key ++ 0x22 :: g₁) ++ ([0x3A] ++ (g₂ ++ (t ++ g₃) ++ body))))
        (sepPlain ++ (0x22 :: (key ++ 0x22 :: w₁) ++ ([0x3A] ++ (w₂ ++ (p ++ w₃) ++ plain))))

end

/-- The whole text spells the tree, with gaps around it; `plain` is what is left of the text. -/
inductive LooseText : (raw : Json) → (text plain : Text) → Prop where
  | mk {raw : Json} {g w t p g' w' : Text} (hg : Gap g w) (h : Loose raw t p)
      (hg' : LastGap g' w') : LooseText raw (g ++ (t ++ g')) (w ++ (p ++ w'))

mutual

/-- The grammar without commas in empty containers is part of the grammar with them. Induction on
the tree, with one case for each rule; the same holds of items and of members. -/
theorem loose_of_spells :
    ∀ (raw : Json) {t plain : Text}, Spells raw t plain → Loose raw t plain
  | _, _, _, .word h => .word h
  | _, _, _, .number h => .number h
  | _, _, _, .string h => .string h
  | .array raws, _, _, .array hg h => .array hg (looseItems_of_spells raws h)
  | .object raws, _, _, .object hg h => .object hg (looseMembers_of_spells raws h)

/-- The same for items. A comma at the end comes after an item, and that is a case of a comma at the
end. -/
theorem looseItems_of_spells :
    ∀ (raws : List Json) {first : Bool} {body plain : Text}, SpellsItems first raws body plain →
      LooseItems first raws body plain
  | [], _, _, _, .nil => .nil
  | [], _, _, _, .trailing hg => .trailing hg
  | raw :: raws, _, _, _, .cons hsep hraw hg hrest =>
      .cons hsep (loose_of_spells raw hraw) hg (looseItems_of_spells raws hrest)

/-- The same for members. -/
theorem looseMembers_of_spells :
    ∀ (raws : List (Text × Json)) {first : Bool} {body plain : Text},
      SpellsMembers first raws body plain → LooseMembers first raws body plain
  | [], _, _, _, .nil => .nil
  | [], _, _, _, .trailing hg => .trailing hg
  | (_, raw) :: raws, _, _, _, .cons hsep hname hg₁ hg₂ hraw hg₃ hrest =>
      .cons hsep hname hg₁ hg₂ (loose_of_spells raw hraw) hg₃
        (looseMembers_of_spells raws hrest)

end

/-- The same for whole texts, so what is shown of the larger grammar is shown of both. -/
theorem looseText_of_spells {raw : Json} {text plain : Text}
    (h : SpellsText raw text plain) : LooseText raw text plain := by
  cases h with
  | mk hg h hg' => exact .mk hg (loose_of_spells raw h) hg'

/-! ### One unit of the scan -/

section

variable {u : CodeUnit} {rest : Text}

/-- The unit has no meaning for the scan: it begins no comment and no string, it is no comma and no
closing bracket, and it is not blank. -/
def isOrdinary (u : CodeUnit) : Bool :=
  u != 0x2F && u != 0x2C && u != 0x22 && u != 0x5D && u != 0x7D && !Unicode.isBlank u

/-- What the scan does with a unit between tokens. This reads the definition back once, so the
lemmas below need not unfold it. -/
theorem stripFrom_plain_cons (held : Option Text) :
    stripFrom .plain held (u :: rest)
      = if u = 0x2F ∧ rest.head? = some 0x2F then stripFrom .comment held rest
        else if u = 0x2C then release held ++ stripFrom .plain (some []) rest
        else if Unicode.isBlank u then
          match held with
          | some blanks => stripFrom .plain (some (blanks ++ [u])) rest
          | none => u :: stripFrom .plain none rest
        else if u = 0x5D ∨ u = 0x7D then held.getD [] ++ u :: stripFrom .plain none rest
        else if u = 0x22 then release held ++ u :: stripFrom .string none rest
        else release held ++ u :: stripFrom .plain none rest := rfl

/-- What it does with a unit of a comment. -/
theorem stripFrom_comment_cons (held : Option Text) :
    stripFrom .comment held (u :: rest)
      = if u = 0x0A then
          match held with
          | some blanks => stripFrom .plain (some (blanks ++ [u])) rest
          | none => u :: stripFrom .plain none rest
        else stripFrom .comment held rest := rfl

/-- An ordinary unit releases the comma that is held back, with the white space behind it, and is
written. -/
theorem stripFrom_ordinary (h : isOrdinary u = true) (held : Option Text) :
    stripFrom .plain held (u :: rest) = release held ++ u :: stripFrom .plain none rest := by
  simp only [isOrdinary, Bool.and_eq_true, bne_iff_ne, ne_eq, Bool.not_eq_true'] at h
  rw [stripFrom_plain_cons]
  simp [h]

/-- A comma releases the one that was held back and is held back in its place. -/
theorem stripFrom_comma (held : Option Text) :
    stripFrom .plain held (0x2C :: rest) = release held ++ stripFrom .plain (some []) rest := by
  rw [stripFrom_plain_cons]
  simp

/-- A quote releases the comma that is held back and begins a string. -/
theorem stripFrom_quote (held : Option Text) :
    stripFrom .plain held (0x22 :: rest) = release held ++ 0x22 :: stripFrom .string none rest := by
  have hblank : Unicode.isBlank 0x22 = false := by decide
  rw [stripFrom_plain_cons]
  simp [hblank]

/-- A closing bracket drops the comma that is held back. The white space behind the comma is
written. -/
theorem stripFrom_close (h : u = 0x5D ∨ u = 0x7D) (held : Option Text) :
    stripFrom .plain held (u :: rest) = held.getD [] ++ u :: stripFrom .plain none rest := by
  have hother : Unicode.isBlank u = false ∧ u ≠ 0x2F ∧ u ≠ 0x2C := by
    rcases h with rfl | rfl <;> decide
  rw [stripFrom_plain_cons]
  simp [hother, h]

/-- White space between tokens is blank: the white space of JSON is part of what the scan takes for
it. -/
theorem isBlank_of_isSpace (h : Cursor.isSpace u = true) : Unicode.isBlank u = true := by
  simp only [Cursor.isSpace, Bool.or_eq_true, beq_iff_eq] at h
  rcases h with ((rfl | rfl) | rfl) | rfl <;> decide

/-- What is blank is neither a slash nor a comma, so it is reached by the third question of the
scan. -/
theorem ne_of_isBlank (h : Unicode.isBlank u = true) : u ≠ 0x2F ∧ u ≠ 0x2C := by
  constructor
  · rintro rfl
    exact absurd h (by decide)
  · rintro rfl
    exact absurd h (by decide)

/-- White space is written where no comma is held back. -/
theorem stripFrom_blank (h : Unicode.isBlank u = true) :
    stripFrom .plain none (u :: rest) = u :: stripFrom .plain none rest := by
  rw [stripFrom_plain_cons]
  simp [h, ne_of_isBlank h]

/-- White space goes with the comma that is held back, until it is known what becomes of the comma.
-/
theorem stripFrom_blank_held (h : Unicode.isBlank u = true) (held : Text) :
    stripFrom .plain (some held) (u :: rest) = stripFrom .plain (some (held ++ [u])) rest := by
  rw [stripFrom_plain_cons]
  simp [h, ne_of_isBlank h]

/-- Two slashes begin a comment. What is held back stays so. -/
theorem stripFrom_slashes (held : Option Text) :
    stripFrom .plain held (0x2F :: 0x2F :: rest) = stripFrom .comment held rest := by
  have hsecond : stripFrom .comment held (0x2F :: rest) = stripFrom .comment held rest := by
    rw [stripFrom_comment_cons]
    simp
  rw [← hsecond, stripFrom_plain_cons]
  simp

/-- A comment is dropped, unit by unit, up to its line end. -/
theorem stripFrom_comment {c : Text} (hc : 0x0A ∉ c) (held : Option Text) :
    stripFrom .comment held (c ++ rest) = stripFrom .comment held rest := by
  induction c with
  | nil => rfl
  | cons u c ih =>
      rw [List.mem_cons, not_or] at hc
      rw [List.cons_append, stripFrom_comment_cons]
      simp [Ne.symm hc.1, ih hc.2]

/-- The line end after a comment is white space, so it is treated as one that stands between tokens.
-/
theorem stripFrom_lineEnd (held : Option Text) :
    stripFrom .comment held (0x0A :: rest) = stripFrom .plain held (0x0A :: rest) := by
  have hblank : Unicode.isBlank 0x0A = true := by decide
  rw [stripFrom_comment_cons, stripFrom_plain_cons]
  simp [hblank]

/-- Of a comment its line end is left, whatever is held back. -/
theorem stripFrom_closed {c : Text} (hc : 0x0A ∉ c) (held : Option Text) :
    stripFrom .plain held (0x2F :: 0x2F :: (c ++ 0x0A :: rest))
      = stripFrom .plain held (0x0A :: rest) := by
  rw [stripFrom_slashes, stripFrom_comment hc, stripFrom_lineEnd]

/-- Of a comment at the end nothing is left. A comma that is held back is written, as no bracket
follows. -/
theorem stripFrom_unclosed {c : Text} (hc : 0x0A ∉ c) (held : Option Text) :
    stripFrom .plain held (0x2F :: 0x2F :: c) = release held := by
  have hcomment : stripFrom .comment held (c ++ []) = stripFrom .comment held [] :=
    stripFrom_comment hc held
  rw [List.append_nil, stripFrom] at hcomment
  rw [stripFrom_slashes, hcomment]

/-- Two slashes begin a comment, which has a line end or goes on to the end of the text. -/
theorem comment_cases {t : Text} (h : t.head? = some 0x2F) :
    (∃ c, 0x0A ∉ c ∧ t = 0x2F :: c) ∨ ∃ c rest, 0x0A ∉ c ∧ t = 0x2F :: (c ++ 0x0A :: rest) := by
  obtain ⟨c, rfl⟩ := List.head?_eq_some_iff.mp h
  by_cases hend : 0x0A ∈ c
  · obtain ⟨c, rest, rfl, hc⟩ := List.eq_append_cons_of_mem hend
    exact .inr ⟨c, rest, hc, rfl⟩
  · exact .inl ⟨c, hend, rfl⟩

end

/-! ### One token of the scan -/

section

variable {rest : Text}

/-- Of a gap its white space is left. The induction is on the gap, from left to right. -/
theorem stripFrom_gap {g w : Text} (h : Gap g w) :
    stripFrom .plain none (g ++ rest) = w ++ stripFrom .plain none rest := by
  induction h with
  | nil => rfl
  | space hu _ ih =>
      rw [List.cons_append, stripFrom_blank (isBlank_of_isSpace hu), ih, List.cons_append]
  | comment hc _ ih =>
      rw [List.cons_append, List.cons_append, List.append_assoc, List.cons_append,
        stripFrom_closed hc, stripFrom_blank (by decide), ih, List.cons_append]

/-- Where a comma is held back, the white space of a gap goes with it, and the comments are dropped.
-/
theorem stripFrom_gap_held {g w : Text} (h : Gap g w) (held : Text) :
    stripFrom .plain (some held) (g ++ rest) = stripFrom .plain (some (held ++ w)) rest := by
  induction h generalizing held with
  | nil => rw [List.nil_append, List.append_nil]
  | space hu _ ih =>
      rw [List.cons_append, stripFrom_blank_held (isBlank_of_isSpace hu), ih, List.append_assoc,
        List.singleton_append]
  | comment hc _ ih =>
      rw [List.cons_append, List.cons_append, List.append_assoc, List.cons_append,
        stripFrom_closed hc, stripFrom_blank_held (by decide), ih, List.append_assoc,
        List.singleton_append]

/-- Of a gap at the end its white space is left, too, also if the last comment has no line end. -/
theorem strip_lastGap {g w : Text} (h : LastGap g w) : stripFrom .plain none g = w := by
  cases h with
  | closed h =>
      have hgap : stripFrom .plain none (g ++ []) = w ++ stripFrom .plain none [] :=
        stripFrom_gap h
      rwa [List.append_nil, stripFrom, release, List.append_nil] at hgap
  | unclosed h hc => rw [stripFrom_gap h, stripFrom_unclosed hc, release, List.append_nil]

/-- A separator is copied, in that its comma is held back until the next token. What is held back is
named by what it releases, so the next lemma does not need to know which of the two cases it was. -/
theorem stripFrom_separator {first : Bool} {sep plain : Text} (h : Separator first sep plain) :
    ∃ held, release held = plain ∧
      ∀ rest, stripFrom .plain none (sep ++ rest) = stripFrom .plain held rest := by
  cases h with
  | none => exact ⟨none, rfl, fun _ => rfl⟩
  | @comma g w h =>
      refine ⟨some w, rfl, ?_⟩
      intro rest
      rw [List.cons_append, stripFrom_comma, stripFrom_gap_held h]
      rfl

/-- A token without special units is copied, after the comma that was held back. Its first unit
releases the comma, and the others find none. -/
theorem stripFrom_ordinaries {t : Text} (ht : t ≠ []) (h : ∀ u ∈ t, isOrdinary u = true)
    (held : Option Text) :
    stripFrom .plain held (t ++ rest) = release held ++ (t ++ stripFrom .plain none rest) := by
  induction t generalizing held with
  | nil => exact absurd rfl ht
  | cons u t ih =>
      obtain ⟨hu, hrest⟩ := List.forall_mem_cons.mp h
      rw [List.cons_append, stripFrom_ordinary hu]
      cases t with
      | nil => rfl
      | cons v t =>
          rw [ih (List.cons_ne_nil v t) hrest none]
          rfl

/-- A hexadecimal digit neither ends a string nor escapes anything. -/
theorem ne_of_hexValue? {u : CodeUnit} {n : Nat} (h : Json.hexValue? u = some n) :
    u ≠ 0x5C ∧ u ≠ 0x22 := by
  have hbackslash : Json.hexValue? 0x5C = none := by decide
  have hquote : Json.hexValue? 0x22 = none := by decide
  constructor
  · rintro rfl
    exact nomatch hbackslash.symm.trans h
  · rintro rfl
    exact nomatch hquote.symm.trans h

/-- Nor does any of the four digits of an escape. -/
theorem ne_of_fourDigits? {a b c d w : CodeUnit} (h : Json.fourDigits? a b c d = some w) :
    (a ≠ 0x5C ∧ a ≠ 0x22) ∧ (b ≠ 0x5C ∧ b ≠ 0x22) ∧ (c ≠ 0x5C ∧ c ≠ 0x22) ∧
      (d ≠ 0x5C ∧ d ≠ 0x22) := by
  unfold Json.fourDigits? at h
  split at h
  · next ha hb hc hd =>
      exact ⟨ne_of_hexValue? ha, ne_of_hexValue? hb, ne_of_hexValue? hc, ne_of_hexValue? hd⟩
  · exact nomatch h

/-- Inside a string everything is copied, up to the closing quote. The induction is on the spelling
of the units; what is escaped is taken together with its backslash, so an escaped quote does not end
the string. -/
theorem stripFrom_units {t body : Text} (h : SpellsUnits t body) :
    stripFrom .string none (body ++ 0x22 :: rest) = body ++ 0x22 :: stripFrom .plain none rest := by
  have hcopy : ∀ {u : CodeUnit} {after : Text}, u ≠ 0x5C ∧ u ≠ 0x22 →
      stripFrom .string none (u :: after) = u :: stripFrom .string none after := by
    intro u after hu
    rw [stripFrom, if_neg hu.1, if_neg hu.2]
  -- After a backslash one unit is copied unseen, which may be a quote.
  have hescape : ∀ {v : CodeUnit} {after : Text},
      stripFrom .string none (0x5C :: v :: after) = 0x5C :: v :: stripFrom .string none after := by
    intro v after
    rw [stripFrom, if_pos rfl, stripFrom]
  induction h with
  | nil =>
      rw [List.nil_append, stripFrom, if_neg (by decide), if_pos rfl, List.nil_append]
  | plain hquote hbackslash _ _ ih =>
      rw [List.cons_append, hcopy ⟨hbackslash, hquote⟩, ih, List.cons_append]
  | letter _ _ ih =>
      rw [List.cons_append, List.cons_append, hescape, ih, List.cons_append, List.cons_append]
  | @number a b c d w t body hdigits _ ih =>
      obtain ⟨ha, hb, hc, hd⟩ := ne_of_fourDigits? hdigits
      simp only [List.cons_append]
      rw [hescape, hcopy ha, hcopy hb, hcopy hc, hcopy hd, ih]

/-- A string is copied, after the comma that was held back. -/
theorem stripFrom_string {t body : Text} (h : SpellsUnits t body) (held : Option Text) :
    stripFrom .plain held (0x22 :: (body ++ 0x22 :: rest))
      = release held ++ (0x22 :: (body ++ 0x22 :: stripFrom .plain none rest)) := by
  rw [stripFrom_quote, stripFrom_units h]

/-- The words that are values have no special units. Checked for each of them. -/
theorem isOrdinary_of_mem_keywords {t : Text} {raw : Json} (h : (t, raw) ∈ keywords) :
    t ≠ [] ∧ ∀ u ∈ t, isOrdinary u = true := by
  rcases Json.mem_keywords_iff.mp h with ⟨rfl, -⟩ | ⟨rfl, -⟩ | ⟨rfl, -⟩
  all_goals exact ⟨by decide, List.all_eq_true.mp (by decide)⟩

/-- A digit is ordinary. -/
theorem isOrdinary_of_isDigit {u : CodeUnit} (h : Json.isDigit u = true) :
    isOrdinary u = true := by
  have hall : ∀ n < 10, isOrdinary (UInt16.ofNat (0x30 + n)) = true := by decide
  simp only [Json.isDigit, Bool.and_eq_true, decide_eq_true_eq, UInt16.le_iff_toNat_le,
    UInt16.reduceToNat] at h
  have hu := hall (u.toNat - 0x30) (by omega)
  rwa [Nat.add_sub_cancel' h.1, UInt16.ofNat_toNat] at hu

/-- An optional unit is ordinary if all units of its kind are. -/
theorem isOrdinary_of_isOptional {p : CodeUnit → Bool} {t : Text} (h : Json.IsOptional p t)
    (hp : ∀ u, p u = true → isOrdinary u = true) : ∀ u ∈ t, isOrdinary u = true := by
  rcases h with rfl | ⟨v, hv, rfl⟩
  · exact List.forall_mem_nil _
  · exact List.forall_mem_singleton.mpr (hp v hv)

/-- Numbers have no special units: a number is made of digits, signs, a dot and an exponent mark. -/
theorem isOrdinary_of_isNumber {t : Text} (h : IsNumber t) :
    t ≠ [] ∧ ∀ u ∈ t, isOrdinary u = true := by
  have hminus : ∀ u, Json.isMinus u = true → isOrdinary u = true := by
    intro u hu
    obtain rfl := eq_of_beq hu
    decide
  have hsign : ∀ u, Json.isSign u = true → isOrdinary u = true := by
    intro u hu
    simp only [Json.isSign, Bool.or_eq_true, beq_iff_eq] at hu
    rcases hu with rfl | rfl <;> decide
  have hmark : ∀ u, Json.isExponentMark u = true → isOrdinary u = true := by
    intro u hu
    simp only [Json.isExponentMark, Bool.or_eq_true, beq_iff_eq] at hu
    rcases hu with rfl | rfl <;> decide
  have hdigits : ∀ {ds : Text}, Json.IsDigits ds → ∀ u ∈ ds, isOrdinary u = true := by
    intro ds hds u hu
    exact isOrdinary_of_isDigit (hds.2 u hu)
  refine ⟨h.starts.ne_nil, ?_⟩
  obtain ⟨sign, whole, fraction, exponent, hfirst, hwhole, hfraction, hexponent, rfl⟩ := h
  rw [List.forall_mem_append, List.forall_mem_append, List.forall_mem_append]
  refine ⟨isOrdinary_of_isOptional hfirst hminus, hdigits hwhole.isDigits, ?_, ?_⟩
  · rcases hfraction with rfl | ⟨ds, hds, rfl⟩
    · exact List.forall_mem_nil _
    · exact List.forall_mem_cons.mpr ⟨by decide, hdigits hds⟩
  · rcases hexponent with rfl | ⟨mark, sign, ds, hu, hsecond, hds, rfl⟩
    · exact List.forall_mem_nil _
    · rw [List.forall_mem_append, List.forall_mem_append]
      exact ⟨List.forall_mem_singleton.mpr (hmark mark hu),
        isOrdinary_of_isOptional hsecond hsign, hdigits hds⟩

end

/-! ### The scan over the grammar -/

mutual

/-- Of a value its plain spelling is left, after the comma that was held back. This and the next two
lemmas are one induction on the tree; what is held back is the invariant: something before a value,
nothing before items. -/
theorem stripFrom_value :
    ∀ (raw : Json) {t plain : Text} (held : Option Text) (rest : Text), Loose raw t plain →
      stripFrom .plain held (t ++ rest) = release held ++ (plain ++ stripFrom .plain none rest)
  | raw, _, _, held, rest, .word h => by
      obtain ⟨hne, hall⟩ := isOrdinary_of_mem_keywords h
      exact stripFrom_ordinaries hne hall held
  | _, _, _, held, rest, .number h => by
      obtain ⟨hne, hall⟩ := isOrdinary_of_isNumber h
      exact stripFrom_ordinaries hne hall held
  | _, _, _, held, rest, .string h => by
      simp only [List.cons_append, List.append_assoc, List.nil_append]
      rw [stripFrom_string h]
  | .array raws, _, _, held, rest, .array hg h => by
      simp only [List.append_assoc, List.cons_append, List.nil_append]
      rw [stripFrom_ordinary (by decide), stripFrom_gap hg, stripFrom_items raws (Or.inl rfl) h]
  | .object raws, _, _, held, rest, .object hg h => by
      simp only [List.append_assoc, List.cons_append, List.nil_append]
      rw [stripFrom_ordinary (by decide), stripFrom_gap hg, stripFrom_members raws (Or.inr rfl) h]

/-- Of items their plain spelling is left, without a comma before the closing bracket. The bracket
is part of the statement, since only it decides about the last comma. -/
theorem stripFrom_items :
    ∀ (raws : List Json) {first : Bool} {body plain : Text} {close : CodeUnit} {rest : Text},
      (close = 0x5D ∨ close = 0x7D) → LooseItems first raws body plain →
      stripFrom .plain none (body ++ close :: rest)
        = plain ++ close :: stripFrom .plain none rest
  | [], first, _, _, close, rest, hclose, .nil => stripFrom_close hclose none
  | [], _, _, _, close, rest, hclose, .trailing hg => by
      rw [List.cons_append, stripFrom_comma, stripFrom_gap_held hg, stripFrom_close hclose]
      rfl
  | raw :: raws, first, _, _, close, rest, hclose, .cons hsep hraw hg hrest => by
      obtain ⟨held, hheld, hskip⟩ := stripFrom_separator hsep
      simp only [List.append_assoc]
      rw [hskip, stripFrom_value raw held _ hraw, hheld, stripFrom_gap hg,
        stripFrom_items raws hclose hrest]

/-- Of members their plain spelling is left, without a comma before the closing brace. -/
theorem stripFrom_members :
    ∀ (raws : List (Text × Json)) {first : Bool} {body plain : Text} {close : CodeUnit}
      {rest : Text}, (close = 0x5D ∨ close = 0x7D) → LooseMembers first raws body plain →
      stripFrom .plain none (body ++ close :: rest)
        = plain ++ close :: stripFrom .plain none rest
  | [], first, _, _, close, rest, hclose, .nil => stripFrom_close hclose none
  | [], _, _, _, close, rest, hclose, .trailing hg => by
      rw [List.cons_append, stripFrom_comma, stripFrom_gap_held hg, stripFrom_close hclose]
      rfl
  | (name, raw) :: raws, first, _, _, close, rest, hclose,
      .cons hsep hname hg₁ hg₂ hraw hg₃ hrest => by
      obtain ⟨held, hheld, hskip⟩ := stripFrom_separator hsep
      simp only [List.append_assoc, List.cons_append, List.nil_append]
      rw [hskip, stripFrom_string hname, hheld, stripFrom_gap hg₁, stripFrom_ordinary (by decide),
        stripFrom_gap hg₂, stripFrom_value raw none _ hraw, stripFrom_gap hg₃,
        stripFrom_members raws hclose hrest]
      rfl

end

/-- Of a whole text the plain text is left: nothing but comments and commas before closing brackets
is taken out. -/
theorem strip_of_loose {raw : Json} {text plain : Text} (h : LooseText raw text plain) :
    strip text = plain := by
  cases h with
  | mk hg h hg' =>
      rw [strip, stripFrom_gap hg, stripFrom_value raw none _ h, strip_lastGap hg']
      rfl

/-- The same without commas in empty containers. -/
theorem strip_of_spells {raw : Json} {text plain : Text} (h : SpellsText raw text plain) :
    strip text = plain :=
  strip_of_loose (looseText_of_spells h)

/-! ### Plain JSON -/

/-- What is left of a gap is white space, line ends of comments among it. -/
theorem Gap.isSpaces {g w : Text} (h : Gap g w) : IsSpaces w := by
  induction h with
  | nil => exact Json.isSpaces_nil
  | space hu _ ih => exact List.forall_mem_cons.mpr ⟨hu, ih⟩
  | comment _ _ ih => exact List.forall_mem_cons.mpr ⟨rfl, ih⟩

/-- So is what is left of a gap at the end. -/
theorem LastGap.isSpaces {g w : Text} (h : LastGap g w) : IsSpaces w := by
  cases h with
  | closed h => exact h.isSpaces
  | unclosed h _ => exact h.isSpaces

/-- White space in a row is white space. -/
theorem isSpaces_append {w w' : Text} (hw : IsSpaces w) (hw' : IsSpaces w') :
    IsSpaces (w ++ w') :=
  List.forall_mem_append.mpr ⟨hw, hw'⟩

/-- What is left of a separator is one in plain JSON: a comma and white space. -/
theorem Separator.plain {first : Bool} {sep plain : Text} (h : Separator first sep plain) :
    Json.Separator first plain := by
  cases h with
  | none => exact .none
  | comma h => exact .comma h.isSpaces

mutual

/-- What is left of a spelling is plain JSON for the same tree. So the parser, which knows nothing
of comments, reads the tree from it. -/
theorem loose_plain :
    ∀ (raw : Json) {t plain : Text}, Loose raw t plain → Json.Spells raw plain
  | _, _, _, .word h => .word h
  | _, _, _, .number h => .number h
  | _, _, _, .string h => .string h
  | .array raws, _, _, .array hg h => by
      obtain ⟨w', plain', hw', rfl, hplain⟩ := looseItems_plain raws h
      have harray := Json.Spells.array (isSpaces_append hg.isSpaces hw') hplain
      simpa only [List.append_assoc] using harray
  | .object raws, _, _, .object hg h => by
      obtain ⟨w', plain', hw', rfl, hplain⟩ := looseMembers_plain raws h
      have hobject := Json.Spells.object (isSpaces_append hg.isSpaces hw') hplain
      simpa only [List.append_assoc] using hobject

/-- The white space after a comma that is taken out is left of it. It belongs to what stands before,
so it is split off in front of what spells the items. -/
theorem looseItems_plain :
    ∀ (raws : List Json) {first : Bool} {body plain : Text},
      LooseItems first raws body plain →
      ∃ w plain', IsSpaces w ∧ plain = w ++ plain' ∧ Json.SpellsItems first raws plain'
  | [], first, _, _, .nil => ⟨[], [], Json.isSpaces_nil, rfl, .nil⟩
  | [], _, _, w, .trailing hg => ⟨w, [], hg.isSpaces, (List.append_nil w).symm, .nil⟩
  | raw :: raws, first, _, _, .cons hsep hraw hg hrest => by
      obtain ⟨w', plain', hw', rfl, hplain⟩ := looseItems_plain raws hrest
      refine ⟨[], _, Json.isSpaces_nil, (List.nil_append _).symm, ?_⟩
      have hcons := Json.SpellsItems.cons hsep.plain (loose_plain raw hraw)
        (isSpaces_append hg.isSpaces hw') hplain
      simpa only [List.append_assoc] using hcons

/-- The same for members. -/
theorem looseMembers_plain :
    ∀ (raws : List (Text × Json)) {first : Bool} {body plain : Text},
      LooseMembers first raws body plain →
      ∃ w plain', IsSpaces w ∧ plain = w ++ plain' ∧ Json.SpellsMembers first raws plain'
  | [], first, _, _, .nil => ⟨[], [], Json.isSpaces_nil, rfl, .nil⟩
  | [], _, _, w, .trailing hg => ⟨w, [], hg.isSpaces, (List.append_nil w).symm, .nil⟩
  | (name, raw) :: raws, first, _, _, .cons hsep hname hg₁ hg₂ hraw hg₃ hrest => by
      obtain ⟨w', plain', hw', rfl, hplain⟩ := looseMembers_plain raws hrest
      refine ⟨[], _, Json.isSpaces_nil, (List.nil_append _).symm, ?_⟩
      have hcons := Json.SpellsMembers.cons hsep.plain hname hg₁.isSpaces hg₂.isSpaces
        (loose_plain raw hraw) (isSpaces_append hg₃.isSpaces hw') hplain
      simpa only [List.append_assoc] using hcons

end

/-- White space is a gap of which nothing is taken. -/
theorem gap_of_isSpaces {w : Text} (hw : IsSpaces w) : Gap w w := by
  induction w with
  | nil => exact .nil
  | cons u w ih =>
      obtain ⟨hu, hrest⟩ := List.forall_mem_cons.mp hw
      exact .space hu (ih hrest)

/-- A separator of plain JSON is a separator, and nothing is taken of it. -/
theorem separator_of_plain {first : Bool} {sep : Text} (h : Json.Separator first sep) :
    Separator first sep sep := by
  cases h with
  | none => exact .none
  | comma hw => exact .comma (gap_of_isSpaces hw)

mutual

/-- Plain JSON spells its tree here as well, and nothing is taken of it. So a configuration that is
JSON already means what it means as JSON. -/
theorem spells_of_plain : ∀ (raw : Json) {t : Text}, Json.Spells raw t → Spells raw t t
  | _, _, .word h => .word h
  | _, _, .number h => .number h
  | _, _, .string h => .string h
  | .array raws, _, .array hw h => .array (gap_of_isSpaces hw) (spellsItems_of_plain raws h)
  | .object raws, _, .object hw h => .object (gap_of_isSpaces hw) (spellsMembers_of_plain raws h)

/-- The same for items, of which none has a comma behind the last one. -/
theorem spellsItems_of_plain :
    ∀ (raws : List Json) {first : Bool} {body : Text}, Json.SpellsItems first raws body →
      SpellsItems first raws body body
  | [], _, _, .nil => .nil
  | raw :: raws, _, _, .cons hsep hraw hw hrest =>
      .cons (separator_of_plain hsep) (spells_of_plain raw hraw) (gap_of_isSpaces hw)
        (spellsItems_of_plain raws hrest)

/-- The same for members. -/
theorem spellsMembers_of_plain :
    ∀ (raws : List (Text × Json)) {first : Bool} {body : Text},
      Json.SpellsMembers first raws body → SpellsMembers first raws body body
  | [], _, _, .nil => .nil
  | (_, raw) :: raws, _, _, .cons hsep hname hw₁ hw₂ hraw hw₃ hrest =>
      .cons (separator_of_plain hsep) hname (gap_of_isSpaces hw₁) (gap_of_isSpaces hw₂)
        (spells_of_plain raw hraw) (gap_of_isSpaces hw₃) (spellsMembers_of_plain raws hrest)

end

end FieldMask.Config
