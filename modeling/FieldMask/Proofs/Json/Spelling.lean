import FieldMask.Proofs.Json.Settle
import FieldMask.Proofs.Json.StringSpelling

/-!
# `FieldMask.Proofs.Json.Spelling`: reading accepts every spelling

A tree can be spelled in many ways: white space may stand around every token, and every string has
its own spellings. `Spells raw t` is the grammar: `t` spells `raw`, a tree as it is written, with
the members of each object in the order of the text. `parse_of_spells` says that a text that spells
a tree, with any white space around it, is read as what that tree stands for by the rule for
repeated names.

The proof follows a spelling with the cursor. `Cursor.Spans.split` cuts what is ahead at the borders
of the grammar, and at each border the reader stops because of the unit that follows: a value is
followed by white space, a comma, a closing bracket or the end (`Ends`), none of which continues it.
Each call takes less fuel than twice the text ahead.
-/

set_option autoImplicit false

namespace FieldMask.Json

/-- White space of JSON, or nothing. It may stand around every token and means nothing. -/
def IsSpaces (w : Text) : Prop := ∀ u ∈ w, Cursor.isSpace u = true

/-- Nothing at all is white space in this sense. -/
theorem isSpaces_nil : IsSpaces [] := fun _ hu => absurd hu List.not_mem_nil

/-- What stands before a member or an item: nothing before the first, a comma and white space before
every other one. So there is no place in the grammar for a comma that trails. -/
inductive Separator : (first : Bool) → (sep : Text) → Prop where
  | none : Separator true []
  | comma {w : Text} (hw : IsSpaces w) : Separator false (0x2C :: w)

mutual

/-- The text, without white space around it, spells the tree as it is written: with the members of
an object in the order of the text, repeated names and all. -/
inductive Spells : (j : Json) → (t : Text) → Prop where
  | word {j : Json} {t : Text} (h : (t, j) ∈ keywords) : Spells j t
  | number {t : Text} (h : IsNumber t) : Spells (.number t) t
  | string {t body : Text} (h : SpellsUnits t body) :
      Spells (.string t) (0x22 :: (body ++ [0x22]))
  | array {items : List Json} {w body : Text} (hw : IsSpaces w)
      (h : SpellsItems true items body) : Spells (.array items) ([0x5B] ++ (w ++ (body ++ [0x5D])))
  | object {members : List (Text × Json)} {w body : Text} (hw : IsSpaces w)
      (h : SpellsMembers true members body) :
      Spells (.object members) ([0x7B] ++ (w ++ (body ++ [0x7D])))

/-- The text spells the items up to the closing bracket. Whether they begin the array decides about
the first separator. -/
inductive SpellsItems : (first : Bool) → (items : List Json) → (body : Text) → Prop where
  | nil {first : Bool} : SpellsItems first [] []
  | cons {first : Bool} {sep t w body : Text} {j : Json} {rest : List Json}
      (hsep : Separator first sep) (hj : Spells j t) (hw : IsSpaces w)
      (hrest : SpellsItems false rest body) :
      SpellsItems first (j :: rest) (sep ++ (t ++ w) ++ body)

/-- The text spells the members up to the closing brace. A name is spelled like a string, and a
colon follows it. -/
inductive SpellsMembers :
    (first : Bool) → (members : List (Text × Json)) → (body : Text) → Prop where
  | nil {first : Bool} : SpellsMembers first [] []
  | cons {first : Bool} {sep name key w₁ w₂ t w₃ body : Text} {j : Json}
      {rest : List (Text × Json)} (hsep : Separator first sep) (hname : SpellsUnits name key)
      (hw₁ : IsSpaces w₁) (hw₂ : IsSpaces w₂) (hj : Spells j t) (hw₃ : IsSpaces w₃)
      (hrest : SpellsMembers false rest body) :
      SpellsMembers first ((name, j) :: rest)
        (sep ++ (0x22 :: (key ++ 0x22 :: w₁) ++ ([0x3A] ++ (w₂ ++ (t ++ w₃) ++ body))))

end

/-! ### What stands at the borders -/

/-- The unit can start a value: a string, a number, an object, an array or one of the three words.
-/
def startsValue (u : CodeUnit) : Bool :=
  u == 0x22 || (u == 0x2D || isDigit u) || u == 0x7B || u == 0x5B ||
    u == 0x74 || u == 0x66 || u == 0x6E

/-- Nothing ahead continues a value: no white space and no more of a number. A value that is
followed by such a text is read to its end and no further. -/
abbrev Ends (t : Text) : Prop := ¬ Starts (fun u => Cursor.isSpace u || continuesNumber u) t

/-- A value starts neither with white space nor with what closes an array. So it can be told from
both. -/
theorem not_isSpace_of_startsValue {u : CodeUnit} (h : startsValue u = true) :
    Cursor.isSpace u = false ∧ u ≠ 0x5D := by
  simp only [startsValue, isDigit, Bool.or_eq_true, beq_iff_eq, Bool.and_eq_true,
    decide_eq_true_eq, UInt16.le_iff_toNat_le, ← UInt16.toNat_inj, UInt16.reduceToNat] at h
  simp only [Cursor.isSpace, Bool.or_eq_false_iff, beq_eq_false_iff_ne, ne_eq,
    ← UInt16.toNat_inj, UInt16.reduceToNat]
  omega

/-- White space does not continue a number, so a number may be followed by it. -/
theorem not_continuesNumber_of_isSpace {u : CodeUnit} (h : Cursor.isSpace u = true) :
    continuesNumber u = false := by
  simp only [Cursor.isSpace, Bool.or_eq_true, beq_iff_eq] at h
  rcases h with ((rfl | rfl) | rfl) | rfl <;> decide

/-- A spelling starts like a value, whichever kind of value it is. In particular it is not empty. -/
theorem Spells.starts {j : Json} {t : Text} (h : Spells j t) : Starts startsValue t := by
  cases h with
  | word h =>
      rcases mem_keywords_iff.mp h with ⟨rfl, rfl⟩ | ⟨rfl, rfl⟩ | ⟨rfl, rfl⟩ <;> decide
  | number h => exact h.starts.imp fun u hu => by simp [startsValue, hu]
  | string _ => exact (starts_cons _ _ _).mpr rfl
  | array _ _ => exact (starts_cons _ _ _).mpr rfl
  | object _ _ => exact (starts_cons _ _ _).mpr rfl

/-- What starts like a value does not start with white space, whatever follows it. -/
theorem not_starts_isSpace {t : Text} (h : Starts startsValue t) (rest : Text) :
    ¬ Starts Cursor.isSpace (t ++ rest) := by
  obtain ⟨u, t, rfl, hu⟩ := h.exists_cons
  rw [List.cons_append, starts_cons, (not_isSpace_of_startsValue hu).1]
  exact Bool.false_ne_true

/-- Where nothing continues a value, no white space follows, so skipping it stops there. -/
theorem Ends.not_isSpace {t : Text} (h : Ends t) : ¬ Starts Cursor.isSpace t :=
  fun hspace => h (hspace.imp fun u hu => by simp [hu])

/-- Where nothing continues a value, white space before it does not continue a number either. -/
theorem Ends.not_continuesNumber {w t : Text} (h : Ends t) (hw : IsSpaces w) :
    ¬ Starts continuesNumber (w ++ t) := by
  cases w with
  | nil => exact fun hnumber => h (hnumber.imp fun u hu => by simp [hu])
  | cons u w =>
      rw [List.cons_append, starts_cons,
        not_continuesNumber_of_isSpace (hw u List.mem_cons_self)]
      exact Bool.false_ne_true

/-- Nothing in an object continues what stands before: it goes on with a quote, a comma or the
closing brace. -/
theorem SpellsMembers.ends {first : Bool} {members : List (Text × Json)} {body : Text}
    (h : SpellsMembers first members body) (rest : Text) : Ends (body ++ 0x7D :: rest) := by
  cases h with
  | nil => exact mt (starts_cons _ _ _).mp (by decide)
  | cons hsep _ _ _ _ _ _ =>
      cases hsep with
      | none => exact mt (starts_cons _ _ _).mp (by decide)
      | comma _ => exact mt (starts_cons _ _ _).mp (by decide)

/-- Nothing after the first item of an array continues what stands before: it goes on with a comma
or the closing bracket. -/
theorem SpellsItems.ends {items : List Json} {body : Text} (h : SpellsItems false items body)
    (rest : Text) : Ends (body ++ 0x5D :: rest) := by
  cases h with
  | nil => exact mt (starts_cons _ _ _).mp (by decide)
  | cons hsep _ _ _ =>
      cases hsep with
      | comma _ => exact mt (starts_cons _ _ _).mp (by decide)

/-- The items of an array do not start with white space, so the white space behind the opening
bracket ends where they start. -/
theorem SpellsItems.not_isSpace {items : List Json} {body : Text}
    (h : SpellsItems true items body) (rest : Text) :
    ¬ Starts Cursor.isSpace (body ++ 0x5D :: rest) := by
  cases h with
  | nil => exact mt (starts_cons _ _ _).mp (by decide)
  | cons hsep hj _ _ =>
      cases hsep with
      | none =>
          rw [List.nil_append, List.append_assoc, List.append_assoc]
          exact not_starts_isSpace hj.starts _

/-! ### Reading one token -/

variable {repeats : Repeats} {n : Nat} {c d : Cursor}

/-- A word that stands ahead is read as its value. -/
theorem readKeyword_of_spans {word : Text} {j : Json} (h : (word, j) ∈ keywords)
    (hspans : c.Spans word d) : readKeyword c = some (j, d) := by
  have hskip := hspans.eq_skip
  rcases mem_keywords_iff.mp h with ⟨rfl, rfl⟩ | ⟨rfl, rfl⟩ | ⟨rfl, rfl⟩
  all_goals
    rw [readKeyword, hspans.ahead, ← hskip]
    rfl

/-- A string that stands ahead is read up to its closing quote. -/
theorem readUnits_of_spans {t body : Text} (h : SpellsUnits t body)
    (hspans : c.Spans (0x22 :: (body ++ [0x22])) d) :
    c.ahead = 0x22 :: (body ++ 0x22 :: d.ahead) ∧
      readUnits (c.position + 1) (body ++ 0x22 :: d.ahead) = .ok (t, d) := by
  have hposition : d.position = c.position + 1 + (body.length + 1) := by
    rw [hspans.position, List.length_cons, List.length_append, List.length_singleton]
    omega
  refine ⟨by simp [hspans.ahead], ?_⟩
  rw [readUnits_of_spells h, ← hposition]

/-- A name that stands ahead is read up to the colon after it, with the white space between them. -/
theorem readKey_of_spans {name key w : Text} (h : SpellsUnits name key) (hw : IsSpaces w)
    (hspans : c.Spans (0x22 :: (key ++ 0x22 :: w)) d) (hd : d.ahead.head? = some 0x3A) :
    readKey c = .ok (name, d) := by
  have hsplit : 0x22 :: (key ++ 0x22 :: w) = (0x22 :: (key ++ [0x22])) ++ w := by simp
  rw [hsplit] at hspans
  obtain ⟨hname, hspace⟩ := hspans.split
  obtain ⟨hahead, hread⟩ := readUnits_of_spans h hname
  have hcolon : ¬ Starts Cursor.isSpace d.ahead := by
    rw [Starts, hd]
    decide
  rw [readKey, hahead]
  simp only [if_true, hread, bind, Except.bind, hspace.skipSpace hw hcolon, hd]
  rfl

/-- A word that stands ahead, after white space, is read as a value. -/
theorem readValue_of_word {word : Text} {j : Json} (h : (word, j) ∈ keywords)
    (hspans : c.skipSpace.Spans word d) :
    readValue repeats (n + 1) c = .ok (some j, d.skipSpace) := by
  obtain ⟨u, rest, rfl, hu⟩ := head_of_mem_keywords h
  exact readValue_word hspans.ahead hu (readKeyword_of_spans h hspans)

/-- A number that stands ahead is read as a value, if nothing continues it. -/
theorem readValue_of_number {t : Text} (h : IsNumber t) (hspans : c.skipSpace.Spans t d)
    (hd : ¬ Starts continuesNumber d.ahead) :
    readValue repeats (n + 1) c = .ok (some (.number t), d.skipSpace) := by
  obtain ⟨u, rest, rfl, hu⟩ := h.starts.exists_cons
  rw [readValue_number hspans.ahead hu, readNumber_of_spans hspans h hd]
  rfl

/-- A string that stands ahead is read as a value. -/
theorem readValue_of_string {t body : Text} (h : SpellsUnits t body)
    (hspans : c.skipSpace.Spans (0x22 :: (body ++ [0x22])) d) :
    readValue repeats (n + 1) c = .ok (some (.string t), d.skipSpace) := by
  obtain ⟨hahead, hread⟩ := readUnits_of_spans h hspans
  rw [readValue_string hahead, hread]
  rfl

/-- After one unit and white space the cursor stands at the rest. The unit is a bracket or a comma.
-/
theorem spans_after_unit {u : CodeUnit} {w part : Text} (hw : IsSpaces w)
    (hpart : ¬ Starts Cursor.isSpace (part ++ d.ahead)) (h : c.Spans ([u] ++ (w ++ part)) d) :
    (c.skip 1).skipSpace.Spans part d := by
  obtain ⟨_, hafter⟩ := h.split
  obtain ⟨hspace, hrest⟩ := hafter.split
  have hstart := hspace.skipSpace hw (by rw [hrest.ahead]; exact hpart)
  exact hstart ▸ hrest

/-- Items in brackets are a value, if they are read as items from where they start. How they are
read is left to the induction. -/
theorem readValue_of_items {raws items : List Json} {w body : Text} (hw : IsSpaces w)
    (h : SpellsItems true raws body)
    (hspans : c.skipSpace.Spans ([0x5B] ++ (w ++ (body ++ [0x5D]))) d)
    (hread : ∀ e : Cursor, e.Spans (body ++ [0x5D]) d →
      readItems repeats n true e = .ok (items, d)) :
    readValue repeats (n + 1) c = .ok (some (.array items), d.skipSpace) := by
  have hbody := spans_after_unit hw (by
    rw [List.append_assoc]
    exact h.not_isSpace _) hspans
  rw [readValue_array hspans.ahead, hread _ hbody]
  rfl

/-- Members in braces are a value, under the same condition. -/
theorem readValue_of_members {raws : List (Text × Json)} {members : Record Json} {w body : Text}
    (hw : IsSpaces w) (h : SpellsMembers true raws body)
    (hspans : c.skipSpace.Spans ([0x7B] ++ (w ++ (body ++ [0x7D]))) d)
    (hread : ∀ e : Cursor, e.Spans (body ++ [0x7D]) d →
      readMembers repeats n [] true e = .ok (members, d)) :
    readValue repeats (n + 1) c = .ok (some (.object members), d.skipSpace) := by
  have hbody := spans_after_unit hw (by
    rw [List.append_assoc]
    exact (h.ends _).not_isSpace) hspans
  rw [readValue_object hspans.ahead, hread _ hbody]
  rfl

/-- The white space around a value is skipped: the reader starts at the value and, after it, goes
on at what follows the white space. -/
theorem borders_of_value {w t w' : Text} (hw : IsSpaces w) (ht : Starts startsValue t)
    (hw' : IsSpaces w') (hspans : c.Spans (w ++ (t ++ w')) d) (hd : Ends d.ahead) :
    ∃ e, c.skipSpace.Spans t e ∧ e.skipSpace = d ∧ ¬ Starts continuesNumber e.ahead := by
  obtain ⟨hbefore, hspans⟩ := hspans.split
  obtain ⟨hvalue, hafter⟩ := hspans.split
  have hstart : c.skipSpace = c.skip w.length := by
    refine hbefore.skipSpace hw ?_
    rw [hvalue.ahead]
    exact not_starts_isSpace ht _
  refine ⟨(c.skip w.length).skip t.length, ?_, ?_, ?_⟩
  · rw [hstart]
    exact hvalue
  · exact hafter.skipSpace hw' hd.not_isSpace
  · rw [hafter.ahead]
    exact hd.not_continuesNumber hw'

/-- A separator is passed on the way to an item, up to white space before it, which the reader of
values skips. -/
theorem itemStart_of_separator {first : Bool} {sep part : Text} (hsep : Separator first sep)
    (hspans : c.Spans (sep ++ part) d) :
    ∃ w, IsSpaces w ∧ (itemStart first c).Spans (w ++ part) d := by
  cases hsep with
  | none => exact ⟨[], isSpaces_nil, hspans⟩
  | comma hw => exact ⟨_, hw, (Cursor.Spans.split (a := [0x2C]) hspans).2⟩

/-- A separator is passed on the way to a member, with the white space in it. -/
theorem memberStart_of_separator {first : Bool} {sep part : Text} (hsep : Separator first sep)
    (hpart : ¬ Starts Cursor.isSpace (part ++ d.ahead)) (hspans : c.Spans (sep ++ part) d) :
    (memberStart first c).Spans part d := by
  cases hsep with
  | none => exact hspans
  | comma hw => exact spans_after_unit hw hpart hspans

/-- An element is ahead after a comma, or at once if it is the first. By that unit the reader sees
that there is one more. -/
theorem Separator.head {first : Bool} {sep t : Text} {p : CodeUnit → Bool}
    (hsep : Separator first sep) (ht : Starts p t) (hspans : c.Spans (sep ++ t) d) :
    ∃ u rest, c.ahead = u :: rest ∧ (first = false → u = 0x2C) ∧ (u = 0x2C ∨ p u = true) := by
  cases hsep with
  | none =>
      obtain ⟨u, rest, rfl, hu⟩ := ht.exists_cons
      exact ⟨u, _, hspans.ahead, nofun, Or.inr hu⟩
  | comma _ => exact ⟨0x2C, _, hspans.ahead, fun _ => rfl, Or.inl rfl⟩

mutual

/-- A spelling is read as the tree that it stands for, with the white space around it, given fuel
for twice its length. -/
theorem readValue_of_spells :
    ∀ (raw : Json) {j : Json} {t w w' : Text} {n : Nat} {c d : Cursor},
      settle repeats raw = some j → Spells raw t → 2 * t.length ≤ n → IsSpaces w → IsSpaces w' →
      c.Spans (w ++ (t ++ w')) d → Ends d.ahead → readValue repeats n c = .ok (some j, d)
  -- The recursion is on the tree. A bracket takes one call and at least two units, so the fuel that
  -- is left is enough for what stands between the brackets.
  | raw, j, t, w, w', 0, c, d, hj, h, hn, hw, hw', hspans, hd => by
      -- A spelling is not empty, so it asks for some fuel.
      obtain ⟨u, rest, rfl, _⟩ := h.starts.exists_cons
      rw [List.length_cons] at hn
      omega
  | .null, j, t, w, w', n + 1, c, d, hj, h, hn, hw, hw', hspans, hd
  | .bool _, j, t, w, w', n + 1, c, d, hj, h, hn, hw, hw', hspans, hd => by
      obtain ⟨e, hvalue, rfl, _⟩ := borders_of_value hw h.starts hw' hspans hd
      obtain rfl := Option.some.inj hj
      cases h with
      | word h => exact readValue_of_word h hvalue
  | .number _, j, t, w, w', n + 1, c, d, hj, h, hn, hw, hw', hspans, hd => by
      obtain ⟨e, hvalue, rfl, hnumber⟩ := borders_of_value hw h.starts hw' hspans hd
      obtain rfl := Option.some.inj hj
      cases h with
      | word h => simp [keywords] at h
      | number h => exact readValue_of_number h hvalue hnumber
  | .string _, j, t, w, w', n + 1, c, d, hj, h, hn, hw, hw', hspans, hd => by
      obtain ⟨e, hvalue, rfl, _⟩ := borders_of_value hw h.starts hw' hspans hd
      obtain rfl := Option.some.inj hj
      cases h with
      | word h => simp [keywords] at h
      | string h => exact readValue_of_string h hvalue
  | .array raws, j, t, w, w', n + 1, c, d, hj, h, hn, hw, hw', hspans, hd => by
      obtain ⟨e, hvalue, rfl, _⟩ := borders_of_value hw h.starts hw' hspans hd
      rw [settle, Option.map_eq_some_iff] at hj
      obtain ⟨items, hitems, rfl⟩ := hj
      cases h with
      | word h => simp [keywords] at h
      | array hspace h =>
          refine readValue_of_items hspace h hvalue fun e hbody => ?_
          simp only [List.length_append, List.length_singleton] at hn
          exact readItems_of_spells raws hitems h (by omega) hbody
  | .object raws, j, t, w, w', n + 1, c, d, hj, h, hn, hw, hw', hspans, hd => by
      obtain ⟨e, hvalue, rfl, _⟩ := borders_of_value hw h.starts hw' hspans hd
      rw [settle, Option.map_eq_some_iff] at hj
      obtain ⟨members, hmembers, rfl⟩ := hj
      cases h with
      | word h => simp [keywords] at h
      | object hspace h =>
          refine readValue_of_members hspace h hvalue fun e hbody => ?_
          simp only [List.length_append, List.length_singleton] at hn
          exact readMembers_of_spells raws hmembers h (by omega) hbody

/-- A spelling of items is read as the items that it stands for, with the closing bracket. The
bracket costs one more call. -/
theorem readItems_of_spells :
    ∀ (raws : List Json) {items : List Json} {body : Text} {first : Bool} {n : Nat} {c d : Cursor},
      settleItems repeats raws = some items → SpellsItems first raws body →
      2 * body.length + 1 ≤ n → c.Spans (body ++ [0x5D]) d →
      readItems repeats n first c = .ok (items, d)
  | raws, items, body, first, 0, c, d, _, h, hn, hspans => absurd hn (by omega)
  | [], items, body, first, n + 1, c, d, hitems, h, hn, hspans => by
      obtain rfl := Option.some.inj hitems
      cases h
      rw [readItems_close hspans.head, ← hspans.eq_skip]
      rfl
  | raw :: rest, items, body, first, n + 1, c, d, hitems, h, hn, hspans => by
      obtain ⟨value, more, hvalue, hmore, rfl⟩ := settleItems_cons.mp hitems
      cases h with
      | @cons _ sep t w body _ _ hsep hj hw hrest =>
          have hne : t ≠ [] := hj.starts.ne_nil
          have hlt : 0 < t.length := List.length_pos_iff.mpr hne
          simp only [List.length_append] at hn
          rw [List.append_assoc] at hspans
          obtain ⟨hitem, hafter⟩ := hspans.split
          -- The item starts with no closing bracket, and with a comma unless it is the first.
          obtain ⟨u, _, hahead, hcomma, hu⟩ :=
            hsep.head ((starts_append w hne).mpr hj.starts) hitem
          have hclose : u ≠ 0x5D := by
            rcases hu with rfl | hu
            · decide
            · exact (not_isSpace_of_startsValue hu).2
          obtain ⟨w₀, hw₀, hspans⟩ := itemStart_of_separator hsep hitem
          have hread := readValue_of_spells raw (n := n) hvalue hj (by omega) hw₀ hw hspans (by
            rw [hafter.ahead, List.append_assoc]
            exact hrest.ends _)
          have hreadRest := readItems_of_spells rest (n := n) hmore hrest (by omega) hafter
          rw [readItems_step hahead hclose hcomma, hread]
          simp only [bind, Except.bind, hreadRest]

/-- A spelling of members is read as the record that it stands for, after the members that were read
before, with the closing brace. -/
theorem readMembers_of_spells :
    ∀ (raws : List (Text × Json)) {before all : Record Json} {body : Text} {first : Bool} {n : Nat}
      {c d : Cursor}, settleMembers repeats before raws = some all →
      SpellsMembers first raws body → 2 * body.length + 1 ≤ n → c.Spans (body ++ [0x7D]) d →
      readMembers repeats n before first c = .ok (all, d)
  | raws, before, all, body, first, 0, c, d, _, h, hn, hspans => absurd hn (by omega)
  | [], before, all, body, first, n + 1, c, d, hall, h, hn, hspans => by
      obtain rfl := Option.some.inj hall
      cases h
      rw [readMembers_close hspans.head, ← hspans.eq_skip]
      rfl
  | (name, raw) :: rest, before, all, body, first, n + 1, c, d, hall, h, hn, hspans => by
      obtain ⟨value, more, hvalue, hjoin, hmore⟩ := settleMembers_cons.mp hall
      cases h with
      | @cons _ sep _ key w₁ w₂ t w₃ body _ _ hsep hname hw₁ hw₂ hj hw₃ hrest =>
          simp only [List.length_append, List.length_cons] at hn
          have hspans : c.Spans (sep ++ (0x22 :: (key ++ 0x22 :: w₁) ++ ([0x3A] ++
              (w₂ ++ (t ++ w₃) ++ (body ++ [0x7D]))))) d := by
            simpa only [List.append_assoc, List.cons_append] using hspans
          obtain ⟨u, _, hahead, hcomma, hu⟩ :=
            hsep.head (p := fun u => u == 0x22) rfl hspans
          -- It is a quote or a comma, so it is no closing brace.
          have hclose : u ≠ 0x7D := by
            rintro rfl
            exact absurd hu (by decide)
          -- The name and the white space up to the colon, then the value up to the next comma.
          have hmember := memberStart_of_separator hsep
            (mt (starts_cons _ _ _).mp (by decide)) hspans
          obtain ⟨colon, hkey, hcolon⟩ := hmember.between
          have hafter : (colon.skip 1).Spans _ d := hcolon.split.2
          obtain ⟨next, hspansValue, hspansRest⟩ := hafter.between
          have hreadKey := readKey_of_spans hname hw₁ hkey (by rw [hcolon.ahead]; rfl)
          have hread := readValue_of_spells raw (n := n) hvalue hj (by omega) hw₂ hw₃ hspansValue
            (by
              rw [hspansRest.ahead, List.append_assoc]
              exact hrest.ends _)
          have hadd := (addMember_eq_ok_iff repeats before name value
            (memberStart first c).position more).mpr hjoin
          have hreadRest := readMembers_of_spells rest (n := n) hmore hrest (by omega) hspansRest
          rw [readMembers_step hahead hclose hcomma]
          simp only [bind, Except.bind, hreadKey, hread, hadd, hreadRest]

end

/-- A text that spells a tree, with white space around it, is read as what that tree stands for. -/
theorem parse_of_spells {raw j : Json} {t w w' : Text} (hj : settle repeats raw = some j)
    (h : Spells raw t) (hw : IsSpaces w) (hw' : IsSpaces w') :
    parse repeats (w ++ (t ++ w')) = .ok j := by
  rw [parse_eq_ok_iff]
  refine ⟨⟨(w ++ (t ++ w')).length, []⟩, ?_, rfl⟩
  have hspans : (Cursor.mk 0 (w ++ (t ++ w'))).Spans (w ++ (t ++ w'))
      ⟨(w ++ (t ++ w')).length, []⟩ := ⟨(List.append_nil _).symm, (Nat.zero_add _).symm⟩
  refine readValue_of_spells raw hj h ?_ hw hw' hspans (not_starts_nil _)
  simp only [List.length_append]
  omega

end FieldMask.Json
