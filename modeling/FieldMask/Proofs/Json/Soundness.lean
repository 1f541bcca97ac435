import FieldMask.Proofs.Json.Spelling

/-!
# `FieldMask.Proofs.Json.Soundness`: reading accepts nothing else

`Spells` is the whole grammar. What the readers take from the units ahead is a spelling, with white
space around it, of a tree that stands for what they give: `spells_of_readValue`,
`spells_of_readItems` and `spells_of_readMembers`, one case for each step of a reader.

With `parse_of_spells` this says which texts are read, and as what: `parse_eq_ok_iff_spells`.
-/

set_option autoImplicit false

namespace FieldMask.Json

variable {repeats : Repeats} {c d : Cursor}

/-- The white space that a cursor skips is white space, and it stands ahead of it. -/
theorem exists_isSpaces (c : Cursor) : ∃ w, IsSpaces w ∧ c.Spans w c.skipSpace :=
  ⟨_, fun _ hu => List.mem_takeWhile_imp hu, c.spans_skipSpace⟩

/-- After the white space that is skipped there is none, so a second skip stays where it is. -/
theorem not_isSpace_skipSpace (c : Cursor) : ¬ Starts Cursor.isSpace c.skipSpace.ahead := by
  rw [Cursor.ahead_skipSpace]
  intro hstarts
  obtain ⟨u, rest, hrest, hu⟩ := hstarts.exists_cons
  have hne : c.ahead.dropWhile Cursor.isSpace ≠ [] := by
    rw [hrest]
    exact List.cons_ne_nil u rest
  have hhead := List.head_dropWhile_not Cursor.isSpace hne
  simp only [hrest, List.head_cons, hu] at hhead
  exact nomatch hhead

/-- A cursor before a unit spans that unit by skipping one. -/
theorem spans_one {u : CodeUnit} {rest : Text} (h : c.ahead = u :: rest) :
    c.Spans [u] (c.skip 1) :=
  Cursor.spans_skip [u] h

/-- The string at the cursor is spelled between its quotes, and the reader stands behind the closing
one. -/
theorem spells_of_quote {t rest : Text} (h : c.ahead = 0x22 :: rest)
    (hread : readUnits (c.position + 1) rest = .ok (t, d)) :
    ∃ body, SpellsUnits t body ∧ c.Spans (0x22 :: (body ++ [0x22])) d := by
  obtain ⟨body, hbody, hrest, hposition⟩ := spells_of_readUnits hread
  refine ⟨body, hbody, ?_, ?_⟩
  · rw [h, hrest]
    simp
  · rw [hposition, List.length_cons, List.length_append, List.length_singleton]
    omega

/-- What is read as a name is a spelling of it, with white space up to a colon. -/
theorem spells_of_readKey {name : Text} (h : readKey c = .ok (name, d)) :
    ∃ key w, SpellsUnits name key ∧ IsSpaces w ∧ c.Spans (0x22 :: (key ++ 0x22 :: w)) d ∧
      ∃ rest, d.ahead = 0x3A :: rest := by
  unfold readKey at h
  cases hahead : c.ahead with
  | nil =>
      rw [hahead] at h
      exact nomatch h
  | cons u rest =>
      rw [hahead] at h
      simp only at h
      split at h
      · next hquote =>
          subst hquote
          obtain ⟨⟨t, e⟩, hread, h⟩ := Result.bind_eq_ok_iff.mp h
          simp only at h
          split at h
          · next hcolon =>
              cases h
              obtain ⟨key, hkey, hspans⟩ := spells_of_quote hahead hread
              -- The colon is looked for behind white space, so the white space is part of the
              -- spelling.
              obtain ⟨w, hw, hspace⟩ := exists_isSpaces e
              refine ⟨key, w, hkey, hw, ?_, List.head?_eq_some_iff.mp hcolon⟩
              have hboth := hspans.trans hspace
              simpa using hboth
          · exact nomatch h
      · exact nomatch h

/-- Before a member there is its separator, which the place where the member starts has behind it.
-/
theorem separator_of_memberStart {first : Bool}
    (h : first = false → c.ahead.head? = some 0x2C) :
    ∃ sep, Separator first sep ∧ c.Spans sep (memberStart first c) := by
  cases first with
  | true => exact ⟨[], .none, Cursor.Spans.refl c⟩
  | false =>
      obtain ⟨rest, hahead⟩ := List.head?_eq_some_iff.mp (h rfl)
      obtain ⟨w, hw, hspace⟩ := exists_isSpaces (c.skip 1)
      exact ⟨0x2C :: w, .comma hw, (spans_one hahead).trans hspace⟩

/-- Before an item there is its separator, if no white space stands before the first one. White
space after a comma belongs to the separator, although the reader takes it for part of the value. -/
theorem separator_of_itemStart {first : Bool} {w part : Text} {e : Cursor}
    (h : first = false → c.ahead.head? = some 0x2C)
    (hfirst : first = true → ¬ Starts Cursor.isSpace c.ahead) (hw : IsSpaces w)
    (hspans : (itemStart first c).Spans (w ++ part) e) :
    ∃ sep, Separator first sep ∧ c.Spans (sep ++ part) e := by
  cases first with
  | true =>
      have hspans : c.Spans (w ++ part) e := hspans
      have hnone : w = [] := by
        cases w with
        | nil => rfl
        | cons u w =>
            refine absurd ?_ (hfirst rfl)
            rw [hspans.ahead]
            exact (starts_cons _ _ _).mpr (hw u List.mem_cons_self)
      subst hnone
      exact ⟨[], .none, hspans⟩
  | false =>
      obtain ⟨rest, hahead⟩ := List.head?_eq_some_iff.mp (h rfl)
      exact ⟨0x2C :: w, .comma hw, (spans_one hahead).trans hspans⟩

mutual

/-- What is read as a value is a spelling of a tree that stands for it, with white space around it.
By induction on the fuel, one case for each step of the reader. -/
theorem spells_of_readValue :
    ∀ (n : Nat) (c d : Cursor) (j : Json), readValue repeats n c = .ok (some j, d) →
      ∃ raw w t w', IsSpaces w ∧ Spells raw t ∧ IsSpaces w' ∧ settle repeats raw = some j ∧
        c.Spans (w ++ (t ++ w')) d
  | 0, c, d, j, h => by
      rw [readValue] at h
      exact nomatch h
  | n + 1, c, d, j, h => by
      obtain ⟨e, rfl, hcase⟩ := readValue_cases h
      obtain ⟨w, hw, hbefore⟩ := exists_isSpaces c
      obtain ⟨w', hw', hafter⟩ := exists_isSpaces e
      -- It is enough to find the spelling between the two stretches of white space.
      suffices hvalue : ∃ raw t, Spells raw t ∧ settle repeats raw = some j ∧
          c.skipSpace.Spans t e by
        obtain ⟨raw, t, hspells, hj, hspans⟩ := hvalue
        exact ⟨raw, w, t, w', hw, hspells, hw', hj, hbefore.trans (hspans.trans hafter)⟩
      rcases hcase with ⟨rest, t, hahead, hread, rfl⟩ | ⟨_, _, spelling, _, _, hread, rfl⟩ |
        ⟨rest, members, hahead, hread, rfl⟩ | ⟨rest, items, hahead, hread, rfl⟩ |
        ⟨word, hword, hspans⟩
      · obtain ⟨body, hbody, hspans⟩ := spells_of_quote hahead hread
        exact ⟨_, _, .string hbody, rfl, hspans⟩
      · obtain ⟨hnumber, hspans⟩ := isNumber_of_readNumber hread
        exact ⟨_, _, .number hnumber, rfl, hspans⟩
      · obtain ⟨raws, body, hbody, hmembers, hspans⟩ :=
          spells_of_readMembers n _ e [] members true hread
        obtain ⟨w₀, hw₀, hspace⟩ := exists_isSpaces (c.skipSpace.skip 1)
        refine ⟨.object raws, _, .object hw₀ hbody, ?_,
          (spans_one hahead).trans (hspace.trans hspans)⟩
        rw [settle, hmembers, Option.map_some]
      · -- The items are read from behind the white space after the bracket, so none is left.
        obtain ⟨raws, body, hbody, hitems, hspans⟩ :=
          spells_of_readItems n _ e items true (fun _ => not_isSpace_skipSpace _) hread
        obtain ⟨w₀, hw₀, hspace⟩ := exists_isSpaces (c.skipSpace.skip 1)
        refine ⟨.array raws, _, .array hw₀ hbody, ?_,
          (spans_one hahead).trans (hspace.trans hspans)⟩
        rw [settle, hitems, Option.map_some]
      · refine ⟨j, word, .word hword, ?_, hspans⟩
        exact settle_of_wellFormed j (wellFormed_of_mem_keywords hword)

/-- What is read as items is a spelling of such items, with the closing bracket. -/
theorem spells_of_readItems :
    ∀ (n : Nat) (c d : Cursor) (items : List Json) (first : Bool),
      (first = true → ¬ Starts Cursor.isSpace c.ahead) →
      readItems repeats n first c = .ok (items, d) →
      ∃ raws body, SpellsItems first raws body ∧ settleItems repeats raws = some items ∧
        c.Spans (body ++ [0x5D]) d
  | 0, c, d, items, first, _, h => by
      rw [readItems] at h
      exact nomatch h
  | n + 1, c, d, items, first, hfirst, h => by
      rcases readItems_cases h with
        ⟨rest, hahead, rfl, rfl⟩ | ⟨value, next, more, hcomma, hvalue, hmore, rfl⟩
      · exact ⟨[], [], .nil, rfl, spans_one hahead⟩
      · obtain ⟨raw, w, t, w', hw, hspells, hw', hsettle, hspans⟩ :=
          spells_of_readValue n _ next value hvalue
        obtain ⟨raws, body, hbody, hsettleRest, hspansRest⟩ :=
          spells_of_readItems n next d more false nofun hmore
        obtain ⟨sep, hsep, hitem⟩ := separator_of_itemStart hcomma hfirst hw hspans
        refine ⟨raw :: raws, _, .cons hsep hspells hw' hbody,
          settleItems_cons.mpr ⟨value, more, hsettle, hsettleRest, rfl⟩, ?_⟩
        have hboth := hitem.trans hspansRest
        simpa only [List.append_assoc] using hboth

/-- What is read as members is a spelling of members that stand for it after those that were read
before, with the closing brace. -/
theorem spells_of_readMembers :
    ∀ (n : Nat) (c d : Cursor) (before all : Record Json) (first : Bool),
      readMembers repeats n before first c = .ok (all, d) →
      ∃ raws body, SpellsMembers first raws body ∧
        settleMembers repeats before raws = some all ∧ c.Spans (body ++ [0x7D]) d
  | 0, c, d, before, all, first, h => by
      rw [readMembers] at h
      exact nomatch h
  | n + 1, c, d, before, all, first, h => by
      rcases readMembers_cases h with
        ⟨rest, hahead, rfl, rfl⟩ |
        ⟨name, colon, value, next, more, hcomma, hkey, hvalue, hadd, hmore⟩
      · exact ⟨[], [], .nil, rfl, spans_one hahead⟩
      · obtain ⟨sep, hsep, hstart⟩ := separator_of_memberStart hcomma
        obtain ⟨key, w₁, hname, hw₁, hspansKey, rest, hcolon⟩ := spells_of_readKey hkey
        obtain ⟨raw, w₂, t, w₃, hw₂, hspells, hw₃, hsettle, hspansValue⟩ :=
          spells_of_readValue n _ next value hvalue
        obtain ⟨raws, body, hbody, hsettleRest, hspansRest⟩ :=
          spells_of_readMembers n next d more all false hmore
        have hjoin := (addMember_eq_ok_iff repeats before name value _ more).mp hadd
        refine ⟨(name, raw) :: raws, _, .cons hsep hname hw₁ hw₂ hspells hw₃ hbody,
          settleMembers_cons.mpr ⟨value, more, hsettle, hjoin, hsettleRest⟩, ?_⟩
        have hall := hstart.trans
          (hspansKey.trans ((spans_one hcolon).trans (hspansValue.trans hspansRest)))
        simpa only [List.append_assoc, List.cons_append] using hall

end

/-- A text is read exactly if it spells, with white space around it, a tree that stands for
something, and it is read as that. -/
theorem parse_eq_ok_iff_spells {t : Text} {j : Json} :
    parse repeats t = .ok j ↔
      ∃ raw w body w', IsSpaces w ∧ Spells raw body ∧ IsSpaces w' ∧
        settle repeats raw = some j ∧ t = w ++ (body ++ w') := by
  constructor
  · intro h
    obtain ⟨d, hread, hend⟩ := parse_eq_ok_iff.mp h
    obtain ⟨raw, w, body, w', hw, hspells, hw', hj, hspans⟩ := spells_of_readValue _ _ d j hread
    refine ⟨raw, w, body, w', hw, hspells, hw', hj, ?_⟩
    have hahead : t = (w ++ (body ++ w')) ++ d.ahead := hspans.ahead
    rw [hahead, hend, List.append_nil]
  · rintro ⟨raw, w, body, w', hw, hspells, hw', hj, rfl⟩
    exact parse_of_spells hj hspells hw hw'

end FieldMask.Json
