import FieldMask.Proofs.Json.Cursor
import FieldMask.Proofs.Result

/-!
# `FieldMask.Proofs.Json.Reader`: one step of the reader

The three readers of values, members and items call each other. Their steps are stated here once:
an equation for each unit that a value can start with, one for a further element and one for the
closing bracket, and for each reader the list of all steps by which it can give a value
(`readValue_cases`, `readMembers_cases`, `readItems_cases`). The theorems about whole texts use
these and do not open the readers.
-/

set_option autoImplicit false

namespace FieldMask.Json

variable {repeats : Repeats} {n : Nat} {c d : Cursor} {u : CodeUnit} {rest : Text}

/-! ### Values -/

/-- At a quote the value is the string up to the closing quote, and the white space after it is
skipped. -/
theorem readValue_string (h : c.skipSpace.ahead = 0x22 :: rest) :
    readValue repeats (n + 1) c
      = readUnits (c.skipSpace.position + 1) rest >>= fun (t, c) =>
          .ok (some (.string t), c.skipSpace) := by
  rw [readValue, h]
  rfl

/-- At a minus sign or a digit the value is a number, which is kept as it is spelled. -/
theorem readValue_number (h : c.skipSpace.ahead = u :: rest)
    (hu : (u == 0x2D || isDigit u) = true) :
    readValue repeats (n + 1) c
      = readNumber c.skipSpace >>= fun (spelling, c) =>
          .ok (some (.number spelling), c.skipSpace) := by
  have hquote : u ≠ 0x22 := by
    rintro rfl
    exact absurd hu (by decide)
  rw [readValue, h]
  simp only [if_neg hquote]
  rw [if_pos (by simpa using hu)]
  rfl

/-- At an opening brace the value is the object of the members up to the closing brace. -/
theorem readValue_object (h : c.skipSpace.ahead = 0x7B :: rest) :
    readValue repeats (n + 1) c
      = readMembers repeats n [] true (c.skipSpace.skip 1).skipSpace >>= fun (members, c) =>
          .ok (some (.object members), c.skipSpace) := by
  rw [readValue, h]
  rfl

/-- At an opening bracket the value is the array of the items up to the closing bracket. -/
theorem readValue_array (h : c.skipSpace.ahead = 0x5B :: rest) :
    readValue repeats (n + 1) c
      = readItems repeats n true (c.skipSpace.skip 1).skipSpace >>= fun (items, c) =>
          .ok (some (.array items), c.skipSpace) := by
  rw [readValue, h]
  rfl

/-- A value that starts with this unit is no string, number, object or array, so it can only be one
of the words. -/
def StartsWord (u : CodeUnit) : Prop :=
  u ≠ 0x22 ∧ (u == 0x2D || isDigit u) = false ∧ u ≠ 0x7B ∧ u ≠ 0x5B

/-- At any other unit the value is the word that stands there. -/
theorem readValue_word {j : Json} (h : c.skipSpace.ahead = u :: rest) (hu : StartsWord u)
    (hword : readKeyword c.skipSpace = some (j, d)) :
    readValue repeats (n + 1) c = .ok (some j, d.skipSpace) := by
  obtain ⟨hquote, hnumber, hbrace, hbracket⟩ := hu
  have hnumber : ¬ (u = 0x2D ∨ isDigit u = true) := by simpa using hnumber
  rw [readValue, h]
  simp only [if_neg hquote, if_neg hnumber, if_neg hbrace, if_neg hbracket, hword]

/-- Where no such word stands there is no value, which is not a mistake by itself: the caller
decides what to make of it. -/
theorem readValue_noWord (h : c.skipSpace.ahead = u :: rest) (hu : StartsWord u)
    (hword : readKeyword c.skipSpace = none) :
    readValue repeats (n + 1) c = .ok (none, c.skipSpace) := by
  obtain ⟨hquote, hnumber, hbrace, hbracket⟩ := hu
  have hnumber : ¬ (u = 0x2D ∨ isDigit u = true) := by simpa using hnumber
  rw [readValue, h]
  simp only [if_neg hquote, if_neg hnumber, if_neg hbrace, if_neg hbracket, hword]

/-- The three words that are values, each with its value. -/
theorem mem_keywords_iff {word : Text} {j : Json} :
    (word, j) ∈ keywords ↔
      (word = "true" ∧ j = .bool true) ∨ (word = "false" ∧ j = .bool false) ∨
        (word = "null" ∧ j = .null) := by
  simp only [keywords, List.mem_cons, Prod.mk.injEq, List.not_mem_nil, or_false]

/-- A word that is a value starts like no other value, so it is the words that the reader looks for.
-/
theorem head_of_mem_keywords {word : Text} {j : Json} (h : (word, j) ∈ keywords) :
    ∃ u rest, word = u :: rest ∧ StartsWord u := by
  rcases mem_keywords_iff.mp h with ⟨rfl, -⟩ | ⟨rfl, -⟩ | ⟨rfl, -⟩
  · exact ⟨0x74, [0x72, 0x75, 0x65], by decide, by unfold StartsWord; decide⟩
  · exact ⟨0x66, [0x61, 0x6C, 0x73, 0x65], by decide, by unfold StartsWord; decide⟩
  · exact ⟨0x6E, [0x75, 0x6C, 0x6C], by decide, by unfold StartsWord; decide⟩

/-- What is read as a word is one of the words, and it is what stood ahead. -/
theorem spans_of_readKeyword {j : Json} (h : readKeyword c = some (j, d)) :
    ∃ word, (word, j) ∈ keywords ∧ c.Spans word d := by
  obtain ⟨⟨word, j⟩, hfind, hresult⟩ := Option.map_eq_some_iff.mp h
  cases hresult
  have hprefix := List.find?_some hfind
  obtain ⟨rest, hrest⟩ := List.isPrefixOf_iff_prefix.mp hprefix
  exact ⟨word, List.mem_of_find?_eq_some hfind, Cursor.spans_skip word hrest.symm⟩

/-- The ways in which a value is read, each with the unit that it starts with. After the value,
which ends at `e`, white space is skipped. With this list the readers need not be opened again. -/
theorem readValue_cases {j : Json} (h : readValue repeats (n + 1) c = .ok (some j, d)) :
    ∃ e, d = e.skipSpace ∧
      ((∃ rest t, c.skipSpace.ahead = 0x22 :: rest ∧
        readUnits (c.skipSpace.position + 1) rest = .ok (t, e) ∧ j = .string t) ∨
      (∃ u rest spelling, c.skipSpace.ahead = u :: rest ∧ (u == 0x2D || isDigit u) = true ∧
        readNumber c.skipSpace = .ok (spelling, e) ∧ j = .number spelling) ∨
      (∃ rest members, c.skipSpace.ahead = 0x7B :: rest ∧
        readMembers repeats n [] true (c.skipSpace.skip 1).skipSpace = .ok (members, e) ∧
        j = .object members) ∨
      (∃ rest items, c.skipSpace.ahead = 0x5B :: rest ∧
        readItems repeats n true (c.skipSpace.skip 1).skipSpace = .ok (items, e) ∧
        j = .array items) ∨
      ∃ word, (word, j) ∈ keywords ∧ c.skipSpace.Spans word e) := by
  cases hahead : c.skipSpace.ahead with
  | nil =>
      rw [readValue, hahead] at h
      exact nomatch h
  | cons u rest =>
      -- The unit ahead decides which reader is called, in the order in which the reader asks.
      by_cases hquote : u = 0x22
      · subst hquote
        rw [readValue_string hahead] at h
        obtain ⟨⟨t, e⟩, hread, h⟩ := Result.bind_eq_ok_iff.mp h
        cases h
        exact ⟨e, rfl, Or.inl ⟨rest, t, rfl, hread, rfl⟩⟩
      by_cases hnumber : (u == 0x2D || isDigit u) = true
      · rw [readValue_number hahead hnumber] at h
        obtain ⟨⟨spelling, e⟩, hread, h⟩ := Result.bind_eq_ok_iff.mp h
        cases h
        exact ⟨e, rfl, Or.inr (Or.inl ⟨u, rest, spelling, rfl, hnumber, hread, rfl⟩)⟩
      by_cases hbrace : u = 0x7B
      · subst hbrace
        rw [readValue_object hahead] at h
        obtain ⟨⟨members, e⟩, hread, h⟩ := Result.bind_eq_ok_iff.mp h
        cases h
        exact ⟨e, rfl, Or.inr (Or.inr (Or.inl ⟨rest, members, rfl, hread, rfl⟩))⟩
      by_cases hbracket : u = 0x5B
      · subst hbracket
        rw [readValue_array hahead] at h
        obtain ⟨⟨items, e⟩, hread, h⟩ := Result.bind_eq_ok_iff.mp h
        cases h
        exact ⟨e, rfl, Or.inr (Or.inr (Or.inr (Or.inl ⟨rest, items, rfl, hread, rfl⟩)))⟩
      -- None of the four is left, so a word has to stand here.
      have hu : StartsWord u := ⟨hquote, by simpa using hnumber, hbrace, hbracket⟩
      cases hword : readKeyword c.skipSpace with
      | none =>
          rw [readValue_noWord hahead hu hword] at h
          exact nomatch h
      | some found =>
          obtain ⟨j', e⟩ := found
          rw [readValue_word hahead hu hword] at h
          cases h
          obtain ⟨word, hmem, hspans⟩ := spans_of_readKeyword hword
          exact ⟨e, rfl, Or.inr (Or.inr (Or.inr (Or.inr ⟨word, hmem, hspans⟩)))⟩

/-! ### Members -/

variable {members : Record Json} {first : Bool}

/-- The closing brace ends the members, and what was read so far are all of them. -/
theorem readMembers_close (h : c.ahead = 0x7D :: rest) :
    readMembers repeats (n + 1) members first c = .ok (members, c.skip 1) := by
  rw [readMembers, h]
  rfl

/-- Where a member starts: at the cursor if it is the first one, else after a comma and white space.
-/
def memberStart (first : Bool) (c : Cursor) : Cursor :=
  if first then c else (c.skip 1).skipSpace

/-- A further member is read where it starts, and added to the ones before it. A name that is there
already is complained about at that place, or not, by the rule for repeated names. -/
theorem readMembers_step (h : c.ahead = u :: rest) (hclose : u ≠ 0x7D)
    (hcomma : first = false → u = 0x2C) :
    readMembers repeats (n + 1) members first c
      = readKey (memberStart first c) >>= fun (name, colon) =>
          readValue repeats n (colon.skip 1) >>= fun (value, next) =>
            match value with
            | none => .error (.memberValueExpected next.position)
            | some value =>
              addMember repeats members name value (memberStart first c).position >>= fun members =>
                readMembers repeats n members false next := by
  -- Only a further member has to come after a comma.
  have hgo : ¬ (!first && u != 0x2C) = true := by
    cases first with
    | true => simp
    | false => simp [hcomma rfl]
  rw [readMembers, h]
  simp only [if_neg hclose, if_neg hgo]
  rfl

/-- The ways in which members are read: the closing brace comes at once, or there is one more member
and then the rest. -/
theorem readMembers_cases {all : Record Json}
    (h : readMembers repeats (n + 1) members first c = .ok (all, d)) :
    (∃ rest, c.ahead = 0x7D :: rest ∧ all = members ∧ d = c.skip 1) ∨
    ∃ name colon value next more, (first = false → c.ahead.head? = some 0x2C) ∧
      readKey (memberStart first c) = .ok (name, colon) ∧
      readValue repeats n (colon.skip 1) = .ok (some value, next) ∧
      addMember repeats members name value (memberStart first c).position = .ok more ∧
      readMembers repeats n more false next = .ok (all, d) := by
  cases hahead : c.ahead with
  | nil =>
      rw [readMembers, hahead] at h
      exact nomatch h
  | cons u rest =>
      by_cases hclose : u = 0x7D
      · subst hclose
        rw [readMembers_close hahead] at h
        cases h
        exact Or.inl ⟨rest, rfl, rfl, rfl⟩
      by_cases hcomma : first = false → u = 0x2C
      · rw [readMembers_step hahead hclose hcomma] at h
        obtain ⟨⟨name, colon⟩, hkey, h⟩ := Result.bind_eq_ok_iff.mp h
        obtain ⟨⟨value, next⟩, hvalue, h⟩ := Result.bind_eq_ok_iff.mp h
        cases value with
        | none => exact nomatch h
        | some value =>
            obtain ⟨more, hadd, h⟩ := Result.bind_eq_ok_iff.mp h
            exact Or.inr ⟨name, colon, value, next, more, fun hfirst => by rw [hcomma hfirst]; rfl,
              hkey, hvalue, hadd, h⟩
      · rw [readMembers, hahead] at h
        simp only [if_neg hclose] at h
        rw [if_pos (by simpa using hcomma)] at h
        exact nomatch h

/-! ### Items -/

/-- The closing bracket ends the items. -/
theorem readItems_close (h : c.ahead = 0x5D :: rest) :
    readItems repeats (n + 1) first c = .ok ([], c.skip 1) := by
  rw [readItems, h]
  rfl

/-- Where an item starts: at the cursor if it is the first one, else after a comma. White space
before it belongs to the value. -/
def itemStart (first : Bool) (c : Cursor) : Cursor := if first then c else c.skip 1

/-- A further item is read where it starts, and the ones after it follow. -/
theorem readItems_step (h : c.ahead = u :: rest) (hclose : u ≠ 0x5D)
    (hcomma : first = false → u = 0x2C) :
    readItems repeats (n + 1) first c
      = readValue repeats n (itemStart first c) >>= fun (value, next) =>
          match value with
          | none => fail .item next
          | some value =>
            readItems repeats n false next >>= fun (items, finish) =>
              .ok (value :: items, finish) := by
  -- Only a further item has to come after a comma.
  have hgo : ¬ (!first && u != 0x2C) = true := by
    cases first with
    | true => simp
    | false => simp [hcomma rfl]
  rw [readItems, h]
  simp only [if_neg hclose, if_neg hgo]
  rfl

/-- The ways in which items are read: the closing bracket comes at once, or there is one more item
and then the rest. -/
theorem readItems_cases {all : List Json}
    (h : readItems repeats (n + 1) first c = .ok (all, d)) :
    (∃ rest, c.ahead = 0x5D :: rest ∧ all = [] ∧ d = c.skip 1) ∨
    ∃ value next items, (first = false → c.ahead.head? = some 0x2C) ∧
      readValue repeats n (itemStart first c) = .ok (some value, next) ∧
      readItems repeats n false next = .ok (items, d) ∧ all = value :: items := by
  cases hahead : c.ahead with
  | nil =>
      rw [readItems, hahead] at h
      exact nomatch h
  | cons u rest =>
      by_cases hclose : u = 0x5D
      · subst hclose
        rw [readItems_close hahead] at h
        cases h
        exact Or.inl ⟨rest, rfl, rfl, rfl⟩
      by_cases hcomma : first = false → u = 0x2C
      · rw [readItems_step hahead hclose hcomma] at h
        obtain ⟨⟨value, next⟩, hvalue, h⟩ := Result.bind_eq_ok_iff.mp h
        cases value with
        | none => exact nomatch h
        | some value =>
            obtain ⟨⟨items, finish⟩, hitems, h⟩ := Result.bind_eq_ok_iff.mp h
            cases h
            exact Or.inr ⟨value, next, items, fun hfirst => by rw [hcomma hfirst]; rfl, hvalue,
              hitems, rfl⟩
      · rw [readItems, hahead] at h
        simp only [if_neg hclose] at h
        rw [if_pos (by simpa using hcomma)] at h
        exact nomatch h

/-! ### Whole texts -/

/-- A text is read as a value exactly when that value is all there is. The fuel is enough for twice
the text, so it never decides. -/
theorem parse_eq_ok_iff {t : Text} {j : Json} :
    parse repeats t = .ok j ↔
      ∃ d, readValue repeats (2 * t.length + 2) ⟨0, t⟩ = .ok (some j, d) ∧ d.ahead = [] := by
  unfold parse
  rw [Result.bind_eq_ok_iff]
  constructor
  · rintro ⟨⟨value, d⟩, hread, h⟩
    cases value with
    | none => exact nomatch h
    | some value =>
        simp only at h
        split at h
        · next hend =>
            cases h
            exact ⟨d, hread, List.isEmpty_iff.mp hend⟩
        · exact nomatch h
  · rintro ⟨d, hread, hend⟩
    exact ⟨(some j, d), hread, by simp [hend, pure, Except.pure]⟩

end FieldMask.Json
