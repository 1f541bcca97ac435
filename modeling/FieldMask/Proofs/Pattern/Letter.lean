import FieldMask.Pattern.Letter
import FieldMask.Proofs.Unicode.CaseTable

/-!
# `FieldMask.Proofs.Pattern.Letter`: characters of one canonical form

The matcher asks of a character for its canonical form, for the other characters of that form, and
whether it ends a line or is part of a word. All of that depends on the form alone
(`Letter.seen_of_canonical_eq`), so no pattern can tell characters of one form apart.

* `mem_variants_iff`: the variants of a form are all characters of that form, none left out.
* `ClassSet.holds_item_iff`: a class holds a character if it lists some character of the same form.
* `isWord_canonical` and `isLineEnd_canonical`: a character and its form are both part of a word or
  both not, and the same for line ends.

What is said of all characters is checked for the ranges of the case tables. Most of it rests on
this: no table moves a code point to one that it moves as well (`CaseTable.Settled`).
-/

set_option autoImplicit false

namespace FieldMask.Pattern

open FieldMask.Unicode

variable {unicode : Bool} {c d : Nat}

/-- The table behind the canonical forms: simple case folding where characters are code points, and
the upper case where they are units. -/
def caseTable (unicode : Bool) : CaseTable := if unicode then foldingTable else uppercaseTable

/-- The table is settled in both modes, so a canonical form is moved no further. -/
theorem settled_caseTable (unicode : Bool) : (caseTable unicode).Settled := by
  cases unicode with
  | true => exact settled_foldingTable
  | false => exact settled_uppercaseTable

/-- A code point with more than one upper-case code point is none that the table moves another code
point to. Such a code point is its own canonical form, so no other one may have it as its form. -/
theorem misses_multipleUppercase :
    ∀ r ∈ uppercaseTable, multipleUppercase.all (fun e => r.misses (.single e.1)) = true := by
  have hmisses : ∀ r ∈ uppercaseTable,
      (multipleUppercase.map fun e => CaseRange.single e.1).all r.misses = true :=
    CaseTable.misses_of_runs 16 6 (by decide +kernel)
  intro r hr
  rw [← hmisses r hr, List.all_map, Function.comp_def]

/-- Every entry of the list has more than one code point. This is why a code point in the list keeps
its form. -/
theorem two_le_length_of_multiple {us : List Nat} (h : multipleUppercase.lookup c = some us) :
    2 ≤ us.length := by
  have hlengths : ∀ e ∈ multipleUppercase, 2 ≤ e.2.length := by decide
  obtain ⟨before, after, hsplit, -⟩ := List.lookup_eq_some_iff.mp h
  exact hlengths (c, us) (hsplit ▸ List.mem_append_cons_self)

/-- A character whose canonical form is another one is moved there by the table. The exceptions that
the definition makes all keep a character where it is. -/
theorem canonical_of_ne (h : canonical unicode c ≠ c) :
    canonical unicode c = (caseTable unicode).map c := by
  cases unicode with
  | true => rfl
  | false =>
      unfold canonical toUpper at h ⊢
      cases hlookup : multipleUppercase.lookup c with
      | none =>
          simp only [hlookup, Option.getD_none, Bool.false_eq_true, if_false] at h ⊢
          split at h
          · exact absurd rfl h
          · next hkept => rw [if_neg hkept, caseTable, if_neg Bool.false_ne_true]
      | some us =>
          have hlength := two_le_length_of_multiple hlookup
          rw [hlookup] at h
          match us, hlength with
          | _ :: _ :: _, _ => exact absurd rfl h

/-- A character is its own canonical form, or some range of the table moves it to its form. What is
said of all characters is checked range by range through this. -/
theorem canonical_cases (unicode : Bool) (c : Nat) :
    canonical unicode c = c ∨
      ∃ r ∈ caseTable unicode, r.contains c = true ∧ canonical unicode c = moved c r.offset := by
  by_cases h : canonical unicode c = c
  · exact .inl h
  · have htable := canonical_of_ne h
    rw [htable] at h
    obtain ⟨r, hr, hcontains, hmoved⟩ := CaseTable.exists_of_map_ne h
    exact .inr ⟨r, hr, hcontains, htable.trans hmoved⟩

/-- A character that the table leaves where it is, and whose upper case is one character, is its own
canonical form. -/
theorem canonical_eq_self (h : (caseTable unicode).map c = c)
    (hsingle : unicode = false → multipleUppercase.lookup c = none) : canonical unicode c = c := by
  cases unicode with
  | true => exact h
  | false =>
      have h : uppercaseTable.map c = c := h
      simp [canonical, toUpper, hsingle rfl, h]

/-- An ASCII character has one upper-case code point, so the table alone decides about its form. -/
theorem canonical_of_ascii (hc : c < 0x80) : canonical unicode c = (caseTable unicode).map c := by
  cases unicode with
  | true => rfl
  | false =>
      have hlisted : ∀ e ∈ multipleUppercase, 0x80 ≤ e.1 := by decide
      have hlookup : multipleUppercase.lookup c = none := by
        refine List.lookup_eq_none_iff.mpr fun e he => bne_iff_ne.mpr ?_
        have hkey := hlisted e he
        omega
      simp [canonical, toUpper, hlookup, caseTable, Nat.not_le.mpr hc]

/-- A canonical form is its own canonical form. The table moves it no further, and it is none of the
code points with several upper-case code points. -/
theorem canonical_canonical (unicode : Bool) (c : Nat) :
    canonical unicode (canonical unicode c) = canonical unicode c := by
  by_cases h : canonical unicode c = c
  · rw [h, h]
  · have htable := canonical_of_ne h
    refine canonical_eq_self ?_ ?_
    · rw [htable, (settled_caseTable unicode).map_map]
    · rintro rfl
      obtain hself | ⟨r, hr, hcontains, hmoved⟩ := canonical_cases false c
      · exact absurd hself h
      · cases hlookup : multipleUppercase.lookup (canonical false c) with
        | none => rfl
        | some us =>
            -- The form would be a code point that the table is known to miss.
            obtain ⟨before, after, hsplit, -⟩ := List.lookup_eq_some_iff.mp hlookup
            have hmisses := List.all_eq_true.mp (misses_multipleUppercase r hr)
              (canonical false c, us) (hsplit ▸ List.mem_append_cons_self)
            exact absurd hmoved (CaseRange.ne_moved_of_misses hmisses
              (settled_uppercaseTable.nonneg r hr) hcontains)

/-- The variants of a character's form are the characters with that form, none left out. A variant
is the form itself or a source of it in the table. -/
theorem mem_variants_iff :
    d ∈ variants unicode (canonical unicode c) ↔ canonical unicode d = canonical unicode c := by
  unfold variants
  rw [List.mem_cons, List.mem_filter, beq_iff_eq]
  constructor
  · rintro (rfl | ⟨-, h⟩)
    · exact canonical_canonical unicode c
    · exact h
  · intro h
    by_cases hself : canonical unicode d = d
    · exact .inl (hself.symm.trans h)
    · refine .inr ⟨?_, h⟩
      have htable := canonical_of_ne hself
      rw [← h, htable]
      exact (settled_caseTable unicode).mem_sources (htable ▸ hself)

/-- An item holds a character if it lists a character of the same form, or leaves one out if it is
negated. This is what the documented semantics of a class without regard to case says. -/
theorem ClassSet.holds_item_iff {negated : Bool} {part : ClassItem} :
    (ClassSet.item negated part).holds unicode (Letter.of unicode c) = true ↔
      ∃ d, canonical unicode d = canonical unicode c ∧ part.contains unicode d ≠ negated := by
  simp only [ClassSet.holds, Letter.of, List.any_eq_true, bne_iff_ne, mem_variants_iff]

/-! ### What else the matcher asks of a character -/

/-- A character that is not ASCII has an ASCII form only if it folds to one, and then characters are
code points. Where they are units, the definition keeps such a character where it is. -/
theorem foldsToAscii_of_canonical_lt (hc : 0x80 ≤ c) (h : canonical unicode c < 0x80) :
    unicode = true ∧ foldsToAscii c = true := by
  have htable : ∀ r ∈ foldingTable, r.last < 0x80 ∨
      (r.first = r.last ∧ foldsToAscii r.first = true) ∨ 0x80 ≤ moved r.first r.offset := by
    decide +kernel
  cases unicode with
  | false =>
      rw [canonical, if_neg Bool.false_ne_true] at h
      split at h
      · split at h <;> omega
      · omega
  | true =>
      refine ⟨rfl, ?_⟩
      obtain hself | ⟨r, hr, hcontains, hmoved⟩ := canonical_cases true c
      · omega
      · simp only [CaseRange.contains, Bool.and_eq_true, decide_eq_true_eq] at hcontains
        obtain ⟨⟨hfirst, hlast⟩, -⟩ := hcontains
        rcases htable r hr with hascii | ⟨hsingle, hfolds⟩ | hhigh
        · omega
        · rwa [show c = r.first by omega]
        · unfold moved at hmoved hhigh
          omega

/-- The two characters that fold to ASCII letters: the long s and the Kelvin sign. -/
theorem foldsToAscii_iff : foldsToAscii c = true ↔ c = 0x17F ∨ c = 0x212A := by
  simp [foldsToAscii]

/-- They fold to letters that are part of a word, as they are themselves. -/
theorem canonical_of_foldsToAscii (h : foldsToAscii c = true) :
    canonical true c < 0x80 ∧ isWord true (canonical true c) = isWord true c := by
  rcases foldsToAscii_iff.mp h with rfl | rfl <;> decide +kernel

/-- A character that is not ASCII is part of a word only if it folds to a letter that is. -/
theorem isWord_of_not_ascii (h : ¬ c < 0x80) : isWord unicode c = (unicode && foldsToAscii c) := by
  have hnone : ((0x30 ≤ c && c ≤ 0x39) || (0x41 ≤ c && c ≤ 0x5A) || c == 0x5F ||
      (0x61 ≤ c && c ≤ 0x7A) : Bool) = false := by
    rw [← Bool.not_eq_true]
    simp only [Bool.or_eq_true, Bool.and_eq_true, decide_eq_true_eq, beq_iff_eq]
    omega
  rw [isWord, hnone, Bool.false_or]

/-- A character without an ASCII form does not fold to one. -/
theorem foldsToAscii_of_canonical_not_ascii (h : ¬ canonical true c < 0x80) :
    foldsToAscii c = false := by
  rw [← Bool.not_eq_true]
  exact fun hfolds => h (canonical_of_foldsToAscii hfolds).1

/-- A character and its canonical form are both part of a word, or both not. ASCII characters are
checked one by one; for the others it matters whether the form is ASCII. -/
theorem isWord_canonical (unicode : Bool) (c : Nat) :
    isWord unicode (canonical unicode c) = isWord unicode c := by
  have hascii : ∀ unicode, ∀ c < 0x80,
      isWord unicode ((caseTable unicode).map c) = isWord unicode c := by
    decide +kernel
  by_cases hc : c < 0x80
  · rw [canonical_of_ascii hc]
    exact hascii unicode c hc
  · by_cases hform : canonical unicode c < 0x80
    · obtain ⟨rfl, hfolds⟩ := foldsToAscii_of_canonical_lt (Nat.le_of_not_lt hc) hform
      exact (canonical_of_foldsToAscii hfolds).2
    · rw [isWord_of_not_ascii hc, isWord_of_not_ascii hform]
      cases unicode with
      | false => rfl
      | true =>
          have hform' : ¬ canonical true (canonical true c) < 0x80 := by rwa [canonical_canonical]
          rw [foldsToAscii_of_canonical_not_ascii hform, foldsToAscii_of_canonical_not_ascii hform']

/-- A character and its canonical form both end a line, or both do not. The four line ends are their
own forms, and no range of a table leads to one of them. -/
theorem isLineEnd_canonical (unicode : Bool) (c : Nat) :
    isLineEnd (canonical unicode c) = isLineEnd c := by
  have hends : ∀ unicode, ∀ d ∈ [0x0A, 0x0D, 0x2028, 0x2029], canonical unicode d = d ∧
      (caseTable unicode).all (fun r => r.misses (.single d)) = true := by
    decide +kernel
  have hmem : ∀ d, isLineEnd d = true ↔ d ∈ [0x0A, 0x0D, 0x2028, 0x2029] := by
    simp [isLineEnd, or_assoc]
  rw [Bool.eq_iff_iff, hmem, hmem]
  constructor
  · intro h
    obtain hself | ⟨r, hr, hcontains, hmoved⟩ := canonical_cases unicode c
    · rwa [hself] at h
    · -- No range moves anything to the end of a line.
      have hmisses := List.all_eq_true.mp (hends unicode _ h).2 r hr
      exact absurd hmoved (CaseRange.ne_moved_of_misses hmisses
        ((settled_caseTable unicode).nonneg r hr) hcontains)
  · intro h
    rwa [(hends unicode c h).1]

/-- What the matcher asks of a letter: its form, the characters of that form, whether it is part of
a word and whether it ends a line. Nothing else of a letter has a part in a match. -/
def Letter.seen (unicode : Bool) (l : Letter) : Nat × List Nat × Bool × Bool :=
  (l.form, l.variants, isWord unicode l.char, isLineEnd l.char)

/-- Characters of one canonical form are seen alike: everything that is seen of a letter can be told
from its form. -/
theorem Letter.seen_of_canonical_eq (h : canonical unicode c = canonical unicode d) :
    (Letter.of unicode c).seen unicode = (Letter.of unicode d).seen unicode := by
  have hseen : ∀ c, (Letter.of unicode c).seen unicode
      = (canonical unicode c, Pattern.variants unicode (canonical unicode c),
          isWord unicode (canonical unicode c), isLineEnd (canonical unicode c)) := by
    intro c
    rw [isWord_canonical, isLineEnd_canonical]
    rfl
  rw [hseen, hseen, h]

end FieldMask.Pattern
