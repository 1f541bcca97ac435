import FieldMask.Proofs.Text.Padding
import FieldMask.Proofs.Unicode.CaseTable

/-!
# `FieldMask.Proofs.Text.LowerCase`: a text in lower case

The lower case of a text is in lower case already (`lower_lower`), also where it depends on the
letters around a sigma: the small sigmas have no lower case but themselves, so nothing is left that
looks around.

The code points of the lower case are read back as they were made (`points_lower`): what a code
point is made into is itself, or it holds no half of a surrogate pair. Nor does it hold white space,
so a text without white space at its ends keeps that in lower case (`IsFlush.lower`).
-/

set_option autoImplicit false

namespace FieldMask.Text

variable {before ps : List Nat} {c d : Nat}

/-! ### Code points -/

/-- The code point is its own lower case, wherever it stands. The capital sigma is named apart
because its lower case is not in the table. -/
def IsSmall (c : Nat) : Prop := c ≠ capitalSigma ∧ Unicode.toLower c = [c]

/-- The code point is neither half of a surrogate pair nor white space. Such a code point can stand
anywhere in a text: it forms no pair with a neighbour, and trimming does not take it away. -/
structure IsOpen (c : Nat) : Prop where
  bounded : c < 0x110000
  not_high : ¬ IsHighPoint c
  not_low : ¬ IsLowPoint c
  not_blank : c ∉ blankPoints

/-- The range of the surrogates, as a range of the tables that moves nothing. -/
def surrogates : Unicode.CaseRange := ⟨0xD800, 0xDFFF, 1, 0⟩

/-- The range holds the surrogates and no other code point. -/
theorem surrogates_contains_iff : surrogates.contains c = true ↔ 0xD800 ≤ c ∧ c ≤ 0xDFFF := by
  simp only [Unicode.CaseRange.contains, Bool.and_eq_true, decide_eq_true_eq]
  simp [surrogates, Nat.mod_one]

/-- The surrogates, white space and the capital letters with a rule of their own, as ranges. No
range of the lower-case table moves a code point into one of these. -/
def spared : Unicode.CaseTable :=
  surrogates :: (capitalSigma :: Unicode.dottedCapitalI :: blankPoints).map .single

/-- The table moves code points to code points, and to none of those that are spared. Both are
checked range by range; the second one in runs, which are fewer than the ranges. -/
theorem lowercaseTable_spares :
    (∀ r ∈ Unicode.lowercaseTable, Unicode.moved r.last r.offset < 0x110000) ∧
      ∀ r ∈ Unicode.lowercaseTable, spared.all r.misses = true :=
  ⟨by decide +kernel, Unicode.CaseTable.misses_of_runs 8 4 (by decide +kernel)⟩

/-- The table moves no code point to one of the two capital letters or to white space. A code point
that it moves lies in a range, and this range misses each of them. -/
theorem map_ne_of_spared (h : Unicode.lowercaseTable.map c ≠ c)
    (hd : d ∈ capitalSigma :: Unicode.dottedCapitalI :: blankPoints) :
    d ≠ Unicode.lowercaseTable.map c := by
  obtain ⟨r, hr, hc, hmoved⟩ := Unicode.CaseTable.exists_of_map_ne h
  have hmisses := List.all_eq_true.mp (lowercaseTable_spares.2 r hr) (.single d)
    (List.mem_cons_of_mem surrogates (List.mem_map_of_mem hd))
  rw [hmoved]
  exact Unicode.CaseRange.ne_moved_of_misses hmisses (Unicode.settled_lowercaseTable.nonneg r hr) hc

/-- A code point that the table moves becomes one that is neither a surrogate nor white space, and
it stays in the range of Unicode. -/
theorem isOpen_of_map_ne (h : Unicode.lowercaseTable.map c ≠ c) :
    IsOpen (Unicode.lowercaseTable.map c) := by
  have hblank : Unicode.lowercaseTable.map c ∉ blankPoints := fun hmem =>
    map_ne_of_spared h (List.mem_cons_of_mem _ (List.mem_cons_of_mem _ hmem)) rfl
  obtain ⟨r, hr, hc, hmoved⟩ := Unicode.CaseTable.exists_of_map_ne h
  have hpos := Unicode.settled_lowercaseTable.nonneg r hr
  have hbound := lowercaseTable_spares.1 r hr
  have hmisses := List.all_eq_true.mp (lowercaseTable_spares.2 r hr) surrogates List.mem_cons_self
  have houtside : ¬ (0xD800 ≤ Unicode.moved c r.offset ∧ Unicode.moved c r.offset ≤ 0xDFFF) := by
    rw [← surrogates_contains_iff, Bool.not_eq_true]
    exact Unicode.CaseRange.not_contains_of_misses hmisses hpos hc
  refine ⟨?_, ?_, ?_, hblank⟩ <;> rw [hmoved]
  · simp only [Unicode.CaseRange.contains, Bool.and_eq_true, decide_eq_true_eq] at hc
    unfold Unicode.moved at hbound ⊢
    omega
  · rintro ⟨hfirst, hlast⟩
    exact houtside ⟨hfirst, by omega⟩
  · rintro ⟨hfirst, hlast⟩
    exact houtside ⟨by omega, hlast⟩

/-- A code point is its own lower case, or what it becomes holds neither a surrogate nor white
space. The dotted capital I is the only one that becomes two code points. -/
theorem toLower_cases (c : Nat) :
    Unicode.toLower c = [c] ∨ Unicode.toLower c ≠ [] ∧ ∀ d ∈ Unicode.toLower c, IsOpen d := by
  unfold Unicode.toLower
  split
  · refine .inr ⟨List.cons_ne_nil _ _, ?_⟩
    simp only [List.mem_cons, List.not_mem_nil, or_false, forall_eq_or_imp, forall_eq]
    constructor <;> exact ⟨by decide, by unfold IsHighPoint; decide, by unfold IsLowPoint; decide,
      by decide⟩
  · by_cases hmap : Unicode.lowercaseTable.map c = c
    · exact .inl (congrArg ([·]) hmap)
    · exact .inr ⟨List.cons_ne_nil _ _, List.forall_mem_singleton.mpr (isOpen_of_map_ne hmap)⟩

/-- The same for a code point between others: the two small sigmas are neither surrogates nor white
space. -/
theorem lowerPoint_cases (before : List Nat) (c : Nat) (after : List Nat) :
    lowerPoint before c after = [c] ∨
      lowerPoint before c after ≠ [] ∧ ∀ d ∈ lowerPoint before c after, IsOpen d := by
  unfold lowerPoint
  split
  · have hsigma : IsOpen finalSigma ∧ IsOpen smallSigma := by
      constructor <;> exact ⟨by decide, by unfold IsHighPoint; decide, by unfold IsLowPoint; decide,
        by decide⟩
    split
    · exact .inr ⟨List.cons_ne_nil _ _, List.forall_mem_singleton.mpr hsigma.1⟩
    · exact .inr ⟨List.cons_ne_nil _ _, List.forall_mem_singleton.mpr hsigma.2⟩
  · exact toLower_cases c

/-- What the letters with a rule of their own become is in lower case: the small i, the dot above it
and the two small sigmas. -/
theorem isSmall_of_special (h : d ∈ [0x69, 0x307, finalSigma, smallSigma]) : IsSmall d := by
  have hsmall : ∀ d ∈ [0x69, 0x307, finalSigma, smallSigma],
      d ≠ capitalSigma ∧ Unicode.toLower d = [d] := by
    decide +kernel
  exact hsmall d h

/-- What a code point becomes is in lower case. The table moves nothing to a code point that it
moves again, and nothing to one of the letters with a rule of their own. -/
theorem isSmall_of_mem_toLower (hc : c ≠ capitalSigma) (h : d ∈ Unicode.toLower c) :
    IsSmall d := by
  unfold Unicode.toLower at h
  split at h
  · refine isSmall_of_special ?_
    simp only [List.mem_cons, List.not_mem_nil, or_false] at h ⊢
    exact h.elim .inl (.inr ∘ .inl)
  · next hdotted =>
      obtain rfl := List.mem_singleton.mp h
      by_cases hmap : Unicode.lowercaseTable.map c = c
      · rw [hmap]
        exact ⟨hc, by rw [Unicode.toLower, if_neg hdotted, hmap]⟩
      · have hsigma := map_ne_of_spared hmap List.mem_cons_self
        have hcapitalI := map_ne_of_spared hmap (List.mem_cons_of_mem _ List.mem_cons_self)
        refine ⟨hsigma.symm, ?_⟩
        rw [Unicode.toLower, if_neg hcapitalI.symm, Unicode.settled_lowercaseTable.map_map]

/-- The same for a code point between others, where a sigma becomes one of the small sigmas. -/
theorem isSmall_of_mem_lowerPoint {after : List Nat} (h : d ∈ lowerPoint before c after) :
    IsSmall d := by
  unfold lowerPoint at h
  split at h
  · refine isSmall_of_special ?_
    split at h <;> simp [List.mem_singleton.mp h]
  · next hsigma => exact isSmall_of_mem_toLower hsigma h

/-- Everything in the lower case of code points is in lower case, whatever stands around it. This is
why nothing is left that would look around. -/
theorem isSmall_of_mem_lowerPoints (h : d ∈ lowerPoints before ps) : IsSmall d := by
  induction ps generalizing before with
  | nil => exact absurd h List.not_mem_nil
  | cons c ps ih =>
      rcases List.mem_append.mp h with h | h
      · exact isSmall_of_mem_lowerPoint h
      · exact ih h

/-- Small code points stay as they are, whatever stands around them. -/
theorem lowerPoints_of_forall_isSmall (h : ∀ c ∈ ps, IsSmall c) (before : List Nat) :
    lowerPoints before ps = ps := by
  induction ps generalizing before with
  | nil => rfl
  | cons c ps ih =>
      obtain ⟨⟨hsigma, hlower⟩, hps⟩ := List.forall_mem_cons.mp h
      rw [lowerPoints, lowerPoint, if_neg hsigma, hlower, ih hps, List.singleton_append]

/-! ### What is read back -/

/-- Something is left of code points in lower case: no code point becomes nothing. -/
theorem lowerPoints_eq_nil_iff : lowerPoints before ps = [] ↔ ps = [] := by
  cases ps with
  | nil => exact ⟨fun _ => rfl, fun _ => rfl⟩
  | cons c ps =>
      have hne : lowerPoint before c ps ≠ [] := by
        rcases lowerPoint_cases before c ps with hsame | ⟨hne, -⟩
        · rw [hsame]
          exact List.cons_ne_nil c []
        · exact hne
      rw [lowerPoints, List.append_eq_nil_iff]
      exact ⟨fun h => absurd h.1 hne, fun h => absurd h (List.cons_ne_nil c ps)⟩

/-- The lower case starts with what stood there, if that is a surrogate or white space. So the start
tells whether a pair can be formed there, and whether trimming takes something away. -/
theorem head?_lowerPoints (h : d ∈ (lowerPoints before ps).head?) :
    d ∈ ps.head? ∨ IsOpen d := by
  cases ps with
  | nil => exact nomatch h
  | cons c ps =>
      rw [lowerPoints, List.head?_append] at h
      rcases lowerPoint_cases before c ps with hsame | ⟨hne, hopen⟩
      · rw [hsame] at h
        exact .inl h
      · obtain ⟨e, rest, hrest⟩ := List.exists_cons_of_ne_nil hne
        rw [hrest] at h hopen
        obtain rfl : e = d := Option.some.inj h
        exact .inr (hopen e List.mem_cons_self)

/-- It ends with what stood there, if that is a surrogate or white space. The induction goes to the
last code point, since the end of the whole is the end of what that one becomes. -/
theorem getLast?_lowerPoints (h : d ∈ (lowerPoints before ps).getLast?) :
    d ∈ ps.getLast? ∨ IsOpen d := by
  induction ps generalizing before with
  | nil => exact nomatch h
  | cons c ps ih =>
      rw [lowerPoints, List.getLast?_append] at h
      cases hlast : (lowerPoints (c :: before) ps).getLast? with
      | some e =>
          rw [hlast, Option.some_or] at h
          rcases ih (hlast.trans h) with hps | hopen
          · rw [List.getLast?_cons, Option.mem_def.mp hps]
            exact .inl rfl
          · exact .inr hopen
      | none =>
          obtain rfl := lowerPoints_eq_nil_iff.mp (List.getLast?_eq_none_iff.mp hlast)
          rw [hlast, Option.none_or] at h
          rcases lowerPoint_cases before c [] with hsame | ⟨-, hopen⟩
          · rw [hsame] at h
            exact .inl h
          · exact .inr (hopen d (List.mem_of_getLast? h))

/-- The lower case of code points of a text are code points that a text can have. A border in the
lower case is one that was there before, or a code point beside it is open. -/
theorem isPoints_lowerPoints (h : IsPoints ps) (before : List Nat) :
    IsPoints (lowerPoints before ps) := by
  induction ps generalizing before with
  | nil => exact isPoints_nil
  | cons c ps ih =>
      obtain ⟨hc, hapart, hps⟩ := isPoints_cons.mp h
      have hrest := ih hps (c :: before)
      rw [lowerPoints]
      rcases lowerPoint_cases before c ps with hsame | ⟨-, hopen⟩
      · rw [hsame, List.singleton_append]
        refine isPoints_cons.mpr ⟨hc, fun d hd => ?_, hrest⟩
        -- What comes next stood there before, or it is no half of a pair.
        rcases head?_lowerPoints hd with hd | hd
        · exact hapart d hd
        · exact fun _ => hd.not_low
      · generalize lowerPoint before c ps = front at hopen
        induction front with
        | nil => exact hrest
        | cons d front ih =>
            obtain ⟨hd, hfront⟩ := List.forall_mem_cons.mp hopen
            exact isPoints_cons.mpr
              ⟨hd.bounded, fun _ _ hhigh => absurd hhigh hd.not_high, ih hfront⟩

/-- The lower case of a text is read back as the code points that were made. So the lower case can
be studied on code points, without a look at units. -/
theorem points_lower (t : Text) : t.lower.points = lowerPoints [] t.points :=
  points_ofPoints (isPoints_lowerPoints (isPoints_points t) [])

/-! ### Texts -/

/-- The lower case of a text is in lower case. It is read back as it was made, and everything in it
is small. -/
theorem lower_lower (t : Text) : t.lower.lower = t.lower := by
  rw [lower, points_lower, lowerPoints_of_forall_isSmall fun _ hc => isSmall_of_mem_lowerPoints hc,
    lower]

/-- A text is empty exactly if its lower case is. -/
theorem lower_eq_nil_iff {t : Text} : t.lower = [] ↔ t = [] := by
  constructor
  · intro h
    have hpoints := t.points_lower
    rw [h, points, eq_comm, lowerPoints_eq_nil_iff] at hpoints
    rw [← ofPoints_points t, hpoints]
    rfl
  · rintro rfl
    rfl

/-- A text without white space at its ends has none there in lower case. White space at the end of
the lower case would have stood at that end before, because nothing becomes white space. -/
theorem IsFlush.lower {t : Text} (h : t.IsFlush) : t.lower.IsFlush where
  head u hu := by
    rw [Bool.eq_false_iff]
    intro hblank
    obtain ⟨rest, hrest⟩ := List.head?_eq_some_iff.mp hu
    have hpad : IsPadding [u] := List.forall_mem_singleton.mpr hblank
    have hpoints := t.points_lower
    rw [hrest, ← List.singleton_append, points_padding_append hpad] at hpoints
    have hfirst : u.toNat ∈ (lowerPoints [] t.points).head? := by
      rw [← hpoints]
      rfl
    rcases head?_lowerPoints hfirst with hfirst | hopen
    · obtain ⟨ps, hps⟩ := List.head?_eq_some_iff.mp hfirst
      have ht := ofPoints_points t
      rw [hps, ofPoints_cons, ofPoint_toNat] at ht
      refine absurd hblank (Bool.eq_false_iff.mp (h.head u ?_))
      rw [← ht]
      rfl
    · exact hopen.not_blank (toNat_mem_blankPoints hblank)
  last u hu := by
    rw [Bool.eq_false_iff]
    intro hblank
    obtain ⟨front, hfront⟩ := List.getLast?_eq_some_iff.mp hu
    have hpad : IsPadding [u] := List.forall_mem_singleton.mpr hblank
    have hpoints := t.points_lower
    rw [hfront, points_append_padding hpad] at hpoints
    have hlast : u.toNat ∈ (lowerPoints [] t.points).getLast? := by
      rw [← hpoints, List.map_singleton, List.getLast?_concat]
      rfl
    rcases getLast?_lowerPoints hlast with hlast | hopen
    · obtain ⟨ps, hps⟩ := List.getLast?_eq_some_iff.mp hlast
      have ht := ofPoints_points t
      rw [hps, ofPoints, List.flatMap_append, List.flatMap_singleton, ofPoint_toNat] at ht
      refine absurd hblank (Bool.eq_false_iff.mp (h.last u ?_))
      rw [← ht, List.getLast?_concat]
      rfl
    · exact hopen.not_blank (toNat_mem_blankPoints hblank)

/-! ### Trimming -/

/-- Trimming leaves a text without white space at its ends as it is, so a normal form is trimmed
already. -/
theorem IsFlush.trim_eq {t : Text} (h : t.IsFlush) : t.trim = t := by
  have hkept : ∀ {t : Text}, (∀ u ∈ t.head?, Unicode.isBlank u = false) →
      t.dropWhile Unicode.isBlank = t := by
    intro t ht
    cases t with
    | nil => rfl
    | cons u t => rw [List.dropWhile_cons_of_neg (by simp [ht u rfl])]
  rw [trim, trimStart, hkept h.head, trimEnd, hkept, List.reverse_reverse]
  rw [List.head?_reverse]
  exact h.last

/-- Trimming takes away all the white space around a text that has none at its ends. An empty text
is a case of its own: nothing in it stops the white space behind it from being dropped in front. -/
theorem IsFlush.trim_padded {t v w : Text} (h : t.IsFlush) (hv : v.IsPadding) (hw : w.IsPadding) :
    (v ++ (t ++ w)).trim = t := by
  have hdrop : ∀ {v : Text}, v.IsPadding → ∀ t : Text,
      (v ++ t).dropWhile Unicode.isBlank = t.dropWhile Unicode.isBlank := by
    intro v hv t
    rw [List.dropWhile_append, List.dropWhile_eq_nil_iff.mpr hv, List.isEmpty_nil, if_pos rfl]
  cases t with
  | nil =>
      have hall := List.dropWhile_eq_nil_iff.mpr hw
      rw [List.nil_append, trim, trimStart, hdrop hv, hall]
      rfl
  | cons u t =>
      have hfirst : ¬ Unicode.isBlank u = true := by simp [h.head u rfl]
      have hreverse : IsPadding w.reverse := fun u hu => hw u (List.mem_reverse.mp hu)
      -- What is left after the white space in front ends like the text that is trimmed alone.
      rw [trim, trimStart, hdrop hv, List.cons_append, List.dropWhile_cons_of_neg hfirst,
        ← List.cons_append, trimEnd, List.reverse_append, hdrop hreverse, ← trimEnd]
      have htrim := h.trim_eq
      rwa [trim, trimStart, List.dropWhile_cons_of_neg hfirst] at htrim

end FieldMask.Text
