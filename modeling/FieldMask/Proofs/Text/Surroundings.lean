import FieldMask.Text.Case
import FieldMask.Proofs.Text.Point
import FieldMask.Proofs.Unicode.CaseTable
import Mathlib.Tactic.ByContra

/-!
# `FieldMask.Proofs.Text.Surroundings`: the lower case of a part of a text

The lower case of a text is put together unit by unit (`lower_eq_lowerBetween`). What a unit becomes
is `lowerUnit`, and it depends on the text before and after it in two ways only:

* a capital sigma becomes final at the end of a word, which is told by the letters on both sides
  (`endsWord`);
* the second half of a surrogate pair becomes the second half of the lower case of the pair. The
  first half stays as it is (`lower_pair`).

So the lower case of a text around a part is the lower case of what is before, of the part between
the two, and of what is after (`lower_surrounded`). Two surroundings of a part are compared unit by
unit (`lowerBetween_rel`).
-/

set_option autoImplicit false

namespace FieldMask

namespace Unicode

/-- The surrogates, all of them, as code points. A text can hold one that stands alone, and then it
is a code point of the text. -/
def IsSurrogate (c : Nat) : Prop := 0xD800 ≤ c ∧ c ≤ 0xDFFF

/-- What the lower case table moves is no surrogate, and it moves a large code point within the
block of code points whose pairs have the same first half. Checked for each range of the table. -/
theorem lowercaseTable_blocks :
    ∀ r ∈ lowercaseTable, (r.last < 0xD800 ∨ 0xDFFF < r.first) ∧
      (r.last < 0x10000 ∨ 0 ≤ r.offset ∧
        (r.first - 0x10000) / 0x400 = (moved r.last r.offset - 0x10000) / 0x400) := by
  decide +kernel

/-- A surrogate is its own lower case: no range of the table holds one, and it is not the dotted
capital I. -/
theorem toLower_of_surrogate {c : Nat} (hc : IsSurrogate c) : toLower c = [c] := by
  have hdotted : c ≠ dottedCapitalI := by
    have hdot : dottedCapitalI = 0x130 := rfl
    have hfirst := hc.1
    omega
  rw [toLower, if_neg hdotted]
  congr 1
  by_contra hmap
  obtain ⟨r, hr, hcontains, -⟩ := CaseTable.exists_of_map_ne hmap
  simp only [CaseRange.contains, Bool.and_eq_true, decide_eq_true_eq] at hcontains
  have hblock := (lowercaseTable_blocks r hr).1
  unfold IsSurrogate at hc
  omega

/-- The lower case of a large code point is one code point, whose pair has the same first half. So
of the two units of a pair only the second one can change. -/
theorem toLower_of_large {c : Nat} (hc : 0x10000 ≤ c) :
    ∃ d, toLower c = [d] ∧ 0x10000 ≤ d ∧ (d - 0x10000) / 0x400 = (c - 0x10000) / 0x400 := by
  have hdotted : c ≠ dottedCapitalI := by
    have hdot : dottedCapitalI = 0x130 := rfl
    omega
  refine ⟨lowercaseTable.map c, by rw [toLower, if_neg hdotted], ?_⟩
  by_cases hmap : lowercaseTable.map c = c
  · rw [hmap]
    exact ⟨hc, rfl⟩
  · obtain ⟨r, hr, hcontains, hmoved⟩ := CaseTable.exists_of_map_ne hmap
    simp only [CaseRange.contains, Bool.and_eq_true, decide_eq_true_eq] at hcontains
    rw [hmoved]
    rcases (lowercaseTable_blocks r hr).2 with hsmall | ⟨hup, hblock⟩
    · omega
    · unfold moved at hblock ⊢
      omega

/-- What lies in none of the ranges is not in the set, although the search stops early. -/
theorem Ranges.contains_eq_false {ranges : Ranges} {c : Nat}
    (h : ∀ r ∈ ranges, c < r.1 ∨ r.2 < c) : ranges.contains c = false := by
  induction ranges with
  | nil => rfl
  | cons r ranges ih =>
      obtain ⟨hr, hranges⟩ := List.forall_mem_cons.mp h
      rw [contains, ih hranges, Bool.or_false]
      split
      · rfl
      · rw [decide_eq_false_iff_not]
        omega

/-- No surrogate is cased or looked through. Checked for each range of the two sets. -/
theorem caseless_ranges :
    ∀ ranges ∈ [casedRanges, caseIgnorableRanges], ∀ r ∈ ranges, r.2 < 0xD800 ∨ 0xDFFF < r.1 := by
  decide +kernel

/-- A surrogate that stands alone is no letter, and none is looked for behind it. So it always stops
the search for the letter that decides about a sigma. -/
theorem caseless_of_surrogate {c : Nat} (hc : IsSurrogate c) :
    isCased c = false ∧ isCaseIgnorable c = false := by
  unfold IsSurrogate at hc
  constructor
  · refine Ranges.contains_eq_false fun r hr => ?_
    have hrange := caseless_ranges casedRanges List.mem_cons_self r hr
    omega
  · refine Ranges.contains_eq_false fun r hr => ?_
    have hrange := caseless_ranges _ (List.mem_cons_of_mem _ List.mem_cons_self) r hr
    omega

end Unicode

namespace Text

variable {p t : Text} {h l u : CodeUnit}

/-! ### Where two texts meet -/

/-- A first half of a pair is no second half. -/
theorem isLow_eq_false_of_isHigh (hh : isHigh h = true) : isLow h = false := by
  rw [isHigh_iff, IsHighPoint] at hh
  rw [← Bool.not_eq_true, isLow_iff, IsLowPoint]
  omega

/-- A half of a pair is a surrogate, in terms of its number. -/
theorem isSurrogate_of_half {u : CodeUnit} (hu : isHigh u = true ∨ isLow u = true) :
    Unicode.IsSurrogate u.toNat := by
  rw [isHigh_iff, isLow_iff, IsHighPoint, IsLowPoint] at hu
  unfold Unicode.IsSurrogate
  omega

/-- A half of a pair is no capital sigma. -/
theorem ne_sigma_of_half {u : CodeUnit} (hu : isHigh u = true ∨ isLow u = true) :
    u.toNat ≠ capitalSigma := by
  have hsurrogate := (isSurrogate_of_half hu).1
  have hcapital : capitalSigma = 0x3A3 := rfl
  omega

/-- No surrogate pair is formed where the two texts meet. This is all that joining two texts can
change about their code points. -/
def Separate (p t : Text) : Prop :=
  ∀ h ∈ p.getLast?, ∀ l ∈ t.head?, isHigh h = true → isLow l = false

/-- Nothing is formed at the border to an empty text. -/
theorem separate_nil (t : Text) : Separate [] t := by
  intro h hh
  cases hh

/-- Two texts are separate, or the first one ends with the first half of a pair and the second one
begins with its second half. Proofs about joined texts split into these two cases. -/
theorem separate_or_pair (p t : Text) :
    Separate p t ∨ ∃ p' h l t', p = p' ++ [h] ∧ t = l :: t' ∧ isHigh h = true ∧ isLow l = true := by
  by_cases hsep : Separate p t
  · exact .inl hsep
  · unfold Separate at hsep
    push Not at hsep
    obtain ⟨h, hh, l, hl, hhigh, hlow⟩ := hsep
    obtain ⟨p', rfl⟩ := List.getLast?_eq_some_iff.mp hh
    obtain ⟨t', rfl⟩ := List.head?_eq_some_iff.mp hl
    exact .inr ⟨p', h, l, t', rfl, rfl, hhigh, by simpa using hlow⟩

/-- Separate texts are read one after the other. The induction follows the reading of the first
text; only its last unit looks across the border. -/
theorem points_append_of_separate (hsep : Separate p t) :
    (p ++ t).points = p.points ++ t.points := by
  fun_induction points p with
  | case1 => rfl
  | case2 u =>
      rw [List.singleton_append, points_cons fun v hv => hsep u rfl v hv]
      rfl
  | case3 u v rest hpair ih =>
      rw [Bool.and_eq_true] at hpair
      have hrest : Separate rest t := by
        intro h hh
        have hlast : h ∈ (u :: v :: rest).getLast? := by
          rw [List.getLast?_cons_cons, List.getLast?_cons, Option.mem_def.mp hh]
          rfl
        exact hsep h hlast
      rw [List.cons_append, List.cons_append, points_pair hpair.1 hpair.2, ih hrest,
        List.cons_append]
  | case4 u v rest hpair ih =>
      have hrest : Separate (v :: rest) t := hsep
      rw [List.cons_append, List.cons_append, points, if_neg hpair, ← List.cons_append, ih hrest,
        List.cons_append]

/-- The first half of a pair stands apart from what is before it, so a pair can be cut off in front.
-/
theorem separate_of_isHigh (hh : isHigh h = true) (p t : Text) : Separate p (h :: t) := by
  intro u _ v hv _
  obtain rfl : h = v := Option.some.inj hv
  exact isLow_eq_false_of_isHigh hh

/-- A pair that is formed where two texts meet is read as one code point, between the code points of
what is left of the two. -/
theorem points_append_pair (hh : isHigh h = true) (hl : isLow l = true) (p t : Text) :
    (p ++ [h] ++ l :: t).points = p.points ++ pairPoint h l :: t.points := by
  rw [List.append_assoc, List.singleton_append,
    points_append_of_separate (separate_of_isHigh hh p _), points_pair hh hl]

/-- Without its second half the first one is read as itself, at the end of a text. -/
theorem points_concat_high (hh : isHigh h = true) (p : Text) :
    (p ++ [h]).points = p.points ++ [h.toNat] :=
  points_append_of_separate (separate_of_isHigh hh p [])

/-- Without its first half the second one is read as itself, at the beginning of a text. -/
theorem points_cons_low (hl : isLow l = true) (t : Text) :
    points (l :: t) = l.toNat :: t.points := by
  refine points_cons fun _ _ hh => ?_
  rw [isLow_eq_false_of_isHigh hh] at hl
  cases hl

/-! ### The lower case of a unit -/

/-- A capital sigma between the two texts is at the end of a word: there is a letter before it and
none after it. What can be looked through does not count on either side. -/
def endsWord (before after : Text) : Bool :=
  startsCased before.points.reverse && !startsCased after.points

/-- The small sigma at the end of a word or inside of it. -/
def sigmaForm (final : Bool) : CodeUnit := if final then 0x3C2 else 0x3C3

/-- What a unit becomes in lower case between two texts. The second half of a pair becomes that of
the lower case of the pair, if the first half is before it; a capital sigma looks at both sides; any
other unit looks at neither. -/
def lowerUnit (before : Text) (u : CodeUnit) (after : Text) : Text :=
  if isLow u then
    match before.getLast? with
    | none => [u]
    | some h => if isHigh h then (lower [h, u]).drop 1 else [u]
  else if u = 0x3A3 then [sigmaForm (endsWord before after)]
  else ofPoints (Unicode.toLower u.toNat)

/-- What a text becomes in lower case between two texts, unit by unit. The units that were passed
join the text before. -/
def lowerBetween (before : Text) : Text → Text → Text
  | [], _ => []
  | u :: t, after => lowerUnit before u (t ++ after) ++ lowerBetween (before ++ [u]) t after

/-- A code point other than the capital sigma becomes the same everywhere. -/
theorem lowerPoint_of_ne {c : Nat} (hc : c ≠ capitalSigma) (before after : List Nat) :
    lowerPoint before c after = Unicode.toLower c := if_neg hc

/-- The lower case of a pair is a pair with the same first half, whatever is around it. The two
pairs lie in one block, so the rest is arithmetic. -/
theorem lower_pair (hh : isHigh h = true) (hl : isLow l = true) :
    ∃ l', isLow l' = true ∧ lower [h, l] = [h, l'] ∧
      ∀ before after, ofPoints (lowerPoint before (pairPoint h l) after) = [h, l'] := by
  obtain ⟨hlarge, hbound⟩ := pairPoint_bounds hh hl
  obtain ⟨d, hd, hdlarge, hblock⟩ := Unicode.toLower_of_large hlarge
  have hdbound : d < 0x110000 := by omega
  obtain ⟨h', l', hh', hl', rfl, hpair⟩ := ofPoint_of_le hdlarge hdbound
  have hsame : h' = h := by
    rw [isHigh_iff, IsHighPoint] at hh hh'
    rw [isLow_iff, IsLowPoint] at hl hl'
    rw [← UInt16.toNat_inj]
    unfold pairPoint at hblock
    omega
  subst hsame
  have hsigma : pairPoint h' l ≠ capitalSigma := by
    have hcapital : capitalSigma = 0x3A3 := rfl
    omega
  have hpoint : ∀ before after, ofPoints (lowerPoint before (pairPoint h' l) after) = [h', l'] := by
    intro before after
    rw [lowerPoint_of_ne hsigma, hd, ofPoints, List.flatMap_singleton, hpair]
  refine ⟨l', hl', ?_, hpoint⟩
  rw [lower, points_pair hh hl]
  show ofPoints (lowerPoint [] (pairPoint h' l) [] ++ []) = [h', l']
  rw [List.append_nil, hpoint]

/-- The second half of a pair becomes that of the lower case of the pair. -/
theorem lowerUnit_pair (hh : isHigh h = true) (hl : isLow l = true) (before after : Text) :
    lowerUnit (before ++ [h]) l after = (lower [h, l]).drop 1 := by
  rw [lowerUnit, if_pos hl, List.getLast?_concat]
  show (if isHigh h = true then (lower [h, l]).drop 1 else [l]) = _
  rw [if_pos hh]

/-- Without the first half before it, the second half of a pair stays as it is. -/
theorem lowerUnit_low (hl : isLow l = true) (hsep : Separate p [l]) (after : Text) :
    lowerUnit p l after = [l] := by
  rw [lowerUnit, if_pos hl]
  cases hlast : p.getLast? with
  | none => rfl
  | some h =>
      have hhigh : ¬ isHigh h = true := by
        intro hhigh
        have hnot := hsep h hlast l rfl hhigh
        rw [hl] at hnot
        cases hnot
      exact if_neg hhigh

/-- A unit that is not the second half of a pair is made small as a code point. This ties the
definition by units to that by code points. -/
theorem lowerUnit_of_separate (hsep : Separate p [u]) (after : Text) :
    lowerUnit p u after = ofPoints (lowerPoint p.points.reverse u.toNat after.points) := by
  by_cases hlow : isLow u = true
  · rw [lowerUnit_low hlow hsep, lowerPoint_of_ne (ne_sigma_of_half (.inr hlow)),
      Unicode.toLower_of_surrogate (isSurrogate_of_half (.inr hlow)), ofPoints,
      List.flatMap_singleton, ofPoint_toNat]
  · rw [lowerUnit, if_neg hlow]
    by_cases hsigma : u = 0x3A3
    · subst hsigma
      rw [if_pos rfl]
      unfold lowerPoint
      rw [if_pos (by decide)]
      show [sigmaForm (startsCased p.points.reverse && !startsCased after.points)] = _
      cases startsCased p.points.reverse && !startsCased after.points <;> decide
    · rw [if_neg hsigma, lowerPoint_of_ne]
      rw [← UInt16.toNat_inj] at hsigma
      exact hsigma

/-- The first half of a pair stays as it is, whether or not the second half follows. -/
theorem lowerUnit_high (hh : isHigh h = true) (before after : Text) :
    lowerUnit before h after = [h] := by
  have hsigma : h ≠ 0x3A3 := by
    rintro rfl
    exact ne_sigma_of_half (.inl hh) rfl
  rw [lowerUnit, if_neg (by simp [isLow_eq_false_of_isHigh hh]), if_neg hsigma,
    Unicode.toLower_of_surrogate (isSurrogate_of_half (.inl hh)), ofPoints, List.flatMap_singleton,
    ofPoint_toNat]

/-- A unit on its own is made small, and then what comes next. The two cases of the induction in
which a single unit is read both end here. -/
theorem ofPoints_lowerPoints_cons (hsep : Separate p [u])
    (hrest : ofPoints (lowerPoints (p ++ [u]).points.reverse t.points) =
      lowerBetween (p ++ [u]) t []) :
    ofPoints (lowerPoints p.points.reverse (u.toNat :: t.points)) = lowerBetween p (u :: t) [] := by
  have hpoints : (p ++ [u]).points.reverse = u.toNat :: p.points.reverse := by
    rw [points_append_of_separate hsep, List.reverse_append]
    rfl
  rw [hpoints] at hrest
  rw [lowerPoints, lowerBetween, ofPoints, List.flatMap_append, ← ofPoints, ← ofPoints, hrest,
    lowerUnit_of_separate hsep, List.append_nil]

/-- A text is made small unit by unit, as its code points are. The induction follows the reading of
the text, with the text before it generalised; it has to be separate, so that the reading starts at
a border. -/
theorem ofPoints_lowerPoints (hsep : Separate p t) :
    ofPoints (lowerPoints p.points.reverse t.points) = lowerBetween p t [] := by
  fun_induction points t generalizing p with
  | case1 => rfl
  | case2 u => exact ofPoints_lowerPoints_cons (t := []) hsep rfl
  | case3 u v rest hpair ih =>
      rw [Bool.and_eq_true] at hpair
      obtain ⟨hu, hv⟩ := hpair
      obtain ⟨l, -, hlower, hpoint⟩ := lower_pair hu hv
      -- What comes next is behind a whole pair, whose second half begins no other one.
      have hbehind : Separate (p ++ [u] ++ [v]) rest := by
        intro h hh w _ hhigh
        rw [List.getLast?_concat] at hh
        obtain rfl : v = h := Option.some.inj hh
        rw [isLow_eq_false_of_isHigh hhigh] at hv
        cases hv
      have hpoints : (p ++ [u] ++ [v]).points.reverse = pairPoint u v :: p.points.reverse := by
        rw [points_append_pair hu hv, List.reverse_append]
        rfl
      have hrest := ih hbehind
      rw [hpoints] at hrest
      rw [lowerPoints, lowerBetween, lowerBetween, ofPoints, List.flatMap_append, ← ofPoints,
        ← ofPoints, hpoint, hrest, lowerUnit_high hu, lowerUnit_pair hu hv, hlower]
      rfl
  | case4 u v rest hpair ih =>
      have hbehind : Separate (p ++ [u]) (v :: rest) := by
        intro h hh w hw hhigh
        rw [List.getLast?_concat] at hh
        obtain rfl : u = h := Option.some.inj hh
        obtain rfl : v = w := Option.some.inj hw
        simpa [hhigh] using hpair
      exact ofPoints_lowerPoints_cons hsep (ih hbehind)

/-- The lower case of a text is put together unit by unit. From here on the lower case is studied on
units, where a text can be cut anywhere. -/
theorem lower_eq_lowerBetween (t : Text) : t.lower = lowerBetween [] t [] :=
  ofPoints_lowerPoints (separate_nil t)

/-- A text in two parts is made small part by part, each with the other one beside it. -/
theorem lowerBetween_append (before t t' after : Text) :
    lowerBetween before (t ++ t') after =
      lowerBetween before t (t' ++ after) ++ lowerBetween (before ++ t) t' after := by
  induction t generalizing before with
  | nil => rw [List.append_nil, List.nil_append, lowerBetween, List.nil_append]
  | cons u t ih =>
      rw [List.cons_append, lowerBetween, lowerBetween, ih, List.append_assoc, List.append_assoc,
        List.append_assoc, List.singleton_append]

/-- The lower case of a part and of what is around it: three pieces, each made small between the
other two. -/
theorem lower_surrounded (before t after : Text) :
    lower (before ++ (t ++ after)) = lowerBetween [] before (t ++ after) ++
      (lowerBetween before t after ++ lowerBetween (before ++ t) after []) := by
  rw [lower_eq_lowerBetween, lowerBetween_append, lowerBetween_append]
  simp only [List.append_nil, List.nil_append]

/-! ### Two surroundings -/

/-- The second half of a pair becomes the second half of a pair, in any surroundings. -/
theorem exists_lowerUnit_low (hl : isLow l = true) (before after : Text) :
    ∃ l', isLow l' = true ∧ lowerUnit before l after = [l'] := by
  rcases separate_or_pair before [l] with hsep | ⟨front, h, l, t, rfl, ht, hh, -⟩
  · exact ⟨l, hl, lowerUnit_low hl hsep after⟩
  · obtain ⟨rfl, rfl⟩ := List.cons.inj ht
    obtain ⟨l', hl', hlower, -⟩ := lower_pair hh hl
    refine ⟨l', hl', ?_⟩
    rw [lowerUnit_pair hh hl, hlower]
    rfl

/-- What a second half becomes depends on the unit before it only. -/
theorem lowerUnit_low_congr (hl : isLow l = true) {before before' : Text}
    (hlast : before.getLast? = before'.getLast?) (after after' : Text) :
    lowerUnit before l after = lowerUnit before' l after' := by
  rw [lowerUnit, lowerUnit, if_pos hl, if_pos hl, hlast]

/-- A capital sigma becomes one of the two small sigmas, by what is around it. -/
theorem lowerUnit_sigma (before after : Text) :
    lowerUnit before 0x3A3 after = [sigmaForm (endsWord before after)] := by
  rw [lowerUnit, if_neg (by decide), if_pos rfl]

/-- Any other unit becomes the same everywhere. -/
theorem lowerUnit_other (hl : isLow u = false) (hsigma : u ≠ 0x3A3) (before after : Text) :
    lowerUnit before u after = ofPoints (Unicode.toLower u.toNat) := by
  rw [lowerUnit, if_neg (by simp [hl]), if_neg hsigma]

/-- What relates the lower cases of each unit in two surroundings relates those of a text. The
relation only has to hold of nothing and to be kept where texts are joined. Equal lengths, equal
texts and counts are compared in this way. -/
theorem lowerBetween_rel {R : Text → Text → Prop} (hnil : R [] [])
    (happend : ∀ s s' t t', R s s' → R t t' → R (s ++ t) (s' ++ t'))
    {before after before' after' : Text}
    (hunit : ∀ x u y, t = x ++ u :: y →
      R (lowerUnit (before ++ x) u (y ++ after)) (lowerUnit (before' ++ x) u (y ++ after'))) :
    R (lowerBetween before t after) (lowerBetween before' t after') := by
  induction t generalizing before before' with
  | nil => exact hnil
  | cons u t ih =>
      have hfirst := hunit [] u t rfl
      rw [List.append_nil, List.append_nil] at hfirst
      refine happend _ _ _ _ hfirst (ih ?_)
      rintro x v y rfl
      rw [List.append_assoc, List.append_assoc]
      exact hunit (u :: x) v y rfl

/-- The surroundings do not change how long the lower case of a unit is: a sigma becomes one unit in
any case, and so does the half of a pair. -/
theorem length_lowerUnit (before after before' after' : Text) :
    (lowerUnit before u after).length = (lowerUnit before' u after').length := by
  cases hlow : isLow u with
  | true =>
      obtain ⟨l, -, hunit⟩ := exists_lowerUnit_low hlow before after
      obtain ⟨l', -, hunit'⟩ := exists_lowerUnit_low hlow before' after'
      rw [hunit, hunit']
      rfl
  | false =>
      by_cases hsigma : u = 0x3A3
      · subst hsigma
        rw [lowerUnit_sigma, lowerUnit_sigma]
        rfl
      · rw [lowerUnit_other hlow hsigma, lowerUnit_other hlow hsigma]

/-- The surroundings do not change how long the lower case of a text is, so a part takes the same
room wherever it stands. -/
theorem length_lowerBetween (before after before' after' : Text) :
    (lowerBetween before t after).length = (lowerBetween before' t after').length := by
  refine lowerBetween_rel (R := fun s t => s.length = t.length) rfl ?_ fun _ _ _ _ =>
    length_lowerUnit _ _ _ _
  intro s s' t t' hs ht
  rw [List.length_append, List.length_append, hs, ht]

section

variable {v : CodeUnit} {before after before' after' x y : Text}

/-- A unit that is nowhere more frequent in the lower case is not more frequent in that of a text.
-/
theorem count_lowerBetween_le
    (hunit : ∀ x u y, t = x ++ u :: y → (lowerUnit (before ++ x) u (y ++ after)).count v ≤
      (lowerUnit (before' ++ x) u (y ++ after')).count v) :
    (lowerBetween before t after).count v ≤ (lowerBetween before' t after').count v := by
  refine lowerBetween_rel (R := fun s t => s.count v ≤ t.count v) (Nat.le_refl _) ?_ hunit
  intro s s' t t' hs ht
  rw [List.count_append, List.count_append]
  exact Nat.add_le_add hs ht

/-- A unit is less frequent in the lower case of a text if it is nowhere more frequent and less
frequent somewhere. The text is cut at the place where it is less frequent. -/
theorem count_lowerBetween_lt
    (hunit : ∀ x u y, t = x ++ u :: y → (lowerUnit (before ++ x) u (y ++ after)).count v ≤
      (lowerUnit (before' ++ x) u (y ++ after')).count v)
    (ht : t = x ++ u :: y) (hless : (lowerUnit (before ++ x) u (y ++ after)).count v <
      (lowerUnit (before' ++ x) u (y ++ after')).count v) :
    (lowerBetween before t after).count v < (lowerBetween before' t after').count v := by
  induction t generalizing before before' x with
  | nil => simp at ht
  | cons w t ih =>
      have hfirst := hunit [] w t rfl
      have hrest : ∀ x u y, t = x ++ u :: y →
          (lowerUnit (before ++ [w] ++ x) u (y ++ after)).count v ≤
            (lowerUnit (before' ++ [w] ++ x) u (y ++ after')).count v := by
        rintro x u y rfl
        rw [List.append_assoc, List.append_assoc]
        exact hunit (w :: x) u y rfl
      rw [lowerBetween, lowerBetween, List.count_append, List.count_append]
      cases x with
      | nil =>
          obtain ⟨rfl, rfl⟩ := List.cons.inj ht
          rw [List.append_nil, List.append_nil] at hless
          exact Nat.add_lt_add_of_lt_of_le hless (count_lowerBetween_le hrest)
      | cons w' x =>
          obtain ⟨rfl, rfl⟩ := List.cons.inj ht
          rw [List.append_nil, List.append_nil] at hfirst
          refine Nat.add_lt_add_of_le_of_lt hfirst (ih hrest rfl ?_)
          rw [List.append_assoc, List.append_assoc]
          exact hless

end

end Text
end FieldMask
