import FieldMask.Strategy
import FieldMask.Proofs.Text.Padding
import FieldMask.Proofs.Text.Surroundings

/-!
# `FieldMask.Proofs.ContainedText`: field names that contain the text of a strategy

A strategy with a text accepts the field names whose lower case contains the lower case of the text.
The two are made small apart from each other, and a letter of the text can become another one in the
field name than it becomes alone. Where that does not happen (`FirmBetween`), the field name is
accepted (`infix_lower_of_firm`).

Conversely, a text whose letters can change is missed somewhere. A second half of a pair that
changes is missed behind the first half (`lower_pair_eq_of_infix`). A capital sigma that becomes
another small sigma does so already where the surroundings are a letter on one side
(`exists_letter_before`, `exists_letter_after`); all the sigmas of the text that change there change
in the same direction, so there are too few of one kind in the field name (`not_infix_of_form`).

So the texts that are found wherever they stand are exactly those that are firm everywhere
(`containing_accepts_iff`).
-/

set_option autoImplicit false

namespace FieldMask

namespace Text

variable {part x y before after : Text} {ps : List Nat}

/-- Between the two texts the part becomes in lower case what it becomes alone: no capital sigma of
it is at the end of a word here and not there, or the other way round; and if it begins with the
second half of a pair whose first half is before it, then the pair is in lower case. -/
structure FirmBetween (before part after : Text) : Prop where
  sigma : ∀ x y, part = x ++ 0x3A3 :: y →
    endsWord (before ++ x) (y ++ after) = endsWord x y
  pair : ∀ h ∈ before.getLast?, ∀ l ∈ part.head?, isHigh h = true → isLow l = true →
    lower [h, l] = [h, l]

/-! ### Firm parts are found -/

/-- A second half of a pair stays as it is where a firm part begins with it. If its first half is
before it, the second field of the judgment says so, and otherwise it is alone. -/
theorem FirmBetween.lowerUnit_first (hfirm : FirmBetween before part after) {l : CodeUnit}
    (hl : isLow l = true) (hfirst : l ∈ part.head?) (rest : Text) :
    lowerUnit before l rest = [l] := by
  rcases separate_or_pair before [l] with hsep | ⟨front, h, l, t, rfl, ht, hh, -⟩
  · exact lowerUnit_low hl hsep rest
  · obtain ⟨rfl, rfl⟩ := List.cons.inj ht
    have hlast : h ∈ (front ++ [h]).getLast? := List.getLast?_concat
    rw [lowerUnit_pair hh hl, hfirm.pair h hlast _ hfirst hh hl]
    rfl

/-- Each unit of a firm part becomes what it becomes in the part alone. Only a capital sigma and the
second half of a pair look around, and each of them has a field of the judgment. -/
theorem FirmBetween.lowerUnit_eq (hfirm : FirmBetween before part after) {u : CodeUnit}
    (hpart : part = x ++ u :: y) :
    lowerUnit (before ++ x) u (y ++ after) = lowerUnit x u y := by
  cases hlow : isLow u with
  | true =>
      cases x with
      | nil =>
          have hfirst : u ∈ part.head? := by
            rw [hpart]
            rfl
          rw [List.append_nil, hfirm.lowerUnit_first hlow hfirst,
            lowerUnit_low hlow (separate_nil [u])]
      | cons v x =>
          refine lowerUnit_low_congr hlow ?_ _ _
          rw [List.getLast?_append, List.getLast?_cons, Option.some_or]
  | false =>
      by_cases hsigma : u = 0x3A3
      · subst hsigma
        rw [lowerUnit_sigma, lowerUnit_sigma, hfirm.sigma x y hpart]
      · rw [lowerUnit_other hlow hsigma, lowerUnit_other hlow hsigma]

/-- The lower case of a firm part is found in the lower case of the whole: it is the piece in the
middle. -/
theorem infix_lower_of_firm (hfirm : FirmBetween before part after) :
    part.lower <:+: lower (before ++ (part ++ after)) := by
  have hsame : lowerBetween before part after = lowerBetween [] part [] := by
    refine lowerBetween_rel (R := Eq) rfl ?_ ?_
    · rintro s _ t _ rfl rfl
      rfl
    · intro x u y hpart
      rw [List.nil_append, List.append_nil, hfirm.lowerUnit_eq hpart]
  rw [lower_surrounded, hsame, ← lower_eq_lowerBetween]
  exact ⟨_, _, List.append_assoc _ _ _⟩

/-! ### A pair that changes -/

/-- A text that is found behind the first half of a pair begins with no second half that changes.
The whole is one unit longer than the part, so there are two places where it could be, and both lead
to a pair that is in lower case. -/
theorem lower_pair_eq_of_infix {h l : CodeUnit} {t : Text} (hh : isHigh h = true)
    (hl : isLow l = true) (hfound : lower (l :: t) <:+: lower ([h] ++ (l :: t ++ []))) :
    lower [h, l] = [h, l] := by
  obtain ⟨l', hl', hlower, -⟩ := lower_pair hh hl
  have halone : lower (l :: t) = l :: lowerBetween [l] t [] := by
    rw [lower_eq_lowerBetween, lowerBetween, lowerUnit_low hl (separate_nil [l])]
    rfl
  have hbehind : lower ([h] ++ (l :: t ++ [])) = h :: l' :: lowerBetween [h, l] t [] := by
    rw [List.append_nil, List.singleton_append, lower_eq_lowerBetween, lowerBetween, lowerBetween,
      lowerUnit_high hh, lowerUnit_pair hh hl, hlower]
    rfl
  rw [halone, hbehind] at hfound
  -- There is one unit more behind the first half, so there are two places where the text can be.
  rcases List.infix_cons_iff.mp hfound with hprefix | hinfix
  · have hsame : l = h := (List.cons_prefix_cons.mp hprefix).1
    rw [hsame, isLow_eq_false_of_isHigh hh] at hl
    cases hl
  · have hlength : (lowerBetween [l] t []).length = (lowerBetween [h, l] t []).length :=
      length_lowerBetween _ _ _ _
    have heq := hinfix.eq_of_length (by rw [List.length_cons, List.length_cons, hlength])
    rw [hlower, (List.cons.inj heq).1]

/-! ### A sigma that changes -/

section

variable {final : Bool}

/-- The two small sigmas are no halves of pairs, and the letter A does not become one of them. So
what is put around a part adds none. -/
theorem sigmaForm_apart (final : Bool) :
    isHigh (sigmaForm final) = false ∧ isLow (sigmaForm final) = false ∧
      sigmaForm final ∉ ofPoints (Unicode.toLower 0x41) := by
  cases final <;> decide

/-- A second half of a pair becomes no small sigma. -/
theorem sigmaForm_not_mem_low {l : CodeUnit} (hl : isLow l = true) (before after : Text) :
    sigmaForm final ∉ lowerUnit before l after := by
  obtain ⟨l', hl', hunit⟩ := exists_lowerUnit_low hl before after
  rw [hunit, List.mem_singleton]
  rintro rfl
  rw [(sigmaForm_apart final).2.1] at hl'
  cases hl'

/-- A small sigma counts as one of its own kind and as none of the other kind. -/
theorem count_sigmaForm (final final' : Bool) :
    [sigmaForm final'].count (sigmaForm final) = if final' = final then 1 else 0 := by
  cases final <;> cases final' <;> decide

/-- A unit does not become one of the small sigmas more often than in other surroundings, if a
capital sigma that becomes it becomes it there. Any other unit becomes the same in both. -/
theorem count_lowerUnit_le {u : CodeUnit} {before' after' : Text}
    (hkept : u = 0x3A3 → endsWord before after = final → endsWord before' after' = final) :
    (lowerUnit before u after).count (sigmaForm final) ≤
      (lowerUnit before' u after').count (sigmaForm final) := by
  cases hlow : isLow u with
  | true =>
      rw [List.count_eq_zero_of_not_mem (sigmaForm_not_mem_low hlow _ _)]
      exact Nat.zero_le _
  | false =>
      by_cases hsigma : u = 0x3A3
      · subst hsigma
        have hkept := hkept rfl
        rw [lowerUnit_sigma, lowerUnit_sigma, count_sigmaForm, count_sigmaForm]
        split
        · next hhere => rw [if_pos (hkept hhere)]
        · exact Nat.zero_le _
      · rw [lowerUnit_other hlow hsigma, lowerUnit_other hlow hsigma]

/-- A part is not found where too few of its sigmas become what they become in the part alone: each
that becomes the one small sigma here becomes it there, another one does not, and what is around the
part has none. The small sigmas of this kind are counted on both sides. -/
theorem not_infix_of_form
    (hbefore : sigmaForm final ∉ lowerBetween [] before (part ++ after))
    (hafter : sigmaForm final ∉ lowerBetween (before ++ part) after [])
    (hkept : ∀ x y, part = x ++ 0x3A3 :: y →
      endsWord (before ++ x) (y ++ after) = final → endsWord x y = final)
    (hpart : part = x ++ 0x3A3 :: y) (halone : endsWord x y = final)
    (hchanged : endsWord (before ++ x) (y ++ after) ≠ final) :
    ¬ part.lower <:+: lower (before ++ (part ++ after)) := by
  intro hfound
  -- Inside the longer text the part has fewer sigmas of this form than alone: none that it had is
  -- gained, and the one at `x` is lost.
  have hless : (lowerBetween before part after).count (sigmaForm final) <
      (lowerBetween [] part []).count (sigmaForm final) := by
    refine count_lowerBetween_lt ?_ hpart ?_
    · intro x u y hpart
      rw [List.nil_append, List.append_nil]
      refine count_lowerUnit_le ?_
      rintro rfl
      exact hkept x y hpart
    · rw [List.nil_append, List.append_nil, lowerUnit_sigma, lowerUnit_sigma, count_sigmaForm,
        count_sigmaForm, if_pos halone, if_neg hchanged]
      exact Nat.zero_lt_one
  -- An occurrence would have all of them, and what surrounds the part has none to add.
  have hcount := hfound.sublist.count_le (sigmaForm final)
  rw [lower_surrounded, List.count_append, List.count_append, List.count_eq_zero_of_not_mem hbefore,
    List.count_eq_zero_of_not_mem hafter, lower_eq_lowerBetween] at hcount
  omega

/-! ### Letters around a part -/

/-- The letter A and halves of pairs, none of which becomes a small sigma. The surroundings that
show that a text is missed are made of these. -/
def IsPlain (t : Text) : Prop := ∀ u ∈ t, u = 0x41 ∨ isHigh u = true ∨ isLow u = true

/-- A plain text has no small sigma in lower case, whatever is around it. -/
theorem IsPlain.sigmaForm_not_mem {t : Text} (ht : t.IsPlain) (before after : Text) :
    sigmaForm final ∉ lowerBetween before t after := by
  induction t generalizing before with
  | nil => exact List.not_mem_nil
  | cons u t ih =>
      obtain ⟨hu, ht⟩ := List.forall_mem_cons.mp ht
      rw [lowerBetween, List.mem_append, not_or]
      refine ⟨?_, ih ht _⟩
      rcases hu with rfl | hhigh | hlow
      · exact (sigmaForm_apart final).2.2
      · rw [lowerUnit_high hhigh, List.mem_singleton]
        rintro rfl
        rw [(sigmaForm_apart final).1] at hhigh
        cases hhigh
      · exact sigmaForm_not_mem_low hlow _ _

end

/-- A letter is looked for behind code points if all of them are looked through; otherwise they
decide alone. -/
theorem startsCased_append (ps qs : List Nat) :
    startsCased (ps ++ qs) =
      if ps.all Unicode.isCaseIgnorable then startsCased qs else startsCased ps := by
  induction ps with
  | nil => rfl
  | cons c ps ih =>
      rw [List.cons_append, startsCased, startsCased, List.all_cons, ih]
      cases Unicode.isCaseIgnorable c <;> rfl

/-- Where a letter is found, not all code points are looked through. -/
theorem not_all_ignorable (hcased : startsCased ps = true) :
    ¬ ps.all Unicode.isCaseIgnorable = true := by
  intro hall
  have hnone := startsCased_append ps []
  rw [List.append_nil, if_pos hall, hcased] at hnone
  cases hnone

/-- A letter that is found is found with more behind it. -/
theorem startsCased_append_right (hcased : startsCased ps = true) (qs : List Nat) :
    startsCased (ps ++ qs) = true := by
  rw [startsCased_append, if_neg (not_all_ignorable hcased), hcased]

/-- Where a letter is found with something behind, one is found with the letter A behind. So one
letter is enough to do what any text does. -/
theorem startsCased_append_letter {qs : List Nat} (hcased : startsCased (ps ++ qs) = true) :
    startsCased (ps ++ [0x41]) = true := by
  rw [startsCased_append] at hcased ⊢
  split
  · decide
  · next hall =>
      rw [if_neg hall] at hcased
      exact hcased

/-- A surrogate behind code points adds no letter. So it makes no difference where half of a pair is
cut off. -/
theorem startsCased_of_append_surrogate {c : Nat} (hc : Unicode.IsSurrogate c)
    (hcased : startsCased (ps ++ [c]) = true) : startsCased ps = true := by
  obtain ⟨hnone, hlooked⟩ := Unicode.caseless_of_surrogate hc
  rw [startsCased_append] at hcased
  split at hcased
  · rw [startsCased, hnone, hlooked] at hcased
    cases hcased
  · exact hcased

/-- The letter A is plain. -/
theorem isPlain_letter : IsPlain [0x41] := List.forall_mem_singleton.mpr (.inl rfl)

/-- A letter that is found after a sigma is found with more text after it. If a pair is formed at
the border, its first half was no letter before. -/
theorem startsCased_points_append (hcased : startsCased y.points = true) (after : Text) :
    startsCased (y ++ after).points = true := by
  rcases separate_or_pair y after with hsep | ⟨y', h, l, after', rfl, rfl, hh, hl⟩
  · rw [points_append_of_separate hsep]
    exact startsCased_append_right hcased _
  · rw [points_concat_high hh] at hcased
    rw [points_append_pair hh hl]
    exact startsCased_append_right
      (startsCased_of_append_surrogate (isSurrogate_of_half (.inl hh)) hcased) _

/-- Where a letter is found after a sigma with more text after it, it is found with the letter A in
place of that text, behind the second half of a pair if there is one. -/
theorem exists_letter_after (hcased : startsCased (y ++ after).points = true) :
    ∃ letter : Text, letter.IsPlain ∧ startsCased (y ++ letter).points = true := by
  rcases separate_or_pair y after with hsep | ⟨y', h, l, after', rfl, rfl, hh, hl⟩
  · refine ⟨[0x41], isPlain_letter, ?_⟩
    have hletter : Separate y [0x41] := by
      intro h _ l hl _
      obtain rfl := Option.some.inj hl
      rfl
    rw [points_append_of_separate hsep] at hcased
    rw [points_append_of_separate hletter]
    exact startsCased_append_letter hcased
  · refine ⟨[l, 0x41], List.forall_mem_cons.mpr ⟨.inr (.inr hl), isPlain_letter⟩, ?_⟩
    rw [points_append_pair hh hl, List.append_cons] at hcased ⊢
    exact startsCased_append_letter hcased

/-- A letter that is found before a sigma is found with more text before it. This is the other side,
where code points are read in reverse. -/
theorem startsCased_append_points (hcased : startsCased x.points.reverse = true) (before : Text) :
    startsCased (before ++ x).points.reverse = true := by
  rcases separate_or_pair before x with hsep | ⟨before', h, l, x', rfl, rfl, hh, hl⟩
  · rw [points_append_of_separate hsep, List.reverse_append]
    exact startsCased_append_right hcased _
  · rw [points_cons_low hl, List.reverse_cons] at hcased
    rw [points_append_pair hh hl, List.reverse_append, List.reverse_cons, List.append_assoc]
    exact startsCased_append_right
      (startsCased_of_append_surrogate (isSurrogate_of_half (.inr hl)) hcased) _

/-- Where a letter is found before a sigma with more text before it, it is found with the letter A
in place of that text, before the first half of a pair if there is one. -/
theorem exists_letter_before (hcased : startsCased (before ++ x).points.reverse = true) :
    ∃ letter : Text, letter.IsPlain ∧ startsCased (letter ++ x).points.reverse = true := by
  rcases separate_or_pair before x with hsep | ⟨before', h, l, x', rfl, rfl, hh, hl⟩
  · refine ⟨[0x41], isPlain_letter, ?_⟩
    have hletter : Separate [0x41] x := by
      rintro h hh _ _ hhigh
      obtain rfl := Option.some.inj hh
      cases hhigh
    rw [points_append_of_separate hsep, List.reverse_append] at hcased
    rw [points_append_of_separate hletter, List.reverse_append]
    exact startsCased_append_letter hcased
  · refine ⟨[0x41] ++ [h], ?_, ?_⟩
    · exact List.forall_mem_cons.mpr ⟨.inl rfl, List.forall_mem_singleton.mpr (.inr (.inl hh))⟩
    · rw [points_append_pair hh hl, List.reverse_append, List.reverse_cons] at hcased ⊢
      exact startsCased_append_letter hcased

/-- A sigma is at the end of a word exactly if a letter is found before it and none after it. -/
theorem endsWord_iff : endsWord before after = true ↔
    startsCased before.points.reverse = true ∧ ¬ startsCased after.points = true := by
  rw [endsWord, Bool.and_eq_true, Bool.not_eq_true', Bool.not_eq_true]

/-- A capital sigma of a text that is found wherever it stands is at the end of a word either
everywhere or nowhere. If surroundings changed this, a single letter on one side would change it in
one direction only, and then the small sigmas of one kind would be too few. -/
theorem endsWord_eq_of_infix
    (hfound : ∀ before after, part.lower <:+: lower (before ++ (part ++ after)))
    (hpart : part = x ++ 0x3A3 :: y) (before after : Text) :
    endsWord (before ++ x) (y ++ after) = endsWord x y := by
  by_contra hchanged
  cases halone : endsWord x y with
  | true =>
      -- There is a letter before it in the part, so here there is one after it as well, and with
      -- the letter A after the part fewer sigmas are at the end of a word.
      rw [halone, endsWord_iff] at hchanged
      have hcased : startsCased (y ++ after).points = true := by
        by_contra hnone
        exact hchanged ⟨startsCased_append_points (endsWord_iff.mp halone).1 before, hnone⟩
      obtain ⟨letter, hplain, hletter⟩ := exists_letter_after hcased
      have hkept : ∀ x y, part = x ++ 0x3A3 :: y →
          endsWord ([] ++ x) (y ++ letter) = true → endsWord x y = true := by
        intro x y _ hends
        obtain ⟨hx, hy⟩ := endsWord_iff.mp hends
        exact endsWord_iff.mpr ⟨hx, fun hcased => hy (startsCased_points_append hcased letter)⟩
      have hinside : endsWord ([] ++ x) (y ++ letter) ≠ true := fun hends =>
        (endsWord_iff.mp hends).2 hletter
      exact not_infix_of_form List.not_mem_nil (hplain.sigmaForm_not_mem _ _) hkept hpart halone
        hinside (hfound [] letter)
  | false =>
      -- Here there is a letter before it and none after it, also none in the part, and with the
      -- letter A before the part more sigmas are at the end of a word.
      rw [halone, Bool.not_eq_false] at hchanged
      obtain ⟨hcased, hnone⟩ := endsWord_iff.mp hchanged
      obtain ⟨letter, hplain, hletter⟩ := exists_letter_before hcased
      have hkept : ∀ x y, part = x ++ 0x3A3 :: y →
          endsWord (letter ++ x) (y ++ []) = false → endsWord x y = false := by
        intro x y _ hinside
        by_contra hends
        rw [Bool.not_eq_false] at hends
        obtain ⟨hx, hy⟩ := endsWord_iff.mp hends
        rw [List.append_nil,
          endsWord_iff.mpr ⟨startsCased_append_points hx letter, hy⟩] at hinside
        cases hinside
      have hends : endsWord (letter ++ x) (y ++ []) ≠ false := by
        rw [List.append_nil, Bool.ne_false_iff]
        exact endsWord_iff.mpr
          ⟨hletter, fun hcased => hnone (startsCased_points_append hcased after)⟩
      exact not_infix_of_form (hplain.sigmaForm_not_mem _ _) List.not_mem_nil hkept hpart halone
        hends (hfound letter [])

/-- The text of a strategy is found wherever it stands exactly if it is firm everywhere. From left
to right, each field of the judgment was shown apart above. -/
theorem infix_lower_iff (part : Text) :
    (∀ before after, part.lower <:+: lower (before ++ (part ++ after))) ↔
      ∀ before after, FirmBetween before part after := by
  constructor
  · intro hfound before after
    refine ⟨fun x y hpart => endsWord_eq_of_infix hfound hpart before after, ?_⟩
    intro h _ l hl hhigh hlow
    obtain ⟨t, rfl⟩ := List.head?_eq_some_iff.mp hl
    exact lower_pair_eq_of_infix hhigh hlow (hfound [h] [])
  · exact fun hfirm before after => infix_lower_of_firm (hfirm before after)

/-- A text without capital sigma that begins with no second half of a pair is firm everywhere. The
texts of the built-in strategies are such. -/
theorem firmBetween_of_no_sigma (hsigma : 0x3A3 ∉ part)
    (hpair : ∀ l ∈ part.head?, isLow l = false) (before after : Text) :
    FirmBetween before part after where
  sigma x y hpart := by
    refine absurd ?_ hsigma
    rw [hpart]
    exact List.mem_append_right x List.mem_cons_self
  pair _ _ l hl _ hlow := by
    rw [hpair l hl] at hlow
    cases hlow

end Text

/-- Which texts of a strategy are found wherever they stand in a field name.

A strategy with a text accepts a field name that contains the text where the text is firm: where it
becomes in lower case what it becomes alone. It accepts every such field name exactly if the text is
firm everywhere; and that is so for a text without capital sigma, unless it begins with half of a
pair. -/
theorem containing_accepts_iff (name part : Text) (mask : Text → Except Refusal Text) :
    (∀ before after, Text.FirmBetween before part after →
      (Strategy.define name (.containing part) mask).accepts (before ++ (part ++ after)) = true) ∧
    ((∀ before after,
        (Strategy.define name (.containing part) mask).accepts (before ++ (part ++ after)) = true) ↔
      ∀ before after, Text.FirmBetween before part after) ∧
    (0x3A3 ∉ part → (∀ l ∈ part.head?, Text.isLow l = false) → ∀ before after,
      (Strategy.define name (.containing part) mask).accepts (before ++ (part ++ after))
        = true) := by
  have haccepts : ∀ field : Text,
      (Strategy.define name (.containing part) mask).accepts field = true ↔
        part.lower <:+: field.lower := fun _ => Text.isInfix_iff
  simp only [haccepts]
  refine ⟨fun before after => Text.infix_lower_of_firm, Text.infix_lower_iff part, ?_⟩
  intro hsigma hpair before after
  exact Text.infix_lower_of_firm (Text.firmBetween_of_no_sigma hsigma hpair before after)

/-- A capital alpha and a capital sigma, whose sigma is at the end of a word if nothing follows. -/
def alphaSigma : Text := "\u0391\u03A3"

/-- The strategy with that text, which hides the whole value. -/
def greek : Strategy := Strategy.total "greek" (.containing alphaSigma) fun _ => "*"

/-- The sigma is at the end of a word before white space, as it is alone. -/
theorem alphaSigma_firm : Text.FirmBetween [] alphaSigma (" " : Text) where
  sigma x y hpart := by
    have htext : [0x391, 0x3A3] = x ++ 0x3A3 :: y := hpart
    cases x with
    | nil => exact absurd (List.cons.inj htext).1 (by decide)
    | cons u x =>
        obtain ⟨rfl, hrest⟩ := List.cons.inj htext
        cases x with
        | nil =>
            obtain ⟨-, rfl⟩ := List.cons.inj hrest
            decide +kernel
        | cons v x => simp at hrest
  pair _ hh := nomatch hh

/-- The text is not found in lower case before another alpha: there its sigma is inside a word. -/
theorem alphaSigma_not_infix :
    alphaSigma.lower.isInfix (Text.lower ([] ++ (alphaSigma ++ ("\u0391" : Text)))) = false := by
  decide +kernel

/-- The text is found before white space, and it is not firm everywhere; and the text of the
strategy for names is found within another word. -/
theorem containing_accepts_iff_greek :
    greek.accepts ([] ++ (alphaSigma ++ (" " : Text))) = true ∧
    (¬ ∀ before after, Text.FirmBetween before alphaSigma after) ∧
    Strategy.forNames.accepts (("sur" : Text) ++ (("name" : Text) ++ ("s" : Text))) = true := by
  obtain ⟨hfirm, hiff, -⟩ := containing_accepts_iff "greek" alphaSigma fun _ => .ok "*"
  obtain ⟨-, -, hplain⟩ := containing_accepts_iff "name" "name" fun value => .ok (Mask.name value)
  have hletter : ∀ l ∈ List.head? ("name" : Text), Text.isLow l = false := by
    intro l hl
    obtain rfl := Option.some.inj hl
    decide
  refine ⟨hfirm [] " " alphaSigma_firm, ?_, hplain (by decide) hletter "sur" "s"⟩
  intro hall
  have hfound := hiff.mpr hall [] "\u0391"
  rw [show (Strategy.define "greek" (.containing alphaSigma) fun _ => .ok "*").accepts
    ([] ++ (alphaSigma ++ ("\u0391" : Text))) = false from alphaSigma_not_infix] at hfound
  cases hfound

/-- The sigma is at the end of a word alone and not before another alpha, so the text is not found
in the field name that begins with it. -/
theorem greek_missed : greek.accepts ([] ++ (alphaSigma ++ ("\u0391" : Text))) = false :=
  alphaSigma_not_infix

end FieldMask
