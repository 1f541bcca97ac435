import FieldMask.Proofs.Text.Point
import FieldMask.Text.Case
import FieldMask.Text.Words
import Mathlib.Data.List.TakeWhile

/-!
# `FieldMask.Proofs.Text.Padding`: white space around a text

A text is what trimming leaves of it with white space on both sides (`exists_eq_trim`). White space
has no case, and no letter is looked for behind it when a sigma is made small, so the lower case of
a text with white space around it is the lower case of the text with the same white space around it
(`lower_padded`).

A part that does not itself begin or end with white space is found in the one exactly if it is found
in the other (`isInfix_padded`). So it is found in the lower case of a text exactly if it is found
in that of the trimmed text (`isInfix_lower_trim`).
-/

set_option autoImplicit false

namespace FieldMask.Text

/-- The text is white space throughout. The empty text is, so a text that has nothing around it is
no case of its own. -/
def IsPadding (w : Text) : Prop := ∀ u ∈ w, Unicode.isBlank u = true

/-- For a given text it is decided unit by unit. -/
instance (w : Text) : Decidable w.IsPadding :=
  decidable_of_iff (w.all Unicode.isBlank = true) List.all_eq_true

/-- The text neither begins nor ends with white space. The empty text is flush as well. This is what
trimming leaves, and what a part needs to be found in the same places after it. -/
structure IsFlush (t : Text) : Prop where
  head : ∀ u ∈ t.head?, Unicode.isBlank u = false
  last : ∀ u ∈ t.getLast?, Unicode.isBlank u = false

variable {w : Text}

/-! ### White-space units -/

/-- The code points that are white space, as a list. What is said about all white space is decided
by going through it. -/
def blankPoints : List Nat :=
  List.range' 0x09 5 ++ List.range' 0x2000 11 ++ Unicode.singleBlanks.map UInt16.toNat

/-- The number of a white-space unit is in the list. The test for white space compares units, and
the list has their numbers. -/
theorem toNat_mem_blankPoints {u : CodeUnit} (h : Unicode.isBlank u = true) :
    u.toNat ∈ blankPoints := by
  simp only [Unicode.isBlank, Unicode.singleBlanks, List.contains_cons, List.contains_nil,
    Bool.or_eq_true, beq_iff_eq, Bool.and_eq_true, decide_eq_true_eq, UInt16.le_iff_toNat_le,
    ← UInt16.toNat_inj, UInt16.reduceToNat, Bool.false_eq_true, or_false] at h
  simp only [blankPoints, Unicode.singleBlanks, List.mem_append, List.mem_range'_1, List.map_cons,
    List.map_nil, List.mem_cons, List.not_mem_nil, or_false, UInt16.reduceToNat]
  omega

/-- A white-space unit is no half of a pair, so it is a code point by itself, whatever stands beside
it. -/
theorem not_half_of_isBlank {u : CodeUnit} (h : Unicode.isBlank u = true) :
    isHigh u = false ∧ isLow u = false := by
  have hbounds : ∀ c ∈ blankPoints, c < 0xD800 ∨ 0xDFFF < c := by decide
  have hu := hbounds _ (toNat_mem_blankPoints h)
  constructor
  · rw [← Bool.not_eq_true, isHigh_iff, IsHighPoint]
    omega
  · rw [← Bool.not_eq_true, isLow_iff, IsLowPoint]
    omega

/-! ### Lower case -/

/-- White space in front of a text gives one code point for each unit, and the code points of the
text follow unchanged. -/
theorem points_padding_append (hw : w.IsPadding) (t : Text) :
    (w ++ t).points = w.map UInt16.toNat ++ t.points := by
  induction w with
  | nil => rfl
  | cons u w ih =>
      obtain ⟨hu, hw⟩ := List.forall_mem_cons.mp hw
      have hhigh := (not_half_of_isBlank hu).1
      rw [List.cons_append, points_cons (by simp [hhigh]), ih hw, List.map_cons, List.cons_append]

/-- The code points of white space alone are the numbers of its units. -/
theorem points_padding (hw : w.IsPadding) : w.points = w.map UInt16.toNat := by
  have h := points_padding_append hw []
  rwa [List.append_nil, points, List.append_nil] at h

/-- White space behind a text leaves the code points of the text as they are: even a high surrogate
at its end finds no partner there. The induction follows the way in which code points are read. -/
theorem points_append_padding (hw : w.IsPadding) (t : Text) :
    (t ++ w).points = t.points ++ w.map UInt16.toNat := by
  have hlow : ∀ v ∈ w.head?, isLow v = false := fun v hv =>
    (not_half_of_isBlank (hw v (List.mem_of_mem_head? hv))).2
  fun_induction points t with
  | case1 => exact points_padding hw
  | case2 u =>
      rw [List.singleton_append, points_cons fun v hv _ => hlow v hv, points_padding hw]
      rfl
  | case3 u v rest hpair ih =>
      rw [Bool.and_eq_true] at hpair
      rw [List.cons_append, List.cons_append, points_pair hpair.1 hpair.2, ih, List.cons_append]
  | case4 u v rest hpair ih =>
      rw [List.cons_append, List.cons_append, points, if_neg hpair, ← List.cons_append, ih,
        List.cons_append]

/-- White space has no case: it is not cased, it is no sigma, and it is its own lower case. Checked
for each of the code points in the list. -/
theorem caseless_of_isBlank {u : CodeUnit} (hu : Unicode.isBlank u = true) :
    Unicode.isCased u.toNat = false ∧ u.toNat ≠ capitalSigma ∧
      Unicode.toLower u.toNat = [u.toNat] := by
  have hpoints : ∀ c ∈ blankPoints,
      Unicode.isCased c = false ∧ c ≠ capitalSigma ∧ Unicode.toLower c = [c] := by
    decide +kernel
  exact hpoints _ (toNat_mem_blankPoints hu)

/-- Behind white space no letter is looked for. The search stops at the first code point that is not
ignorable, and where it reaches the white space it finds nothing cased. -/
theorem startsCased_append_padding (hw : w.IsPadding) (ps : List Nat) :
    startsCased (ps ++ w.map UInt16.toNat) = startsCased ps := by
  induction ps with
  | nil =>
      induction w with
      | nil => rfl
      | cons u w ih =>
          obtain ⟨hu, hw⟩ := List.forall_mem_cons.mp hw
          have hrest : startsCased (w.map UInt16.toNat) = false := ih hw
          show startsCased (u.toNat :: w.map UInt16.toNat) = false
          rw [startsCased, (caseless_of_isBlank hu).1, hrest, ite_self]
  | cons c ps ih => rw [List.cons_append, startsCased, startsCased, ih]

/-- White space is its own lower case, whatever stands around it. -/
theorem lowerPoint_padding {u : CodeUnit} (hu : Unicode.isBlank u = true)
    (before after : List Nat) :
    lowerPoint before u.toNat after = [u.toNat] := by
  obtain ⟨-, hsigma, hsame⟩ := caseless_of_isBlank hu
  rw [lowerPoint, if_neg hsigma, hsame]

/-- White space far before a letter does not change its lower case. The points before stand nearest
first, so the white space is at the end of their list. -/
theorem lowerPoints_before_padding (hw : w.IsPadding) (before ps : List Nat) :
    lowerPoints (before ++ w.map UInt16.toNat) ps = lowerPoints before ps := by
  induction ps generalizing before with
  | nil => rfl
  | cons c ps ih =>
      rw [lowerPoints, lowerPoints, ← List.cons_append, ih, lowerPoint,
        startsCased_append_padding hw, lowerPoint]

/-- White space in front is passed on, and the rest is made small as if the white space stood before
it. -/
theorem lowerPoints_padding_append (hw : w.IsPadding) (before ps : List Nat) :
    lowerPoints before (w.map UInt16.toNat ++ ps)
      = w.map UInt16.toNat ++ lowerPoints (w.reverse.map UInt16.toNat ++ before) ps := by
  induction w generalizing before with
  | nil => rfl
  | cons u w ih =>
      obtain ⟨hu, hw⟩ := List.forall_mem_cons.mp hw
      rw [List.map_cons, List.cons_append, lowerPoints, lowerPoint_padding hu, ih hw]
      simp

/-- White space behind is passed on. It does not decide about a sigma in front of it, which the case
of an added text would. -/
theorem lowerPoints_append_padding (hw : w.IsPadding) (before ps : List Nat) :
    lowerPoints before (ps ++ w.map UInt16.toNat)
      = lowerPoints before ps ++ w.map UInt16.toNat := by
  induction ps generalizing before with
  | nil =>
      have h := lowerPoints_padding_append hw before []
      rwa [List.append_nil, lowerPoints, List.append_nil] at h
  | cons c ps ih =>
      rw [List.cons_append, lowerPoints, lowerPoints, ih, List.append_assoc, lowerPoint,
        startsCased_append_padding hw, lowerPoint]

/-- White space around a text stays around its lower case. The two sides are taken off by the lemmas
above; what is left of the context is white space far before the text, which plays no part. -/
theorem lower_padded {v : Text} (hv : v.IsPadding) (hw : w.IsPadding) (t : Text) :
    (v ++ (t ++ w)).lower = v ++ (t.lower ++ w) := by
  have hwritten : ∀ {w : Text}, w.IsPadding → ofPoints (w.map UInt16.toNat) = w := by
    intro w hw
    rw [← points_padding hw, ofPoints_points]
  have hreverse : IsPadding v.reverse := fun u hu => hv u (List.mem_reverse.mp hu)
  have hbefore := lowerPoints_before_padding hreverse []
  rw [List.nil_append] at hbefore
  rw [lower, points_padding_append hv, points_append_padding hw, lowerPoints_padding_append hv,
    lowerPoints_append_padding hw, List.append_nil, hbefore, ofPoints, List.flatMap_append,
    List.flatMap_append, ← ofPoints, ← ofPoints, ← ofPoints, hwritten hv, hwritten hw, lower]

/-! ### Trimming -/

/-- A text is what is left without the white space at its end, and that white space. Both are found
from the end, so they are read in reverse. -/
theorem trimEnd_append (t : Text) :
    t.trimEnd ++ (t.reverse.takeWhile Unicode.isBlank).reverse = t := by
  rw [trimEnd, ← List.reverse_append, List.takeWhile_append_dropWhile, List.reverse_reverse]

/-- A text is what trimming leaves of it, with white space on both sides. Statements about trimmed
texts are proved by taking a text apart in this way. -/
theorem exists_eq_trim (t : Text) :
    ∃ v w, IsPadding v ∧ IsPadding w ∧ t = v ++ (t.trim ++ w) := by
  refine ⟨t.takeWhile Unicode.isBlank, (t.trimStart.reverse.takeWhile Unicode.isBlank).reverse,
    fun u hu => List.mem_takeWhile_imp hu,
    fun u hu => List.mem_takeWhile_imp (List.mem_reverse.mp hu), ?_⟩
  rw [trim, trimEnd_append, trimStart, List.takeWhile_append_dropWhile]

/-- What is left of a text without the white space in front does not begin with any. -/
theorem not_isBlank_head_dropWhile {t : Text} {u : CodeUnit}
    (h : u ∈ (t.dropWhile Unicode.isBlank).head?) : Unicode.isBlank u = false := by
  have hfirst := List.head?_dropWhile_not Unicode.isBlank t
  rw [Option.mem_def.mp h] at hfirst
  exact hfirst

/-- What trimming leaves has no white space at its ends. Its first unit is also the first one after
the white space in front was dropped, because only the end was changed after that. -/
theorem isFlush_trim (t : Text) : t.trim.IsFlush where
  head u hu := by
    refine not_isBlank_head_dropWhile (t := t) ?_
    rw [← trimStart, ← t.trimStart.trimEnd_append, List.head?_append, ← trim,
      Option.mem_def.mp hu]
    rfl
  last u hu := by
    rw [trim, trimEnd, List.getLast?_reverse] at hu
    exact not_isBlank_head_dropWhile hu

/-! ### Parts -/

/-- The search for a part finds it exactly if it is a contiguous part in the sense of the library.
Its lemmas about parts are used from here on. -/
theorem isInfix_iff {n t : Text} : isInfix n t = true ↔ n <:+: t := by
  induction t with
  | nil => rw [isInfix, List.isEmpty_iff, List.infix_nil]
  | cons u t ih =>
      rw [isInfix, Bool.or_eq_true, List.isPrefixOf_iff_prefix, ih, List.infix_cons_iff]

/-- A part that does not begin with white space is found behind it: it cannot begin within the white
space, so each unit of it can be taken off. -/
theorem infix_of_infix_padding_append {n : Text} (hn : ∀ u ∈ n.head?, Unicode.isBlank u = false)
    (hw : w.IsPadding) {t : Text} (h : n <:+: w ++ t) : n <:+: t := by
  induction w with
  | nil => exact h
  | cons u w ih =>
      obtain ⟨hu, hw⟩ := List.forall_mem_cons.mp hw
      rcases List.infix_cons_iff.mp h with hprefix | hinfix
      · cases n with
        | nil => exact List.nil_infix
        | cons v n =>
            obtain ⟨rfl, -⟩ := List.cons_prefix_cons.mp hprefix
            rw [hn v rfl] at hu
            exact nomatch hu
      · exact ih hw hinfix

/-- A part without white space at its ends is found in a text exactly if it is found in the text
with white space around it. The end is the front of the reversed text, so one lemma does for both
sides. -/
theorem isInfix_padded {v n : Text} (hn : n.IsFlush) (hv : v.IsPadding) (hw : w.IsPadding)
    (t : Text) : isInfix n (v ++ (t ++ w)) = isInfix n t := by
  rw [Bool.eq_iff_iff, isInfix_iff, isInfix_iff]
  constructor
  · intro h
    have hfront := infix_of_infix_padding_append hn.head hv h
    -- The white space behind the text stands in front of it in reverse.
    rw [← List.reverse_infix, List.reverse_append] at hfront
    refine List.reverse_infix.mp (infix_of_infix_padding_append ?_ ?_ hfront)
    · rw [List.head?_reverse]
      exact hn.last
    · exact fun u hu => hw u (List.mem_reverse.mp hu)
  · intro h
    exact (h.trans (List.prefix_append t w).isInfix).trans (List.suffix_append v _).isInfix

/-- Such a part is found in the lower case of a text exactly if it is found in that of the trimmed
text. So a strategy that looks for it sees a padded field name as it sees the name. -/
theorem isInfix_lower_trim {n : Text} (hn : n.IsFlush) (t : Text) :
    isInfix n t.lower = isInfix n t.trim.lower := by
  obtain ⟨v, w, hv, hw, ht⟩ := exists_eq_trim t
  have hlower := congrArg lower ht
  rw [lower_padded hv hw] at hlower
  rw [hlower, isInfix_padded hn hv hw]

end FieldMask.Text
