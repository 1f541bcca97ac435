import FieldMask.Allowlist
import FieldMask.Proofs.Text.Point

/-!
# `FieldMask.Proofs.Text.AsciiCase`: ASCII letters in either case

`Text.asciiLower` makes the ASCII capitals of a text small and leaves everything else as it is.
Texts that differ only in the case of ASCII letters are those that it maps to the same text.

Whatever ignores the case of ASCII letters gives the same for a text and for `Text.asciiLower` of
it. That is so for the lower case of a text (`lower_asciiLower`), although it looks at the letters
around a sigma: a capital and its small letter are both cased. It is so for white space and for the
normal form of a field name (`normalize_asciiLower`).
-/

set_option autoImplicit false

namespace FieldMask.Text

/-- The unit, made small if it is an ASCII capital. The bounds are those of `A` and `Z`; every other
unit, the halves of surrogate pairs among them, is kept. -/
def asciiSmall (u : CodeUnit) : CodeUnit := if 0x41 ≤ u ∧ u ≤ 0x5A then u + 0x20 else u

/-- The code point, made small if it is an ASCII capital. The tables behind the lower case are asked
about code points, so the same map is needed there. -/
def asciiSmallPoint (c : Nat) : Nat := if 0x41 ≤ c ∧ c ≤ 0x5A then c + 0x20 else c

/-- The text with its ASCII capitals made small. Two texts differ only in the case of ASCII letters
exactly if this gives the same for both, which is how later statements say so. -/
def asciiLower (t : Text) : Text := t.map asciiSmall

/-! ### What ignores the case of ASCII letters -/

/-- What is the same for the two cases of each ASCII letter ignores their case. The hypothesis asks
about 26 code points, so it can be decided, and the conclusion is about all of them. -/
theorem apply_asciiSmallPoint {α : Type} {F : Nat → α}
    (h : ∀ c ∈ List.range' 0x41 26, F (c + 0x20) = F c) (c : Nat) :
    F (asciiSmallPoint c) = F c := by
  unfold asciiSmallPoint
  split
  · next hcapital => exact h c (List.mem_range'_1.mpr (by omega))
  · rfl

/-- The number of a unit that was made small is its number, made small. Adding 0x20 to a capital
stays below 0x10000, so nothing wraps around. -/
theorem toNat_asciiSmall (u : CodeUnit) : (asciiSmall u).toNat = asciiSmallPoint u.toNat := by
  unfold asciiSmall asciiSmallPoint
  simp only [UInt16.le_iff_toNat_le, UInt16.reduceToNat]
  split
  · rw [UInt16.toNat_add]
    simp only [UInt16.reduceToNat]
    omega
  · rfl

/-- What is the same for the two cases of each ASCII letter ignores their case, for units in place
of code points. It goes back to the numbers of the units. -/
theorem apply_asciiSmall {α : Type} {F : CodeUnit → α}
    (h : ∀ c ∈ List.range' 0x41 26, F (UInt16.ofNat (c + 0x20)) = F (UInt16.ofNat c))
    (u : CodeUnit) : F (asciiSmall u) = F u := by
  have hsmall := apply_asciiSmallPoint (F := fun c => F (UInt16.ofNat c)) h u.toNat
  simpa [← toNat_asciiSmall] using hsmall

/-- The first half of a surrogate pair is one in either case, since no ASCII letter is a surrogate.
-/
theorem isHigh_asciiSmall (u : CodeUnit) : isHigh (asciiSmall u) = isHigh u :=
  apply_asciiSmall (by decide) u

/-- The second half of a surrogate pair is one in either case, for the same reason. -/
theorem isLow_asciiSmall (u : CodeUnit) : isLow (asciiSmall u) = isLow u :=
  apply_asciiSmall (by decide) u

/-- White space is white space in either case: no ASCII letter is, capital or small. -/
theorem isBlank_asciiSmall (u : CodeUnit) : Unicode.isBlank (asciiSmall u) = Unicode.isBlank u :=
  apply_asciiSmall (by decide) u

/-! ### Code points -/

/-- The code points of the text are those of the text before, made small. The induction follows the
way in which code points are read, one unit or one surrogate pair at a time; a pair is read from the
same units as before. -/
theorem points_asciiLower (t : Text) : t.asciiLower.points = t.points.map asciiSmallPoint := by
  unfold asciiLower
  fun_induction points t with
  | case1 => rfl
  | case2 u => simp [points, toNat_asciiSmall]
  | case3 u v rest hpair ih =>
      rw [Bool.and_eq_true] at hpair
      -- The halves of a pair are no ASCII capitals, and neither is what they stand for.
      have hkept : ∀ w : CodeUnit, 0xD800 ≤ w.toNat → asciiSmall w = w := by
        intro w hw
        rw [← UInt16.toNat_inj, toNat_asciiSmall, asciiSmallPoint, if_neg (by omega)]
      have hu := (isHigh_iff u).mp hpair.1
      have hv := (isLow_iff v).mp hpair.2
      have hbounds := (pairPoint_bounds hpair.1 hpair.2).1
      unfold IsHighPoint at hu
      unfold IsLowPoint at hv
      rw [List.map_cons, List.map_cons, List.map_cons, hkept u (by omega), hkept v (by omega),
        points_pair hpair.1 hpair.2, ih, asciiSmallPoint, if_neg (by omega)]
  | case4 u v rest hpair ih =>
      rw [List.map_cons] at ih
      rw [List.map_cons, List.map_cons, points, isHigh_asciiSmall, isLow_asciiSmall, if_neg hpair,
        ih, toNat_asciiSmall, List.map_cons]

/-! ### Lower case -/

/-- The tables behind the lower case do not tell an ASCII capital letter from its small one. Both
are cased, neither is ignorable, and both have the small letter as their lower case. -/
theorem tables_asciiSmallPoint (c : Nat) :
    Unicode.isCaseIgnorable (asciiSmallPoint c) = Unicode.isCaseIgnorable c ∧
      Unicode.isCased (asciiSmallPoint c) = Unicode.isCased c ∧
      Unicode.toLower (asciiSmallPoint c) = Unicode.toLower c := by
  refine ⟨apply_asciiSmallPoint ?_ c, apply_asciiSmallPoint ?_ c, apply_asciiSmallPoint ?_ c⟩ <;>
    decide +kernel

/-- Whether the first code point that counts is cased does not depend on the case of ASCII letters.
A final sigma is decided by this, before it and after it. -/
theorem startsCased_asciiSmall (ps : List Nat) :
    startsCased (ps.map asciiSmallPoint) = startsCased ps := by
  induction ps with
  | nil => rfl
  | cons c ps ih =>
      obtain ⟨hignorable, hcased, -⟩ := tables_asciiSmallPoint c
      simp only [List.map_cons, startsCased, hignorable, hcased, ih]

/-- The lower case of one code point ignores the case of ASCII letters, in this point and in what
stands around it. Only the sigma looks around, and no ASCII letter becomes one. -/
theorem lowerPoint_asciiSmall (before : List Nat) (c : Nat) (after : List Nat) :
    lowerPoint (before.map asciiSmallPoint) (asciiSmallPoint c) (after.map asciiSmallPoint)
      = lowerPoint before c after := by
  obtain ⟨-, -, hlower⟩ := tables_asciiSmallPoint c
  have hsigma : (asciiSmallPoint c = capitalSigma) = (c = capitalSigma) := by
    -- The sigma is no ASCII letter, and no ASCII letter is moved to where it is.
    unfold asciiSmallPoint capitalSigma
    split
    · rw [eq_iff_iff]
      omega
    · rfl
  simp only [lowerPoint, hsigma, startsCased_asciiSmall, hlower]

/-- The lower case of code points ignores the case of ASCII letters. The points before them, which
the recursion collects, are made small along with the others. -/
theorem lowerPoints_asciiSmall (before ps : List Nat) :
    lowerPoints (before.map asciiSmallPoint) (ps.map asciiSmallPoint) = lowerPoints before ps := by
  induction ps generalizing before with
  | nil => rfl
  | cons c ps ih =>
      rw [List.map_cons, lowerPoints, lowerPoints, lowerPoint_asciiSmall, ← List.map_cons, ih]

/-- The lower case of a text ignores the case of its ASCII letters, in every context of a sigma. -/
theorem lower_asciiLower (t : Text) : t.asciiLower.lower = t.lower := by
  have hpoints : lowerPoints [] (t.points.map asciiSmallPoint) = lowerPoints [] t.points :=
    lowerPoints_asciiSmall [] t.points
  rw [lower, points_asciiLower, hpoints, lower]

/-! ### Field names -/

/-- Trimming a text and making its capitals small can be done in either order, because the letters
keep their places and none of them is white space. -/
theorem trim_asciiLower (t : Text) : t.asciiLower.trim = t.trim.asciiLower := by
  have hblank : Unicode.isBlank ∘ asciiSmall = Unicode.isBlank := funext isBlank_asciiSmall
  simp only [asciiLower, trim, trimStart, trimEnd, List.dropWhile_map, ← List.map_reverse, hblank]

end FieldMask.Text

namespace FieldMask.Allowlist

/-- The normal form of a field name ignores the case of its ASCII letters. So an allowlist, which
compares normal forms, does as well. -/
theorem normalize_asciiLower (field : Text) : normalize field.asciiLower = normalize field := by
  rw [normalize, Text.trim_asciiLower, Text.lower_asciiLower, normalize]

end FieldMask.Allowlist
