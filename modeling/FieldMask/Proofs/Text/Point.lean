import Mathlib.Data.List.Chain
import FieldMask.Text.Point

/-!
# `FieldMask.Proofs.Text.Point`: which code points a text has

Code points that are written as units are not always read back: a high surrogate and a low one next
to each other are read as one code point. `IsPoints` rules this out, and numbers that are no code
points. It describes the code points of texts exactly:

* `isPoints_points`: the code points of a text satisfy it;
* `points_ofPoints`: code points that satisfy it are read back from what is written for them.

A text in which every surrogate is in a pair can be cut and joined without a pair being cut or
formed (`points_append`).
-/

set_option autoImplicit false

namespace FieldMask.Text

/-- The code point is a high surrogate, the first half of a pair. A text can hold one that stands
alone. -/
def IsHighPoint (c : Nat) : Prop := 0xD800 ≤ c ∧ c ≤ 0xDBFF

/-- The code point is a low surrogate, the second half of a pair. -/
def IsLowPoint (c : Nat) : Prop := 0xDC00 ≤ c ∧ c ≤ 0xDFFF

/-- The two code points next to each other stay two code points. Only a high surrogate before a low
one does not. -/
def Apart (c d : Nat) : Prop := IsHighPoint c → ¬ IsLowPoint d

/-- The code points that a text can have: each is in the range of Unicode, and no two neighbours
would be read as one. -/
structure IsPoints (ps : List Nat) : Prop where
  bounded : ∀ c ∈ ps, c < 0x110000
  apart : ps.IsChain Apart

/-- The test of a unit for the first half of a pair, in terms of its number. -/
theorem isHigh_iff (u : CodeUnit) : isHigh u = true ↔ IsHighPoint u.toNat := by
  simp [isHigh, IsHighPoint, UInt16.le_iff_toNat_le]

/-- The test of a unit for the second half of a pair, in terms of its number. -/
theorem isLow_iff (u : CodeUnit) : isLow u = true ↔ IsLowPoint u.toNat := by
  simp [isLow, IsLowPoint, UInt16.le_iff_toNat_le]

/-- The empty text has no code points, and they are such. -/
theorem isPoints_nil : IsPoints [] := ⟨List.forall_mem_nil _, .nil⟩

/-- Code points are a first one and those of the rest, if the first one stands apart from them.
Inductions over code points use this in both directions. -/
theorem isPoints_cons {c : Nat} {ps : List Nat} :
    IsPoints (c :: ps) ↔ c < 0x110000 ∧ (∀ d ∈ ps.head?, Apart c d) ∧ IsPoints ps := by
  constructor
  · rintro ⟨hbounded, hapart⟩
    obtain ⟨hhead, hrest⟩ := List.isChain_cons.mp hapart
    exact ⟨hbounded c List.mem_cons_self, hhead,
      fun d hd => hbounded d (List.mem_cons_of_mem _ hd), hrest⟩
  · rintro ⟨hc, hhead, hbounded, hrest⟩
    exact ⟨List.forall_mem_cons.mpr ⟨hc, hbounded⟩, List.isChain_cons.mpr ⟨hhead, hrest⟩⟩

/-! ### Reading -/

/-- A surrogate pair is read as one code point, and reading goes on after it. -/
theorem points_pair {u v : CodeUnit} (hu : isHigh u = true) (hv : isLow v = true) (t : Text) :
    points (u :: v :: t) = pairPoint u v :: points t := by
  rw [points, if_pos (by simp [hu, hv])]

/-- A unit that is not the first half of a pair is read as itself. The condition looks at the next
unit only, and holds where there is none. -/
theorem points_cons {u : CodeUnit} {t : Text}
    (h : ∀ v ∈ t.head?, isHigh u = true → isLow v = false) :
    points (u :: t) = u.toNat :: points t := by
  cases t with
  | nil => rfl
  | cons v t =>
      have hpair : ¬ (isHigh u && isLow v) = true := by
        rw [Bool.and_eq_true]
        intro hboth
        have hlow := h v rfl hboth.1
        simp [hboth.2] at hlow
      rw [points, if_neg hpair]

/-- The code point of a pair is a large one, beyond those that one unit stands for, and in the range
of Unicode. -/
theorem pairPoint_bounds {u v : CodeUnit} (hu : isHigh u = true) (hv : isLow v = true) :
    0x10000 ≤ pairPoint u v ∧ pairPoint u v < 0x110000 := by
  rw [isHigh_iff, IsHighPoint] at hu
  rw [isLow_iff, IsLowPoint] at hv
  unfold pairPoint
  omega

/-- A low surrogate comes first among the code points only if it comes first among the units. What a
pair is read as is no surrogate. -/
theorem isLow_of_head_points {t : Text} {d : Nat} (h : d ∈ t.points.head?) (hd : IsLowPoint d) :
    ∃ v ∈ t.head?, isLow v = true := by
  fun_cases points t with
  | case1 => simp [points] at h
  | case2 u =>
      obtain rfl : u.toNat = d := by simpa [points] using h
      exact ⟨u, rfl, (isLow_iff u).mpr hd⟩
  | case3 u v rest hpair =>
      rw [Bool.and_eq_true] at hpair
      rw [points_pair hpair.1 hpair.2] at h
      obtain rfl : pairPoint u v = d := by simpa using h
      have hlarge := (pairPoint_bounds hpair.1 hpair.2).1
      have hsmall := hd.2
      omega
  | case4 u v rest hpair =>
      rw [points, if_neg hpair] at h
      obtain rfl : u.toNat = d := by simpa using h
      exact ⟨u, rfl, (isLow_iff u).mpr hd⟩

/-- The code points of a text are code points that a text can have. The induction follows the way in
which code points are read; the border between two of them is where something is to show. -/
theorem isPoints_points (t : Text) : IsPoints t.points := by
  fun_induction points t with
  | case1 => exact isPoints_nil
  | case2 u =>
      have hu : u.toNat < 0x10000 := u.toNat_lt
      exact isPoints_cons.mpr ⟨by omega, by simp, isPoints_nil⟩
  | case3 u v rest hpair ih =>
      rw [Bool.and_eq_true] at hpair
      have hbounds := pairPoint_bounds hpair.1 hpair.2
      refine isPoints_cons.mpr ⟨hbounds.2, fun d _ hhigh => ?_, ih⟩
      have hsmall := hhigh.2
      omega
  | case4 u v rest hpair ih =>
      have hu : u.toNat < 0x10000 := u.toNat_lt
      refine isPoints_cons.mpr ⟨by omega, fun d hd hhigh hlow => ?_, ih⟩
      -- A low surrogate after `u` would be the unit `v`, and the two would be a pair.
      obtain ⟨w, hw, hlow⟩ := isLow_of_head_points hd hlow
      obtain rfl : v = w := by simpa using hw
      exact hpair (by simp [(isHigh_iff u).mpr hhigh, hlow])

/-! ### Writing -/

/-- Code points are written one after the other. -/
theorem ofPoints_cons (c : Nat) (ps : List Nat) : ofPoints (c :: ps) = ofPoint c ++ ofPoints ps :=
  rfl

/-- A number below `0x10000` is the number of a unit, so nothing is lost in writing it. -/
theorem toNat_ofNat_of_lt {n : Nat} (h : n < 0x10000) : (UInt16.ofNat n).toNat = n := by
  rw [UInt16.toNat_ofNat', Nat.mod_eq_of_lt h]

/-- A small code point is written as one unit, which has its number. Lone surrogates are among
these. -/
theorem ofPoint_of_lt {c : Nat} (h : c < 0x10000) :
    ∃ u : CodeUnit, u.toNat = c ∧ ofPoint c = [u] :=
  ⟨UInt16.ofNat c, toNat_ofNat_of_lt h, by rw [ofPoint, if_pos h]⟩

/-- A large code point is written as a surrogate pair, and the pair is read as this code point. The
two halves are named by their numbers, so the rest is arithmetic. -/
theorem ofPoint_of_le {c : Nat} (h : 0x10000 ≤ c) (hc : c < 0x110000) :
    ∃ u v : CodeUnit, isHigh u = true ∧ isLow v = true ∧ pairPoint u v = c ∧
      ofPoint c = [u, v] := by
  have hhigh : (UInt16.ofNat (0xD800 + (c - 0x10000) / 0x400)).toNat
      = 0xD800 + (c - 0x10000) / 0x400 := toNat_ofNat_of_lt (by omega)
  have hlow : (UInt16.ofNat (0xDC00 + (c - 0x10000) % 0x400)).toNat
      = 0xDC00 + (c - 0x10000) % 0x400 := toNat_ofNat_of_lt (by omega)
  have hpair : ofPoint c = [UInt16.ofNat (0xD800 + (c - 0x10000) / 0x400),
      UInt16.ofNat (0xDC00 + (c - 0x10000) % 0x400)] := if_neg (by omega)
  generalize UInt16.ofNat (0xD800 + (c - 0x10000) / 0x400) = u at *
  generalize UInt16.ofNat (0xDC00 + (c - 0x10000) % 0x400) = v at *
  refine ⟨u, v, ?_, ?_, ?_, hpair⟩
  · rw [isHigh_iff, IsHighPoint]
    omega
  · rw [isLow_iff, IsLowPoint]
    omega
  · unfold pairPoint
    omega

/-- What is written for code points starts with a low surrogate only if they do: a large code point
starts with a high one. -/
theorem isLowPoint_of_head_ofPoints {ps : List Nat} (hps : ∀ c ∈ ps, c < 0x110000) {v : CodeUnit}
    (h : v ∈ (ofPoints ps).head?) (hv : isLow v = true) : ∃ d ∈ ps.head?, IsLowPoint d := by
  cases ps with
  | nil => simp [ofPoints] at h
  | cons c ps =>
      refine ⟨c, rfl, ?_⟩
      rw [ofPoints_cons] at h
      by_cases hsmall : c < 0x10000
      · obtain ⟨u, rfl, hunit⟩ := ofPoint_of_lt hsmall
        obtain rfl : u = v := by simpa [hunit] using h
        exact (isLow_iff u).mp hv
      · obtain ⟨u, w, hu, -, -, hpair⟩ :=
          ofPoint_of_le (Nat.le_of_not_lt hsmall) (hps c List.mem_cons_self)
        obtain rfl : u = v := by simpa [hpair] using h
        have hhigh : u.toNat ≤ 0xDBFF := ((isHigh_iff u).mp hu).2
        have hlow : 0xDC00 ≤ u.toNat := ((isLow_iff u).mp hv).1
        omega

/-- Code points that a text can have are read back from what is written for them. Where a high
surrogate is written alone, what follows does not start with a low one, because the two stand apart.
-/
theorem points_ofPoints {ps : List Nat} (h : IsPoints ps) : (ofPoints ps).points = ps := by
  induction ps with
  | nil => rfl
  | cons c ps ih =>
      obtain ⟨hc, hhead, hps⟩ := isPoints_cons.mp h
      rw [ofPoints_cons]
      by_cases hsmall : c < 0x10000
      · obtain ⟨u, rfl, hunit⟩ := ofPoint_of_lt hsmall
        rw [hunit, List.singleton_append, points_cons, ih hps]
        intro v hv hhigh
        rw [Bool.eq_false_iff]
        intro hlow
        obtain ⟨d, hd, hdlow⟩ := isLowPoint_of_head_ofPoints hps.bounded hv hlow
        exact hhead d hd ((isHigh_iff u).mp hhigh) hdlow
      · obtain ⟨u, v, hu, hv, rfl, hpair⟩ := ofPoint_of_le (Nat.le_of_not_lt hsmall) hc
        rw [hpair, List.cons_append, List.singleton_append, points_pair hu hv, ih hps]

/-! ### Texts without surrogates that stand alone -/

/-- Every surrogate of the text is in a pair. Texts that come from strings of Unicode scalar values
are such. -/
def IsPaired (t : Text) : Prop := ∀ c ∈ t.points, ¬ (0xD800 ≤ c ∧ c ≤ 0xDFFF)

/-- A text whose surrogates are in pairs takes none from a text that follows. Its code points and
those of the other text are code points that a text can have, so they are read back. -/
theorem points_append {p : Text} (hp : p.IsPaired) (t : Text) :
    (p ++ t).points = p.points ++ t.points := by
  have hboth : IsPoints (p.points ++ t.points) := by
    refine ⟨?_, List.isChain_append.mpr ⟨(isPoints_points p).apart, (isPoints_points t).apart, ?_⟩⟩
    · intro c hc
      rcases List.mem_append.mp hc with hc | hc
      · exact (isPoints_points p).bounded c hc
      · exact (isPoints_points t).bounded c hc
    · -- At the border the first code point is no surrogate, so it is no half of a pair.
      intro c hc d _ hhigh
      have hscalar := hp c (List.mem_of_mem_getLast? hc)
      have hbounds : 0xD800 ≤ c ∧ c ≤ 0xDBFF := hhigh
      omega
  have hread := points_ofPoints hboth
  rw [ofPoints, List.flatMap_append, ← ofPoints, ← ofPoints, ofPoints_points,
    ofPoints_points] at hread
  exact hread

end FieldMask.Text
