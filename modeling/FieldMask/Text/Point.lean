import FieldMask.Text.Basic

/-!
# `FieldMask.Text.Point`: text as code points

`Text.points` reads a text as Unicode code points. A high surrogate followed by a low surrogate
is one code point; a surrogate without its partner is a code point of its own. `Text.ofPoints`
writes code points back.

* `ofPoints_points`: writing the code points of a text gives the text.
-/

set_option autoImplicit false

namespace FieldMask.Text

/-- The first half of a surrogate pair. -/
def isHigh (u : CodeUnit) : Bool := 0xD800 ≤ u && u ≤ 0xDBFF

/-- The second half of a surrogate pair. -/
def isLow (u : CodeUnit) : Bool := 0xDC00 ≤ u && u ≤ 0xDFFF

/-- The code point that a surrogate pair stands for. -/
def pairPoint (high low : CodeUnit) : Nat :=
  0x10000 + (high.toNat - 0xD800) * 0x400 + (low.toNat - 0xDC00)

/-- The code points of a text. -/
def points : Text → List Nat
  | [] => []
  | [u] => [u.toNat]
  | u :: v :: rest =>
    if isHigh u && isLow v then pairPoint u v :: points rest
    else u.toNat :: points (v :: rest)

/-- The text with the given code points. -/
def ofPoints (ps : List Nat) : Text := ps.flatMap ofPoint

/-- A unit is written back as itself. -/
theorem ofPoint_toNat (u : CodeUnit) : ofPoint u.toNat = [u] := by
  have h : u.toNat < 0x10000 := u.toNat_lt
  simp [ofPoint, h]

/-- A surrogate pair is written back as itself. -/
theorem ofPoint_pairPoint {u v : CodeUnit} (hu : isHigh u = true) (hv : isLow v = true) :
    ofPoint (pairPoint u v) = [u, v] := by
  simp only [isHigh, isLow, Bool.and_eq_true, decide_eq_true_eq, UInt16.le_iff_toNat_le,
    UInt16.reduceToNat] at hu hv
  have h : ¬ pairPoint u v < 0x10000 := by unfold pairPoint; omega
  have hhigh : 0xD800 + (pairPoint u v - 0x10000) / 0x400 = u.toNat := by
    unfold pairPoint; omega
  have hlow : 0xDC00 + (pairPoint u v - 0x10000) % 0x400 = v.toNat := by
    unfold pairPoint; omega
  simp [ofPoint, h, hhigh, hlow]

/-- Writing the code points of a text gives the text. -/
theorem ofPoints_points (t : Text) : ofPoints (points t) = t := by
  fun_induction points t with
  | case1 => rfl
  | case2 u => simp [ofPoints, ofPoint_toNat]
  | case3 u v rest h ih =>
    rw [Bool.and_eq_true] at h
    simp only [ofPoints, List.flatMap_cons] at ih ⊢
    simp [ih, ofPoint_pairPoint h.1 h.2]
  | case4 u v rest _ ih =>
    simp only [ofPoints, List.flatMap_cons] at ih ⊢
    simp [ih, ofPoint_toNat]

end FieldMask.Text
