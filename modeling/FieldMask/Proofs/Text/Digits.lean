import FieldMask.Proofs.Text.Point

/-!
# `FieldMask.Proofs.Text.Digits`: numbers in a text

A number is written in its decimal digits. `ofNat_append_space_inj` says that the number can be read
out of a longer text, if a space comes after it.
-/

set_option autoImplicit false

namespace FieldMask.Text

/-- A digit has a unit of its own, from which it is read back, and this unit is no space. Both are
facts about the ten ASCII digits. -/
theorem toNat_unit_of_isDigit {c : Char} (h : c.isDigit = true) :
    (UInt16.ofNat c.toNat).toNat = c.toNat ∧ UInt16.ofNat c.toNat ≠ 0x20 := by
  have hdigit : 0x30 ≤ c.toNat ∧ c.toNat ≤ 0x39 := Char.isDigit_iff_toNat.mp h
  have hunit : (UInt16.ofNat c.toNat).toNat = c.toNat := toNat_ofNat_of_lt (by omega)
  refine ⟨hunit, ?_⟩
  intro hspace
  rw [hspace] at hunit
  have hcode : c.toNat = 0x20 := hunit.symm
  omega

/-- In base ten a number has decimal digits only; the library says so for every base up to ten. -/
theorem isDigit_of_mem_toDigits {n : Nat} {c : Char} (h : c ∈ Nat.toDigits 10 n) :
    c.isDigit = true :=
  Nat.isDigit_of_mem_toDigits (by decide) (by decide) h

/-- A number is written with one unit for each of its digits. A digit lies far below 0x10000, so no
code point of the wording takes a surrogate pair. -/
theorem ofNat_eq_map (n : Nat) :
    ofNat n = (Nat.toDigits 10 n).map fun c => UInt16.ofNat c.toNat := by
  have hdigits : ∀ cs : List Char, (∀ c ∈ cs, c.isDigit = true) →
      cs.flatMap (fun c => ofPoint c.toNat) = cs.map fun c => UInt16.ofNat c.toNat := by
    intro cs hcs
    induction cs with
    | nil => rfl
    | cons c rest ih =>
        obtain ⟨hc, hrest⟩ := List.forall_mem_cons.mp hcs
        have hdigit : 0x30 ≤ c.toNat ∧ c.toNat ≤ 0x39 := Char.isDigit_iff_toNat.mp hc
        rw [List.flatMap_cons, List.map_cons, ih hrest, ofPoint, if_pos (by omega)]
        rfl
  rw [ofNat, ofString, Nat.toString_eq_repr, Nat.toList_repr]
  exact hdigits _ fun c hc => isDigit_of_mem_toDigits hc

/-- Two numbers that are written in the same way are equal. The digits are read back from the units,
and the number from its digits. -/
theorem ofNat_inj {m n : Nat} (h : ofNat m = ofNat n) : m = n := by
  have hread : ∀ k, (ofNat k).map (fun u => Char.ofNat u.toNat) = Nat.toDigits 10 k := by
    intro k
    rw [ofNat_eq_map, List.map_map]
    refine (List.map_congr_left fun c hc => ?_).trans (List.map_id _)
    show Char.ofNat (UInt16.ofNat c.toNat).toNat = c
    rw [(toNat_unit_of_isDigit (isDigit_of_mem_toDigits hc)).1, Char.ofNat_toNat]
  have hdigits : Nat.toDigits 10 m = Nat.toDigits 10 n := by rw [← hread, h, hread]
  rw [← Nat.ofDigitChars_ten_toDigits (n := m), hdigits, Nat.ofDigitChars_ten_toDigits]

/-- A space ends the digits of a number, so the number can be read out of a longer text: what stands
before the first space is the number, as it is written. -/
theorem ofNat_append_space_inj {m n : Nat} {s t : Text}
    (h : ofNat m ++ 0x20 :: s = ofNat n ++ 0x20 :: t) : m = n := by
  have htake : ∀ k (rest : Text), (ofNat k ++ 0x20 :: rest).takeWhile (· != 0x20) = ofNat k := by
    intro k rest
    rw [List.takeWhile_append_of_pos]
    · rw [List.takeWhile_cons, if_neg (by simp), List.append_nil]
    · intro u hu
      rw [ofNat_eq_map] at hu
      obtain ⟨c, hc, rfl⟩ := List.mem_map.mp hu
      exact bne_iff_ne.mpr (toNat_unit_of_isDigit (isDigit_of_mem_toDigits hc)).2
  have hsame := htake m s
  rw [h, htake] at hsame
  exact ofNat_inj hsame.symm

end FieldMask.Text
