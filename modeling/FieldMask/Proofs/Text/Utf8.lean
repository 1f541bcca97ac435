import FieldMask.Proofs.Text.Point
import FieldMask.Text.Utf8

/-!
# `FieldMask.Proofs.Text.Utf8`: which bytes survive being read and written

A scalar value is a code point that is no half of a surrogate pair, and bytes are UTF-8 if they are
what some scalar values are written as, one after the other. The decoder takes the bytes of a scalar
value one by one and gives its units with the last of them (`decodeFrom_encodePoint`), so UTF-8 is
read as the scalar values that it stands for.

What is written for a text is always UTF-8 (`isUtf8_encode`). Bytes are therefore written back as
they were read exactly when they are UTF-8 (`encode_decode_eq_iff`). The other way round, a text is
read back from what is written for it if every surrogate in it is in a pair (`decode_encode`).
-/

set_option autoImplicit false

namespace FieldMask.Utf8

/-- The code point is a Unicode scalar value. Only these can be written in UTF-8. -/
structure IsScalar (c : Nat) : Prop where
  bounded : c < 0x110000
  notSurrogate : ¬ (0xD800 ≤ c ∧ c ≤ 0xDFFF)

/-- The bytes are UTF-8: they are written for scalar values, one after the other. This is said by
the encoder alone, so the decoder can be measured against it. -/
def IsUtf8 (bytes : Bytes) : Prop :=
  ∃ cs : List Nat, (∀ c ∈ cs, IsScalar c) ∧ bytes = cs.flatMap encodePoint

/-! ### The decoder, byte by byte -/

/-- Decoding takes one byte at a time: a byte gives some units and the state for the bytes after it.
-/
theorem decodeFrom_cons (s : State) (b : UInt8) (rest : Bytes) :
    decodeFrom s (b :: rest) = (step s b).1 ++ decodeFrom (step s b).2 rest := by
  cases s <;> rfl

/-- A continuation byte is 0x80 and six bits of the number, from the place of the shift on. -/
theorem toNat_continuation (n shift : Nat) :
    (continuation n shift).toNat = 0x80 + (n >>> shift) % 0x40 := by
  rw [continuation, UInt8.toNat_ofNat', Nat.mod_eq_of_lt (by omega)]

/-- The continuation bytes that the encoder writes are within the widest bounds, which the decoder
has for every such byte but the first one. -/
theorem continuation_bounds (n shift : Nat) :
    0x80 ≤ continuation n shift ∧ continuation n shift ≤ 0xBF := by
  rw [UInt8.le_iff_toNat_le, UInt8.le_iff_toNat_le, toNat_continuation]
  simp only [UInt8.reduceToNat]
  omega

section

variable {low high : UInt8} {n shift : Nat} (value : Nat)

/-- A continuation byte within the bounds adds its six bits to the value. More bytes are owed, and
the bounds for them are the widest ones. -/
theorem decodeFrom_more (owed : Nat) (hlow : low ≤ continuation n shift)
    (hhigh : continuation n shift ≤ high) (rest : Bytes) :
    decodeFrom (.inside (owed + 2) low high value) (continuation n shift :: rest)
      = decodeFrom (.inside (owed + 1) 0x80 0xBF (value * 0x40 + (n >>> shift) % 0x40)) rest := by
  rw [decodeFrom_cons, step, if_pos (by simp [hlow, hhigh]), if_neg (by omega),
    toNat_continuation, Nat.add_sub_cancel_left]
  rfl

/-- The last continuation byte completes the character, and decoding starts again behind it. -/
theorem decodeFrom_last (hlow : low ≤ continuation n shift) (hhigh : continuation n shift ≤ high)
    (rest : Bytes) :
    decodeFrom (.inside 1 low high value) (continuation n shift :: rest)
      = Text.ofPoint (value * 0x40 + (n >>> shift) % 0x40) ++ decodeFrom .start rest := by
  rw [decodeFrom_cons, step, if_pos (by simp [hlow, hhigh]), if_pos (Nat.le_refl 1),
    toNat_continuation, Nat.add_sub_cancel_left]

end

/-- A byte below `0x80` is a character by itself. Checked for each of them. -/
theorem begin_one : ∀ n < 0x80, begin (UInt8.ofNat n) = ([UInt16.ofNat n], .start) := by
  decide

/-- The first of two bytes. The two lowest values are left out: they would be longer spellings of
small characters. -/
theorem begin_two : ∀ n < 0x20, 2 ≤ n →
    begin (UInt8.ofNat (0xC0 + n)) = ([], .inside 1 0x80 0xBF n) := by
  decide

/-- The first of three bytes. The bounds of the next one rule out shorter spellings and
surrogates. -/
theorem begin_three : ∀ n < 0x10,
    begin (UInt8.ofNat (0xE0 + n))
      = ([], .inside 2 (if n = 0 then 0xA0 else 0x80) (if n = 0xD then 0x9F else 0xBF) n) := by
  decide

/-- The first of four bytes. The bounds of the next one rule out shorter spellings and numbers that
are no code points. -/
theorem begin_four : ∀ n < 5,
    begin (UInt8.ofNat (0xF0 + n))
      = ([], .inside 3 (if n = 0 then 0x90 else 0x80) (if n = 4 then 0x8F else 0xBF) n) := by
  decide

/-! ### Scalar values -/

section

variable {c : Nat} (rest : Bytes)

/-- A code point from 0x80 on and below 0x800 is read from its two bytes: five bits in the first one
and six in the second. -/
theorem decodeFrom_two (hlow : 0x80 ≤ c) (hhigh : c < 0x800) :
    decodeFrom .start (UInt8.ofNat (0xC0 + c >>> 6) :: continuation c 0 :: rest)
      = Text.ofPoint c ++ decodeFrom .start rest := by
  have hshift : c >>> 6 = c / 0x40 := Nat.shiftRight_eq_div_pow c 6
  have hbegin := begin_two (c >>> 6) (by omega) (by omega)
  have hvalue : c >>> 6 * 0x40 + c >>> 0 % 0x40 = c := by
    -- The five bits and the six bits are the quotient and the remainder by 0x40.
    rw [hshift, Nat.shiftRight_zero]
    omega
  rw [decodeFrom_cons, step, hbegin,
    decodeFrom_last _ (continuation_bounds c 0).1 (continuation_bounds c 0).2, hvalue]
  rfl

/-- A code point from 0x800 on and below 0x10000 that is no surrogate is read from its three bytes.
The bounds of the second byte are narrower for two values of the first one. -/
theorem decodeFrom_three (hlow : 0x800 ≤ c) (hhigh : c < 0x10000)
    (hscalar : ¬ (0xD800 ≤ c ∧ c ≤ 0xDFFF)) :
    decodeFrom .start
        (UInt8.ofNat (0xE0 + c >>> 12) :: continuation c 6 :: continuation c 0 :: rest)
      = Text.ofPoint c ++ decodeFrom .start rest := by
  have hsix : c >>> 6 = c / 0x40 := Nat.shiftRight_eq_div_pow c 6
  have htwelve : c >>> 12 = c / 0x1000 := Nat.shiftRight_eq_div_pow c 12
  have hbegin := begin_three (c >>> 12) (by omega)
  have hvalue : (c >>> 12 * 0x40 + c >>> 6 % 0x40) * 0x40 + c >>> 0 % 0x40 = c := by
    rw [hsix, htwelve, Nat.shiftRight_zero]
    omega
  -- The bounds of the second byte hold since the code point is large and no surrogate.
  have hsecond : (if c >>> 12 = 0 then 0xA0 else 0x80) ≤ continuation c 6 := by
    split
    · rw [UInt8.le_iff_toNat_le, toNat_continuation]
      simp only [UInt8.reduceToNat]
      omega
    · exact (continuation_bounds c 6).1
  have hsecond' : continuation c 6 ≤ (if c >>> 12 = 0xD then 0x9F else 0xBF) := by
    split
    · rw [UInt8.le_iff_toNat_le, toNat_continuation]
      simp only [UInt8.reduceToNat]
      omega
    · exact (continuation_bounds c 6).2
  rw [decodeFrom_cons, step, hbegin, decodeFrom_more _ 0 hsecond hsecond',
    decodeFrom_last _ (continuation_bounds c 0).1 (continuation_bounds c 0).2, hvalue]
  rfl

/-- A code point from 0x10000 on is read from its four bytes. Again the second byte is the one with
narrower bounds. -/
theorem decodeFrom_four (hlow : 0x10000 ≤ c) (hhigh : c < 0x110000) :
    decodeFrom .start (UInt8.ofNat (0xF0 + c >>> 18) :: continuation c 12 :: continuation c 6 ::
        continuation c 0 :: rest)
      = Text.ofPoint c ++ decodeFrom .start rest := by
  have hsix : c >>> 6 = c / 0x40 := Nat.shiftRight_eq_div_pow c 6
  have htwelve : c >>> 12 = c / 0x1000 := Nat.shiftRight_eq_div_pow c 12
  have heighteen : c >>> 18 = c / 0x40000 := Nat.shiftRight_eq_div_pow c 18
  have hbegin := begin_four (c >>> 18) (by omega)
  have hvalue : ((c >>> 18 * 0x40 + c >>> 12 % 0x40) * 0x40 + c >>> 6 % 0x40) * 0x40
      + c >>> 0 % 0x40 = c := by
    rw [hsix, htwelve, heighteen, Nat.shiftRight_zero]
    omega
  -- The bounds of the second byte hold since the number is large and a code point.
  have hsecond : (if c >>> 18 = 0 then 0x90 else 0x80) ≤ continuation c 12 := by
    split
    · rw [UInt8.le_iff_toNat_le, toNat_continuation]
      simp only [UInt8.reduceToNat]
      omega
    · exact (continuation_bounds c 12).1
  have hsecond' : continuation c 12 ≤ (if c >>> 18 = 4 then 0x8F else 0xBF) := by
    split
    · rw [UInt8.le_iff_toNat_le, toNat_continuation]
      simp only [UInt8.reduceToNat]
      omega
    · exact (continuation_bounds c 12).2
  rw [decodeFrom_cons, step, hbegin, decodeFrom_more _ 1 hsecond hsecond',
    decodeFrom_more _ 0 (continuation_bounds c 6).1 (continuation_bounds c 6).2,
    decodeFrom_last _ (continuation_bounds c 0).1 (continuation_bounds c 0).2, hvalue]
  rfl

/-- The bytes of a scalar value are read as its units, whatever comes after them. The cases are
those of the encoder, by the number of bytes; a surrogate, for which it writes something else, is
not among them. -/
theorem decodeFrom_encodePoint (hc : IsScalar c) :
    decodeFrom .start (encodePoint c ++ rest) = Text.ofPoint c ++ decodeFrom .start rest := by
  obtain ⟨hbounded, hscalar⟩ := hc
  unfold encodePoint
  by_cases hone : c < 0x80
  · rw [if_pos hone, List.singleton_append, decodeFrom_cons, step, begin_one c hone, Text.ofPoint,
      if_pos (by omega)]
  · rw [if_neg hone]
    by_cases htwo : c < 0x800
    · rw [if_pos htwo]
      exact decodeFrom_two rest (by omega) htwo
    · rw [if_neg htwo, if_neg (by simpa using hscalar)]
      by_cases hthree : c < 0x10000
      · rw [if_pos hthree]
        exact decodeFrom_three rest (by omega) hthree hscalar
      · rw [if_neg hthree]
        exact decodeFrom_four rest (by omega) hbounded

end

/-! ### Whole texts -/

/-- What is written for scalar values is read as their units. The decoder is back at its start after
each of them, so the induction is on the values. -/
theorem decode_flatMap_encodePoint {cs : List Nat} (hcs : ∀ c ∈ cs, IsScalar c) :
    decode (cs.flatMap encodePoint) = Text.ofPoints cs := by
  induction cs with
  | nil => rfl
  | cons c cs ih =>
      obtain ⟨hc, hrest⟩ := List.forall_mem_cons.mp hcs
      unfold decode at ih ⊢
      rw [List.flatMap_cons, decodeFrom_encodePoint _ hc, ih hrest, Text.ofPoints_cons]

/-- Scalar values are the code points of a text: none of them is half of a pair, so no two of them
are read as one. -/
theorem isPoints_of_isScalar {cs : List Nat} (hcs : ∀ c ∈ cs, IsScalar c) : Text.IsPoints cs := by
  induction cs with
  | nil => exact Text.isPoints_nil
  | cons c cs ih =>
      obtain ⟨hc, hrest⟩ := List.forall_mem_cons.mp hcs
      refine Text.isPoints_cons.mpr ⟨hc.bounded, ?_, ih hrest⟩
      intro d _ hhigh
      have hsurrogate : 0xD800 ≤ c ∧ c ≤ 0xDFFF := by
        have hbounds : 0xD800 ≤ c ∧ c ≤ 0xDBFF := hhigh
        omega
      exact absurd hsurrogate hc.notSurrogate

/-- The scalar value that is written for a code point: the code point itself or, for a surrogate
that stands alone, the replacement character. -/
def scalarFor (c : Nat) : Nat := if 0xD800 ≤ c ∧ c ≤ 0xDFFF then replacement.toNat else c

/-- A surrogate is written as the replacement character, and so in the bytes of another code point.
-/
theorem encodePoint_of_surrogate {c : Nat} (h : 0xD800 ≤ c ∧ c ≤ 0xDFFF) :
    encodePoint c = encodePoint replacement.toNat := by
  rw [encodePoint, if_neg (by omega), if_neg (by omega), if_pos (by simpa using h)]
  decide

/-- A code point is written like the scalar value that is written for it. So every text is written
like one of scalar values only. -/
theorem encodePoint_scalarFor (c : Nat) : encodePoint (scalarFor c) = encodePoint c := by
  unfold scalarFor
  split
  · next hsurrogate => exact (encodePoint_of_surrogate hsurrogate).symm
  · rfl

/-- What is written for a code point is a scalar value. -/
theorem isScalar_scalarFor {c : Nat} (hc : c < 0x110000) : IsScalar (scalarFor c) := by
  unfold scalarFor
  split
  · exact ⟨by decide, by decide⟩
  · next hscalar => exact ⟨hc, hscalar⟩

/-- What is written for a text is UTF-8, for every text: lone surrogates are written as the
replacement character. -/
theorem isUtf8_encode (t : Text) : IsUtf8 (encode t) := by
  refine ⟨t.points.map scalarFor, ?_, ?_⟩
  · intro c hc
    obtain ⟨d, hd, rfl⟩ := List.mem_map.mp hc
    exact isScalar_scalarFor ((Text.isPoints_points t).bounded d hd)
  · rw [encode, List.flatMap_map]
    simp only [encodePoint_scalarFor]

/-- Bytes are written back as they were read exactly when they are UTF-8. From left to right, what
is written is UTF-8 in any case; from right to left, the scalar values are read and written again.
-/
theorem encode_decode_eq_iff (bytes : Bytes) : encode (decode bytes) = bytes ↔ IsUtf8 bytes := by
  constructor
  · intro h
    rw [← h]
    exact isUtf8_encode _
  · rintro ⟨cs, hcs, rfl⟩
    rw [decode_flatMap_encodePoint hcs, encode, Text.points_ofPoints (isPoints_of_isScalar hcs)]

/-- A text in which every surrogate is in a pair is read back from what is written for it. Its code
points are scalar values then. -/
theorem decode_encode {t : Text} (ht : t.IsPaired) : decode (encode t) = t := by
  have hscalar : ∀ c ∈ t.points, IsScalar c := by
    intro c hc
    exact ⟨(Text.isPoints_points t).bounded c hc, ht c hc⟩
  rw [encode, decode_flatMap_encodePoint hscalar, Text.ofPoints_points]

/-- Parts in which every surrogate is in a pair are written one after the other. Otherwise a pair
could be split between two parts, and its halves would be written as two replacement characters. -/
theorem encode_flatten {parts : List Text} (hparts : ∀ p ∈ parts, p.IsPaired) :
    encode parts.flatten = parts.flatMap encode := by
  induction parts with
  | nil => rfl
  | cons p parts ih =>
      obtain ⟨hp, hrest⟩ := List.forall_mem_cons.mp hparts
      have happend : encode (p ++ parts.flatten) = encode p ++ encode parts.flatten := by
        unfold encode
        rw [Text.points_append hp, List.flatMap_append]
      rw [List.flatten_cons, happend, ih hrest, List.flatMap_cons]

end FieldMask.Utf8
