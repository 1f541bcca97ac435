import FieldMask.Proofs.Json.Cursor
import FieldMask.Proofs.Result

/-!
# `FieldMask.Proofs.Json.NumberSpelling`: which texts spell a number

`IsNumber` is the grammar of a JSON number: a sign, a whole part without a leading zero, a fraction
and an exponent, of which only the whole part has to be there. `readNumber` accepts exactly these
texts and gives them back unit for unit:

* `isNumber_of_readNumber`: what it gives is such a text, and it is what stood ahead;
* `readNumber_of_spans`: it reads every such text that the next unit does not continue.
-/

set_option autoImplicit false

namespace FieldMask.Json

/-- One decimal digit or more. Where digits are asked for, at least one has to be there. -/
def IsDigits (ds : Text) : Prop := ds ≠ [] ∧ ∀ u ∈ ds, isDigit u = true

/-- The unit is a minus sign, which is the only sign that a number may start with. -/
def isMinus (u : CodeUnit) : Bool := u == 0x2D

/-- The unit is a sign. In an exponent both of them may stand. -/
def isSign (u : CodeUnit) : Bool := u == 0x2B || u == 0x2D

/-- The unit begins an exponent, in either case. -/
def isExponentMark (u : CodeUnit) : Bool := u == Text.unit 'e' || u == Text.unit 'E'

/-- At most one unit, which satisfies `p`: a sign that may be there or not. -/
def IsOptional (p : CodeUnit → Bool) (t : Text) : Prop := t = [] ∨ ∃ u, p u = true ∧ t = [u]

/-- A whole part: zero, or digits that do not start with zero. There is no number without one. -/
def IsWhole (t : Text) : Prop := t = [0x30] ∨ (IsDigits t ∧ t.head? ≠ some 0x30)

/-- A fraction, or nothing. After a point there has to be a digit. -/
def IsFraction (t : Text) : Prop := t = [] ∨ ∃ ds, IsDigits ds ∧ t = 0x2E :: ds

/-- An exponent, or nothing. After its mark and perhaps a sign there has to be a digit. -/
def IsExponent (t : Text) : Prop :=
  t = [] ∨ ∃ mark sign ds, isExponentMark mark = true ∧ IsOptional isSign sign ∧ IsDigits ds ∧
    t = [mark] ++ (sign ++ ds)

/-- The spelling of a number: its four parts in a row, of which only the whole part cannot be empty.
-/
def IsNumber (t : Text) : Prop :=
  ∃ sign whole fraction exponent, IsOptional isMinus sign ∧ IsWhole whole ∧
    IsFraction fraction ∧ IsExponent exponent ∧ t = sign ++ (whole ++ (fraction ++ exponent))

/-- The unit would continue a number, so a spelling that it follows is not read as it stands. -/
def continuesNumber (u : CodeUnit) : Bool := isDigit u || u == 0x2E || isExponentMark u

/-! ### How the parts start -/

/-- Digits start with a digit, as there is at least one. -/
theorem IsDigits.starts {ds : Text} (h : IsDigits ds) : Starts isDigit ds := by
  obtain ⟨hne, hall⟩ := h
  cases ds with
  | nil => exact absurd rfl hne
  | cons u ds => exact (starts_cons _ _ _).mpr (hall u List.mem_cons_self)

/-- A whole part is made of digits, be it zero or not. -/
theorem IsWhole.isDigits {t : Text} (h : IsWhole t) : IsDigits t := by
  rcases h with rfl | h
  · refine ⟨List.cons_ne_nil _ _, fun u hu => ?_⟩
    rw [List.mem_singleton.mp hu]
    rfl
  · exact h.1

/-- What begins an exponent is no digit and no point, so it cannot be taken for more of the part
before it. -/
theorem not_isDigit_of_isExponentMark {u : CodeUnit} (h : isExponentMark u = true) :
    isDigit u = false ∧ u ≠ 0x2E := by
  simp only [isExponentMark, Bool.or_eq_true, beq_iff_eq] at h
  rcases h with rfl | rfl <;> decide

/-- A digit is no sign, so it cannot be taken for one. -/
theorem not_isSign_of_isDigit {u : CodeUnit} (h : isDigit u = true) : isSign u = false := by
  simp only [isDigit, Bool.and_eq_true, decide_eq_true_eq, UInt16.le_iff_toNat_le] at h
  simp only [isSign, Bool.or_eq_false_iff, beq_eq_false_iff_ne, ne_eq, ← UInt16.toNat_inj]
  simp only [UInt16.reduceToNat] at h ⊢
  omega

/-! ### One part after the other -/

variable {start c d : Cursor}

/-- What is skipped as an optional unit is one, or nothing. -/
theorem spans_skipIf (p : CodeUnit → Bool) (c : Cursor) :
    ∃ part, IsOptional p part ∧ c.Spans part (skipIf p c) := by
  unfold skipIf
  split
  · next h =>
      obtain ⟨u, rest, hrest, hp⟩ := Starts.exists_cons h
      exact ⟨[u], Or.inr ⟨u, hp, rfl⟩, Cursor.spans_skip [u] hrest⟩
  · exact ⟨[], Or.inl rfl, Cursor.Spans.refl c⟩

/-- An optional unit is skipped where it stands. If it is not there, what follows must not look like
it. -/
theorem skipIf_of_spans {p : CodeUnit → Bool} {part : Text} (h : c.Spans part d)
    (hpart : IsOptional p part) (hd : ¬ Starts p d.ahead) : skipIf p c = d := by
  rcases hpart with rfl | ⟨u, hu, rfl⟩
  · rw [skipIf, h.eq_of_nil, if_neg hd]
  · rw [skipIf, if_pos (by rw [h.head]; simpa using hu)]
    exact h.eq_skip

/-- What is read as digits are digits, and it is what stood ahead. -/
theorem isDigits_of_readDigits (h : readDigits start c = .ok d) :
    ∃ ds, IsDigits ds ∧ c.Spans ds d := by
  unfold readDigits at h
  split at h
  · next hstarts =>
      cases h
      refine ⟨c.ahead.takeWhile isDigit, ⟨?_, fun u hu => ?_⟩, Cursor.spans_takeWhile isDigit c⟩
      · obtain ⟨u, rest, hrest, hp⟩ := Starts.exists_cons hstarts
        simp [hrest, hp]
      · exact List.mem_takeWhile_imp hu
  · exact nomatch h

/-- Digits are read to their end, if no digit follows them. -/
theorem readDigits_of_spans {ds : Text} (h : c.Spans ds d) (hds : IsDigits ds)
    (hd : ¬ Starts isDigit d.ahead) : readDigits start c = .ok d := by
  have hstarts : Starts isDigit c.ahead := by
    rw [h.ahead, starts_append _ hds.1]
    exact hds.starts
  rw [readDigits, if_pos hstarts, h.skip_takeWhile hds.2 hd]

/-- What is skipped as a whole part is one: after a zero the whole part is over. -/
theorem isWhole_of_skipWhole (h : Starts isDigit c.ahead) :
    ∃ whole, IsWhole whole ∧ c.Spans whole (skipWhole c) := by
  obtain ⟨u, rest, hrest, hp⟩ := Starts.exists_cons h
  unfold skipWhole
  split
  · next hzero =>
      obtain ⟨rest, hrest⟩ := List.head?_eq_some_iff.mp hzero
      exact ⟨[0x30], Or.inl rfl, Cursor.spans_skip [0x30] hrest⟩
  · next hzero =>
      refine ⟨c.ahead.takeWhile isDigit, Or.inr ⟨⟨?_, fun v hv => List.mem_takeWhile_imp hv⟩, ?_⟩,
        Cursor.spans_takeWhile isDigit c⟩
      · simp [hrest, hp]
      · rw [hrest, List.head?_cons] at hzero
        simpa [hrest, hp] using hzero

/-- A whole part is skipped to its end, if no digit follows it. -/
theorem skipWhole_of_spans {whole : Text} (h : c.Spans whole d) (hwhole : IsWhole whole)
    (hd : ¬ Starts isDigit d.ahead) : skipWhole c = d := by
  rcases hwhole with rfl | ⟨hds, hzero⟩
  · rw [skipWhole, if_pos (by rw [h.head]; rfl)]
    exact h.eq_skip
  · have hhead : c.ahead.head? ≠ some 0x30 := by
      cases whole with
      | nil => exact absurd rfl hds.1
      | cons u whole => simpa [h.ahead] using hzero
    rw [skipWhole, if_neg hhead, h.skip_takeWhile hds.2 hd]

/-- What is read as a fraction is one, or nothing if there is no point ahead. -/
theorem isFraction_of_readFraction (h : readFraction start c = .ok d) :
    ∃ fraction, IsFraction fraction ∧ c.Spans fraction d := by
  unfold readFraction at h
  split at h
  · next hpoint =>
      obtain ⟨rest, hrest⟩ := List.head?_eq_some_iff.mp hpoint
      obtain ⟨ds, hds, hspans⟩ := isDigits_of_readDigits h
      exact ⟨0x2E :: ds, Or.inr ⟨ds, hds, rfl⟩,
        (Cursor.spans_skip [0x2E] hrest).trans hspans⟩
  · cases h
    exact ⟨[], Or.inl rfl, Cursor.Spans.refl c⟩

/-- A fraction is read to its end, if neither a digit nor a point follows. A missing one must not be
followed by a point. -/
theorem readFraction_of_spans {fraction : Text} (h : c.Spans fraction d)
    (hfraction : IsFraction fraction)
    (hd : ¬ Starts (fun u => isDigit u || u == 0x2E) d.ahead) :
    readFraction start c = .ok d := by
  rcases hfraction with rfl | ⟨ds, hds, rfl⟩
  · have hhead : d.ahead.head? ≠ some 0x2E := fun hpoint =>
      hd (by rw [Starts, hpoint]; rfl)
    rw [readFraction, h.eq_of_nil, if_neg hhead]
  · obtain ⟨hpoint, hspans⟩ := Cursor.Spans.split (a := [0x2E]) h
    rw [readFraction, if_pos (by rw [h.ahead]; rfl)]
    exact readDigits_of_spans hspans hds fun hdigit => hd (hdigit.imp fun u hu => by simp [hu])

/-- What is read as an exponent is one, or nothing if there is no mark ahead. -/
theorem isExponent_of_readExponent (h : readExponent start c = .ok d) :
    ∃ exponent, IsExponent exponent ∧ c.Spans exponent d := by
  unfold readExponent at h
  split at h
  · next hmark =>
      obtain ⟨mark, rest, hrest, hp⟩ := Starts.exists_cons hmark
      obtain ⟨sign, hsign, hspansSign⟩ := spans_skipIf isSign (c.skip 1)
      obtain ⟨ds, hds, hspans⟩ := isDigits_of_readDigits h
      exact ⟨[mark] ++ (sign ++ ds), Or.inr ⟨mark, sign, ds, hp, hsign, hds, rfl⟩,
        (Cursor.spans_skip [mark] hrest).trans (hspansSign.trans hspans)⟩
  · cases h
    exact ⟨[], Or.inl rfl, Cursor.Spans.refl c⟩

/-- An exponent is read to its end, if nothing follows that would continue a number. -/
theorem readExponent_of_spans {exponent : Text} (h : c.Spans exponent d)
    (hexponent : IsExponent exponent) (hd : ¬ Starts continuesNumber d.ahead) :
    readExponent start c = .ok d := by
  have hdigit : ¬ Starts isDigit d.ahead := fun hdigit =>
    hd (hdigit.imp fun u hu => by simp [continuesNumber, hu])
  rcases hexponent with rfl | ⟨mark, sign, ds, hmark, hsign, hds, rfl⟩
  · have hhead : ¬ Starts isExponentMark d.ahead := fun hmark =>
      hd (hmark.imp fun u hu => by simp [continuesNumber, hu])
    rw [readExponent, h.eq_of_nil]
    exact if_neg hhead
  · obtain ⟨hone, hrest⟩ := h.split
    obtain ⟨hspansSign, hspans⟩ := hrest.split
    have hnext : ¬ Starts isSign ((c.skip 1).skip sign.length).ahead := by
      rw [show ((c.skip 1).skip sign.length).ahead = ds ++ d.ahead from hspans.ahead,
        starts_append _ hds.1]
      intro hsigned
      obtain ⟨u, rest, rfl, hu⟩ := hsigned.exists_cons
      rw [not_isSign_of_isDigit (hds.2 u List.mem_cons_self)] at hu
      exact nomatch hu
    have hskip : skipIf isSign (c.skip 1) = (c.skip 1).skip sign.length :=
      skipIf_of_spans hspansSign hsign hnext
    have hstarts : Starts isExponentMark c.ahead := by
      rw [h.ahead]
      exact (starts_cons _ _ _).mpr hmark
    exact (if_pos hstarts).trans
      ((congrArg (readDigits start) hskip).trans (readDigits_of_spans hspans hds hdigit))

/-! ### The whole number -/

/-- The number reader after the sign: a whole part has to follow, and then the other two parts are
read. -/
theorem readNumber_eq (c : Cursor) :
    readNumber c =
      if Starts isDigit (skipIf isMinus c).ahead then
        readFraction c (skipWhole (skipIf isMinus c)) >>= fun fraction =>
          readExponent c fraction >>= fun finish => .ok (c.upTo finish, finish)
      else .error (.digitExpected (c.upTo (skipIf isMinus c)) (skipIf isMinus c).found) := by
  unfold readNumber Starts
  change (if (!(skipIf isMinus c).ahead.head?.any isDigit) = true then _ else _) = _
  cases (skipIf isMinus c).ahead.head?.any isDigit <;> rfl

/-- What is read as a number spells one, and it is what stood ahead, unit for unit. -/
theorem isNumber_of_readNumber {t : Text} (h : readNumber c = .ok (t, d)) :
    IsNumber t ∧ c.Spans t d := by
  rw [readNumber_eq] at h
  split at h
  · next hstarts =>
      obtain ⟨m, hreadFraction, h⟩ := Result.bind_eq_ok_iff.mp h
      obtain ⟨finish, hreadExponent, h⟩ := Result.bind_eq_ok_iff.mp h
      obtain ⟨sign, hsign, hspansSign⟩ := spans_skipIf isMinus c
      obtain ⟨whole, hwhole, hspansWhole⟩ := isWhole_of_skipWhole hstarts
      obtain ⟨fraction, hfraction, hspansFraction⟩ := isFraction_of_readFraction hreadFraction
      obtain ⟨exponent, hexponent, hspansExponent⟩ := isExponent_of_readExponent hreadExponent
      have hspans :=
        hspansSign.trans (hspansWhole.trans (hspansFraction.trans hspansExponent))
      rw [hspans.upTo] at h
      cases h
      exact ⟨⟨sign, whole, fraction, exponent, hsign, hwhole, hfraction, hexponent, rfl⟩, hspans⟩
  · exact nomatch h

/-- An exponent starts with no digit and no point, and if it is missing, what follows it does not
either. -/
theorem IsExponent.not_starts {exponent rest : Text} (h : IsExponent exponent)
    (hrest : ¬ Starts continuesNumber rest) :
    ¬ Starts (fun u => isDigit u || u == 0x2E) (exponent ++ rest) := by
  rcases h with rfl | ⟨mark, sign, ds, hmark, hsign, hds, rfl⟩
  · exact fun hstarts => hrest (hstarts.imp fun u hu => by simp [continuesNumber, hu])
  · obtain ⟨hdigit, hpoint⟩ := not_isDigit_of_isExponentMark hmark
    simp [Starts, hdigit, hpoint]

/-- A fraction and what follows it start with no digit, so the whole part before them ends there. -/
theorem IsFraction.not_starts {fraction rest : Text} (h : IsFraction fraction)
    (hrest : ¬ Starts (fun u => isDigit u || u == 0x2E) rest) :
    ¬ Starts isDigit (fraction ++ rest) := by
  rcases h with rfl | ⟨ds, hds, rfl⟩
  · exact fun hstarts => hrest (hstarts.imp fun u hu => by simp [hu])
  · rw [List.cons_append, starts_cons]
    decide

/-- Every spelling of a number is read as it stands, if nothing continues it. The parts are read one
after the other, each up to where the next one starts. -/
theorem readNumber_of_spans {t : Text} (h : c.Spans t d) (ht : IsNumber t)
    (hd : ¬ Starts continuesNumber d.ahead) : readNumber c = .ok (t, d) := by
  obtain ⟨sign, whole, fraction, exponent, hsign, hwhole, hfraction, hexponent, rfl⟩ := ht
  have hspans := h
  obtain ⟨hspansSign, h⟩ := h.split
  obtain ⟨hspansWhole, h⟩ := h.split
  obtain ⟨hspansFraction, hspansExponent⟩ := h.split
  -- What each part is followed by cannot be taken for more of it.
  have hnextFraction := hexponent.not_starts hd
  rw [← hspansExponent.ahead] at hnextFraction
  have hnextWhole := hfraction.not_starts hnextFraction
  rw [← hspansFraction.ahead] at hnextWhole
  have hdigit : Starts isDigit (c.skip sign.length).ahead := by
    rw [hspansWhole.ahead, starts_append _ hwhole.isDigits.1]
    exact hwhole.isDigits.starts
  have hnextSign : ¬ Starts isMinus (c.skip sign.length).ahead := by
    obtain ⟨u, rest, hrest, hu⟩ := hdigit.exists_cons
    rw [hrest, starts_cons]
    intro hminus
    have := not_isSign_of_isDigit hu
    simp_all [isMinus, isSign]
  rw [readNumber_eq, skipIf_of_spans hspansSign hsign hnextSign, if_pos hdigit,
    skipWhole_of_spans hspansWhole hwhole hnextWhole,
    readFraction_of_spans hspansFraction hfraction hnextFraction]
  exact Result.bind_eq_ok_iff.mpr
    ⟨_, rfl, Result.bind_eq_ok_iff.mpr
      ⟨d, readExponent_of_spans hspansExponent hexponent hd, by rw [hspans.upTo]⟩⟩

/-- A number starts with a minus sign or a digit. By that the reader of values knows it. -/
theorem IsNumber.starts {t : Text} (h : IsNumber t) :
    Starts (fun u => u == 0x2D || isDigit u) t := by
  obtain ⟨sign, whole, fraction, exponent, hsign, hwhole, hfraction, hexponent, rfl⟩ := h
  -- The sign may be missing, the whole part may not.
  rcases hsign with rfl | ⟨u, hu, rfl⟩
  · rw [List.nil_append, starts_append _ hwhole.isDigits.1]
    exact hwhole.isDigits.starts.imp fun u hu => by simp [hu]
  · rw [List.singleton_append, starts_cons]
    simp only [isMinus] at hu
    simp [hu]

end FieldMask.Json
