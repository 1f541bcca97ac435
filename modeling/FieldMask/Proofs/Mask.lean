import Mathlib.Data.List.Forall2
import Mathlib.Data.List.TakeWhile
import FieldMask.Mask
import FieldMask.Proofs.Text.Point
import FieldMask.Proofs.Text.Words

/-!
# `FieldMask.Proofs.Mask`: what the masks make of a text

The masks count code points, so their laws are laws of code points. `Hides` says that a list of code
points is another one with some of them hidden behind stars. Hiding brings no two halves of a
surrogate pair together, so what is hidden is read back code point by code point (`points_tail`,
`points_digits`).

A mask changes nothing in what it made itself: `name_name`, `email_email` and `digits_digits`.
-/

set_option autoImplicit false

namespace FieldMask.Mask

/-! ### Hidden code points -/

/-- Each code point of the second list is that of the first one, or a star in its place. -/
abbrev Hides : List Nat → List Nat → Prop := List.Forall₂ fun c d => d = c ∨ d = star

/-- A star is no half of a surrogate pair, so no half next to it becomes part of one. -/
theorem not_surrogate_star : ¬ Text.IsHighPoint star ∧ ¬ Text.IsLowPoint star := by
  unfold Text.IsHighPoint Text.IsLowPoint star
  omega

/-- The code points of a text stay code points of a text when some are hidden: halves that stood
apart still do. -/
theorem Hides.isPoints {ps qs : List Nat} (h : Hides ps qs) (hps : Text.IsPoints ps) :
    Text.IsPoints qs := by
  induction h with
  | nil => exact hps
  | @cons c d cs ds hcd hrest ih =>
      obtain ⟨hc, hapart, hcs⟩ := Text.isPoints_cons.mp hps
      refine Text.isPoints_cons.mpr ⟨?_, ?_, ih hcs⟩
      · rcases hcd with rfl | rfl
        · exact hc
        · decide
      · intro e he hhigh hlow
        -- Neither neighbour is a star, so they were next to each other before.
        cases hrest with
        | nil => exact nomatch he
        | cons hnext _ =>
            obtain rfl := Option.some.inj he
            rcases hcd with rfl | rfl
            · rcases hnext with rfl | rfl
              · exact hapart _ rfl hhigh hlow
              · exact not_surrogate_star.2 hlow
            · exact not_surrogate_star.1 hhigh

/-- Hiding all but the first code point puts stars in the places of the others. -/
theorem hides_hideTail (ps : List Nat) : Hides ps (hideTail ps) := by
  cases ps with
  | nil => exact .nil
  | cons c ps =>
      have hstars : Hides ps (ps.map fun _ => star) :=
        List.forall₂_map_right_iff.mpr (List.forall₂_same.mpr fun _ _ => Or.inr rfl)
      exact .cons (Or.inl rfl) hstars

/-- What is hidden behind the first code point stays as it is when it is hidden again. -/
theorem hideTail_hideTail (ps : List Nat) : hideTail (hideTail ps) = hideTail ps := by
  cases ps with
  | nil => rfl
  | cons c ps => simp [hideTail]

/-- What is left of a hidden digit is no digit, and what was none is none. -/
theorem isDecimalDigit_hideDigit (c : Nat) : Unicode.isDecimalDigit (hideDigit c) = false := by
  -- It is either a star, which is no digit, or what was no digit before.
  have hstar : Unicode.isDecimalDigit star = false := by decide
  by_cases hc : Unicode.isDecimalDigit c = true
  · simp [hideDigit, hc, hstar]
  · simp [hideDigit, hc]

/-- What is no digit is not hidden. -/
theorem hideDigit_of_not_digit {c : Nat} (h : Unicode.isDecimalDigit c = false) :
    hideDigit c = c := by
  simp [hideDigit, h]

/-- Hiding a digit twice is hiding it once. -/
theorem hideDigit_hideDigit (c : Nat) : hideDigit (hideDigit c) = hideDigit c :=
  hideDigit_of_not_digit (isDecimalDigit_hideDigit c)

/-- The code points with the decimal digits before the last `keep` of them hidden. This is the mask
of digits on code points. -/
def hideFront (keep : Nat) (ps : List Nat) : List Nat :=
  (ps.take (ps.length - keep)).map hideDigit ++ ps.drop (ps.length - keep)

/-- Hiding digits puts stars in the places of some code points. -/
theorem hides_hideFront (keep : Nat) (ps : List Nat) : Hides ps (hideFront keep ps) := by
  have hfront : Hides (ps.take (ps.length - keep))
      ((ps.take (ps.length - keep)).map hideDigit) := by
    refine List.forall₂_map_right_iff.mpr (List.forall₂_same.mpr fun c _ => ?_)
    unfold hideDigit
    split
    · exact Or.inr rfl
    · exact Or.inl rfl
  have hlast : Hides (ps.drop (ps.length - keep)) (ps.drop (ps.length - keep)) :=
    List.forall₂_same.mpr fun _ _ => Or.inl rfl
  have hboth := List.rel_append hfront hlast
  simp only [List.take_append_drop] at hboth
  exact hboth

/-- The hidden part ends where the last `keep` code points begin. -/
theorem length_map_take (keep : Nat) (ps : List Nat) :
    ((ps.take (ps.length - keep)).map hideDigit).length = ps.length - keep := by
  simp

/-- Hiding digits keeps the number of code points, so the last `keep` of them are the same ones
afterwards. -/
theorem length_hideFront (keep : Nat) (ps : List Nat) : (hideFront keep ps).length = ps.length :=
  (hides_hideFront keep ps).length_eq.symm

/-- Only the digits before the last `keep` code points are hidden, each in its place. -/
theorem getElem?_hideFront (keep : Nat) (ps : List Nat) (i : Nat) :
    (hideFront keep ps)[i]?
      = ps[i]?.map fun c => if i < ps.length - keep then hideDigit c else c := by
  rw [hideFront, List.getElem?_append, length_map_take]
  by_cases hi : i < ps.length - keep
  · rw [if_pos hi, List.getElem?_map, List.getElem?_take_of_lt hi]
    simp only [hi, if_true]
  · simp [hi, List.getElem?_drop, show ps.length - keep + (i - (ps.length - keep)) = i by omega]

/-- No digit is left before the last `keep` code points. -/
theorem not_digit_of_mem_take_hideFront {keep : Nat} {ps : List Nat} {c : Nat}
    (h : c ∈ (hideFront keep ps).take (ps.length - keep)) : Unicode.isDecimalDigit c = false := by
  rw [hideFront, List.take_left' (length_map_take keep ps)] at h
  obtain ⟨d, -, rfl⟩ := List.mem_map.mp h
  exact isDecimalDigit_hideDigit d

/-- The last `keep` code points stay as they are. -/
theorem drop_hideFront (keep : Nat) (ps : List Nat) :
    (hideFront keep ps).drop (ps.length - keep) = ps.drop (ps.length - keep) := by
  rw [hideFront, List.drop_left' (length_map_take keep ps)]

/-- Hiding digits twice hides those that either turn hides, which are those before the fewer last
ones that are kept. -/
theorem hideFront_hideFront (j k : Nat) (ps : List Nat) :
    hideFront j (hideFront k ps) = hideFront (min j k) ps := by
  apply List.ext_getElem?
  intro i
  rw [getElem?_hideFront, getElem?_hideFront, getElem?_hideFront, length_hideFront, Option.map_map]
  congr 1
  funext c
  -- A place is hidden by the two turns together if it is before either of the two borders.
  by_cases hj : i < ps.length - j <;> by_cases hk : i < ps.length - k
  · simp [hj, hk, show i < ps.length - min j k by omega, hideDigit_hideDigit]
  · simp [hj, hk, show i < ps.length - min j k by omega]
  · simp [hj, hk, show i < ps.length - min j k by omega]
  · simp [hj, hk, show ¬ i < ps.length - min j k by omega]

/-! ### The code points of a masked text -/

/-- What is hidden behind the first code point is read back as stars, code point by code point. -/
theorem points_tail (t : Text) : (tail t).points = hideTail t.points :=
  Text.points_ofPoints ((hides_hideTail _).isPoints (Text.isPoints_points t))

/-- A text whose tail is hidden stays as it is when it is hidden again. -/
theorem tail_tail (t : Text) : tail (tail t) = tail t := by
  rw [tail, points_tail, hideTail_hideTail]
  rfl

/-- The mask of digits on code points, for texts of any length: a text that is not longer than what
is kept stays as it is. -/
theorem digits_eq (keep : Nat) (t : Text) :
    digits keep t = Text.ofPoints (hideFront keep t.points) := by
  unfold digits hideFront
  -- A short text is kept as it is, and the hidden part of its code points is empty.
  by_cases hshort : t.points.length ≤ keep
  · simp [hshort, Nat.sub_eq_zero_of_le hshort, Text.ofPoints_points]
  · simp [hshort]

/-- What the mask of digits leaves is read back code point by code point, with no new pairs of
surrogates in it. -/
theorem points_digits (keep : Nat) (t : Text) :
    (digits keep t).points = hideFront keep t.points := by
  rw [digits_eq]
  exact Text.points_ofPoints ((hides_hideFront keep _).isPoints (Text.isPoints_points t))

/-- Two masks of digits leave what both of them leave: of two masks the one that keeps less counts.
-/
theorem digits_digits_eq_min (j k : Nat) (t : Text) :
    digits j (digits k t) = digits (min j k) t := by
  rw [digits_eq, points_digits, hideFront_hideFront, digits_eq]

/-- Digits that were hidden are not hidden again, nor are any others. -/
theorem digits_digits (keep : Nat) (t : Text) : digits keep (digits keep t) = digits keep t := by
  rw [digits_digits_eq_min, Nat.min_self]

/-- What the masks of digits do to a text, whatever surrogates stand in it.

Of two masks, one after the other, the one that keeps less counts. A mask keeps the number of code
points, the last `keep` of them, and every other one in its place that is no decimal digit; before
the last `keep` it leaves stars in the places of the decimal digits, and so none of these. -/
theorem digits_laws (keep : Nat) (t : Text) :
    (∀ j, digits j (digits keep t) = digits (min j keep) t) ∧
    (digits keep t).points.length = t.points.length ∧
    (digits keep t).points.drop (t.points.length - keep)
      = t.points.drop (t.points.length - keep) ∧
    (∀ c ∈ (digits keep t).points.take (t.points.length - keep),
      Unicode.isDecimalDigit c = false) ∧
    (∀ i c : Nat, t.points[i]? = some c → Unicode.isDecimalDigit c = false →
      (digits keep t).points[i]? = some c) ∧
    ∀ i c : Nat, t.points[i]? = some c → i < t.points.length - keep →
      Unicode.isDecimalDigit c = true → (digits keep t).points[i]? = some star := by
  rw [points_digits]
  refine ⟨fun j => digits_digits_eq_min j keep t, length_hideFront keep _, drop_hideFront keep _,
    fun c => not_digit_of_mem_take_hideFront, ?_, ?_⟩
  · intro i c hc hdigit
    rw [getElem?_hideFront, hc, Option.map_some, hideDigit_of_not_digit hdigit, ite_self]
  · intro i c hc hi hdigit
    rw [getElem?_hideFront, hc, Option.map_some, if_pos hi, hideDigit, if_pos hdigit]

/-- A digit of two units, a digit between two halves that are no pair as long as it stands there,
and a last one. -/
def halvedText : Text := [0xD835, 0xDFCF, 0xD83D, 0x37, 0xDE00, 0x38]

/-- The stars come in place of the first two digits, and the halves stay apart. -/
theorem digits_laws_halvedText :
    digits 1 (digits 3 halvedText) = digits 1 halvedText ∧
    (digits 1 halvedText).points.length = 5 ∧
    (digits 1 halvedText).points[0]? = some star ∧
    (digits 1 halvedText).points[1]? = some 0xD83D ∧
    ∀ c ∈ (digits 1 halvedText).points.take 4, Unicode.isDecimalDigit c = false := by
  obtain ⟨hcompose, -⟩ := digits_laws 3 halvedText
  obtain ⟨-, hlength, -, hfront, hkept, hhidden⟩ := digits_laws 1 halvedText
  refine ⟨hcompose 1, hlength.trans (by decide), ?_, ?_, ?_⟩
  · exact hhidden 0 0x1D7CF (by decide) (by decide) (by decide)
  · exact hkept 1 0xD83D (by decide) (by decide)
  · intro c hc
    have hlast : halvedText.points.length - 1 = 4 := by decide
    rw [hlast] at hfront
    exact hfront c hc

/-! ### Words and mail addresses -/

/-- The unit of a star. -/
def starUnit : CodeUnit := 0x2A

/-- A text whose tail is hidden has no new units but stars. -/
theorem mem_tail {u : CodeUnit} {t : Text} (h : u ∈ tail t) : u ∈ t ∨ u = starUnit := by
  -- The units are those of the first code point, which is kept, and those of stars.
  have ht := Text.ofPoints_points t
  rw [tail] at h
  cases hps : t.points with
  | nil =>
      rw [hps] at h
      exact nomatch h
  | cons c ps =>
      rw [hps, Text.ofPoints_cons] at ht
      rw [hps, hideTail, Text.ofPoints_cons, List.mem_append] at h
      rcases h with h | h
      · rw [← ht]
        exact Or.inl (List.mem_append_left _ h)
      · obtain ⟨d, hd, hu⟩ := List.mem_flatMap.mp h
        obtain ⟨_, _, rfl⟩ := List.mem_map.mp hd
        exact Or.inr (List.mem_singleton.mp hu)

/-- What is left of a text that is not empty is not empty. -/
theorem tail_ne_nil {t : Text} (h : t ≠ []) : tail t ≠ [] := by
  intro hnil
  have hpoints := points_tail t
  rw [hnil] at hpoints
  have ht := Text.ofPoints_points t
  cases hps : t.points with
  | nil =>
      rw [hps] at ht
      exact h ht.symm
  | cons c ps =>
      rw [hps] at hpoints
      exact nomatch hpoints

/-- A word stays a word when its tail is hidden, since a star is no white space. -/
theorem isWord_tail {w : Text} (h : w.IsWord) : (tail w).IsWord where
  ne_nil := tail_ne_nil h.ne_nil
  noBlank := by
    intro u hu
    rcases mem_tail hu with hu | rfl
    · exact h.noBlank u hu
    · decide

/-- The words of a masked name are the words of the name with their tails hidden, in their order. -/
theorem words_name {t : Text} (h : ¬ t.isBlank = true) : (name t).words = t.words.map tail := by
  rw [name, if_neg h]
  refine Text.words_join fun w hw => ?_
  obtain ⟨v, hv, rfl⟩ := List.mem_map.mp hw
  exact isWord_tail (Text.isWord_of_mem_words hv)

/-- A masked name is not masked again: its words have nothing left to hide, and there is one space
between them already. -/
theorem name_name (t : Text) : name (name t) = name t := by
  by_cases hblank : (name t).isBlank = true
  · exact if_pos hblank
  · by_cases ht : t.isBlank = true
    · rw [name, if_neg hblank, name, if_pos ht]
      rw [name, if_pos ht] at hblank
      exact absurd ht hblank
    · rw [name, if_neg hblank, words_name ht, List.map_map]
      have htails : tail ∘ tail = tail := funext tail_tail
      rw [htails, name, if_neg ht]

/-- What stands before the first `@`, or all of a text without one. -/
def mailbox (t : Text) : Text := t.takeWhile (· != atSign)

/-- What stands from the first `@` on, or nothing. -/
def domain (t : Text) : Text := t.dropWhile (· != atSign)

/-- An `@` is in a text exactly when the part that starts with it is there. -/
theorem contains_atSign_iff (t : Text) : t.contains atSign = true ↔ domain t ≠ [] := by
  rw [domain, ne_eq, List.dropWhile_eq_nil_iff, List.contains_iff_mem]
  constructor
  · intro hmem hall
    have := hall atSign hmem
    simp at this
  · intro hsome
    by_contra hmem
    refine hsome fun u hu => ?_
    rw [bne_iff_ne]
    rintro rfl
    exact hmem hu

/-- How a mail address is masked, by its two parts: a text without a domain stays as it is, and so
does one with a mailbox of one code point at most. -/
theorem email_eq (t : Text) :
    email t = if domain t = [] ∨ (mailbox t).points.length < 2 then t
      else tail (mailbox t) ++ domain t := by
  unfold email
  by_cases hat : t.contains atSign = true
  · have hdomain := (contains_atSign_iff t).mp hat
    simp only [hat, if_true, hdomain, false_or]
    rfl
  · have hdomain : domain t = [] := by
      by_contra hdomain
      exact hat ((contains_atSign_iff t).mpr hdomain)
    rw [if_neg hat, if_pos (Or.inl hdomain)]

/-- Where no `@` comes before it, what starts with one is the domain, and what comes before it is
the mailbox. -/
theorem split_append {m d : Text} (hm : ∀ u ∈ m, (u != atSign) = true)
    (hd : d.head? = some atSign) : mailbox (m ++ d) = m ∧ domain (m ++ d) = d := by
  obtain ⟨rest, rfl⟩ := List.head?_eq_some_iff.mp hd
  rw [mailbox, domain, List.takeWhile_append_of_pos hm, List.dropWhile_append_of_pos hm]
  simp

/-- A domain starts with an `@`, if it is there at all. -/
theorem head?_domain {t : Text} (h : domain t ≠ []) : (domain t).head? = some atSign := by
  unfold domain at h ⊢
  have hhead := List.head_dropWhile_not (· != atSign) h
  rw [List.head?_eq_some_head h]
  simpa using hhead

/-- A masked mail address is not masked again: it has the same domain, and its mailbox has nothing
left to hide. -/
theorem email_email (t : Text) : email (email t) = email t := by
  rw [email_eq t]
  by_cases hkept : domain t = [] ∨ (mailbox t).points.length < 2
  · rw [if_pos hkept, email_eq, if_pos hkept]
  · rw [if_neg hkept]
    rw [not_or] at hkept
    -- The first `@` of the result is that of the address, so both parts are found again.
    obtain ⟨hmailbox, hdomain⟩ :=
        split_append (m := tail (mailbox t)) (d := domain t) (fun u hu => by
      rcases mem_tail hu with hu | rfl
      · unfold mailbox at hu
        exact List.mem_takeWhile_imp (p := (· != atSign)) hu
      · decide) (head?_domain hkept.1)
    have hlength : (tail (mailbox t)).points.length = (mailbox t).points.length := by
      rw [points_tail]
      exact (hides_hideTail _).length_eq.symm
    rw [email_eq, hmailbox, hdomain, hlength, if_neg (not_or.mpr hkept), tail_tail]

end FieldMask.Mask
