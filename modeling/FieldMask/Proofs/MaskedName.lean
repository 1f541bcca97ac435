import FieldMask.Proofs.Mask
import FieldMask.Proofs.Text.Padding

/-!
# `FieldMask.Proofs.MaskedName`: a name is masked word by word

`Text.HasWords` says what the words of a text are, without cutting it: they stand in the text one
after the other, with white space between neighbours and perhaps at both ends. Every text has words
in this sense, and they are the ones that `Text.words` lists (`hasWords_iff`). White space between
two texts keeps their words apart (`words_append_padding_append`), and white space around a text
adds none (`words_padded`).

So the mask of a name takes white space between texts to one space, takes no notice of white space
around a text, and makes of each word its first code point and as many stars as it has others
(`name_by_words`).
-/

set_option autoImplicit false

namespace FieldMask

namespace Text

/-! ### The words of a text -/

/-- The words stand in the text in this order, with white space between neighbours and perhaps at
both ends. Nothing is said of how they are found. -/
inductive HasWords : Text → List Text → Prop where
  /-- White space throughout. -/
  | none {v : Text} (hv : v.IsPadding) : HasWords v []
  /-- A first word, which ends where white space or nothing comes. -/
  | word {v w t : Text} {ws : List Text} (hv : v.IsPadding) (hw : w.IsWord)
      (hend : ∀ u ∈ t.head?, Unicode.isBlank u = true) (h : HasWords t ws) :
      HasWords (v ++ (w ++ t)) (w :: ws)

variable {v w : Text}

/-- Nothing at all is white space throughout. -/
theorem isPadding_nil : IsPadding [] := List.forall_mem_nil _

/-- Of white space every unit is blank, the first one and those after it. -/
theorem isPadding_cons {u : CodeUnit} :
    IsPadding (u :: w) ↔ Unicode.isBlank u = true ∧ w.IsPadding :=
  List.forall_mem_cons

/-- White space in front of a text adds no word. By induction on the white space. -/
theorem words_padding_append (hv : v.IsPadding) (t : Text) : words (v ++ t) = words t := by
  induction v with
  | nil => rfl
  | cons u v ih =>
      obtain ⟨hu, hv⟩ := isPadding_cons.mp hv
      have hfront : words ([] ++ u :: (v ++ t)) = words [] ++ words (v ++ t) :=
        words_append_blank hu [] (v ++ t)
      rw [List.cons_append, ← List.nil_append (u :: (v ++ t)), hfront, ih hv]
      rfl

/-- White space alone has no words. -/
theorem words_of_isPadding (hv : v.IsPadding) : words v = [] := by
  have h := words_padding_append hv []
  rwa [List.append_nil] at h

/-- White space between two texts keeps their words apart. By induction on the first text, as it is
cut into words. -/
theorem words_append_padding_append (hw : w.IsPadding) (hne : w ≠ []) (a b : Text) :
    words (a ++ (w ++ b)) = words a ++ words b := by
  cases w with
  | nil => exact absurd rfl hne
  | cons u w =>
      obtain ⟨hu, hw⟩ := isPadding_cons.mp hw
      rw [List.cons_append, words_append_blank hu, words_padding_append hw]

/-- White space around a text adds no word, whether there is some at both ends or not. -/
theorem words_padded (hv : v.IsPadding) (hw : w.IsPadding) (t : Text) :
    words (v ++ (t ++ w)) = words t := by
  rw [words_padding_append hv]
  by_cases hne : w = []
  · rw [hne, List.append_nil]
  · have h := words_append_padding_append hw hne t []
    rw [List.append_nil] at h
    rw [h]
    exact List.append_nil _

/-- The words of a text are those that are listed, so a text has its words in one way only. -/
theorem HasWords.words_eq {t : Text} {ws : List Text} (h : t.HasWords ws) : words t = ws := by
  induction h with
  | none hv => exact words_of_isPadding hv
  | @word v w t ws hv hw hend _ ih =>
      rw [words_padding_append hv]
      cases t with
      | nil =>
          rw [List.append_nil, words_of_isWord hw, ← ih]
          rfl
      | cons u t =>
          -- The unit behind the word is white space, so what follows has the words of the rest.
          have hu : Unicode.isBlank u = true := hend u rfl
          have hrest : words (u :: t) = words t :=
            words_padding_append (isPadding_cons.mpr ⟨hu, isPadding_nil⟩) t
          rw [words_append_blank hu, words_of_isWord hw, ← hrest, ih]
          rfl

/-- Every text has words. By induction on the text: one unit more in front is white space, a word of
its own, or it begins the first word. -/
theorem exists_hasWords (t : Text) : ∃ ws, t.HasWords ws := by
  induction t with
  | nil => exact ⟨[], .none isPadding_nil⟩
  | cons u t ih =>
      obtain ⟨ws, h⟩ := ih
      by_cases hu : Unicode.isBlank u = true
      · cases h with
        | none hv => exact ⟨[], .none (isPadding_cons.mpr ⟨hu, hv⟩)⟩
        | word hv hw hend h =>
            exact ⟨_, .word (v := u :: _) (isPadding_cons.mpr ⟨hu, hv⟩) hw hend h⟩
      · have hword : IsWord [u] :=
          ⟨List.cons_ne_nil u [], List.forall_mem_singleton.mpr (by simpa using hu)⟩
        -- The unit is no white space. It is a word of its own if white space or the end follows,
        -- and else it begins the first word of the rest.
        by_cases hend : ∀ b ∈ t.head?, Unicode.isBlank b = true
        · exact ⟨[u] :: ws, .word (v := []) isPadding_nil hword hend h⟩
        · cases h with
          | none hv =>
              exact absurd (fun b hb => hv b (List.mem_of_mem_head? hb)) hend
          | @word v w t ws hv hw hend' h =>
              cases v with
              | nil =>
                  have hlonger : IsWord (u :: w) :=
                    ⟨List.cons_ne_nil u w,
                      List.forall_mem_cons.mpr ⟨by simpa using hu, hw.noBlank⟩⟩
                  exact ⟨(u :: w) :: ws, .word (v := []) isPadding_nil hlonger hend' h⟩
              -- The rest does not begin with white space, so there is none before its first word.
              | cons b v =>
                  refine absurd ?_ hend
                  intro c hc
                  obtain rfl : b = c := Option.some.inj hc
                  exact (isPadding_cons.mp hv).1

/-- Every text has words, and they are those that are listed. So what is proved of the list holds of
the words. -/
theorem hasWords_iff {t : Text} {ws : List Text} : t.HasWords ws ↔ words t = ws := by
  constructor
  · exact HasWords.words_eq
  · rintro rfl
    obtain ⟨ws, h⟩ := exists_hasWords t
    rwa [h.words_eq]

/-- A text without words is white space throughout, which is what makes it blank. -/
theorem words_eq_nil_iff {t : Text} : words t = [] ↔ t.isBlank = true := by
  rw [← hasWords_iff]
  constructor
  · intro h
    cases h with
    | none hv => exact List.all_eq_true.mpr hv
  · intro h
    exact .none (List.all_eq_true.mp h)

/-- Two lists of parts that are joined have the separator between them, if there are parts on both
sides. -/
theorem join_append (separator : Text) {xs ys : List Text} (hxs : xs ≠ []) (hys : ys ≠ []) :
    join separator (xs ++ ys) = join separator xs ++ (separator ++ join separator ys) := by
  induction xs with
  | nil => exact absurd rfl hxs
  | cons x xs ih =>
      cases xs with
      | nil =>
          cases ys with
          | nil => exact absurd rfl hys
          | cons y ys =>
              show x ++ separator ++ join separator (y :: ys) = _
              rw [List.append_assoc]
              rfl
      | cons x' xs =>
          have hrest := ih (List.cons_ne_nil x' xs)
          show x ++ separator ++ join separator (x' :: xs ++ ys)
            = x ++ separator ++ join separator (x' :: xs) ++ _
          rw [hrest]
          simp only [List.append_assoc]

end Text

/-! ### The mask of a name -/

namespace Mask

open Text

/-- The second text is the first one masked: as many code points, of which the first one is the same
and the others are stars. -/
def MasksWord (w m : Text) : Prop :=
  ∃ c rest, w.points = c :: rest ∧ m.points = c :: List.replicate rest.length star

/-- Hiding the tail of a text that is not empty masks it as a word. -/
theorem masksWord_tail {w : Text} (hw : w ≠ []) : MasksWord w (tail w) := by
  have hwritten := ofPoints_points w
  cases hps : w.points with
  | nil =>
      rw [hps] at hwritten
      exact absurd hwritten.symm hw
  | cons c rest =>
      refine ⟨c, rest, hps, ?_⟩
      rw [points_tail, hps, hideTail, List.map_const']

/-- The mask of a text that is not blank, by its words: each with its tail hidden, and one space
between any two. -/
theorem name_eq_join {t : Text} (h : ¬ t.isBlank = true) : name t = join " " (t.words.map tail) :=
  if_neg h

/-- A text that is not blank has a word, so something is left of it. -/
theorem map_tail_words_ne_nil {t : Text} (h : ¬ t.isBlank = true) : t.words.map tail ≠ [] := by
  rw [ne_eq, List.map_eq_nil_iff, words_eq_nil_iff]
  exact h

/-- What the mask of a name does to white space and to words.

White space between two texts that are not blank becomes one space between what is made of each;
white space around one plays no part. A word becomes its first code point and as many stars as it
has other code points. So a text that is not blank becomes the masks of its words with single spaces
between them, and these are the words that it then has. -/
theorem name_by_words :
    (∀ a b w : Text, ¬ a.isBlank = true → ¬ b.isBlank = true → w ≠ [] → w.IsPadding →
      name (a ++ (w ++ b)) = name a ++ ((" " : Text) ++ name b)) ∧
    (∀ a v w : Text, ¬ a.isBlank = true → v.IsPadding → w.IsPadding →
      name (v ++ (a ++ w)) = name a) ∧
    (∀ t : Text, t.IsWord → MasksWord t (name t)) ∧
    ∀ t : Text, ¬ t.isBlank = true →
      ∃ ws ms, t.HasWords ws ∧ (name t).HasWords ms ∧ name t = join " " ms ∧
        List.Forall₂ MasksWord ws ms := by
  refine ⟨?between, ?around, ?word, ?text⟩
  case between =>
    intro a b w ha hb hne hw
    have hwords := words_append_padding_append hw hne a b
    have hblank : ¬ (a ++ (w ++ b)).isBlank = true := by
      rw [← words_eq_nil_iff, hwords, List.append_eq_nil_iff, words_eq_nil_iff]
      exact fun h => ha h.1
    rw [name_eq_join hblank, hwords, List.map_append, name_eq_join ha, name_eq_join hb,
      join_append _ (map_tail_words_ne_nil ha) (map_tail_words_ne_nil hb)]
  case around =>
    intro a v w ha hv hw
    have hwords := words_padded hv hw a
    have hblank : ¬ (v ++ (a ++ w)).isBlank = true := by
      rwa [← words_eq_nil_iff, hwords, words_eq_nil_iff]
    rw [name_eq_join hblank, hwords, name_eq_join ha]
  case word =>
    intro t ht
    have hwords := words_of_isWord ht
    have hblank : ¬ t.isBlank = true := by
      rw [← words_eq_nil_iff, hwords]
      exact List.cons_ne_nil t []
    rw [name_eq_join hblank, hwords]
    exact masksWord_tail ht.ne_nil
  case text =>
    intro t ht
    refine ⟨t.words, t.words.map tail, hasWords_iff.mpr rfl, hasWords_iff.mpr (words_name ht),
      name_eq_join ht, ?_⟩
    rw [List.forall₂_map_right_iff, List.forall₂_same]
    intro w hw
    exact masksWord_tail (isWord_of_mem_words hw).ne_nil

/-- A word that ends with the first half of a surrogate pair, and so with a code point of its own.
-/
def frontWord : Text := [0x41, 0xD83D]

/-- A word that begins with the second half, which would make a pair with the first if it stood next
to it. -/
def backWord : Text := [0xDE00, 0x42]

/-- A tab and an ideographic space, which is white space of two kinds. -/
def wideGap : Text := [0x09, 0x3000]

/-- The halves are in two words, so each of them counts as a code point. They stay apart, and the
white space between the words becomes a space. -/
theorem name_by_words_halves :
    ¬ frontWord.isBlank = true ∧ ¬ backWord.isBlank = true ∧ wideGap ≠ [] ∧ wideGap.IsPadding ∧
    frontWord.IsWord ∧
    name (frontWord ++ (wideGap ++ backWord))
      = name frontWord ++ ((" " : Text) ++ name backWord) ∧
    name (wideGap ++ (frontWord ++ wideGap)) = name frontWord ∧
    MasksWord frontWord (name frontWord) ∧
    ∃ ws ms, (frontWord ++ (wideGap ++ backWord)).HasWords ws ∧
      (name (frontWord ++ (wideGap ++ backWord))).HasWords ms ∧
      name (frontWord ++ (wideGap ++ backWord)) = join " " ms ∧ List.Forall₂ MasksWord ws ms := by
  have hfront : ¬ frontWord.isBlank = true := by decide
  have hback : ¬ backWord.isBlank = true := by decide
  have hboth : ¬ (frontWord ++ (wideGap ++ backWord)).isBlank = true := by decide
  have hgap : wideGap.IsPadding := by decide
  have hword : frontWord.IsWord := by
    refine ⟨List.cons_ne_nil _ _, fun u hu => ?_⟩
    simp only [frontWord, List.mem_cons, List.not_mem_nil, or_false] at hu
    rcases hu with rfl | rfl <;> rfl
  obtain ⟨hbetween, haround, hmasked, htext⟩ := name_by_words
  exact ⟨hfront, hback, by decide, hgap, hword, hbetween _ _ _ hfront hback (by decide) hgap,
    haround _ _ _ hfront hgap hgap, hmasked _ hword, htext _ hboth⟩

end Mask

end FieldMask
