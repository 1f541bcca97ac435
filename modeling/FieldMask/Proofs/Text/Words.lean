import FieldMask.Text.Words

/-!
# `FieldMask.Proofs.Text.Words`: the words of a text

A word is a part of a text that is not empty and has no white space, `IsWord`. Every word that
`Text.words` lists is one (`isWord_of_mem_words`), white space between two texts separates their
words (`words_append_blank`), and words that are joined by spaces are found again (`words_join`).
-/

set_option autoImplicit false

namespace FieldMask.Text

/-- The text is not empty and has no white space. It is a judgment on the text alone, which the
function that lists words is measured against. -/
structure IsWord (w : Text) : Prop where
  ne_nil : w ≠ []
  noBlank : ∀ u ∈ w, Unicode.isBlank u = false

variable {p : CodeUnit → Bool}

/-! ### Cutting a text -/

/-- A unit that satisfies `p` cuts a text into what stands before and after it. The parts of the two
sides are the parts of the whole, in order. -/
theorem splitWhen_append_cons {u : CodeUnit} (hu : p u = true) (a b : Text) :
    splitWhen p (a ++ u :: b) = splitWhen p a ++ splitWhen p b := by
  induction a with
  | nil => simp [splitWhen, hu]
  | cons v a ih =>
      by_cases hv : p v = true
      · rw [List.cons_append, splitWhen, if_pos hv, ih, splitWhen, if_pos hv, List.cons_append]
      · rw [List.cons_append, splitWhen, if_neg hv, ih, splitWhen, if_neg hv]
        -- `v` joins the first part of `a`, which is there.
        cases hsplit : splitWhen p a with
        | nil => exact absurd hsplit (splitWhen_ne_nil p a)
        | cons part parts => rfl

/-- A text without a unit that satisfies `p` is not cut: it is its own only part. -/
theorem splitWhen_of_forall {t : Text} (h : ∀ u ∈ t, p u = false) : splitWhen p t = [t] := by
  induction t with
  | nil => rfl
  | cons u t ih =>
      have hu : ¬ p u = true := by simp [h u List.mem_cons_self]
      rw [splitWhen, if_neg hu, ih fun v hv => h v (List.mem_cons_of_mem _ hv)]

/-- No part of a cut text has a unit that satisfies `p`. The induction is on the text, where a unit
either opens a new part or joins the first one. -/
theorem not_mem_of_mem_splitWhen {t part : Text} (h : part ∈ splitWhen p t) :
    ∀ u ∈ part, p u = false := by
  induction t generalizing part with
  | nil =>
      rw [splitWhen, List.mem_singleton] at h
      subst h
      exact List.forall_mem_nil _
  | cons v t ih =>
      by_cases hv : p v = true
      · rw [splitWhen, if_pos hv] at h
        rcases List.mem_cons.mp h with rfl | h
        · exact List.forall_mem_nil _
        · exact ih h
      · rw [splitWhen, if_neg hv] at h
        cases hsplit : splitWhen p t with
        | nil => exact absurd hsplit (splitWhen_ne_nil p t)
        | cons first parts =>
            rw [hsplit] at h
            rcases List.mem_cons.mp h with rfl | h
            · exact List.forall_mem_cons.mpr
                ⟨by simpa using hv, ih (hsplit ▸ List.mem_cons_self)⟩
            · exact ih (hsplit ▸ List.mem_cons_of_mem _ h)

/-! ### Words -/

/-- What is listed as a word is one. The empty parts between two white spaces were left out, and no
part has white space in it. -/
theorem isWord_of_mem_words {t w : Text} (h : w ∈ t.words) : IsWord w := by
  obtain ⟨hmem, hne⟩ := List.mem_filter.mp h
  exact ⟨by simpa using hne, not_mem_of_mem_splitWhen hmem⟩

/-- White space separates the words before it from those after it, so words can be listed piece by
piece. -/
theorem words_append_blank {u : CodeUnit} (hu : Unicode.isBlank u = true) (a b : Text) :
    words (a ++ u :: b) = words a ++ words b := by
  rw [words, splitWhen_append_cons hu, List.filter_append]
  rfl

/-- A word is the only word of itself: nothing cuts it, and it is not empty. -/
theorem words_of_isWord {w : Text} (h : IsWord w) : words w = [w] := by
  rw [words, splitWhen_of_forall h.noBlank]
  simp [h.ne_nil]

/-- Words that are joined by spaces are found again. The proof joins one word at a time; the last
one has no space after it, which is why a single word is a case of its own. -/
theorem words_join {ws : List Text} (h : ∀ w ∈ ws, IsWord w) : words (join " " ws) = ws := by
  induction ws with
  | nil => rfl
  | cons w rest ih =>
      have hword := words_of_isWord (h w List.mem_cons_self)
      cases rest with
      | nil => exact hword
      | cons v rest =>
          have hspace : (" " : Text) = [0x20] := by decide
          have hrest := ih fun w hw => h w (List.mem_cons_of_mem _ hw)
          rw [join, hspace, List.append_assoc, List.singleton_append,
            words_append_blank (by decide), hword, ← hspace, hrest, List.singleton_append]
          exact nofun

end FieldMask.Text
