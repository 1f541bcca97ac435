import FieldMask.Proofs.Config.Reading

/-!
# `FieldMask.Proofs.Config.Acceptance`: which texts are read

Comments and commas are taken out of a text before it is read as JSON. That could make JSON out of a
text that is far from it, and it does not: what is read with them taken out is `Loose`, and it is
read as the tree that it spells (`accepts_iff`).

The scan runs forwards, and the proof goes backwards over it. `Step` says all that it can do with
the start of a text, by what comes out. From it each token that comes out is found in the text:
white space was a gap, or a gap around a comma if a closing bracket follows (`gap_of_strip`,
`closing_of_strip`); any other unit was there as it is (`head_of_strip`). So plain JSON that comes
out was a loose spelling of the same tree, by induction on the tree (`loose_of_strip`).

A loose spelling is one of the grammar without commas in empty containers, unless there is such a
comma in it (`spells_or_hollow`).
-/

set_option autoImplicit false

namespace FieldMask.Config

open Json (Cursor IsSpaces SpellsUnits)

/-! ### One step of the scan, by what comes out -/

/-- What the scan makes of a text outside strings, as far as its first unit or its first comment
goes. With a comma, this is the stretch up to the closing bracket behind it, if one follows. -/
inductive Step : (text out : Text) → Prop where
  | nil : Step [] []
  /-- A comment at the end. -/
  | unclosed {c : Text} (hc : 0x0A ∉ c) : Step (0x2F :: 0x2F :: c) []
  | comment {c t : Text} (hc : 0x0A ∉ c) :
      Step (0x2F :: 0x2F :: (c ++ 0x0A :: t)) (0x0A :: strip t)
  | blank {u : CodeUnit} {t : Text} (hu : Unicode.isBlank u = true) : Step (u :: t) (u :: strip t)
  /-- A comma that stays. -/
  | kept {t : Text} : Step (0x2C :: t) (0x2C :: strip t)
  /-- A comma that is taken out. What stands between it and the bracket is a gap, unless it has
  white space that JSON has not. -/
  | dropped {g w t : Text} {close : CodeUnit} (hclose : close = 0x5D ∨ close = 0x7D)
      (hblank : ∀ u ∈ w, Unicode.isBlank u = true) (hgap : IsSpaces w → Gap g w) :
      Step (0x2C :: (g ++ close :: t)) (w ++ close :: strip t)
  | quote {t : Text} : Step (0x22 :: t) (0x22 :: stripFrom .string none t)
  | other {u : CodeUnit} {t : Text} (hblank : Unicode.isBlank u = false) (hcomma : u ≠ 0x2C)
      (hquote : u ≠ 0x22) : Step (u :: t) (u :: strip t)

/-- What comes out of a text after a comma that is held back, with the white space `held` behind it:
either the comma stays, or the next token is a closing bracket and the comma goes. `Step.kept` and
`Step.dropped` are the two for a comma with nothing behind it yet. -/
inductive Held (held : Text) : (text out : Text) → Prop where
  | kept {t : Text} : Held held t (0x2C :: (held ++ strip t))
  | dropped {g w t : Text} {close : CodeUnit} (hclose : close = 0x5D ∨ close = 0x7D)
      (hblank : ∀ u ∈ w, Unicode.isBlank u = true) (hgap : IsSpaces w → Gap g w) :
      Held held (g ++ close :: t) (held ++ (w ++ close :: strip t))

/-- White space, by itself or at the end of a comment, goes with the comma: what is true of the rest
with one more unit held back is true of the text with that unit, or that comment, at its start. -/
theorem Held.after (lead : Text) {held t out : Text} {u : CodeUnit} (hu : Unicode.isBlank u = true)
    (hstrip : strip (lead ++ t) = u :: strip t)
    (hlead : Cursor.isSpace u = true → ∀ {g w}, Gap g w → Gap (lead ++ g) (u :: w))
    (h : Held (held ++ [u]) t out) : Held held (lead ++ t) out := by
  cases h with
  | kept =>
      rw [List.append_assoc, List.singleton_append, ← hstrip]
      exact .kept
  | @dropped g w t close hclose hblank hgap =>
      have hdropped : Held held ((lead ++ g) ++ close :: t)
          (held ++ ((u :: w) ++ close :: strip t)) :=
        .dropped hclose (List.forall_mem_cons.mpr ⟨hu, hblank⟩) fun hspaces =>
          hlead (hspaces u List.mem_cons_self) (hgap (List.forall_mem_cons.mp hspaces).2)
      simpa only [List.append_assoc, List.cons_append, List.nil_append] using hdropped

/-- A unit that is no white space, no comment and no closing bracket releases the comma that is held
back, with the white space behind it, and is then scanned like any other. -/
theorem stripFrom_release {u : CodeUnit} {t : Text} (hblank : Unicode.isBlank u = false)
    (hcomment : ¬ (u = 0x2F ∧ t.head? = some 0x2F)) (hclose : ¬ (u = 0x5D ∨ u = 0x7D))
    (held : Text) : stripFrom .plain (some held) (u :: t) = 0x2C :: (held ++ strip (u :: t)) := by
  rw [strip, stripFrom_plain_cons, stripFrom_plain_cons]
  simp only [if_neg hcomment, if_neg hclose, hblank, Bool.false_eq_true, if_false]
  by_cases hcomma : u = 0x2C
  · simp [hcomma, release]
  · by_cases hquote : u = 0x22
    · simp [hquote, release]
    · simp [hcomma, hquote, release]

/-- What the scan does with any text after a comma that is held back. The induction is on the length
of the text, since a comment is skipped as a whole. -/
theorem held_stripFrom (t held : Text) : Held held t (stripFrom .plain (some held) t) := by
  cases t with
  | nil =>
      have hkept : Held held [] (0x2C :: (held ++ strip [])) := .kept
      rwa [strip, stripFrom, release, List.append_nil] at hkept
  | cons u t =>
      by_cases hcomment : u = 0x2F ∧ t.head? = some 0x2F
      · obtain ⟨rfl, hsecond⟩ := hcomment
        rcases comment_cases hsecond with ⟨c, hc, rfl⟩ | ⟨c, t, hc, rfl⟩
        · have hkept : Held held (0x2F :: 0x2F :: c) _ := .kept
          rw [strip, stripFrom_unclosed hc, release, List.append_nil] at hkept
          rwa [stripFrom_unclosed hc]
        · -- What is behind the comment is shorter, and the line end is held back with the comma.
          have hafter := held_stripFrom t (held ++ [0x0A])
          rw [stripFrom_closed hc, stripFrom_blank_held (by decide)]
          have hlead := hafter.after (0x2F :: 0x2F :: (c ++ [0x0A])) (by decide)
            (by simp [strip, stripFrom_closed hc, stripFrom_blank (u := 0x0A) (by decide)])
            (fun _ _ _ hg => by simpa using Gap.comment hc hg)
          simpa using hlead
      · by_cases hu : Unicode.isBlank u = true
        -- White space is held back too, so the rest is taken with one more unit behind the comma.
        · have hafter := held_stripFrom t (held ++ [u])
          rw [stripFrom_blank_held hu]
          exact hafter.after [u] hu (stripFrom_blank hu) fun hspace _ _ hg => .space hspace hg
        · by_cases hclose : u = 0x5D ∨ u = 0x7D
          · rw [stripFrom_close hclose]
            exact .dropped (g := []) (w := []) hclose (List.forall_mem_nil _) fun _ => .nil
          · rw [stripFrom_release (by simpa using hu) hcomment hclose]
            exact .kept
  termination_by t.length

/-- A unit that is no white space, no comment, no comma and no quote comes out as it is, and the
scan goes on after it outside strings. Brackets are such units, and so is all that numbers and names
are made of. -/
theorem strip_other {u : CodeUnit} {t : Text} (hblank : Unicode.isBlank u = false)
    (hcomment : ¬ (u = 0x2F ∧ t.head? = some 0x2F)) (hcomma : u ≠ 0x2C) (hquote : u ≠ 0x22) :
    strip (u :: t) = u :: strip t := by
  rw [strip, stripFrom_plain_cons]
  simp [hcomment, hcomma, hblank, hquote, release, strip]

/-- The scan makes one step after the other: the first unit or comment of any text is dealt with in
one of the ways that `Step` lists. What is said below about text outside strings goes by these
cases. -/
theorem step_strip (t : Text) : Step t (strip t) := by
  cases t with
  | nil => exact .nil
  | cons u t =>
      by_cases hcomment : u = 0x2F ∧ t.head? = some 0x2F
      · obtain ⟨rfl, hsecond⟩ := hcomment
        rcases comment_cases hsecond with ⟨c, hc, rfl⟩ | ⟨c, t, hc, rfl⟩
        · rw [strip, stripFrom_unclosed hc]
          exact .unclosed hc
        · rw [strip, stripFrom_closed hc, stripFrom_blank (by decide)]
          exact .comment hc
      · by_cases hblank : Unicode.isBlank u = true
        · rw [strip, stripFrom_blank hblank]
          exact .blank hblank
        · by_cases hcomma : u = 0x2C
          · subst hcomma
            -- Whether the comma stays is seen further on, so the case is left to the scan that
            -- holds it.
            have hheld := held_stripFrom t []
            rw [strip, stripFrom_comma]
            generalize stripFrom .plain (some []) t = out at hheld
            cases hheld with
            | kept => exact .kept
            | dropped hclose hblank hgap => exact .dropped hclose hblank hgap
          · by_cases hquote : u = 0x22
            · subst hquote
              rw [strip, stripFrom_quote]
              exact .quote
            · have hplain : Unicode.isBlank u = false := by simpa using hblank
              rw [strip_other hplain hcomment hcomma hquote]
              exact .other hplain hcomma hquote

/-! ### One token, by what comes out -/

section

variable {t s w : Text} {u : CodeUnit}

/-- Where a unit is the first that is no white space, the white space before it, the unit and the
rest are all determined. So two ways to cut one output at that place are the same. -/
theorem append_cons_inj {w' s' : Text} {u' : CodeUnit} (hw : ∀ v ∈ w, Unicode.isBlank v = true)
    (hw' : ∀ v ∈ w', Unicode.isBlank v = true) (hu : Unicode.isBlank u = false)
    (hu' : Unicode.isBlank u' = false) (h : w ++ u :: s = w' ++ u' :: s') :
    w = w' ∧ u = u' ∧ s = s' := by
  -- The white space in front is what `takeWhile` takes, so it can be read off the whole.
  have htake : ∀ {b x : Text} {v : CodeUnit}, (∀ v ∈ b, Unicode.isBlank v = true) →
      Unicode.isBlank v = false → (b ++ v :: x).takeWhile Unicode.isBlank = b := by
    intro b x v hb hv
    rw [List.takeWhile_append_of_pos hb, List.takeWhile_cons_of_neg (by simp [hv]),
      List.append_nil]
  obtain rfl : w = w' := by rw [← htake hw hu, h, htake hw' hu']
  obtain ⟨rfl, rfl⟩ := List.cons.inj (List.append_cancel_left h)
  exact ⟨rfl, rfl, rfl⟩

/-- White space between tokens is blank. The scan knows more white space than JSON does, so the
converse fails. -/
theorem isBlank_of_isSpaces (hw : IsSpaces w) : ∀ v ∈ w, Unicode.isBlank v = true :=
  fun v hv => isBlank_of_isSpace (hw v hv)

/-- Gaps in a row are a gap, and the white space that is left of them is that of the first followed
by that of the second. -/
theorem Gap.append {g g' w' : Text} (h : Gap g w) (h' : Gap g' w') : Gap (g ++ g') (w ++ w') := by
  induction h with
  | nil => exact h'
  | space hu _ ih => exact .space hu ih
  | comment hc _ ih => simpa only [List.cons_append, List.append_assoc] using Gap.comment hc ih

/-- White space that comes out first was a gap, or it is what a comma leaves that is taken out: then
all the white space up to the closing bracket is known at once, and the bracket with it. -/
theorem space_of_strip (hu : Cursor.isSpace u = true) (h : strip t = u :: s) :
    (∃ g rest, Gap g [u] ∧ t = g ++ rest ∧ strip rest = s) ∨
    ∃ g w close rest, (close = 0x5D ∨ close = 0x7D) ∧ (∀ v ∈ w, Unicode.isBlank v = true) ∧
      (IsSpaces w → Gap g w) ∧ t = 0x2C :: (g ++ close :: rest) ∧
      u :: s = w ++ close :: strip rest := by
  have hblank := isBlank_of_isSpace hu
  have hstep := step_strip t
  generalize strip t = out at hstep h
  cases hstep with
  | nil => exact nomatch h
  | unclosed hc => exact nomatch h
  | @comment c rest hc =>
      obtain ⟨rfl, hrest⟩ := List.cons.inj h
      exact .inl ⟨_, rest, .comment hc .nil, by simp, hrest⟩
  | blank _ =>
      obtain ⟨rfl, hrest⟩ := List.cons.inj h
      exact .inl ⟨[_], _, .space hu .nil, rfl, hrest⟩
  | kept =>
      obtain ⟨rfl, -⟩ := List.cons.inj h
      exact absurd hblank (by decide)
  | dropped hclose hw hgap => exact .inr ⟨_, _, _, _, hclose, hw, hgap, rfl, h.symm⟩
  | quote =>
      obtain ⟨rfl, -⟩ := List.cons.inj h
      exact absurd hblank (by decide)
  | other hother _ _ =>
      obtain ⟨rfl, -⟩ := List.cons.inj h
      rw [hother] at hblank
      exact nomatch hblank

/-- A closing bracket is not blank, so it ends the white space before it in any output. -/
theorem isBlank_of_close (h : u = 0x5D ∨ u = 0x7D) : Unicode.isBlank u = false := by
  rcases h with rfl | rfl <;> decide

/-- A unit that comes out and is no white space was there, perhaps after a comma that is taken out
if it is a closing bracket. After a quote the scan goes on inside a string. -/
theorem head_of_strip (hu : Unicode.isBlank u = false) (h : strip t = u :: s) :
    (∃ rest, t = u :: rest ∧
      (if u = 0x22 then stripFrom .string none rest else strip rest) = s) ∨
    (u = 0x5D ∨ u = 0x7D) ∧ ∃ g rest, Gap g [] ∧ t = 0x2C :: (g ++ u :: rest) ∧ strip rest = s := by
  have hstep := step_strip t
  generalize strip t = out at hstep h
  cases hstep with
  | nil => exact nomatch h
  | unclosed hc => exact nomatch h
  | comment hc =>
      obtain ⟨rfl, -⟩ := List.cons.inj h
      exact absurd hu (by decide)
  | blank hblank =>
      obtain ⟨rfl, -⟩ := List.cons.inj h
      rw [hblank] at hu
      exact nomatch hu
  | kept =>
      obtain ⟨rfl, hrest⟩ := List.cons.inj h
      exact .inl ⟨_, rfl, hrest⟩
  | dropped hclose hw hgap =>
      obtain ⟨rfl, rfl, hrest⟩ := append_cons_inj hw (List.forall_mem_nil _)
        (isBlank_of_close hclose) hu h
      exact .inr ⟨hclose, _, _, hgap Json.isSpaces_nil, rfl, hrest⟩
  | quote =>
      obtain ⟨rfl, hrest⟩ := List.cons.inj h
      exact .inl ⟨_, rfl, hrest⟩
  | other _ _ hquote =>
      obtain ⟨rfl, hrest⟩ := List.cons.inj h
      exact .inl ⟨_, rfl, by rwa [if_neg hquote]⟩

/-- White space before a unit that is no closing bracket was a gap: no comma can have been taken out
of it, since a closing bracket would have to follow. By induction on the white space. -/
theorem gap_of_strip (hw : IsSpaces w) (hu : Unicode.isBlank u = false)
    (hclose : ¬ (u = 0x5D ∨ u = 0x7D)) (h : strip t = w ++ u :: s) :
    ∃ g rest, Gap g w ∧ t = g ++ rest ∧ strip rest = u :: s := by
  induction w generalizing t with
  | nil => exact ⟨[], t, .nil, rfl, h⟩
  | cons v w ih =>
      obtain ⟨hv, hspaces⟩ := List.forall_mem_cons.mp hw
      rcases space_of_strip hv h with
        ⟨g, rest, hg, rfl, hrest⟩ | ⟨_, _, close, _, hbracket, hblank, _, -, hout⟩
      · obtain ⟨g', after, hg', rfl, hafter⟩ := ih hspaces hrest
        exact ⟨g ++ g', after, hg.append hg', (List.append_assoc _ _ _).symm, hafter⟩
      · -- A comma is taken out only before a bracket, which would come out behind the white space.
        have hsame := append_cons_inj (isBlank_of_isSpaces hw) hblank hu (isBlank_of_close hbracket)
          hout
        rw [← hsame.2.1] at hbracket
        exact absurd hbracket hclose

/-- What stands before a closing bracket, and the white space of it: a gap, or a comma between two
gaps. The second is a trailing comma, or a comma that stands alone in an empty container. -/
inductive Closing : (g blanks : Text) → Prop where
  | gap {g w : Text} (h : Gap g w) : Closing g w
  | comma {g w g' w' : Text} (h : Gap g w) (h' : Gap g' w') : Closing (g ++ 0x2C :: g') (w ++ w')

/-- A gap before what stands in front of a closing bracket can be counted as part of it, whether
there is a comma in it or not. -/
theorem Gap.closing {g g' w' : Text} (h : Gap g w) (h' : Closing g' w') :
    Closing (g ++ g') (w ++ w') := by
  cases h' with
  | gap h' => exact .gap (h.append h')
  | comma h₁ h₂ => simpa only [List.append_assoc] using Closing.comma (h.append h₁) h₂

/-- A closing bracket that comes out after white space was there, after a gap or a comma between
two. This is `gap_of_strip` for the one token that can take a comma with it. -/
theorem closing_of_strip (hw : IsSpaces w) (hu : u = 0x5D ∨ u = 0x7D) (h : strip t = w ++ u :: s) :
    ∃ g rest, Closing g w ∧ t = g ++ u :: rest ∧ strip rest = s := by
  have hbracket := isBlank_of_close hu
  induction w generalizing t with
  | nil =>
      rcases head_of_strip hbracket h with ⟨rest, rfl, hrest⟩ | ⟨-, g, rest, hg, rfl, hrest⟩
      · have hquote : u ≠ 0x22 := by rcases hu with rfl | rfl <;> decide
        exact ⟨[], rest, .gap .nil, rfl, by rwa [if_neg hquote] at hrest⟩
      · exact ⟨0x2C :: g, rest, .comma .nil hg, rfl, hrest⟩
  | cons v w ih =>
      obtain ⟨hv, hspaces⟩ := List.forall_mem_cons.mp hw
      rcases space_of_strip hv h with
        ⟨g, rest, hg, rfl, hrest⟩ | ⟨_, _, close, _, hclose, hblank, hgap, rfl, hout⟩
      · obtain ⟨g', after, hg', rfl, hafter⟩ := ih hspaces hrest
        exact ⟨g ++ g', after, hg.closing hg', (List.append_assoc _ _ _).symm, hafter⟩
      · obtain ⟨rfl, rfl, hrest⟩ := append_cons_inj (isBlank_of_isSpaces hw) hblank hbracket
          (isBlank_of_close hclose) hout
        exact ⟨_, _, .comma .nil (hgap hw), rfl, hrest.symm⟩

/-- White space that is all that comes out was a gap at the end of the text, where the last comment
needs no line feed. -/
theorem lastGap_of_strip (hw : IsSpaces w) (h : strip t = w) : LastGap t w := by
  induction w generalizing t with
  | nil =>
      have hstep := step_strip t
      generalize strip t = out at hstep h
      cases hstep with
      | nil => exact .closed .nil
      | unclosed hc => exact .unclosed .nil hc
      | dropped _ _ _ =>
          exact absurd h (List.append_ne_nil_of_right_ne_nil _ (List.cons_ne_nil _ _))
      | _ => exact nomatch h
  | cons v w ih =>
      obtain ⟨hv, hspaces⟩ := List.forall_mem_cons.mp hw
      rcases space_of_strip hv h with
        ⟨g, rest, hg, rfl, hrest⟩ | ⟨_, _, close, _, hclose, _, _, -, hout⟩
      · cases ih hspaces hrest with
        | closed h' => exact .closed (hg.append h')
        | unclosed h' hc =>
            rw [← List.append_assoc]
            exact .unclosed (hg.append h') hc
      · -- A bracket is among the white space, and it is none.
        have hmem : close ∈ v :: w := by
          rw [hout]
          exact List.mem_append_right _ List.mem_cons_self
        have hblank := isBlank_of_isSpaces hw close hmem
        rw [isBlank_of_close hclose] at hblank
        exact nomatch hblank

/-- An ordinary unit that comes out was there, with nothing taken out before it. Ordinary units are
those the scan passes on without a thought. -/
theorem ordinary_of_strip (hu : isOrdinary u = true) (h : strip t = u :: s) :
    ∃ rest, t = u :: rest ∧ strip rest = s := by
  simp only [isOrdinary, Bool.and_eq_true, bne_iff_ne, ne_eq, Bool.not_eq_true'] at hu
  obtain ⟨⟨⟨⟨⟨-, -⟩, hquote⟩, hbracket⟩, hbrace⟩, hblank⟩ := hu
  rcases head_of_strip hblank h with ⟨rest, rfl, hrest⟩ | ⟨hclose, -⟩
  · exact ⟨rest, rfl, by rwa [if_neg hquote] at hrest⟩
  · exact absurd hclose (not_or.mpr ⟨hbracket, hbrace⟩)

/-- A comma that comes out was there: it was held back for a while, but it is the same comma. -/
theorem comma_of_strip (h : strip t = 0x2C :: s) : ∃ rest, t = 0x2C :: rest ∧ strip rest = s := by
  rcases head_of_strip (by decide) h with hhead | ⟨hclose, -⟩
  · exact hhead
  · exact absurd hclose (by decide)

/-- A quote that comes out was there, and the scan goes on inside the string that it opens. -/
theorem quote_of_strip (h : strip t = 0x22 :: s) :
    ∃ rest, t = 0x22 :: rest ∧ stripFrom .string none rest = s := by
  rcases head_of_strip (by decide) h with hhead | ⟨hclose, -⟩
  · exact hhead
  · exact absurd hclose (by decide)

/-- Ordinary units in a row that come out were there in a row. Numbers and the names `true`, `false`
and `null` consist of such units, and the opening brackets do. -/
theorem ordinaries_of_strip {x : Text} (hx : ∀ u ∈ x, isOrdinary u = true)
    (h : strip t = x ++ s) : ∃ rest, t = x ++ rest ∧ strip rest = s := by
  induction x generalizing t with
  | nil => exact ⟨t, rfl, h⟩
  | cons u x ih =>
      obtain ⟨hu, hrest⟩ := List.forall_mem_cons.mp hx
      obtain ⟨t, rfl, ht⟩ := ordinary_of_strip hu h
      obtain ⟨rest, rfl, hs⟩ := ih hrest ht
      exact ⟨rest, rfl, hs⟩

/-- A unit that comes out of a string was there. What follows it depends on the unit: after a
backslash the next one is escaped, after a quote the string is over. -/
theorem head_of_stripString (h : stripFrom .string none t = u :: s) :
    ∃ rest, t = u :: rest ∧
      (if u = 0x5C then stripFrom .escape none rest
        else if u = 0x22 then strip rest else stripFrom .string none rest) = s := by
  cases t with
  | nil => exact nomatch h
  | cons v rest =>
      rw [stripFrom] at h
      refine ⟨rest, ?_⟩
      split at h
      · next hv =>
          obtain ⟨rfl, hs⟩ := List.cons.inj h
          exact ⟨rfl, by rwa [if_pos hv]⟩
      split at h
      · next hv hquote =>
          obtain ⟨rfl, hs⟩ := List.cons.inj h
          exact ⟨rfl, by rwa [if_neg hv, if_pos hquote]⟩
      · next hv hquote =>
          obtain ⟨rfl, hs⟩ := List.cons.inj h
          exact ⟨rfl, by rwa [if_neg hv, if_neg hquote]⟩

/-- Two units that come out of a string, the first of them a backslash, were both there, and the
string goes on after the second, even if that is a quote. -/
theorem escape_of_stripString (h : stripFrom .string none t = 0x5C :: u :: s) :
    ∃ rest, t = 0x5C :: u :: rest ∧ stripFrom .string none rest = s := by
  obtain ⟨rest, rfl, hrest⟩ := head_of_stripString h
  rw [if_pos rfl] at hrest
  cases rest with
  | nil => exact nomatch hrest
  | cons v rest =>
      rw [stripFrom] at hrest
      obtain ⟨rfl, hs⟩ := List.cons.inj hrest
      exact ⟨rest, rfl, hs⟩

/-- One unit that comes out of a string and neither escapes another nor ends the string was there,
and the string goes on after it. -/
theorem unit_of_stripString (hu : u ≠ 0x5C ∧ u ≠ 0x22) (h : stripFrom .string none t = u :: s) :
    ∃ rest, t = u :: rest ∧ stripFrom .string none rest = s := by
  obtain ⟨rest, rfl, hrest⟩ := head_of_stripString h
  rw [if_neg hu.1, if_neg hu.2] at hrest
  exact ⟨rest, rfl, hrest⟩

/-- The body of a string that comes out was there, with its closing quote, and the scan goes on
outside strings after it. By induction on the spelling of the units. -/
theorem units_of_stripString {x body : Text} (hbody : SpellsUnits x body)
    (h : stripFrom .string none t = body ++ 0x22 :: s) :
    ∃ rest, t = body ++ 0x22 :: rest ∧ strip rest = s := by
  induction hbody generalizing t with
  | nil =>
      obtain ⟨rest, rfl, hrest⟩ := head_of_stripString h
      exact ⟨rest, rfl, hrest⟩
  | plain hquote hbackslash _ _ ih =>
      obtain ⟨t, rfl, ht⟩ := unit_of_stripString ⟨hbackslash, hquote⟩ h
      obtain ⟨rest, rfl, hs⟩ := ih ht
      exact ⟨rest, rfl, hs⟩
  | letter _ _ ih =>
      obtain ⟨t, rfl, ht⟩ := escape_of_stripString h
      obtain ⟨rest, rfl, hs⟩ := ih ht
      exact ⟨rest, rfl, hs⟩
  | number hdigits _ ih =>
      obtain ⟨hna, hnb, hnc, hnd⟩ := ne_of_fourDigits? hdigits
      obtain ⟨_, rfl, hfour⟩ := escape_of_stripString h
      obtain ⟨_, rfl, hthree⟩ := unit_of_stripString hna hfour
      obtain ⟨_, rfl, htwo⟩ := unit_of_stripString hnb hthree
      obtain ⟨_, rfl, hone⟩ := unit_of_stripString hnc htwo
      obtain ⟨_, rfl, hnone⟩ := unit_of_stripString hnd hone
      obtain ⟨rest, rfl, hs⟩ := ih hnone
      exact ⟨rest, rfl, hs⟩

end

/-! ### The grammar, by what comes out -/

/-- A value starts neither with white space nor with a closing bracket, so the white space before it
was a gap, by `gap_of_strip`. -/
theorem isBlank_of_startsValue {u : CodeUnit} (h : Json.startsValue u = true) :
    Unicode.isBlank u = false ∧ ¬ (u = 0x5D ∨ u = 0x7D) := by
  -- A quote is the one unit among them that the scan does not pass on without a thought.
  have hordinary : u = 0x22 ∨ isOrdinary u = true := by
    simp only [Json.startsValue, Bool.or_eq_true, beq_iff_eq] at h
    rcases h with (((((rfl | rfl | hdigit) | rfl) | rfl) | rfl) | rfl) | rfl
    case inl.inl.inl.inl.inl.inr.inr => exact .inr (isOrdinary_of_isDigit hdigit)
    all_goals decide
  rcases hordinary with rfl | hordinary
  · decide
  · simp only [isOrdinary, Bool.and_eq_true, bne_iff_ne, ne_eq, Bool.not_eq_true'] at hordinary
    exact ⟨hordinary.2, not_or.mpr ⟨hordinary.1.1.2, hordinary.1.2⟩⟩

/-- A separator that comes out was one, between two gaps: nothing before the first element, a comma
before any other. The white space after a comma belongs to the separator of the loose spelling. -/
theorem separator_of_strip {first : Bool} {w sep s t : Text} {u : CodeUnit} (hw : IsSpaces w)
    (hsep : Json.Separator first sep)
    (hu : Unicode.isBlank u = false ∧ ¬ (u = 0x5D ∨ u = 0x7D))
    (h : strip t = w ++ (sep ++ u :: s)) :
    ∃ g sep' rest, Gap g w ∧ Separator first sep' sep ∧ t = g ++ (sep' ++ rest) ∧
      strip rest = u :: s := by
  cases hsep with
  | none =>
      obtain ⟨g, rest, hg, rfl, hrest⟩ := gap_of_strip hw hu.1 hu.2 h
      exact ⟨g, [], rest, hg, .none, rfl, hrest⟩
  | comma hw' =>
      obtain ⟨g, _, hg, rfl, hcomma⟩ := gap_of_strip hw (by decide) (by decide) h
      obtain ⟨_, rfl, hgap⟩ := comma_of_strip hcomma
      obtain ⟨g', rest, hg', rfl, hrest⟩ := gap_of_strip hw' hu.1 hu.2 hgap
      exact ⟨g, 0x2C :: g', rest, hg, .comma hg', rfl, hrest⟩

mutual

/-- A value that comes out of the scan, spelled as plain JSON, was a loose spelling of the same
tree. By induction on the tree, each token found in the text by the lemmas above. -/
theorem loose_of_strip :
    ∀ (raw : Json) {plain t s : Text}, Json.Spells raw plain → strip t = plain ++ s →
      ∃ x rest, Loose raw x plain ∧ t = x ++ rest ∧ strip rest = s
  | raw, plain, _, _, .word hword, h => by
      obtain ⟨rest, rfl, hrest⟩ := ordinaries_of_strip (isOrdinary_of_mem_keywords hword).2 h
      exact ⟨plain, rest, .word hword, rfl, hrest⟩
  | _, plain, _, _, .number hnumber, h => by
      obtain ⟨rest, rfl, hrest⟩ := ordinaries_of_strip (isOrdinary_of_isNumber hnumber).2 h
      exact ⟨plain, rest, .number hnumber, rfl, hrest⟩
  | _, _, _, _, .string hbody, h => by
      simp only [List.cons_append, List.append_assoc, List.nil_append] at h
      obtain ⟨_, rfl, hunits⟩ := quote_of_strip h
      obtain ⟨rest, rfl, hrest⟩ := units_of_stripString hbody hunits
      exact ⟨_, rest, .string hbody, by simp, hrest⟩
  | .array raws, _, _, _, .array hw hbody, h => by
      -- White space behind the bracket may have stood around a comma, if there are no items.
      simp only [List.cons_append, List.append_assoc, List.nil_append] at h
      obtain ⟨_, rfl, hitems⟩ := ordinary_of_strip (by decide) h
      obtain ⟨g, w', x, plain, rest, hg, hx, hplain, rfl, hrest⟩ :=
        looseItems_of_strip raws hbody hw hitems
      refine ⟨[0x5B] ++ (g ++ (x ++ [0x5D])), rest, ?_, by simp, hrest⟩
      have hloose := Loose.array hg hx
      rwa [← List.append_assoc w' plain, ← hplain, List.append_assoc] at hloose
  | .object raws, _, _, _, .object hw hbody, h => by
      simp only [List.cons_append, List.append_assoc, List.nil_append] at h
      obtain ⟨_, rfl, hmembers⟩ := ordinary_of_strip (by decide) h
      obtain ⟨g, w', x, plain, rest, hg, hx, hplain, rfl, hrest⟩ :=
        looseMembers_of_strip raws hbody hw hmembers
      refine ⟨[0x7B] ++ (g ++ (x ++ [0x7D])), rest, ?_, by simp, hrest⟩
      have hloose := Loose.object hg hx
      rwa [← List.append_assoc w' plain, ← hplain, List.append_assoc] at hloose

/-- Items that come out, with the white space before them and up to the closing bracket, were a
loose spelling of them. With no item left the white space may have stood around a comma, which is
how trailing commas come in. -/
theorem looseItems_of_strip :
    ∀ (raws : List Json) {first : Bool} {w body t s : Text}, Json.SpellsItems first raws body →
      IsSpaces w → strip t = w ++ (body ++ 0x5D :: s) →
      ∃ g w' x plain rest, Gap g w' ∧ LooseItems first raws x plain ∧ w ++ body = w' ++ plain ∧
        t = g ++ (x ++ 0x5D :: rest) ∧ strip rest = s
  | [], first, w, _, _, _, .nil, hw, h => by
      -- A comma here trails the last item. It moves from the white space into the spelling.
      obtain ⟨g, rest, hg, rfl, hrest⟩ := closing_of_strip hw (.inl rfl) h
      cases hg with
      | gap hg => exact ⟨_, _, [], [], rest, hg, .nil, rfl, rfl, hrest⟩
      | comma hg hg' => exact ⟨_, _, _, _, rest, hg, .trailing hg', by simp, by simp, hrest⟩
  | raw :: raws, first, w, _, _, _, .cons hsep hraw hw' hbody, hw, h => by
      -- The first unit of the item is where the gap before it ends.
      obtain ⟨u, x, rfl, hu⟩ := hraw.starts.exists_cons
      simp only [List.append_assoc, List.cons_append] at h
      obtain ⟨g, sep', _, hg, hsep', rfl, hvalue⟩ :=
        separator_of_strip hw hsep (isBlank_of_startsValue hu) h
      obtain ⟨x, _, hx, rfl, hitems⟩ := loose_of_strip raw hraw hvalue
      obtain ⟨g', w', y, plain, rest, hg', hy, hplain, rfl, hrest⟩ :=
        looseItems_of_strip raws hbody hw' hitems
      refine ⟨g, w, _, _, rest, hg, .cons hsep' hx hg' hy, ?_, ?_, hrest⟩
      · simp only [List.append_assoc, hplain]
      · simp only [List.append_assoc]

/-- The same for members, up to the closing brace. Each has a name, a colon and a value, with gaps
between them. -/
theorem looseMembers_of_strip :
    ∀ (raws : List (Text × Json)) {first : Bool} {w body t s : Text},
      Json.SpellsMembers first raws body → IsSpaces w → strip t = w ++ (body ++ 0x7D :: s) →
      ∃ g w' x plain rest, Gap g w' ∧ LooseMembers first raws x plain ∧ w ++ body = w' ++ plain ∧
        t = g ++ (x ++ 0x7D :: rest) ∧ strip rest = s
  | [], first, w, _, _, _, .nil, hw, h => by
      obtain ⟨g, rest, hg, rfl, hrest⟩ := closing_of_strip hw (.inr rfl) h
      cases hg with
      | gap hg => exact ⟨_, _, [], [], rest, hg, .nil, rfl, rfl, hrest⟩
      | comma hg hg' => exact ⟨_, _, _, _, rest, hg, .trailing hg', by simp, by simp, hrest⟩
  | (name, raw) :: raws, first, w, _, _, _, .cons hsep hname hw₁ hw₂ hraw hw₃ hbody, hw, h => by
      obtain ⟨u, x, rfl, hu⟩ := hraw.starts.exists_cons
      have hstart := isBlank_of_startsValue hu
      simp only [List.append_assoc, List.cons_append, List.nil_append] at h
      obtain ⟨g, sep', _, hg, hsep', rfl, hquote⟩ := separator_of_strip hw hsep (by decide) h
      obtain ⟨_, rfl, hkey⟩ := quote_of_strip hquote
      obtain ⟨_, rfl, hgap⟩ := units_of_stripString hname hkey
      obtain ⟨g₁, _, hg₁, rfl, hcolon⟩ := gap_of_strip hw₁ (by decide) (by decide) hgap
      obtain ⟨_, rfl, hgap'⟩ := ordinary_of_strip (by decide) hcolon
      obtain ⟨g₂, _, hg₂, rfl, hvalue⟩ := gap_of_strip hw₂ hstart.1 hstart.2 hgap'
      obtain ⟨x, _, hx, rfl, hmembers⟩ := loose_of_strip raw hraw hvalue
      obtain ⟨g₃, w', y, plain, rest, hg₃, hy, hplain, rfl, hrest⟩ :=
        looseMembers_of_strip raws hbody hw₃ hmembers
      refine ⟨g, w, _, _, rest, hg, .cons hsep' hname hg₁ hg₂ hx hg₃ hy, ?_, ?_, hrest⟩
      · simp only [List.append_assoc, hplain]
      · simp only [List.append_assoc, List.cons_append, List.nil_append]

end

/-- What is read as JSON with comments and such commas taken out was a loose spelling of some tree:
the one that the reader has seen, by soundness of the reader. -/
theorem looseText_of_parse {text : Text} {j : Json} (h : Json.parse .last (strip text) = .ok j) :
    ∃ raw plain, LooseText raw text plain := by
  obtain ⟨raw, w, body, w', hw, hraw, hw', -, hstrip⟩ := Json.parse_eq_ok_iff_spells.mp h
  obtain ⟨u, x, rfl, hu⟩ := hraw.starts.exists_cons
  have hstart := isBlank_of_startsValue hu
  obtain ⟨g, _, hg, rfl, hvalue⟩ := gap_of_strip hw hstart.1 hstart.2 hstrip
  obtain ⟨t, _, ht, rfl, hend⟩ := loose_of_strip raw hraw hvalue
  exact ⟨raw, _, .mk hg ht (lastGap_of_strip hw' hend)⟩

/-! ### Commas in empty containers -/

/-- An array or an object that holds nothing but a comma, with gaps around it. No grammar of JSON
with trailing commas has these, since a trailing comma trails something. -/
inductive Hollow : Text → Prop where
  | array {g w g' w' : Text} (hg : Gap g w) (hg' : Gap g' w') :
      Hollow ([0x5B] ++ (g ++ (0x2C :: g' ++ [0x5D])))
  | object {g w g' w' : Text} (hg : Gap g w) (hg' : Gap g' w') :
      Hollow ([0x7B] ++ (g ++ (0x2C :: g' ++ [0x7D])))

/-- Somewhere in the text there is an array or an object with nothing but a comma in it. Every loose
spelling that has none is a spelling with commas that trail. -/
def HasHollow (text : Text) : Prop := ∃ part, Hollow part ∧ part <:+: text

section

variable {a b : Text}

/-- A container that holds nothing but a comma is still there when something stands before the text.
-/
theorem HasHollow.append_left (a : Text) (h : HasHollow b) : HasHollow (a ++ b) := by
  obtain ⟨part, hpart, hinfix⟩ := h
  exact ⟨part, hpart, hinfix.trans (List.suffix_append a b).isInfix⟩

/-- It is still there when something stands after the text, too. -/
theorem HasHollow.append_right (b : Text) (h : HasHollow a) : HasHollow (a ++ b) := by
  obtain ⟨part, hpart, hinfix⟩ := h
  exact ⟨part, hpart, hinfix.trans (List.prefix_append a b).isInfix⟩

/-- A text with such a container in it has a comma. So a text without commas has none, which is how
concrete texts are checked. -/
theorem HasHollow.comma_mem (h : HasHollow a) : 0x2C ∈ a := by
  obtain ⟨part, hpart, hinfix⟩ := h
  refine hinfix.subset ?_
  cases hpart with
  | array _ _ => simp
  | object _ _ => simp

end

mutual

/-- A loose spelling of a tree has such a container in it, or it is a spelling with commas that
trail only. By induction on the tree. -/
theorem spells_or_hollow :
    ∀ (raw : Json) {t plain : Text}, Loose raw t plain → Spells raw t plain ∨ HasHollow t
  | _, _, _, .word h => .inl (.word h)
  | _, _, _, .number h => .inl (.number h)
  | _, _, _, .string h => .inl (.string h)
  | .array raws, _, _, .array hg h => by
      rcases spellsItems_or_hollow raws h with hitems | hhollow | ⟨-, g', w', hg', rfl⟩
      · exact .inl (.array hg hitems)
      · exact .inr (((hhollow.append_right _).append_left _).append_left _)
      · exact .inr ⟨_, .array hg hg', List.infix_rfl⟩
  | .object raws, _, _, .object hg h => by
      rcases spellsMembers_or_hollow raws h with hmembers | hhollow | ⟨-, g', w', hg', rfl⟩
      · exact .inl (.object hg hmembers)
      · exact .inr (((hhollow.append_right _).append_left _).append_left _)
      · exact .inr ⟨_, .object hg hg', List.infix_rfl⟩

/-- The same for items, with a third case that only the container around them can decide: there is
no item, and a comma stands alone. -/
theorem spellsItems_or_hollow :
    ∀ (raws : List Json) {first : Bool} {body plain : Text}, LooseItems first raws body plain →
      SpellsItems first raws body plain ∨ HasHollow body ∨
        (first = true ∧ ∃ g w, Gap g w ∧ body = 0x2C :: g)
  | [], _, _, _, .nil => .inl .nil
  | [], true, _, _, .trailing hg => .inr (.inr ⟨rfl, _, _, hg, rfl⟩)
  | [], false, _, _, .trailing hg => .inl (.trailing hg)
  | raw :: raws, first, _, _, .cons hsep hraw hg hrest => by
      rcases spells_or_hollow raw hraw with hvalue | hhollow
      · rcases spellsItems_or_hollow raws hrest with hitems | hhollow | ⟨hfirst, -⟩
        · exact .inl (.cons hsep hvalue hg hitems)
        · exact .inr (.inl (hhollow.append_left _))
        · exact nomatch hfirst
      · exact .inr (.inl (((hhollow.append_right _).append_left _).append_right _))

/-- The same for the members of an object, where again a comma that stands alone is left to the
container. -/
theorem spellsMembers_or_hollow :
    ∀ (raws : List (Text × Json)) {first : Bool} {body plain : Text},
      LooseMembers first raws body plain →
      SpellsMembers first raws body plain ∨ HasHollow body ∨
        (first = true ∧ ∃ g w, Gap g w ∧ body = 0x2C :: g)
  | [], _, _, _, .nil => .inl .nil
  | [], true, _, _, .trailing hg => .inr (.inr ⟨rfl, _, _, hg, rfl⟩)
  | [], false, _, _, .trailing hg => .inl (.trailing hg)
  | (name, raw) :: raws, first, _, _, .cons hsep hname hg₁ hg₂ hraw hg₃ hrest => by
      rcases spells_or_hollow raw hraw with hvalue | hhollow
      · rcases spellsMembers_or_hollow raws hrest with hmembers | hhollow | ⟨hfirst, -⟩
        · exact .inl (.cons hsep hname hg₁ hg₂ hvalue hg₃ hmembers)
        · exact .inr (.inl
            ((((hhollow.append_left _).append_left _).append_left _).append_left _))
        · exact nomatch hfirst
      · refine .inr (.inl (.append_left _ (.append_left _ (.append_left _ (.append_right _ ?_)))))
        exact (hhollow.append_right _).append_left _

end

/-- The same for a whole text: the gaps before and after the tree are the same in both grammars. -/
theorem spellsText_or_hollow {raw : Json} {text plain : Text} (h : LooseText raw text plain) :
    SpellsText raw text plain ∨ HasHollow text := by
  cases h with
  | mk hg hraw hg' =>
      rcases spells_or_hollow raw hraw with hspells | hhollow
      · exact .inl (.mk hg hspells hg')
      · exact .inr ((hhollow.append_right _).append_left _)

/-- A text is read exactly if it is JSON with comments and with commas before closing brackets.

What is taken out of such a text is the comments and those commas. A comma of them trails the last
item or member, which is complete; or it stands alone in an array or an object that is otherwise
empty. A text without such a container is read exactly if it is JSON with comments and with commas
that trail. Every other text is refused: it is no JSON with the comments and the commas taken out,
wherever it comes from. -/
theorem accepts_iff (text : Text) :
    ((∃ j, Json.parse .last (strip text) = .ok j) ↔ ∃ raw plain, LooseText raw text plain) ∧
    (∀ raw plain, LooseText raw text plain →
      strip text = plain ∧ (SpellsText raw text plain ∨ HasHollow text)) ∧
    (¬ HasHollow text →
      ((∃ j, Json.parse .last (strip text) = .ok j) ↔ ∃ raw plain, SpellsText raw text plain)) ∧
    ((∀ raw plain, ¬ LooseText raw text plain) →
      ∀ source, ∃ mistake, parse source text = .error (.invalidJson source mistake)) := by
  have hloose : (∃ j, Json.parse .last (strip text) = .ok j) ↔
      ∃ raw plain, LooseText raw text plain := by
    constructor
    · rintro ⟨j, hj⟩
      exact looseText_of_parse hj
    · rintro ⟨raw, plain, h⟩
      -- Repeated names are no obstacle: the last of them counts.
      obtain ⟨value, hvalue⟩ := Json.exists_settle_last raw
      exact ⟨value, parse_strip_of_loose h hvalue⟩
  refine ⟨hloose, fun raw plain h => ⟨strip_of_loose h, spellsText_or_hollow h⟩, ?_, ?_⟩
  · intro hfull
    rw [hloose]
    constructor
    · rintro ⟨raw, plain, h⟩
      exact ⟨raw, plain, (spellsText_or_hollow h).resolve_right hfull⟩
    · rintro ⟨raw, plain, h⟩
      exact ⟨raw, plain, looseText_of_spells h⟩
  · intro hnone source
    cases hparse : Json.parse .last (strip text) with
    | ok j =>
        obtain ⟨raw, plain, h⟩ := looseText_of_parse hparse
        exact absurd h (hnone raw plain)
    | error mistake =>
        refine ⟨mistake, ?_⟩
        unfold parse
        rw [hparse]
        rfl

/-- A comment is taken out, and of two commas in a row one is left, which is refused. -/
theorem accepts_iff_commented :
    (∃ raw plain, SpellsText raw ("[1] // one" : Text) plain) ∧
    (∀ raw plain, ¬ LooseText raw ("[1,,]" : Text) plain) ∧
    ∃ mistake, parse "mask.json" "[1,,]" = .error (.invalidJson "mask.json" mistake) := by
  obtain ⟨-, -, hfull, -⟩ := accepts_iff ("[1] // one" : Text)
  obtain ⟨hread, -, -, hrefused⟩ := accepts_iff ("[1,,]" : Text)
  have hone : Json.parse .last (strip ("[1] // one" : Text)) = .ok (.array [.number "1"]) := by
    decide +kernel
  have hcommas : (Json.parse .last (strip ("[1,,]" : Text))).toOption = none := by decide +kernel
  have hnone : ∀ raw plain, ¬ LooseText raw ("[1,,]" : Text) plain := by
    intro raw plain h
    obtain ⟨j, hj⟩ := hread.mpr ⟨raw, plain, h⟩
    rw [hj] at hcommas
    exact nomatch hcommas
  refine ⟨(hfull fun h => ?_).mp ⟨_, hone⟩, hnone, hrefused hnone "mask.json"⟩
  exact absurd h.comma_mem (by decide)

/-- A comma that stands alone in an empty object, which is the shortest text with a comma that
trails nothing. -/
def hollowText : Text := "\x7b,\x7d"

/-- Where something else than white space or a comment stands first, there is no gap. With it a
loose spelling of a given text can be taken apart from the left. -/
theorem Gap.eq_nil {g w rest s : Text} {u : CodeUnit} (h : Gap g w) (ht : g ++ rest = u :: s)
    (hspace : Cursor.isSpace u = false) (hslash : u ≠ 0x2F) : g = [] := by
  cases h with
  | nil => rfl
  | space hu _ =>
      obtain ⟨rfl, -⟩ := List.cons.inj ht
      rw [hu] at hspace
      exact nomatch hspace
  | comment _ _ => exact absurd (List.cons.inj ht).1.symm hslash

/-- It is read as the empty configuration, and it is no JSON with comments and trailing commas. -/
theorem accepts_hollowText :
    (∃ options, parse defaultSource hollowText = .ok options) ∧
    ∀ raw plain, ¬ SpellsText raw hollowText plain := by
  refine ⟨⟨_, rfl⟩, ?_⟩
  intro raw plain h
  generalize htext : hollowText = text at h
  cases h with
  | mk hg hraw hg' =>
      obtain rfl := hg.eq_nil htext.symm (by decide) (by decide)
      cases hraw with
      | word hword =>
          rcases Json.mem_keywords_iff.mp hword with ⟨rfl, -⟩ | ⟨rfl, -⟩ | ⟨rfl, -⟩
          all_goals exact absurd (List.cons.inj htext).1 (by decide)
      | number hnumber =>
          obtain ⟨u, rest, rfl, hu⟩ := hnumber.starts.exists_cons
          obtain ⟨rfl, -⟩ := List.cons.inj htext
          exact absurd hu (by decide)
      | string _ => exact absurd (List.cons.inj htext).1 (by decide)
      | array _ _ => exact absurd (List.cons.inj htext).1 (by decide)
      | object hg hmembers =>
          -- Behind the brace there is the comma, and neither a gap nor a member starts with it.
          simp only [List.append_assoc] at htext
          have hcomma := (List.cons.inj htext).2
          obtain rfl := hg.eq_nil hcomma.symm (by decide) (by decide)
          cases hmembers with
          | nil => exact absurd (List.cons.inj hcomma).1 (by decide)
          | cons hsep _ _ _ _ _ _ =>
              cases hsep with
              | none => exact absurd (List.cons.inj hcomma).1 (by decide)

end FieldMask.Config
