import Mathlib.Data.List.TakeWhile
import FieldMask.Json.Parser

/-!
# `FieldMask.Proofs.Json.Cursor`: how far a cursor has moved

`Cursor.Spans c part later` says that `part` is what stands between the cursors `c` and `later`.
Every reader moves its cursor over what it read, so its result is described by one such part.
`Starts p t` says that the next unit satisfies `p`; where it fails, the readers that take as many
units as they can stop.
-/

set_option autoImplicit false

namespace FieldMask.Json

/-- The text has a first unit, and it satisfies `p`. An empty text starts with nothing. -/
abbrev Starts (p : CodeUnit → Bool) (t : Text) : Prop := t.head?.any p = true

/-- A text that starts with a unit starts as that unit says, however it goes on. -/
theorem starts_cons (p : CodeUnit → Bool) (u : CodeUnit) (t : Text) :
    Starts p (u :: t) ↔ p u = true := by simp [Starts]

/-- An empty text does not start with a unit of any kind. -/
theorem not_starts_nil (p : CodeUnit → Bool) : ¬ Starts p [] := by simp [Starts]

/-- A text that starts with a unit can be taken apart into that unit and the rest. -/
theorem Starts.exists_cons {p : CodeUnit → Bool} {t : Text} (h : Starts p t) :
    ∃ u rest, t = u :: rest ∧ p u = true := by
  cases t with
  | nil => exact absurd h (not_starts_nil p)
  | cons u rest => exact ⟨u, rest, rfl, (starts_cons p u rest).mp h⟩

/-- A text that starts with a unit is not empty. -/
theorem Starts.ne_nil {p : CodeUnit → Bool} {t : Text} (h : Starts p t) : t ≠ [] := by
  rintro rfl
  exact not_starts_nil p h

/-- Where the first part is not empty, it alone decides how two texts in a row start. -/
theorem starts_append {p : CodeUnit → Bool} {a : Text} (b : Text) (ha : a ≠ []) :
    Starts p (a ++ b) ↔ Starts p a := by
  cases a with
  | nil => exact absurd rfl ha
  | cons u a => simp [Starts]

/-- A text that starts with a unit of one kind starts with a unit of any wider kind. -/
theorem Starts.imp {p q : CodeUnit → Bool} {t : Text} (h : Starts p t)
    (hpq : ∀ u, p u = true → q u = true) : Starts q t := by
  cases t with
  | nil => exact absurd h (not_starts_nil p)
  | cons u t => exact (starts_cons q u t).mpr (hpq u ((starts_cons p u t).mp h))

/-- Taking as many units as possible takes exactly a part of such units, if none of them follows it.
-/
theorem takeWhile_append_of_not_starts {p : CodeUnit → Bool} {part rest : Text}
    (hpart : ∀ u ∈ part, p u = true) (hrest : ¬ Starts p rest) :
    (part ++ rest).takeWhile p = part := by
  rw [List.takeWhile_append_of_pos hpart]
  cases rest with
  | nil => simp
  | cons u rest =>
      rw [starts_cons] at hrest
      simp [hrest]

namespace Cursor

/-- The part between a cursor and a later one. The later one stands that many units further on, and
what is ahead of it is what comes after the part. -/
structure Spans (c : Cursor) (part : Text) (later : Cursor) : Prop where
  ahead : c.ahead = part ++ later.ahead
  position : later.position = c.position + part.length

/-- Nothing stands between a cursor and itself. -/
theorem Spans.refl (c : Cursor) : c.Spans [] c := ⟨rfl, rfl⟩

/-- Two parts in a row are one part, from the first cursor to the last one. -/
theorem Spans.trans {c d e : Cursor} {a b : Text} (hcd : c.Spans a d) (hde : d.Spans b e) :
    c.Spans (a ++ b) e where
  ahead := by rw [hcd.ahead, hde.ahead, List.append_assoc]
  position := by rw [hde.position, hcd.position, List.length_append, Nat.add_assoc]

/-- A part ends at one cursor only, and it is the one that skips as many units. -/
theorem Spans.eq_skip {c d : Cursor} {a : Text} (h : c.Spans a d) : c.skip a.length = d := by
  obtain ⟨position, ahead⟩ := d
  have hahead : c.ahead = a ++ ahead := h.ahead
  have hposition : position = c.position + a.length := h.position
  rw [skip, hahead, List.drop_left, hposition]

/-- Where nothing stands between two cursors, they are one and the same. -/
theorem Spans.eq_of_nil {c d : Cursor} (h : c.Spans [] d) : c = d := by
  rw [← h.eq_skip]
  rfl

/-- Skipping what stands ahead spans it: the length of a part is enough to come behind it. -/
theorem spans_skip {c : Cursor} (part : Text) {rest : Text} (h : c.ahead = part ++ rest) :
    c.Spans part (c.skip part.length) where
  ahead := by rw [skip, h, List.drop_left]
  position := rfl

/-- A part that is put together of two has a cursor between them, which skips the first. -/
theorem Spans.split {c e : Cursor} {a b : Text} (h : c.Spans (a ++ b) e) :
    c.Spans a (c.skip a.length) ∧ (c.skip a.length).Spans b e := by
  have hahead : c.ahead = a ++ (b ++ e.ahead) := by rw [h.ahead, List.append_assoc]
  refine ⟨spans_skip a hahead, ?_, ?_⟩
  · rw [skip, hahead, List.drop_left]
  · rw [h.position, List.length_append, skip, Nat.add_assoc]

/-- Some cursor stands between two parts in a row. This is `Spans.split` where it does not matter
which. -/
theorem Spans.between {c e : Cursor} {a b : Text} (h : c.Spans (a ++ b) e) :
    ∃ d, c.Spans a d ∧ d.Spans b e := ⟨_, h.split⟩

/-- The units that are read off between two cursors are the part between them. -/
theorem Spans.upTo {c d : Cursor} {a : Text} (h : c.Spans a d) : c.upTo d = a := by
  rw [Cursor.upTo, h.position, h.ahead, Nat.add_sub_cancel_left, List.take_left]

/-- A cursor before one unit has that unit ahead, and then what the next cursor has. -/
theorem Spans.head {c d : Cursor} {u : CodeUnit} (h : c.Spans [u] d) :
    c.ahead = u :: d.ahead := h.ahead

/-- The next units that satisfy `p` are a part of the text, and skipping as many comes behind it. -/
theorem spans_takeWhile (p : CodeUnit → Bool) (c : Cursor) :
    c.Spans (c.ahead.takeWhile p) (c.skip (c.ahead.takeWhile p).length) :=
  spans_skip _ List.takeWhile_append_dropWhile.symm

/-- Taking the next units that satisfy `p` stops at the end of a part of such units, where none
follows. -/
theorem Spans.skip_takeWhile {p : CodeUnit → Bool} {c d : Cursor} {part : Text}
    (h : c.Spans part d) (hpart : ∀ u ∈ part, p u = true) (hd : ¬ Starts p d.ahead) :
    c.skip (c.ahead.takeWhile p).length = d := by
  rw [h.ahead, takeWhile_append_of_not_starts hpart hd]
  exact h.eq_skip

/-- The white space ahead is a part of the text, and skipping it comes behind it. -/
theorem spans_skipSpace (c : Cursor) : c.Spans (c.ahead.takeWhile isSpace) c.skipSpace :=
  spans_takeWhile isSpace c

/-- What is ahead after the white space is the text without the white space it starts with. -/
theorem ahead_skipSpace (c : Cursor) : c.skipSpace.ahead = c.ahead.dropWhile isSpace := by
  have h := (spans_skipSpace c).ahead
  exact List.append_cancel_left (h.symm.trans List.takeWhile_append_dropWhile.symm)

/-- Skipping white space stops at the end of a part of white space, where none follows. -/
theorem Spans.skipSpace {c d : Cursor} {w : Text} (h : c.Spans w d)
    (hw : ∀ u ∈ w, isSpace u = true) (hd : ¬ Starts isSpace d.ahead) : c.skipSpace = d :=
  h.skip_takeWhile hw hd

end Cursor

end FieldMask.Json
