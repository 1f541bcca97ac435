import FieldMask.Proofs.Text.AsciiCase
import FieldMask.Proofs.Text.LowerCase

/-!
# `FieldMask.Proofs.Allowlist`: what an allowlist lists

The normal form of a field name is its own normal form (`normalize_normalize`). So it does not
matter how often names are normalised on their way into an allowlist, and every name in an allowlist
is found there: an allowlist is `Sound`, whatever it was made of (`sound_create`), and a sound
allowlist allows each of its names, in any case of ASCII letters and with white space around it
(`Sound.allows`).

`FieldNames.inScope` says what names put in scope, on their entries as they are written: those that
are not blank, trimmed and in lower case, each where it occurs first; the default fields if there
are none. The allowlist of the names has these fields (`fields_create_some`).
-/

set_option autoImplicit false

namespace FieldMask

/-! ### White space -/

namespace Text

/-- Trimming leaves nothing exactly of a blank text, since both look for the same white space. -/
theorem trim_eq_nil_iff {t : Text} : t.trim = [] ↔ t.isBlank = true := by
  obtain ⟨v, w, hv, hw, ht⟩ := exists_eq_trim t
  have hall : t.isBlank = true ↔ IsPadding t := List.all_eq_true
  rw [hall]
  constructor
  · intro hnil
    rw [hnil, List.nil_append] at ht
    rw [ht]
    exact List.forall_mem_append.mpr ⟨hv, hw⟩
  · intro hblank
    rw [List.eq_nil_iff_forall_not_mem]
    intro u hu
    -- The first unit of what is left would be white space, and it is not.
    obtain ⟨first, rest, hrest⟩ := List.exists_cons_of_ne_nil (List.ne_nil_of_mem hu)
    have hflush := (isFlush_trim t).head first (by rw [hrest]; rfl)
    have hmem : first ∈ t := by
      rw [ht, hrest]
      exact List.mem_append_right _ (List.mem_append_left _ List.mem_cons_self)
    rw [hblank first hmem] at hflush
    exact nomatch hflush

/-- A text that is not empty and has no white space at its ends is not blank: a blank text that is
flush has nothing left to trim, so it would be empty. -/
theorem IsFlush.isBlank_eq_false {t : Text} (h : t.IsFlush) (hne : t ≠ []) : t.isBlank = false := by
  rw [← Bool.not_eq_true, ← trim_eq_nil_iff, h.trim_eq]
  exact hne

/-- What holds of every unit of every part of a cut text holds of all units but those it was cut at.
By induction on the text, as it is cut. -/
theorem forall_mem_splitWhen_iff {p q : CodeUnit → Bool} {t : Text} :
    (∀ part ∈ splitWhen p t, ∀ u ∈ part, q u = true) ↔ ∀ u ∈ t, p u = true ∨ q u = true := by
  induction t with
  | nil => simp [splitWhen]
  | cons u t ih =>
      rw [List.forall_mem_cons, ← ih, splitWhen]
      split
      · next hu => simp [hu]
      · next hu =>
          cases hsplit : splitWhen p t with
          | nil => exact absurd hsplit (splitWhen_ne_nil p t)
          | cons part parts => simp [hu, and_assoc]

end Text

namespace Allowlist

/-! ### Normal forms -/

/-- A normal form has no white space at its ends: trimming comes first, and white space has no case.
-/
theorem isFlush_normalize (field : Text) : (normalize field).IsFlush :=
  (Text.isFlush_trim field).lower

/-- A normal form is its own normal form. So it does not matter how often a name is normalised on
its way into an allowlist, or once more when it is looked up. -/
theorem normalize_normalize (field : Text) : normalize (normalize field) = normalize field := by
  rw [normalize, (isFlush_normalize field).trim_eq, normalize, Text.lower_lower]

/-- The normal form is empty exactly of a blank name. This is how blank entries are left out of an
allowlist. -/
theorem normalize_eq_nil_iff {field : Text} : normalize field = [] ↔ field.isBlank = true := by
  rw [normalize, Text.lower_eq_nil_iff, Text.trim_eq_nil_iff]

/-- What comes out of a list of names are the normal forms of those that are not blank. -/
theorem mem_normalizeAll_iff {names : List Text} {e : Text} :
    e ∈ normalizeAll names ↔ e ≠ [] ∧ ∃ name ∈ names, normalize name = e := by
  rw [normalizeAll, List.mem_filter, List.mem_map, and_comm, Bool.not_eq_true',
    List.isEmpty_eq_false_iff]

/-- Names in normal form stay as they are: an allowlist made of such names is made of the same
names. -/
theorem normalizeAll_normalizeAll (names : List Text) :
    normalizeAll (normalizeAll names) = normalizeAll names := by
  have hsame : (normalizeAll names).map normalize = (normalizeAll names).map id := by
    refine List.map_congr_left fun e he => ?_
    obtain ⟨-, name, -, rfl⟩ := mem_normalizeAll_iff.mp he
    exact normalize_normalize name
  rw [normalizeAll, hsame, List.map_id, normalizeAll, List.filter_filter]
  simp

/-! ### Entries without repetitions -/

/-- Leaving out the fields that were seen, each field stands where it occurs first. By induction on
the fields, where one more was seen at every step. -/
theorem distinct_eq (seen fields : List Text) :
    distinct seen fields = (fields.filter fun field => !seen.contains field).eraseDups := by
  induction fields generalizing seen with
  | nil => rfl
  | cons field rest ih =>
      rw [distinct, List.filter_cons]
      by_cases hseen : seen.contains field = true
      · rw [if_pos hseen, ih, hseen]
        rfl
      · rw [if_neg hseen, ih, if_pos (by simpa using hseen), List.eraseDups_cons,
          List.filter_filter]
        congr 3
        funext other
        rw [List.contains_cons, Bool.not_or]

/-- What is left without repetitions are the fields themselves, but for those that had been seen
before. -/
theorem mem_distinct_iff {seen fields : List Text} {field : Text} :
    field ∈ distinct seen fields ↔ field ∈ fields ∧ field ∉ seen := by
  rw [distinct_eq, List.mem_eraseDups, List.mem_filter]
  simp

/-- No field stands twice in what is left, whatever had been seen. -/
theorem nodup_distinct (seen fields : List Text) : (distinct seen fields).Nodup := by
  induction fields generalizing seen with
  | nil => exact List.nodup_nil
  | cons field rest ih =>
      rw [distinct]
      split
      · exact ih seen
      · refine List.nodup_cons.mpr ⟨fun hmem => ?_, ih (field :: seen)⟩
        exact (mem_distinct_iff.mp hmem).2 List.mem_cons_self

/-! ### Sound allowlists -/

/-- The allowlist lists something, nothing twice, and only names in normal form that are not blank.
Every allowlist that is made is sound, so every engine has a sound one. -/
structure Sound (a : Allowlist) : Prop where
  nonempty : a.fields ≠ []
  nodup : a.fields.Nodup
  normal : ∀ e ∈ a.fields, normalize e = e
  not_blank : ∀ e ∈ a.fields, e.isBlank = false

/-- The field is the name with white space around it, and perhaps with ASCII letters in the other
case. Such a field is written differently and means the same. -/
def IsVariant (e field : Text) : Prop :=
  ∃ v w, v.IsPadding ∧ w.IsPadding ∧ field.asciiLower = (v ++ (e ++ w)).asciiLower

/-- The names that an allowlist is made of before repetitions are left out: the entries that are
given, or the default fields if there are none. -/
def listed (names : Option FieldNames) : List Text :=
  let given := (names.map entries).getD []
  if given.isEmpty then defaultFields else given

/-- The fields of an allowlist are the names it is made of, each where it occurs first. This also
covers the allowlist that is made of nothing. -/
theorem fields_create (names : Option FieldNames) :
    (create names).fields = (listed names).eraseDups := by
  show distinct [] (listed names) = _
  rw [distinct_eq]
  simp

/-- The names that are given are in normal form and not blank, and so are the default fields. For
these it is a finite check. -/
theorem normal_of_mem_listed {names : Option FieldNames} {e : Text} (h : e ∈ listed names) :
    normalize e = e ∧ e ≠ [] := by
  have hdefault : ∀ e ∈ defaultFields, normalize e = e ∧ e ≠ [] := by decide +kernel
  have hgiven : ∀ e ∈ (names.map entries).getD [], normalize e = e ∧ e ≠ [] := by
    intro e he
    cases names with
    | none => exact absurd he List.not_mem_nil
    | some names =>
        cases names with
        | text csv =>
            obtain ⟨hne, name, -, rfl⟩ := mem_normalizeAll_iff.mp he
            exact ⟨normalize_normalize name, hne⟩
        | list fields =>
            obtain ⟨hne, name, -, rfl⟩ := mem_normalizeAll_iff.mp he
            exact ⟨normalize_normalize name, hne⟩
  unfold listed at h
  simp only at h
  split at h
  · exact hdefault e h
  · exact hgiven e h

/-- An allowlist is sound, whatever names it is made of, and also if it is made of none. -/
theorem sound_create (names : Option FieldNames) : (create names).Sound := by
  have hmem : ∀ e ∈ (create names).fields, e ∈ listed names := by
    intro e he
    rwa [fields_create, List.mem_eraseDups] at he
  refine ⟨?_, nodup_distinct _ _, fun e he => (normal_of_mem_listed (hmem e he)).1, ?_⟩
  · have hne : listed names ≠ [] := by
      unfold listed
      simp only
      split
      · decide
      · next hgiven => simpa using hgiven
    obtain ⟨e, rest, hrest⟩ := List.exists_cons_of_ne_nil hne
    rw [fields_create, hrest, List.eraseDups_cons]
    exact List.cons_ne_nil _ _
  · intro e he
    obtain ⟨hnormal, hne⟩ := normal_of_mem_listed (hmem e he)
    rw [← hnormal] at hne ⊢
    exact (isFlush_normalize e).isBlank_eq_false hne

/-- A field is allowed exactly if its normal form is one of the fields. -/
theorem allows_iff {a : Allowlist} {field : Text} :
    a.allows field = true ↔ normalize field ∈ a.fields := by
  rw [allows, List.contains_iff_mem]

/-- A sound allowlist allows every variant of each name that it lists: case and padding are gone
from the normal form of the field, and the name is its own normal form. -/
theorem Sound.allows {a : Allowlist} (h : a.Sound) {e field : Text} (he : e ∈ a.fields)
    (hfield : IsVariant e field) : a.allows field = true := by
  obtain ⟨v, w, hv, hw, hcase⟩ := hfield
  have hnormal := h.normal e he
  have hflush : e.IsFlush := hnormal ▸ isFlush_normalize e
  have hsame : normalize field = e :=
    calc normalize field = normalize field.asciiLower := (normalize_asciiLower field).symm
      _ = normalize (v ++ (e ++ w)) := by rw [hcase, normalize_asciiLower]
      _ = e.lower := by rw [normalize, hflush.trim_padded hv hw]
      _ = normalize e := by rw [normalize, hflush.trim_eq]
      _ = e := hnormal
  rw [allows_iff, hsame]
  exact he

/-! ### Ways to give the same names -/

/-- Names in a text that are given as a list, normalised or not, are the same names. So it makes no
difference at which point of the way a text is cut into names. -/
theorem create_parse (csv : Text) :
    create (some (.list (parse csv))) = create (some (.text csv)) := by
  have hsame : entries (.list (parse csv)) = entries (.text csv) :=
    normalizeAll_normalizeAll (csv.splitWhen (· == comma))
  rw [create, create, Option.map_some, Option.map_some, hsame]

/-- A text lists no names exactly if it holds only white space and commas. Such a text stands for no
choice at all. -/
theorem parse_eq_nil_iff {csv : Text} :
    parse csv = [] ↔ ∀ u ∈ csv, u = comma ∨ Unicode.isBlank u = true := by
  have hparts : parse csv = [] ↔
      ∀ part ∈ csv.splitWhen (· == comma), ∀ u ∈ part, Unicode.isBlank u = true := by
    rw [parse, normalizeAll, List.filter_eq_nil_iff, List.forall_mem_map]
    refine forall₂_congr fun part _ => ?_
    rw [Bool.not_eq_true', Bool.not_eq_false, List.isEmpty_iff, normalize_eq_nil_iff]
    exact List.all_eq_true
  rw [hparts, Text.forall_mem_splitWhen_iff]
  simp only [beq_iff_eq]

end Allowlist

/-! ### What names list

The next definitions say what names put in scope on the entries as they are written, without a
reference to how an allowlist is made.
-/

open Allowlist (comma defaultFields)

/-- The entries of names as they are written: the parts of a text between its commas, or the names
of a list. Nothing is trimmed or left out yet. -/
def FieldNames.written : FieldNames → List Text
  | .text csv => csv.splitWhen (· == comma)
  | .list names => names

/-- The entries that are not blank, trimmed and in lower case, each where it occurs first. This is
what the names say, apart from how they are spelled. -/
def FieldNames.listing (names : FieldNames) : List Text :=
  ((names.written.filter fun entry => !entry.isBlank).map fun entry => entry.trim.lower).eraseDups

/-- The fields that names put in scope: those that they list, or the default fields if they list
none, as when all that is given is white space and commas. -/
def FieldNames.inScope (names : FieldNames) : List Text :=
  if names.listing = [] then defaultFields else names.listing

namespace Allowlist

/-- It makes no difference whether blank entries are left out before they are normalised, as a
listing does, or after it, as the allowlist does: an entry is blank exactly if its normal form is
empty. -/
theorem entries_eq_map_filter (names : FieldNames) :
    entries names = (names.written.filter fun entry => !entry.isBlank).map normalize := by
  have hblank : ∀ entry : Text, (normalize entry).isEmpty = entry.isBlank := by
    intro entry
    rw [Bool.eq_iff_iff, List.isEmpty_iff, normalize_eq_nil_iff]
  have hentries : entries names = normalizeAll names.written := by
    cases names <;> rfl
  rw [hentries, normalizeAll, List.filter_map]
  congr 2
  funext entry
  rw [Function.comp_apply, hblank]

/-- A listing is what the allowlist finds in the names, without repetitions. -/
theorem listing_eq (names : FieldNames) : names.listing = (entries names).eraseDups := by
  rw [entries_eq_map_filter]
  rfl

/-- A listing is empty exactly if the allowlist finds nothing in the names. -/
theorem listing_eq_nil_iff {names : FieldNames} : names.listing = [] ↔ entries names = [] := by
  rw [listing_eq]
  cases entries names with
  | nil => exact Iff.rfl
  | cons entry rest => simp [List.eraseDups_cons]

/-- The allowlist of names has the fields that the names put in scope, in the same order. This ties
the way in which an allowlist is made to what the names say. -/
theorem fields_create_some (names : FieldNames) : (create (some names)).fields = names.inScope := by
  have hdefault : defaultFields.eraseDups = defaultFields := by decide +kernel
  have hlisted : listed (some names)
      = if entries names = [] then defaultFields else entries names := by
    show (if (entries names).isEmpty then defaultFields else entries names) = _
    simp only [List.isEmpty_iff]
  rw [fields_create, hlisted, FieldNames.inScope]
  by_cases hnone : entries names = []
  · rw [if_pos hnone, if_pos (listing_eq_nil_iff.mpr hnone), hdefault]
  · rw [if_neg hnone, if_neg (mt listing_eq_nil_iff.mp hnone), listing_eq]

end Allowlist

end FieldMask
