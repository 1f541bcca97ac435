import FieldMask.Proofs.FieldCase
import FieldMask.Proofs.Text.Padding

/-!
# `FieldMask.Proofs.FieldPadding`: field names with one normal form

The allowlist compares field names in normal form, but a strategy is asked about the name as it is.
So names with one normal form are both in scope or both not, and yet one of them can be masked and
the other not: a pattern that asks for the whole name does not match a name with a space in front
(`maskValue_anchoredEngine`).

A test for a contained text does see both names alike, as long as the text that it looks for does
not itself begin or end with white space (`Strategy.accepts_of_searches`). Where every strategy
accepts both names or neither, values are masked alike under them, and so are documents in which one
stands for the other (`normalForm_masked_alike`).
-/

set_option autoImplicit false

namespace FieldMask

variable {f g : Text}

/-- An allowlist sees the normal form of a name only, so it does not tell names with one normal form
apart. -/
theorem Allowlist.allows_of_normalize (a : Allowlist) (h : normalize f = normalize g) :
    a.allows f = a.allows g := by
  rw [allows, h, allows]

namespace Strategy

/-- The strategy looks for a text in the name, and what it looks for does not begin or end with
white space. -/
def Searches (s : Strategy) : Prop :=
  ∃ name part mask, s = define name (.containing part) mask ∧ part.lower.trim = part.lower

/-- Such a strategy accepts both of two names with one normal form, or neither. -/
theorem accepts_of_searches {s : Strategy} (hs : s.Searches)
    (h : Allowlist.normalize f = Allowlist.normalize g) : s.accepts f = s.accepts g := by
  obtain ⟨name, part, mask, rfl, htrim⟩ := hs
  have hflush : part.lower.IsFlush := htrim ▸ part.lower.isFlush_trim
  have hlower : f.trim.lower = g.trim.lower := h
  calc part.lower.isInfix f.lower = part.lower.isInfix f.trim.lower :=
        Text.isInfix_lower_trim hflush f
    _ = part.lower.isInfix g.trim.lower := by rw [hlower]
    _ = part.lower.isInfix g.lower := (Text.isInfix_lower_trim hflush g).symm

/-- The default strategies look for such texts: their texts are plain words in lower case. -/
theorem searches_of_mem_defaults {s : Strategy} (h : s ∈ defaults) : s.Searches := by
  simp only [defaults, List.mem_cons, List.not_mem_nil, or_false] at h
  rcases h with rfl | rfl | rfl
  · exact ⟨_, _, _, rfl, by decide +kernel⟩
  · exact ⟨_, _, _, rfl, by decide +kernel⟩
  · exact ⟨_, _, _, rfl, by decide +kernel⟩

end Strategy

/-- The name, with `f` in place of `g`. Documents are compared after their members have been renamed
in this way. -/
def merged (f g field : Text) : Text := if field = g then f else field

/-- Names that are not told apart once `f` stands for `g` are the same, or they are these two. -/
theorem eq_of_merged_eq {α : Type} {F : Text → α} (h : F f = F g) {x y : Text}
    (hxy : merged f g x = merged f g y) : F x = F y := by
  have hmerged : ∀ field, F (merged f g field) = F field := by
    intro field
    unfold merged
    split
    · next hfield => rw [hfield, h]
    · rfl
  rw [← hmerged x, hxy, hmerged]

/-- Field names with one normal form, and what treats them alike.

Every allowlist allows both or neither. So does every strategy that looks for a text which, in lower
case, neither begins nor ends with white space; the built-in strategies for names, mail addresses
and phone numbers are among these. So does every strategy with a pattern under which the two names
have the same canonical forms, one by one. If each strategy of an engine accepts both or neither,
the engine masks every value under one name as under the other; and documents that are the same but
that members are named by one in place of the other stay so, with the same counts and the same log,
or are refused in the same way. -/
theorem normalForm_masked_alike (h : Allowlist.normalize f = Allowlist.normalize g) :
    (∀ a : Allowlist, a.allows f = a.allows g) ∧
    (∀ s : Strategy, s.Searches → s.accepts f = s.accepts g) ∧
    (∀ s ∈ Strategy.defaults, s.Searches) ∧
    (∀ name (pattern : Pattern) mask,
      (Pattern.characters pattern.mode f).map (Pattern.canonical pattern.mode.unicode)
        = (Pattern.characters pattern.mode g).map (Pattern.canonical pattern.mode.unicode) →
      (Strategy.define name (.matching pattern) mask).accepts f
        = (Strategy.define name (.matching pattern) mask).accepts g) ∧
    (∀ e : Engine, (∀ s ∈ e.settings.registry.strategies, s.accepts f = s.accepts g) →
      (∀ value, e.maskValue f value = e.maskValue g value) ∧
      ∀ t u a b tally, Json.parse .same t = .ok a → Json.parse .same u = .ok b →
        a.rename (merged f g) = b.rename (merged f g) →
        (e.maskDocument t tally).SameUpTo (merged f g) (e.maskDocument u tally)) := by
  refine ⟨fun a => a.allows_of_normalize h, fun s hs => Strategy.accepts_of_searches hs h,
    fun s hs => Strategy.searches_of_mem_defaults hs, ?_, ?_⟩
  · intro name pattern mask hforms
    exact pattern.test_eq_of_canonical_eq hforms
  · intro e he
    refine ⟨e.maskValue_congr (e.settings.fields.allows_of_normalize h) he, ?_⟩
    intro t u a b tally ht hu hab
    -- Names that are merged are the same or the two, so it is enough to compare these two.
    refine e.maskDocument_of_rename (Settings.ignores_of_forall ?_ ?_) ht hu hab tally
    · intro x y
      exact eq_of_merged_eq (e.settings.fields.allows_of_normalize h)
    · intro s hs x y
      exact eq_of_merged_eq (he s hs)

/-- The default engine masks a name with a space in front as it masks the name. -/
theorem normalForm_masked_alike_default :
    Allowlist.normalize " Name" = Allowlist.normalize "name" ∧
    (Engine.create {}).maskValue " Name" "Ann" = .ok "A**" ∧
    ((Engine.create {}).maskDocument "\x7b\" Name\":\"Ann\"\x7d" .empty).tally
      = ((Engine.create {}).maskDocument "\x7b\"name\":\"Ann\"\x7d" .empty).tally := by
  have hnormal : Allowlist.normalize " Name" = Allowlist.normalize "name" := by decide +kernel
  have hmasked : (Engine.create {}).maskValue "name" "Ann" = .ok "A**" := by decide +kernel
  have hread : Json.parse .same "\x7b\" Name\":\"Ann\"\x7d"
      = .ok (.object [(" Name", .string "Ann")]) := by decide +kernel
  have hread' : Json.parse .same "\x7b\"name\":\"Ann\"\x7d"
      = .ok (.object [("name", .string "Ann")]) := by decide +kernel
  obtain ⟨-, hsearches, hdefaults, -, hengine⟩ := normalForm_masked_alike hnormal
  have haccepts : ∀ s ∈ (Engine.create {}).settings.registry.strategies,
      s.accepts " Name" = s.accepts "name" := fun s hs => hsearches s (hdefaults s hs)
  obtain ⟨hvalue, hdocument⟩ := hengine (Engine.create {}) haccepts
  refine ⟨hnormal, (hvalue "Ann").trans hmasked, ?_⟩
  exact (hdocument _ _ _ _ .empty hread hread' (by decide +kernel)).tally

/-- The pattern `^name$`, which asks for the whole name and so does not match it with a space in
front. -/
def anchoredPattern : Pattern :=
  ⟨⟨.units, false, false⟩, 0, .seq (.seq (.seq (.seq (.seq .start (.char 0x4E)) (.char 0x41))
    (.char 0x4D)) (.char 0x45)) .finish⟩

/-- An engine that masks the fields whose whole name is `name`, by that pattern. -/
def anchoredEngine : Engine where
  settings :=
    { enabled := true
      fields := ⟨["name"]⟩
      registry := ⟨[Strategy.define "star" (.matching anchoredPattern) fun _ => .ok "*"]⟩
      failClosed := false }

/-- A name in scope is masked, and with a space in front it is in scope and is not. -/
theorem maskValue_anchoredEngine :
    Pattern.parse ⟨.units, false, false⟩ "^name$" = .ok anchoredPattern ∧
    Allowlist.normalize " name" = Allowlist.normalize "name" ∧
    anchoredEngine.isEnabledFor " name" = true ∧
    anchoredEngine.maskValue "name" "Ann" = .ok "*" ∧
    anchoredEngine.maskValue " name" "Ann" = .ok "Ann" := by
  refine ⟨by decide +kernel, by decide +kernel, by decide +kernel, by decide +kernel,
    by decide +kernel⟩

end FieldMask
