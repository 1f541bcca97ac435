import FieldMask.Proofs.Document

/-!
# `FieldMask.Proofs.Outcome`: what masking makes of a text

A text is passed on, rejected or masked. Which of them it is, with which failure or which tree, is
decided by the settings and the text alone; the counts before play no part, and neither does the way
in which the engine fails. `Settings.outcome` is that decision, and `maskDocument_eq` says that a
run only adds to it what `failClosed` and the counts before contribute.

`Settings.Rejects` says in terms of the text when it is rejected, and why: it cannot be read, its
root is no object, or some strategy refuses the value of a string member after others that passed.
The three exclude each other (`Rejects.unique`), and `exists_outcome_eq_rejected_iff` says that they
are all.
-/

set_option autoImplicit false

namespace FieldMask

open Json (Visit)

/-- What masking makes of a text. The lists hold the names of the strategies that masked a value on
the way, in order. -/
inductive Outcome where
  /-- There is nothing to mask. -/
  | passed
  /-- The text cannot be masked. -/
  | rejected (f : Failure) (hits : List Text)
  /-- The text is a document that becomes the given tree. -/
  | masked (root : Json) (hits : List Text)

/-- The names of the strategies that masked a value on the way, in order. A text that is passed has
none. -/
def Outcome.hits : Outcome → List Text
  | .passed => []
  | .rejected _ hits => hits
  | .masked _ hits => hits

namespace Settings

variable (s : Settings) (t : Text)

/-- What masking by these settings makes of a text. Counts and log lines are no part of it. -/
def outcome : Outcome :=
  if !s.enabled || t.isBlank then .passed
  else
    match Json.parse .same t with
    | .error mistake => .rejected (.invalidJson mistake) []
    | .ok root =>
      if root.isObject then
        match s.refusal? root.visits with
        | some r => .rejected (.internal r) (s.hits (s.done root.visits))
        | none => .masked (root.mapVisits s.masked) (s.hits root.visits)
      else .rejected (.unsupportedRoot root.kind) []

/-- There is something to mask: masking is switched on, and the text is not blank. -/
structure Attempts : Prop where
  enabled : s.enabled = true
  notBlank : t.isBlank = false

/-- Why a text cannot be masked: it is no JSON, its root is no object, or a value is refused. Each
says what failure comes of it. -/
inductive Cause : Failure → Prop where
  | invalidJson {mistake : Json.ParseError} (hparse : Json.parse .same t = .error mistake) :
      Cause (.invalidJson mistake)
  | unsupportedRoot {root : Json} (hparse : Json.parse .same t = .ok root)
      (hroot : root.isObject = false) : Cause (.unsupportedRoot root.kind)
  | internal {root : Json} {before after : List Visit} {m : Visit} {r : Refusal}
      (hparse : Json.parse .same t = .ok root) (hroot : root.isObject = true)
      (hvisits : root.visits = before ++ m :: after)
      (hbefore : ∀ b ∈ before, s.passes b = true) (hm : s.maskVisit m = .error r) :
      Cause (.internal r)

/-- There is something to mask and it fails, with the given failure. An engine that is switched off
rejects nothing. -/
structure Rejects (f : Failure) : Prop extends s.Attempts t where
  cause : s.Cause t f

variable {s t}

/-- Where there is nothing to mask, the text is passed, whatever it says. -/
theorem outcome_of_not_attempts (h : ¬ s.Attempts t) : s.outcome t = .passed := by
  have hpassed : (!s.enabled || t.isBlank) = true := by
    by_contra hboth
    simp only [Bool.or_eq_true, Bool.not_eq_true', not_or, Bool.not_eq_true,
      Bool.not_eq_false] at hboth
    exact h ⟨hboth.1, hboth.2⟩
  rw [outcome, if_pos hpassed]

/-- Where there is something to mask, the tree decides: whether there is one, whether it is an
object, and whether a value in it is refused. -/
theorem outcome_of_attempts (h : s.Attempts t) :
    s.outcome t =
      match Json.parse .same t with
      | .error mistake => .rejected (.invalidJson mistake) []
      | .ok root =>
        if root.isObject then
          match s.refusal? root.visits with
          | some r => .rejected (.internal r) (s.hits (s.done root.visits))
          | none => .masked (root.mapVisits s.masked) (s.hits root.visits)
        else .rejected (.unsupportedRoot root.kind) [] := by
  rw [outcome, if_neg (by simp [h.enabled, h.notBlank])]

/-- The refusal of a walk is the first one: the members before it passed, and the member that was
refused is next. -/
theorem refusal?_eq_some_iff {ms : List Visit} {r : Refusal} :
    s.refusal? ms = some r ↔
      ∃ before m after, ms = before ++ m :: after ∧ (∀ b ∈ before, s.passes b = true) ∧
        s.maskVisit m = .error r := by
  constructor
  · intro h
    obtain ⟨before, m, after, hms, hm, hbefore⟩ := List.findSome?_eq_some_iff.mp h
    refine ⟨before, m, after, hms, ?_, ?_⟩
    · intro b hb
      have hnone := hbefore b hb
      unfold passes
      cases hmask : s.maskVisit b with
      | ok v => rfl
      | error _ =>
          rw [hmask] at hnone
          exact nomatch hnone
    · cases hmask : s.maskVisit m with
      | ok v =>
          rw [hmask] at hm
          exact nomatch hm
      | error q =>
          rw [hmask] at hm
          rw [Option.some.inj hm]
  · rintro ⟨before, m, after, rfl, hbefore, hm⟩
    exact (s.done_of_refused after ((s.refusal?_eq_none_iff before).mpr hbefore) hm).2

/-- Some string member of a tree is refused by its strategy, wherever it stands. -/
def Refuses (s : Settings) (j : Json) : Prop := ∃ m ∈ j.visits, ∃ r, s.maskVisit m = .error r

/-- There is a first refusal if there is one at all, so a walk over such a tree breaks off. -/
theorem refuses_iff {j : Json} : s.Refuses j ↔ ∃ r, s.refusal? j.visits = some r := by
  constructor
  · rintro ⟨m, hm, r, hr⟩
    rw [← Option.isSome_iff_exists, Option.isSome_iff_ne_none]
    intro hnone
    have hpasses := (s.refusal?_eq_none_iff j.visits).mp hnone m hm
    rw [passes, hr] at hpasses
    cases hpasses
  · rintro ⟨r, hr⟩
    obtain ⟨before, m, after, hvisits, -, hm⟩ := refusal?_eq_some_iff.mp hr
    refine ⟨m, ?_, r, hm⟩
    rw [hvisits]
    exact List.mem_append_cons_self

/-- Where no value is refused, the walk gets through. -/
theorem not_refuses_iff {j : Json} : ¬ s.Refuses j ↔ s.refusal? j.visits = none := by
  rw [refuses_iff, ← Option.isSome_iff_exists, Option.not_isSome_iff_eq_none]

/-- No strategy masks a value exactly when no member has one. -/
theorem hits_eq_nil_iff {ms : List Visit} :
    s.hits ms = [] ↔ ∀ m ∈ ms, s.strategyFor? m.field = none := by
  simp only [hits, List.filterMap_eq_nil_iff, List.forall_mem_map, Option.map_eq_none_iff]

/-- A text that is rejected has that outcome, with the names of the strategies that masked something
before. -/
theorem outcome_of_rejects {f : Failure} (h : s.Rejects t f) :
    ∃ hits, s.outcome t = .rejected f hits := by
  obtain ⟨hattempts, hcause⟩ := h
  rw [outcome_of_attempts hattempts]
  cases hcause with
  | invalidJson hparse =>
      rw [hparse]
      exact ⟨_, rfl⟩
  | unsupportedRoot hparse hroot =>
      rw [hparse]
      simp only [hroot, Bool.false_eq_true, if_false]
      exact ⟨_, rfl⟩
  | internal hparse hroot hvisits hbefore hm =>
      have hrefusal := refusal?_eq_some_iff.mpr ⟨_, _, _, hvisits, hbefore, hm⟩
      rw [hparse]
      simp only [hroot, if_true, hrefusal]
      exact ⟨_, rfl⟩

/-- What an outcome says about the text, in each of the three cases. Other proofs go by these cases
and not by the definition. -/
theorem outcome_cases (s : Settings) (t : Text) :
    (¬ s.Attempts t ∧ s.outcome t = .passed) ∨
    (∃ f hits, s.Rejects t f ∧ s.outcome t = .rejected f hits) ∨
    (∃ members, s.Attempts t ∧ Json.parse .same t = .ok (.object members) ∧
      s.refusal? (Json.object members).visits = none ∧
      s.outcome t = .masked ((Json.object members).mapVisits s.masked)
        (s.hits (Json.object members).visits)) := by
  by_cases hattempts : s.Attempts t
  · right
    -- Each cause leads to the second case, so only the causes have to be found.
    have hrejects : ∀ f, s.Cause t f →
        ∃ f hits, s.Rejects t f ∧ s.outcome t = .rejected f hits := by
      intro f hcause
      obtain ⟨hits, houtcome⟩ := outcome_of_rejects ⟨hattempts, hcause⟩
      exact ⟨f, hits, ⟨hattempts, hcause⟩, houtcome⟩
    cases hparse : Json.parse .same t with
    | error mistake => exact .inl (hrejects _ (.invalidJson hparse))
    | ok root =>
        cases hroot : root.isObject with
        | false => exact .inl (hrejects _ (.unsupportedRoot hparse hroot))
        | true =>
            cases hrefusal : s.refusal? root.visits with
            | some r =>
                obtain ⟨_, _, _, hvisits, hbefore, hm⟩ := refusal?_eq_some_iff.mp hrefusal
                exact .inl (hrejects _ (.internal hparse hroot hvisits hbefore hm))
            | none =>
                right
                cases root with
                | object members =>
                    refine ⟨members, hattempts, rfl, hrefusal, ?_⟩
                    rw [outcome_of_attempts hattempts, hparse]
                    simp only [hroot, if_true, hrefusal]
                | _ => exact nomatch hroot
  · exact .inl ⟨hattempts, outcome_of_not_attempts hattempts⟩

/-- A text is rejected with a failure exactly when there is something to mask and that failure is
what comes of it. -/
theorem exists_outcome_eq_rejected_iff {f : Failure} :
    (∃ hits, s.outcome t = .rejected f hits) ↔ s.Rejects t f := by
  constructor
  · rintro ⟨hits, h⟩
    rcases outcome_cases s t with ⟨_, hpassed⟩ | ⟨g, _, hrejects, hg⟩ | ⟨_, _, _, _, hmasked⟩
    · exact nomatch hpassed.symm.trans h
    · obtain ⟨rfl, _⟩ := Outcome.rejected.inj (hg.symm.trans h)
      exact hrejects
    · exact nomatch hmasked.symm.trans h
  · exact outcome_of_rejects

/-- A text is rejected for one reason at most, since it has one outcome. -/
theorem Rejects.unique {f g : Failure} (hf : s.Rejects t f) (hg : s.Rejects t g) : f = g := by
  obtain ⟨_, houtcome⟩ := outcome_of_rejects hf
  obtain ⟨_, houtcome'⟩ := outcome_of_rejects hg
  exact (Outcome.rejected.inj (houtcome.symm.trans houtcome')).1

end Settings

namespace Engine

variable (e : Engine)

/-- A run adds to the outcome of the text the counts before and the way in which the engine fails,
and nothing else. -/
theorem maskDocument_eq (t : Text) (tally : Tally) :
    e.maskDocument t tally =
      match e.settings.outcome t with
      | .passed => ⟨.ok t, tally, []⟩
      | .rejected f hits => e.failed t f (hits.foldl Tally.add tally)
      | .masked root hits => ⟨.ok root.print, hits.foldl Tally.add tally, []⟩ := by
  unfold Settings.outcome
  by_cases hpassed : (!e.settings.enabled || t.isBlank) = true
  · rw [maskDocument, if_pos hpassed, if_pos hpassed]
  · rw [if_neg hpassed]
    cases hparse : Json.parse .same t with
    | error mistake =>
        rw [maskDocument, if_neg hpassed, hparse]
        rfl
    | ok root =>
        cases root with
        | object members =>
            have henabled : e.settings.enabled = true := by
              by_contra hoff
              exact hpassed (by simp [hoff])
            rw [e.maskDocument_of_object henabled hparse]
            simp only [Json.isObject, Json.kind, beq_self_eq_true, if_true]
            cases hrefusal : e.settings.refusal? (Json.object members).visits with
            | some r => simp only [e.settings.foldl_count]
            | none => simp only [e.settings.foldl_count]
        | null | bool | number | string | array =>
            rw [maskDocument, if_neg hpassed, hparse]
            rfl

/-- However a document that cannot be masked is dealt with, the counts stay as the walk left them.
-/
theorem tally_failed (t : Text) (f : Failure) (tally : Tally) :
    (e.failed t f tally).tally = tally := by
  unfold failed
  split <;> rfl

/-- A run counts what masked a value on the way, whatever came of the text. -/
theorem tally_maskDocument (t : Text) (tally : Tally) :
    (e.maskDocument t tally).tally = (e.settings.outcome t).hits.foldl Tally.add tally := by
  rw [e.maskDocument_eq]
  cases e.settings.outcome t with
  | passed => rfl
  | rejected f hits => exact e.tally_failed t f _
  | masked root hits => rfl

end Engine

end FieldMask
