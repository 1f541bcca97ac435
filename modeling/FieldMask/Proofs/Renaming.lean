import FieldMask.Proofs.Json.Rename
import FieldMask.Proofs.Json.Soundness
import FieldMask.Proofs.Outcome

/-!
# `FieldMask.Proofs.Renaming`: documents up to the names of their members

An engine reads the name of a member in two places, its allowlist and its strategies. Where both see
names as `ν` does (`Settings.Ignores`), masking does the same in documents that are the same up to
`ν` of the names. The same members are masked, with the same values, until the same refusal
(`outcome_of_rename`), so the runs count and log alike, fail alike, or give documents that are again
the same up to `ν` of the names (`maskDocument_of_rename`).
-/

set_option autoImplicit false

namespace FieldMask

open Json (Visit)

/-- A text that is read as JSON is not blank, so an engine that is switched on does read it. -/
theorem Text.isBlank_of_parse {t : Text} {j : Json} {repeats : Json.Repeats}
    (h : Json.parse repeats t = .ok j) : t.isBlank = false := by
  obtain ⟨raw, w, body, w', -, hbody, -, -, rfl⟩ := Json.parse_eq_ok_iff_spells.mp h
  obtain ⟨u, rest, rfl, hu⟩ := hbody.starts.exists_cons
  have hblank : Unicode.isBlank u = false := by
    simp only [Json.startsValue, Json.isDigit, Bool.or_eq_true, beq_iff_eq, Bool.and_eq_true,
      decide_eq_true_eq, UInt16.le_iff_toNat_le, ← UInt16.toNat_inj, UInt16.reduceToNat] at hu
    rw [← Bool.not_eq_true]
    simp only [Unicode.isBlank, Unicode.singleBlanks, List.contains_cons, List.contains_nil,
      Bool.or_eq_true, beq_iff_eq, Bool.and_eq_true, decide_eq_true_eq, UInt16.le_iff_toNat_le,
      ← UInt16.toNat_inj, UInt16.reduceToNat, Bool.false_eq_true, or_false]
    omega
  exact List.all_eq_false.mpr ⟨u, by simp, by simp [hblank]⟩

/-- Names that each strategy accepts both or neither have the same strategy. -/
theorem Registry.find?_congr {r : Registry} {f g : Text}
    (h : ∀ s ∈ r.strategies, s.accepts f = s.accepts g) : r.find? f = r.find? g := by
  have hfind : ∀ strategies : List Strategy, (∀ s ∈ strategies, s.accepts f = s.accepts g) →
      strategies.find? (fun s => s.accepts f) = strategies.find? fun s => s.accepts g := by
    intro strategies
    induction strategies with
    | nil => exact fun _ => rfl
    | cons s rest ih =>
        intro hall
        obtain ⟨hs, hrest⟩ := List.forall_mem_cons.mp hall
        rw [List.find?_cons, List.find?_cons, hs, ih hrest]
  exact hfind r.strategies h

/-- Names that every strategy accepts both or neither, and that are both in scope or both not, have
their values masked alike. -/
theorem Engine.maskValue_congr {e : Engine} {f g : Text}
    (hallows : e.settings.fields.allows f = e.settings.fields.allows g)
    (haccepts : ∀ s ∈ e.settings.registry.strategies, s.accepts f = s.accepts g) (value : Text) :
    e.maskValue f value = e.maskValue g value := by
  have hfind : e.findStrategy? f = e.findStrategy? g := Registry.find?_congr haccepts
  rw [maskValue, isEnabledFor, hallows, hfind, maskValue, isEnabledFor]

variable {ν : Text → Text}

/-- Neither the allowlist nor the strategies tell names apart that `ν` maps to one: such names have
the same strategy for their values. -/
def Settings.Ignores (s : Settings) (ν : Text → Text) : Prop :=
  ∀ f g, ν f = ν g → s.strategyFor? f = s.strategyFor? g

/-- Two outcomes are the same up to `ν` of the names of members. Only a masked document has such
names in it. -/
inductive Outcome.SameUpTo (ν : Text → Text) : Outcome → Outcome → Prop where
  | passed : SameUpTo ν .passed .passed
  | rejected (f : Failure) (hits : List Text) : SameUpTo ν (.rejected f hits) (.rejected f hits)
  | masked {a b : Json} (ha : a.WellFormed) (hb : b.WellFormed) (h : a.rename ν = b.rename ν)
      (hits : List Text) : SameUpTo ν (.masked a hits) (.masked b hits)

/-- Two runs leave the same counts and the same log, and they fail alike or give documents that are
the same up to `ν` of the names of members. -/
structure DocumentRun.SameUpTo (ν : Text → Text) (r r' : DocumentRun) : Prop where
  tally : r.tally = r'.tally
  log : r.log = r'.log
  result : (∃ f, r.result = .error f ∧ r'.result = .error f) ∨
    ∃ out out' a b, r.result = .ok out ∧ r'.result = .ok out' ∧ Json.parse .same out = .ok a ∧
      Json.parse .same out' = .ok b ∧ a.rename ν = b.rename ν

namespace Settings

variable {s : Settings}

/-- An engine ignores what its allowlist and each of its strategies ignores. -/
theorem ignores_of_forall (hallows : ∀ f g, ν f = ν g → s.fields.allows f = s.fields.allows g)
    (haccepts : ∀ strategy ∈ s.registry.strategies, ∀ f g, ν f = ν g →
      strategy.accepts f = strategy.accepts g) : s.Ignores ν := by
  intro f g hfg
  have hfind : s.registry.find? f = s.registry.find? g :=
    Registry.find?_congr fun strategy hstrategy => haccepts strategy hstrategy f g hfg
  rw [strategyFor?, hallows f g hfg, hfind, strategyFor?]

variable (hs : s.Ignores ν)

include hs

/-- Visited members that are the same up to names are masked alike, or refused alike. -/
theorem maskVisit_of_renamed {m n : Visit} (h : m.renamed ν = n.renamed ν) :
    s.maskVisit m = s.maskVisit n := by
  obtain ⟨hfield, hvalue⟩ := Visit.mk.inj h
  rw [maskVisit, maskVisit, hs _ _ hfield, hvalue]

/-- So the same text is put under them. -/
theorem masked_of_renamed {m n : Visit} (h : m.renamed ν = n.renamed ν) :
    s.masked m = s.masked n := by
  rw [masked, masked, maskVisit_of_renamed hs h, (Visit.mk.inj h).2]

omit hs in
/-- The name of the strategy of the first member comes first, if it has one. -/
theorem hits_cons (m : Visit) (ms : List Visit) :
    s.hits (m :: ms) = ((s.strategyFor? m.field).map Strategy.name).toList ++ s.hits ms := by
  unfold hits
  rw [List.map_cons, List.filterMap_cons]
  cases s.strategyFor? m.field <;> rfl

/-- Visits that are the same up to names meet the same refusal, and the same strategies mask them
before it. By induction on both lists at once. -/
theorem walk_of_renamed {as bs : List Visit}
    (h : as.map (Visit.renamed ν) = bs.map (Visit.renamed ν)) :
    s.refusal? as = s.refusal? bs ∧ s.hits as = s.hits bs ∧
      s.hits (s.done as) = s.hits (s.done bs) := by
  induction as generalizing bs with
  | nil =>
      rw [List.map_eq_nil_iff.mp h.symm]
      exact ⟨rfl, rfl, rfl⟩
  | cons m as ih =>
      obtain ⟨n, bs, rfl, hm, hrest⟩ := List.map_eq_cons_iff.mp h.symm
      obtain ⟨hrefusal, hhits, hdone⟩ := ih hrest.symm
      have hmask := maskVisit_of_renamed hs hm.symm
      have hstrategy := hs _ _ (Visit.mk.inj hm.symm).1
      have hpasses : s.passes m = s.passes n := by rw [passes, hmask, passes]
      have hhits' : s.hits (m :: as) = s.hits (n :: bs) := by
        rw [hits_cons, hits_cons, hhits, hstrategy]
      refine ⟨?_, hhits', ?_⟩
      · rw [refusal?, List.findSome?_cons, hmask, refusal?, List.findSome?_cons]
        split
        · rfl
        · exact hrefusal
      · rw [done, List.takeWhile_cons, hpasses, done, List.takeWhile_cons]
        split
        · rw [hits_cons, hits_cons, hstrategy]
          exact congrArg _ hdone
        · rfl

/-- Documents that are the same up to names have outcomes that are: the two trees have the same kind
and the same members to visit. -/
theorem outcome_of_rename {t u : Text} {a b : Json} (ht : Json.parse .same t = .ok a)
    (hu : Json.parse .same u = .ok b) (h : a.rename ν = b.rename ν) :
    (s.outcome t).SameUpTo ν (s.outcome u) := by
  obtain ⟨hrefusal, hhits, hdone⟩ := walk_of_renamed hs (Json.renamed_visits_eq h)
  have hkind : a.kind = b.kind := by
    rw [← Json.kind_rename (ν := ν) a, h, Json.kind_rename]
  have hroot : a.isObject = b.isObject := by
    rw [Json.isObject, Json.isObject, hkind]
  by_cases henabled : s.enabled = true
  · rw [outcome_of_attempts ⟨henabled, Text.isBlank_of_parse ht⟩,
      outcome_of_attempts ⟨henabled, Text.isBlank_of_parse hu⟩, ht, hu]
    simp only [hrefusal, hhits, hdone, hkind, hroot]
    split
    · split
      · exact .rejected _ _
      · exact .masked (Json.wellFormed_mapVisits _ _ (Json.wellFormed_of_parse ht))
          (Json.wellFormed_mapVisits _ _ (Json.wellFormed_of_parse hu))
          (Json.rename_mapVisits_eq h fun m n => masked_of_renamed hs) _
    · exact .rejected _ _
  · rw [outcome_of_not_attempts fun hattempts => henabled hattempts.enabled,
      outcome_of_not_attempts fun hattempts => henabled hattempts.enabled]
    exact .passed

end Settings

/-- Documents that are the same up to names that the engine does not tell apart are masked alike,
with the same counts and the same log. -/
theorem Engine.maskDocument_of_rename (e : Engine) (he : e.settings.Ignores ν) {t u : Text}
    {a b : Json} (ht : Json.parse .same t = .ok a) (hu : Json.parse .same u = .ok b)
    (h : a.rename ν = b.rename ν) (tally : Tally) :
    (e.maskDocument t tally).SameUpTo ν (e.maskDocument u tally) := by
  rw [e.maskDocument_eq, e.maskDocument_eq]
  have houtcome := Settings.outcome_of_rename he ht hu h
  generalize e.settings.outcome t = first at houtcome ⊢
  generalize e.settings.outcome u = second at houtcome ⊢
  cases houtcome with
  | passed => exact ⟨rfl, rfl, .inr ⟨t, u, a, b, rfl, rfl, ht, hu, h⟩⟩
  | rejected f hits =>
      simp only [failed]
      split
      · exact ⟨rfl, rfl, .inl ⟨f, rfl, rfl⟩⟩
      · exact ⟨rfl, rfl, .inr ⟨t, u, a, b, rfl, rfl, ht, hu, h⟩⟩
  | masked hwell hwell' hsame hits =>
      exact ⟨rfl, rfl, .inr ⟨_, _, _, _, rfl, rfl, Json.parse_print .same hwell,
        Json.parse_print .same hwell', hsame⟩⟩

end FieldMask
