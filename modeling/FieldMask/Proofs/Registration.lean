import FieldMask.Proofs.Counting

/-!
# `FieldMask.Proofs.Registration`: what registering strategies changes

A registered strategy goes to the end of the registry, and the first strategy that accepts a field
is the one for it. So a field that has a strategy keeps it, whatever is registered later, and a
field without one gets the first of the new strategies that accepts it (`find?_registerAll`).

The rest follows member by member. `Remasked` says what the text under a member is before and after
a registration: the same, unless the field is in scope and had no strategy. `registration_extends`
says so for the trees and documents that an engine masks, and compares the counts.

A walk that no strategy ends early after a registration was not ended early before it either
(`not_refuses_of_registerAll`), since every strategy from before is still in place.
-/

set_option autoImplicit false

namespace FieldMask

open Json (Visit)

namespace Registry

/-- The registry with strategies registered one after the other, the first of them first. -/
def registerAll (r : Registry) (added : List Strategy) : Registry := added.foldl register r

/-- A field keeps its strategy, or gets the first new one that accepts it. By induction on the new
strategies. -/
theorem find?_registerAll (r : Registry) (added : List Strategy) (field : Text) :
    (r.registerAll added).find? field
      = (r.find? field).or (added.find? fun s => s.accepts field) := by
  induction added generalizing r with
  | nil => rw [List.find?_nil, Option.or_none]; rfl
  | cons s rest ih =>
      show ((r.register s).registerAll rest).find? field = _
      rw [ih, find?_register, List.find?_cons]
      cases hfound : r.find? field with
      | some t => rfl
      | none => cases haccepts : s.accepts field <;> rfl

end Registry

namespace Settings

/-- The settings with strategies registered one after the other. Fields and switches stay. -/
def registerAll (s : Settings) (added : List Strategy) : Settings :=
  { s with registry := s.registry.registerAll added }

variable (s : Settings) (added : List Strategy)

/-- What a registration does to the strategy for the values of a field: only a field in scope can
get a new one. -/
theorem strategyFor?_registerAll (field : Text) :
    (s.registerAll added).strategyFor? field
      = (s.strategyFor? field).or
          (if s.fields.allows field then added.find? fun t => t.accepts field else none) := by
  -- The allowlist is the first gate, and a registration does not touch it.
  show (if s.fields.allows field then (s.registry.registerAll added).find? field else none) = _
  unfold strategyFor?
  cases s.fields.allows field with
  | false => rfl
  | true => exact s.registry.find?_registerAll added field

/-- A strategy from before is still in place, whatever is registered after it. -/
theorem strategyFor?_registerAll_of_some {field : Text} {t : Strategy}
    (h : s.strategyFor? field = some t) :
    (s.registerAll added).strategyFor? field = some t := by
  rw [strategyFor?_registerAll, h, Option.some_or]

/-- A field keeps the strategy that it had for its values, or it is in scope, had none, and gets the
first new one that accepts it. There is no third case. -/
theorem strategyFor?_registerAll_cases (field : Text) :
    ((s.registerAll added).strategyFor? field = s.strategyFor? field ∧
      (s.fields.allows field = false ∨ (s.registry.find? field).isSome = true ∨
        added.find? (fun t => t.accepts field) = none)) ∨
    ∃ t, s.fields.allows field = true ∧ s.registry.find? field = none ∧
      added.find? (fun t => t.accepts field) = some t ∧
      s.strategyFor? field = none ∧ (s.registerAll added).strategyFor? field = some t := by
  rw [strategyFor?_registerAll, strategyFor?]
  cases s.fields.allows field with
  | false => exact .inl ⟨rfl, .inl rfl⟩
  | true =>
      cases s.registry.find? field with
      | some t => exact .inl ⟨rfl, .inr (.inl rfl)⟩
      | none =>
          cases added.find? fun t => t.accepts field with
          | none => exact .inl ⟨rfl, .inr (.inr rfl)⟩
          | some t => exact .inr ⟨t, rfl, rfl, rfl, rfl, rfl⟩

/-- The text under a member before and after a registration. -/
inductive Remasked (m : Visit) (before after : Text) : Prop where
  /-- The field is out of scope, had a strategy, or is accepted by no new strategy. -/
  | kept (hfield : s.fields.allows m.field = false ∨ (s.registry.find? m.field).isSome = true ∨
      added.find? (fun t => t.accepts m.field) = none) (hsame : after = before)
  /-- The field is in scope, had no strategy, and the first new strategy that accepts it masks the
  value, which was not masked before. -/
  | masked {t : Strategy} (hscope : s.fields.allows m.field = true)
      (hfree : s.registry.find? m.field = none)
      (hfind : added.find? (fun t => t.accepts m.field) = some t)
      (hbefore : before = m.value) (hafter : t.mask m.value = .ok after)

/-- A member whose value is not refused is masked anew by a new strategy, or stays as it was. -/
theorem remasked_of_passes {m : Visit} (h : (s.registerAll added).passes m = true) :
    s.Remasked added m (s.masked m) ((s.registerAll added).masked m) := by
  obtain ⟨hsame, hfield⟩ | ⟨t, hscope, hfree, hfind, hbefore, hafter⟩ :=
    s.strategyFor?_registerAll_cases added m.field
  · refine .kept hfield ?_
    rw [masked, maskVisit, hsame, masked, maskVisit]
  · have hmask := (s.registerAll added).masked_of_passes h
    rw [hafter] at hmask
    refine .masked hscope hfree hfind ?_ hmask
    rw [masked, maskVisit, hbefore]
    rfl

/-- A tree that is not refused after a registration was not refused before it, as every member that
had a strategy still has it. -/
theorem not_refuses_of_registerAll {j : Json} (h : ¬ (s.registerAll added).Refuses j) :
    ¬ s.Refuses j := by
  rintro ⟨m, hm, r, hr⟩
  refine h ⟨m, hm, r, ?_⟩
  -- A member without a strategy is not refused, so the one that refuses is still in place.
  unfold maskVisit at hr ⊢
  cases hfor : s.strategyFor? m.field with
  | none => rw [hfor] at hr; exact nomatch hr
  | some t => rwa [s.strategyFor?_registerAll_of_some added hfor, ← hfor]

/-- Every member that was counted is counted again, under the same name and in the same order. -/
theorem hits_sublist_registerAll (ms : List Visit) :
    (s.hits ms).Sublist ((s.registerAll added).hits ms) := by
  rw [hits_eq_filterMap, hits_eq_filterMap]
  induction ms with
  | nil => exact .slnil
  | cons m rest ih =>
      rw [List.filterMap_cons, List.filterMap_cons]
      cases hfor : s.strategyFor? m.field with
      | some t =>
          rw [s.strategyFor?_registerAll_of_some added hfor]
          exact ih.cons_cons _
      | none =>
          rw [Option.map_none]
          -- A member that had no strategy may have one now, and then it adds a name.
          cases (s.registerAll added).strategyFor? m.field with
          | none => exact ih
          | some t => exact ih.cons _

end Settings

namespace Engine

/-- The engine with strategies registered one after the other. -/
def registerAll (e : Engine) (added : List Strategy) : Engine := added.foldl register e

variable (e : Engine) (added : List Strategy)

/-- A registration changes the registry and nothing else, so it is enough to look at the settings.
-/
theorem settings_registerAll :
    (e.registerAll added).settings = e.settings.registerAll added := by
  induction added generalizing e with
  | nil => rfl
  | cons s rest ih =>
      show ((e.register s).registerAll rest).settings = _
      rw [ih]
      rfl

/-- An object without a refusal is masked member by member, and each member with a strategy is
counted. -/
theorem maskObject_of_not_refuses {root : Record Json}
    (h : ¬ e.settings.Refuses (.object root)) (tally : Tally) :
    (e.maskObject root tally).refusal = none ∧
    Json.object (e.maskObject root tally).value
      = (Json.object root).mapVisits e.settings.masked ∧
    (e.maskObject root tally).tally
      = (e.settings.hits (Json.object root).visits).foldl Tally.add tally := by
  have hnone := Settings.not_refuses_iff.mp h
  rw [e.maskObject_eq, Settings.walkedOver]
  refine ⟨hnone, e.rewriteFirstMembers_done hnone, ?_⟩
  rw [e.settings.done_eq_self hnone, e.settings.foldl_count]

/-- A document without a refusal is masked member by member and can be read again, and each member
with a strategy is counted. -/
theorem maskDocument_of_not_refuses {t : Text} {tree : Json}
    (htree : e.settings.tree? t = some tree) (h : ¬ e.settings.Refuses tree) (tally : Tally) :
    (∃ out, (e.maskDocument t tally).result = .ok out ∧
      Json.parse .same out = .ok (tree.mapVisits e.settings.masked)) ∧
    (e.maskDocument t tally).tally = (e.settings.hits tree.visits).foldl Tally.add tally := by
  obtain ⟨henabled, root, hparse, rfl⟩ := Settings.of_tree?_eq_some htree
  have hrun := e.maskDocument_of_object henabled hparse tally
  rw [Settings.not_refuses_iff.mp h] at hrun
  rw [hrun]
  exact ⟨⟨_, rfl, Json.parse_print_mapVisits _ hparse⟩, e.settings.foldl_count _ tally⟩

/-- A text without a tree to walk over is dealt with before any strategy is asked, so registering
makes no difference to it. -/
theorem maskDocument_registerAll_of_tree?_eq_none {t : Text} (h : e.settings.tree? t = none)
    (tally : Tally) : (e.registerAll added).maskDocument t tally = e.maskDocument t tally := by
  have hsettings := e.settings_registerAll added
  unfold Settings.tree? at h
  unfold maskDocument failed
  rw [hsettings]
  show (if !e.settings.enabled || t.isBlank then _ else _) = _
  split
  · rfl
  · next hattempts =>
      rw [if_neg hattempts] at h
      cases hparse : Json.parse .same t with
      | error mistake => rfl
      | ok root =>
          cases root with
          | object members => rw [hparse] at h; exact nomatch h
          | null | bool | number | string | array => rfl

/-- The same for the engine: what it does not refuse after a registration it did not refuse before.
-/
theorem not_refuses_of_registerAll {tree : Json}
    (h : ¬ (e.registerAll added).settings.Refuses tree) : ¬ e.settings.Refuses tree := by
  rw [settings_registerAll] at h
  exact e.settings.not_refuses_of_registerAll added h

/-- In a tree that is not refused, every member is masked anew by a new strategy or stays as it
was. -/
theorem remasked_of_not_refuses {tree : Json}
    (h : ¬ (e.registerAll added).settings.Refuses tree) :
    ∀ m ∈ tree.visits, e.settings.Remasked added m (e.settings.masked m)
      ((e.registerAll added).settings.masked m) := by
  intro m hm
  rw [Settings.not_refuses_iff, Settings.refusal?_eq_none_iff] at h
  have hpasses := h m hm
  rw [settings_registerAll] at hpasses ⊢
  exact e.settings.remasked_of_passes added hpasses

/-- No count is less after a registration, whatever was counted before. -/
theorem counts_le_registerAll (ms : List Visit) (tally : Tally) :
    let before := (e.settings.hits ms).foldl Tally.add tally
    let after := ((e.registerAll added).settings.hits ms).foldl Tally.add tally
    before.total ≤ after.total ∧ ∀ name, before.count name ≤ after.count name := by
  intro before after
  have hsublist : (e.settings.hits ms).Sublist ((e.registerAll added).settings.hits ms) := by
    rw [settings_registerAll]
    exact e.settings.hits_sublist_registerAll added ms
  refine ⟨?_, Tally.count_foldl_add_le hsublist tally⟩
  rw [Tally.total_foldl_add, Tally.total_foldl_add]
  exact Nat.add_le_add_left hsublist.length_le _

/-- Registering strategies only extends what an engine masks.

A field that has a strategy keeps it, and a field without one gets the first new strategy that
accepts it. An object or document that no strategy refuses afterwards is not refused before either.
Its members then have the text that they had, except where `Remasked` says what a new strategy makes
of them, and the rest of the tree is as it was. No count gets less, whatever was counted before. A
text in which there is nothing to mask gives what it gave. -/
theorem registration_extends (e : Engine) (added : List Strategy) :
    let later := e.registerAll added
    (∀ field s, e.findStrategy? field = some s → later.findStrategy? field = some s) ∧
    (∀ field, e.findStrategy? field = none →
      later.findStrategy? field = added.find? fun s => s.accepts field) ∧
    (∀ root tally, ¬ later.settings.Refuses (.object root) →
      let before := e.maskObject root tally
      let after := later.maskObject root tally
      before.refusal = none ∧ after.refusal = none ∧
      (∃ f g : Visit → Text,
        Json.object before.value = (Json.object root).mapVisits f ∧
        Json.object after.value = (Json.object root).mapVisits g ∧
        ∀ m ∈ (Json.object root).visits, e.settings.Remasked added m (f m) (g m)) ∧
      before.tally.total ≤ after.tally.total ∧
      ∀ name, before.tally.count name ≤ after.tally.count name) ∧
    (∀ t tree tally, e.settings.tree? t = some tree → ¬ later.settings.Refuses tree →
      let before := e.maskDocument t tally
      let after := later.maskDocument t tally
      (∃ (out out' : Text) (f g : Visit → Text), before.result = .ok out ∧ after.result = .ok out' ∧
        Json.parse .same out = .ok (tree.mapVisits f) ∧
        Json.parse .same out' = .ok (tree.mapVisits g) ∧
        ∀ m ∈ tree.visits, e.settings.Remasked added m (f m) (g m)) ∧
      before.tally.total ≤ after.tally.total ∧
      ∀ name, before.tally.count name ≤ after.tally.count name) ∧
    (∀ t tally, e.settings.tree? t = none →
      later.maskDocument t tally = e.maskDocument t tally) := by
  intro later
  have hsettings : later.settings = e.settings.registerAll added := e.settings_registerAll added
  -- Everything about single fields is read off this one equation.
  have hfind : ∀ field, later.findStrategy? field
      = (e.findStrategy? field).or (added.find? fun s => s.accepts field) := by
    intro field
    rw [findStrategy?, hsettings]
    exact e.settings.registry.find?_registerAll added field
  refine ⟨?_, ?_, ?_, ?_, ?_⟩
  · intro field s hs
    rw [hfind, hs, Option.some_or]
  · intro field hnone
    rw [hfind, hnone, Option.none_or]
  · intro root tally h
    have hbefore := e.not_refuses_of_registerAll added h
    -- Both runs get through, so each of them rewrites every member, and they are compared one by
    -- one.
    obtain ⟨hrefusal, hvalue, htally⟩ := e.maskObject_of_not_refuses hbefore tally
    obtain ⟨hrefusal', hvalue', htally'⟩ := later.maskObject_of_not_refuses h tally
    have hcounts := e.counts_le_registerAll added (Json.object root).visits tally
    rw [← htally, ← htally'] at hcounts
    exact ⟨hrefusal, hrefusal', ⟨_, _, hvalue, hvalue', e.remasked_of_not_refuses added h⟩, hcounts⟩
  · intro t tree tally htree h
    have hbefore := e.not_refuses_of_registerAll added h
    -- Whether there is a tree to walk over does not depend on the strategies.
    have htree' : later.settings.tree? t = some tree := by rw [hsettings]; exact htree
    obtain ⟨⟨out, hout, hread⟩, htally⟩ := e.maskDocument_of_not_refuses htree hbefore tally
    obtain ⟨⟨out', hout', hread'⟩, htally'⟩ := later.maskDocument_of_not_refuses htree' h tally
    have hcounts := e.counts_le_registerAll added tree.visits tally
    rw [← htally, ← htally'] at hcounts
    exact ⟨⟨out, out', _, _, hout, hout', hread, hread', e.remasked_of_not_refuses added h⟩,
      hcounts⟩
  · intro t tally h
    exact e.maskDocument_registerAll_of_tree?_eq_none added h tally

/-- An engine that masks names alone, although mail addresses are in scope for it. -/
def namesEngine : Engine := create { strategies := some [Strategy.forNames] }

/-- A document with a name and, inside it, a mail address. -/
def contactDocument : Text :=
  "\x7b\"name\":\"Ann\",\"contact\":\x7b\"email\":\"ann@x.org\"\x7d\x7d"

/-- The tree that `contactDocument` is read as, with the address one level further down. -/
def contactTree : Json :=
  .object [("name", .string "Ann"), ("contact", .object [("email", .string "ann@x.org")])]

/-- With a strategy for mail addresses registered, the address of `contactDocument` is masked and
the name is masked as before. -/
theorem registration_extends_contactDocument :
    let later := namesEngine.registerAll [Strategy.forEmails]
    namesEngine.settings.tree? contactDocument = some contactTree ∧
    ¬ later.settings.Refuses contactTree ∧
    namesEngine.findStrategy? "email" = none ∧
    later.findStrategy? "email" = some Strategy.forEmails ∧
    ∃ (out out' : Text) (f g : Visit → Text),
      (namesEngine.maskDocument contactDocument .empty).result = .ok out ∧
      (later.maskDocument contactDocument .empty).result = .ok out' ∧
      Json.parse .same out = .ok (contactTree.mapVisits f) ∧
      Json.parse .same out' = .ok (contactTree.mapVisits g) ∧
      f ⟨"email", "ann@x.org"⟩ = "ann@x.org" ∧ g ⟨"email", "ann@x.org"⟩ = "a**@x.org" ∧
      g ⟨"name", "Ann"⟩ = f ⟨"name", "Ann"⟩ := by
  intro later
  have htree : namesEngine.settings.tree? contactDocument = some contactTree := by
    decide +kernel
  have hrefuses : ¬ later.settings.Refuses contactTree := by
    rw [Settings.not_refuses_iff]
    decide +kernel
  have hnone : namesEngine.findStrategy? "email" = none := by
    rw [← Option.isNone_iff_eq_none]
    decide +kernel
  obtain ⟨-, hfresh, -, hdocument, -⟩ := registration_extends namesEngine [Strategy.forEmails]
  have hfind : later.findStrategy? "email" = some Strategy.forEmails := by
    rw [hfresh "email" hnone]
    exact List.find?_cons_of_pos (by decide +kernel)
  obtain ⟨⟨out, out', f, g, hout, hout', hread, hread', hmembers⟩, -⟩ :=
    hdocument contactDocument contactTree .empty htree hrefuses
  refine ⟨htree, hrefuses, hnone, hfind, out, out', f, g, hout, hout', hread, hread', ?_⟩
  have hemail := hmembers ⟨"email", "ann@x.org"⟩ (by decide +kernel)
  have hname := hmembers ⟨"name", "Ann"⟩ (by decide +kernel)
  have hnew := (hfresh "email" hnone).symm.trans hfind
  refine and_assoc.mp ⟨?_, ?_⟩
  · -- The address is in scope, had no strategy and has one now.
    rcases hemail with ⟨hscope | hhad | hnever, -⟩ | ⟨-, -, hfirst, hbefore, hafter⟩
    · exact absurd hscope (by decide +kernel)
    · exact absurd hhad (by decide +kernel)
    · exact nomatch hnew.symm.trans hnever
    · obtain rfl := Option.some.inj (hnew.symm.trans hfirst)
      have hmask : Mask.email "ann@x.org" = g ⟨"email", "ann@x.org"⟩ := Except.ok.inj hafter
      refine ⟨hbefore, ?_⟩
      rw [← hmask]
      decide +kernel
  · -- The name had a strategy.
    rcases hname with ⟨-, hsame⟩ | ⟨-, hfree, -, -, -⟩
    · exact hsame
    · exact absurd (Option.isNone_iff_eq_none.mpr hfree) (by decide +kernel)

end Engine

end FieldMask
