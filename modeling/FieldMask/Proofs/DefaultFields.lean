import FieldMask.Proofs.FieldPadding
import FieldMask.Proofs.Precedence
import FieldMask.Proofs.Registration

/-!
# `FieldMask.Proofs.DefaultFields`: no default field is without a mask

The default allowlist looks a field up by its normal form, and the default strategies search the
name as it is written, in lower case. The two agree: a name that is in scope has a strategy, namely
the one whose own name the normal form begins with (`Strategy.Guards`). Padding and case play no
part, since a default strategy accepts a name exactly if it accepts the normal form
(`accepts_normalize`), and there are seven normal forms.

Strategies that come later do not change this. The strategies of an engine that starts from the
default ones (`Engine.FromDefaults`) begin with these, whatever a configuration adds and whatever is
registered (`FromDefaults.prefix_strategies`). So the members of a document are masked by the three
default masks alone, and no strategy refuses a value (`default_fields_masked`).
-/

set_option autoImplicit false

namespace FieldMask

open Json (Visit)

namespace Strategy

/-- The strategy, one of the default ones, that masks a default field in this way: the normal form
of the field begins with the name of the strategy. -/
inductive Guards (field : Text) : Strategy → (Text → Text) → Prop where
  | names (h : forNames.name <+: Allowlist.normalize field) : Guards field forNames Mask.name
  | emails (h : forEmails.name <+: Allowlist.normalize field) : Guards field forEmails Mask.email
  | phones (h : forPhones.name <+: Allowlist.normalize field) : Guards field forPhones Mask.phone

variable {field value : Text} {s s' : Strategy} {mask mask' : Text → Text}

/-- It refuses no value: each of the three strategies masks by a function that always gives a text.
-/
theorem Guards.mask_eq (h : s.Guards field mask) (value : Text) :
    s.mask value = .ok (mask value) := by
  cases h <;> rfl

/-- A text does not begin with two of the three names, so there is one such strategy at most, and
one mask. -/
theorem Guards.unique (h : s.Guards field mask) (h' : s'.Guards field mask') :
    s' = s ∧ mask' = mask := by
  have hnot : ∀ {a b : Text}, ¬ a <+: b → ¬ b <+: a → a <+: Allowlist.normalize field →
      b <+: Allowlist.normalize field → False := by
    intro a b hab hba ha hb
    exact (List.prefix_or_prefix_of_prefix ha hb).elim hab hba
  cases h with
  | names h =>
      cases h' with
      | names => exact ⟨rfl, rfl⟩
      | emails h' | phones h' => exact (hnot (by decide) (by decide) h h').elim
  | emails h =>
      cases h' with
      | emails => exact ⟨rfl, rfl⟩
      | names h' | phones h' => exact (hnot (by decide) (by decide) h h').elim
  | phones h =>
      cases h' with
      | phones => exact ⟨rfl, rfl⟩
      | names h' | emails h' => exact (hnot (by decide) (by decide) h h').elim

/-- A default strategy does not tell a field name from its normal form: it searches for a text
without white space at its ends, in lower case. -/
theorem accepts_normalize (hs : s ∈ defaults) (field : Text) :
    s.accepts (Allowlist.normalize field) = s.accepts field :=
  accepts_of_searches (searches_of_mem_defaults hs) (Allowlist.normalize_normalize field)

/-- A default field is accepted by the strategy whose name it begins with, and by none before it.
There are seven normal forms to check. -/
theorem exists_guards (h : Allowlist.normalize field ∈ Allowlist.defaultFields) :
    ∃ before s after mask, defaults = before ++ s :: after ∧ s.Guards field mask ∧
      before.any (fun t => t.accepts field) = false ∧ s.accepts field = true := by
  -- The normal forms are checked one by one, and what holds of them carries over to the field.
  have hforms : ∀ form ∈ Allowlist.defaultFields,
      (forNames.name <+: form ∧ forNames.accepts form = true) ∨
      (forEmails.name <+: form ∧ forNames.accepts form = false ∧ forEmails.accepts form = true) ∨
      (forPhones.name <+: form ∧ forNames.accepts form = false ∧ forEmails.accepts form = false ∧
        forPhones.accepts form = true) := by
    decide +kernel
  have hnames := accepts_normalize (s := forNames) (by simp [defaults]) field
  have hemails := accepts_normalize (s := forEmails) (by simp [defaults]) field
  have hphones := accepts_normalize (s := forPhones) (by simp [defaults]) field
  have hfield := hforms _ h
  rw [hnames, hemails, hphones] at hfield
  obtain ⟨hbegins, hself⟩ | ⟨hbegins, hfirst, hself⟩ | ⟨hbegins, hfirst, hsecond, hself⟩ := hfield
  · exact ⟨[], forNames, [forEmails, forPhones], _, rfl, .names hbegins, rfl, hself⟩
  · refine ⟨[forNames], forEmails, [forPhones], _, rfl, .emails hbegins, ?_, hself⟩
    simp [hfirst]
  · refine ⟨[forNames, forEmails], forPhones, [], _, rfl, .phones hbegins, ?_, hself⟩
    simp [hfirst, hsecond]

end Strategy

/-- The default allowlist allows exactly the names whose normal form is a default field. -/
theorem Allowlist.allows_create_none {field : Text} :
    (create none).allows field = true ↔ normalize field ∈ defaultFields := by
  have hfields : (create none).fields = defaultFields := by decide +kernel
  rw [allows_iff, hfields]

/-- Where the default strategies come first, a default field has its strategy, whatever strategies
come after them. -/
theorem Registry.exists_find?_of_defaults {r : Registry} (hr : Strategy.defaults <+: r.strategies)
    {field : Text} (h : Allowlist.normalize field ∈ Allowlist.defaultFields) :
    ∃ s mask, s.Guards field mask ∧ r.find? field = some s := by
  obtain ⟨before, s, after, mask, hdefaults, hguards, hbefore, hself⟩ := Strategy.exists_guards h
  obtain ⟨rest, hrest⟩ := hr
  refine ⟨s, mask, hguards, r.find?_of_first before (after ++ rest) ?_ hbefore hself⟩
  rw [← hrest, hdefaults, List.append_assoc, List.cons_append]

/-! ### Engines that start from the default strategies -/

/-- The strategies of the engine are the default ones, with others behind them. The cases are the
ways in which an engine can come by its strategies. -/
inductive Engine.FromDefaults : Engine → Prop where
  /-- The options give no strategies, or the default ones and others behind them. -/
  | created {o : Options}
      (h : o.strategies = none ∨ ∃ more, o.strategies = some (Strategy.defaults ++ more)) :
      FromDefaults (create o)
  /-- The options give the strategies of a configuration. -/
  | configured {file : ConfigFile} {options o : Options} (hcompile : file.compile = .ok options)
      (h : o.strategies = options.strategies) : FromDefaults (create o)
  /-- A front end built the engine, and was told no strategies. -/
  | started {f : FrontEnd} {env : Environment} {read : FileReader} {e : Engine}
      (h : f.explicit.strategies = none) (hengine : f.engine env read = .ok e) : FromDefaults e
  /-- One more strategy was registered. -/
  | registered {e : Engine} (h : FromDefaults e) (strategy : Strategy) :
      FromDefaults (e.register strategy)

/-- The strategies of a configuration begin with the default ones, and those of its rules come after
them. -/
theorem ConfigFile.prefix_of_compile {file : ConfigFile} {options : Options}
    (h : file.compile = .ok options) :
    ∃ list, options.strategies = some list ∧ Strategy.defaults <+: list := by
  obtain ⟨rules, -, h⟩ := Result.bind_eq_ok_iff.mp h
  obtain rfl := Except.ok.inj h
  refine ⟨_, rfl, ?_⟩
  rw [List.append_assoc]
  exact List.prefix_append _ _

/-- The strategies of a file that is named, or else the default ones, begin with these. A front end
starts from one or the other. -/
theorem Config.prefix_of_loadNamed {read : FileReader} {path : Option Text} {options : Options}
    (h : loadNamed read path = .ok options) :
    Strategy.defaults <+: options.strategies.getD Strategy.defaults := by
  unfold loadNamed at h
  split at h
  · cases h
    exact List.prefix_rfl
  · cases h
    exact List.prefix_rfl
  · obtain ⟨bytes, -, h⟩ := Result.bind_eq_ok_iff.mp h
    obtain ⟨json, -, h⟩ := Result.bind_eq_ok_iff.mp h
    obtain ⟨file, -, hcompile⟩ := Result.bind_eq_ok_iff.mp h
    obtain ⟨list, hlist, hstart⟩ := ConfigFile.prefix_of_compile hcompile
    rw [hlist]
    exact hstart

/-- The default strategies come first in all these engines. By induction on how the engine was made;
registration puts a strategy at the end. -/
theorem Engine.FromDefaults.prefix_strategies {e : Engine} (h : e.FromDefaults) :
    Strategy.defaults <+: e.settings.registry.strategies := by
  induction h with
  | @created o h =>
      show Strategy.defaults <+: o.strategies.getD Strategy.defaults
      obtain h | ⟨more, h⟩ := h
      · rw [h]
        exact List.prefix_rfl
      · rw [h]
        exact List.prefix_append _ more
  | @configured file options o hcompile h =>
      show Strategy.defaults <+: o.strategies.getD Strategy.defaults
      obtain ⟨list, hlist, hstart⟩ := ConfigFile.prefix_of_compile hcompile
      rw [h, hlist]
      exact hstart
  | @started f env read e h hengine =>
      rw [f.engine_eq] at hengine
      cases hload : Config.loadNamed read f.configPath with
      | error mistake => rw [hload] at hengine; exact nomatch hengine
      | ok file =>
          rw [hload] at hengine
          obtain rfl := Except.ok.inj hengine
          show Strategy.defaults
            <+: (f.explicit.strategies.or file.strategies).getD Strategy.defaults
          rw [h]
          exact Config.prefix_of_loadNamed hload
  | registered _ strategy ih => exact ih.trans (List.prefix_append _ _)

/-! ### Values -/

namespace Settings

/-- A member out of scope stays as it is, whatever strategies there are for its name. -/
theorem maskVisit_of_not_allows {s : Settings} {m : Visit}
    (h : s.fields.allows m.field = false) : s.maskVisit m = .ok m.value := by
  have hfor : s.strategyFor? m.field = none := by simp [strategyFor?, h]
  rw [maskVisit, hfor]

variable {s : Settings} (hfields : s.fields = Allowlist.create none)
  (hstart : Strategy.defaults <+: s.registry.strategies)
include hfields hstart

/-- A field in scope has its strategy, and it is the one that the walk uses for the members of that
name. -/
theorem exists_guards_of_allows {field : Text} (h : s.fields.allows field = true) :
    ∃ strategy mask, strategy.Guards field mask ∧ s.registry.find? field = some strategy ∧
      s.strategyFor? field = some strategy := by
  have hdefault : Allowlist.normalize field ∈ Allowlist.defaultFields := by
    rwa [hfields, Allowlist.allows_create_none] at h
  obtain ⟨strategy, mask, hguards, hfind⟩ := Registry.exists_find?_of_defaults hstart hdefault
  exact ⟨strategy, mask, hguards, hfind, by rw [strategyFor?, if_pos h, hfind]⟩

/-- A member in scope is masked by the mask of its field, and the value plays no part in which mask
that is. -/
theorem maskVisit_of_guards {m : Visit} (h : s.fields.allows m.field = true) {strategy : Strategy}
    {mask : Text → Text} (hguards : strategy.Guards m.field mask) :
    s.maskVisit m = .ok (mask m.value) := by
  obtain ⟨found, foundMask, hfound, -, hfor⟩ := exists_guards_of_allows hfields hstart h
  obtain ⟨rfl, rfl⟩ := hguards.unique hfound
  rw [maskVisit, hfor]
  exact hfound.mask_eq m.value

/-- No strategy refuses a value, so no walk over a tree breaks off. -/
theorem not_refuses_of_defaults (tree : Json) : ¬ s.Refuses tree := by
  rintro ⟨m, -, r, hr⟩
  cases hallows : s.fields.allows m.field with
  | true =>
      obtain ⟨strategy, mask, hguards, -⟩ := exists_guards_of_allows hfields hstart hallows
      rw [maskVisit_of_guards hfields hstart hallows hguards] at hr
      cases hr
  | false =>
      rw [maskVisit_of_not_allows hallows] at hr
      cases hr

end Settings

/-- No default field is without a mask.

Let an engine start from the default strategies, with whatever a configuration adds to them and
whatever is registered later, and have the default fields in scope. Every name in scope, however it
is padded and in whatever case, has a strategy: the one default strategy whose name its normal form
begins with. Every member in scope is masked by `Mask.name`, `Mask.email` or `Mask.phone`
accordingly, every other one stays as it is, and no value is refused; so a tree becomes the tree
with its string members masked in this way, at every depth, and a document becomes that of this
tree. -/
theorem default_fields_masked {e : Engine} (he : e.FromDefaults)
    (hfields : e.settings.fields = Allowlist.create none) :
    (∀ field, e.settings.fields.allows field = true →
      ∃ s mask, s.Guards field mask ∧ e.findStrategy? field = some s ∧
        (∀ value, s.mask value = .ok (mask value)) ∧
        ∀ s' mask', Strategy.Guards field s' mask' → s' = s ∧ mask' = mask) ∧
    ∃ hidden : Visit → Text,
      (∀ m s mask, e.settings.fields.allows m.field = true → Strategy.Guards m.field s mask →
        hidden m = mask m.value) ∧
      (∀ m, e.settings.fields.allows m.field = false → hidden m = m.value) ∧
      (∀ root tally, (e.maskObject root tally).refusal = none ∧
        Json.object (e.maskObject root tally).value = (Json.object root).mapVisits hidden) ∧
      ∀ t root tally, e.settings.enabled = true → Json.parse .same t = .ok (.object root) →
        ∃ out, (e.maskDocument t tally).result = .ok out ∧
          (e.maskDocument t tally).log = [] ∧
          Json.parse .same out = .ok ((Json.object root).mapVisits hidden) := by
  have hstart := he.prefix_strategies
  -- No walk breaks off, so all members of a tree are rewritten by `Settings.masked`.
  have hrefuses := Settings.not_refuses_of_defaults hfields hstart
  refine ⟨?_, e.settings.masked, ?_, ?_, ?_, ?_⟩
  · intro field hallows
    obtain ⟨s, mask, hguards, hfind, -⟩ :=
      Settings.exists_guards_of_allows hfields hstart hallows
    exact ⟨s, mask, hguards, hfind, hguards.mask_eq, fun s' mask' h' => hguards.unique h'⟩
  · intro m s mask hallows hguards
    rw [Settings.masked, Settings.maskVisit_of_guards hfields hstart hallows hguards]
    rfl
  · intro m hallows
    rw [Settings.masked, Settings.maskVisit_of_not_allows hallows]
    rfl
  · intro root tally
    obtain ⟨hnone, hvalue, -⟩ := e.maskObject_of_not_refuses (hrefuses (.object root)) tally
    exact ⟨hnone, hvalue⟩
  · intro t root tally henabled hparse
    have hrun := e.maskDocument_of_object henabled hparse tally
    rw [Settings.not_refuses_iff.mp (hrefuses (.object root))] at hrun
    rw [hrun]
    exact ⟨_, rfl, rfl, Json.parse_print_mapVisits _ hparse⟩

/-- An engine with one more strategy, which claims all fields and refuses all values. It comes after
the default ones, so it has no default field to claim. -/
def greedyEngine : Engine :=
  (Engine.create {}).register
    (Strategy.define "all" (.containing "") fun _ => .error (.error "refused"))

/-- A document with one member, whose name is padded with a wide space and a plain one and written
in capitals. -/
def paddedDocument : Text := "\x7b\"\u3000PHONE_Number \":\"555-1234\"\x7d"

/-- The member is masked as a phone number, and not refused by the strategy that was registered. -/
theorem default_fields_masked_greedyEngine :
    greedyEngine.FromDefaults ∧ greedyEngine.settings.fields = Allowlist.create none ∧
    greedyEngine.findStrategy? "\u3000PHONE_Number " = some Strategy.forPhones ∧
    ∃ out, (greedyEngine.maskDocument paddedDocument .empty).result = .ok out ∧
      Json.parse .same out
        = .ok (.object [("\u3000PHONE_Number ", .string "***-*234")]) := by
  have hstarts : greedyEngine.FromDefaults := .registered (.created (.inl rfl)) _
  have hfields : greedyEngine.settings.fields = Allowlist.create none := rfl
  have hallows : greedyEngine.settings.fields.allows "\u3000PHONE_Number " = true := by
    decide +kernel
  have hguards : Strategy.Guards "\u3000PHONE_Number " Strategy.forPhones Mask.phone :=
    .phones (by decide +kernel)
  have hparse : Json.parse .same paddedDocument
      = .ok (.object [("\u3000PHONE_Number ", .string "555-1234")]) := by decide +kernel
  obtain ⟨hfind, hidden, hmasked, -, -, hdocument⟩ := default_fields_masked hstarts hfields
  refine ⟨hstarts, hfields, ?_, ?_⟩
  · obtain ⟨s, mask, -, hs, -, hunique⟩ := hfind _ hallows
    obtain ⟨rfl, -⟩ := hunique _ _ hguards
    exact hs
  · obtain ⟨out, hresult, -, hread⟩ := hdocument _ _ .empty rfl hparse
    refine ⟨out, hresult, hread.trans ?_⟩
    have hphone : hidden ⟨"\u3000PHONE_Number ", "555-1234"⟩ = ("***-*234" : Text) := by
      rw [hmasked _ _ _ hallows hguards]
      decide +kernel
    show Except.ok (Json.object [("\u3000PHONE_Number ", .string (hidden _))]) = _
    rw [hphone]

end FieldMask
