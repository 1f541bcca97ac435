import FieldMask.Proofs.Precedence

/-!
# `FieldMask.Proofs.FieldSources`: all ways to name fields mean the same

One text with commas can name the fields in five ways: as a flag of the program, as an option, as
the text or the list in a configuration file, and as an environment variable. They are the `NamedBy`
of the text. On the way to the allowlist its entries are normalised once or twice, and a blank text
is a value in some of them and counts as missing in others. The fields in scope are the same in all
of them (`fields_of_decided`), and they are what `Allowlist.namedIn` says of the text.
-/

set_option autoImplicit false

namespace FieldMask

open Allowlist (comma)

/-! ### The names in a text -/

namespace Allowlist

/-- The entries of a text with commas that are not blank, trimmed and in lower case, each where it
occurs first. -/
def namedIn (csv : Text) : List Text := (FieldNames.text csv).listing

/-- A text names nothing exactly if it holds only white space and commas. -/
theorem namedIn_eq_nil_iff {csv : Text} :
    namedIn csv = [] ↔ ∀ u ∈ csv, u = comma ∨ Unicode.isBlank u = true := by
  rw [namedIn, listing_eq_nil_iff, entries, parse_eq_nil_iff]

end Allowlist

/-! ### The names in a configuration -/

/-- A configuration that only names fields, in one of the two ways that a configuration has for it.
-/
def ConfigFile.naming (names : FieldNames) : ConfigFile := ⟨none, some names, none, none, none⟩

/-- An object whose only member says the names is read as the configuration that names them. -/
theorem ConfigFile.ofJson_fields {j : Json} {names : FieldNames}
    (h : Config.fieldNames j = .ok names) :
    ofJson (.object [("fields", j)]) = .ok (naming names) := by
  have hfields : Config.optional [("fields", j)] "fields" Config.fieldNames = .ok (some names) := by
    show Config.under "fields" ((Config.fieldNames j).map some) = _
    rw [h]
    rfl
  rw [ofJson, hfields]
  rfl

/-- Texts in a list are read one by one, blank ones among them. By induction on the list. -/
theorem Config.items_text (names : List Text) (start : Nat) :
    items text start (names.map .string) = .ok names := by
  induction names generalizing start with
  | nil => rfl
  | cons name rest ih =>
      rw [List.map_cons, items, ih]
      rfl

/-- A list of texts is read as the names of fields, as they are written. -/
theorem Config.fieldNames_list (names : List Text) :
    fieldNames (.array (names.map .string)) = .ok (.list names) := by
  have hlist : list text (.array (names.map .string)) = .ok names := items_text names 0
  simp only [fieldNames, hlist]

/-! ### The ways -/

/-- The text names the fields of a front end: on its own command line, in its own options, in the
configuration file, or in the environment, and nothing that comes before does. -/
inductive NamedBy (csv : Text) : FrontEnd → Option ConfigFile → Environment → Prop where
  | flag {args : Cli.MaskArgs} {file : Option ConfigFile} {env : Environment}
      (h : args.fields = some csv) : NamedBy csv (.program args) file env
  | option {o : ExchangeOptions} {ho : o.engine = none} {file : Option ConfigFile}
      {env : Environment} (h : o.options.fields = some (.text csv)) :
      NamedBy csv (.exchange o ho) file env
  | fileText {f : FrontEnd} {file : ConfigFile} {env : Environment}
      (hexplicit : f.explicit.fields = none) (h : file.fields = some (.text csv)) :
      NamedBy csv f (some file) env
  | fileList {f : FrontEnd} {file : ConfigFile} {env : Environment}
      (hexplicit : f.explicit.fields = none)
      (h : file.fields = some (.list (csv.splitWhen (· == comma)))) :
      NamedBy csv f (some file) env
  | environment {f : FrontEnd} {file : Option ConfigFile} {env : Environment}
      (hexplicit : f.explicit.fields = none) (hfile : file.bind (·.fields) = none)
      (h : env.get? "DATAMASK_FIELDS" = some csv) : NamedBy csv f file env

/-- The entries of a text that are given as a list put the same fields in scope. -/
theorem inScope_splitWhen (csv : Text) :
    (FieldNames.list (csv.splitWhen (· == comma))).inScope = (FieldNames.text csv).inScope := rfl

/-- Whichever way the text is given, its fields are those that are decided on. The only way in which
the text itself does not decide is an empty variable, which counts as missing. -/
theorem fields_of_decided {csv : Text} {f : FrontEnd} {file : Option ConfigFile} {env : Environment}
    {s : Settings} (hnamed : NamedBy csv f file env) (h : s.DecidedBy f.explicit file env) :
    s.fields.fields = (FieldNames.text csv).inScope := by
  obtain ⟨names, hnames, hfields⟩ := h.fields
  rw [hfields]
  cases hnamed with
  | flag hcsv =>
      simp only [FrontEnd.explicit, Cli.MaskArgs.options, hcsv, Option.map_some,
        decides_some_cons] at hnames
      rw [hnames]
  | option hcsv =>
      simp only [FrontEnd.explicit, hcsv, decides_some_cons] at hnames
      rw [hnames]
  | fileText hexplicit hcsv =>
      simp only [hexplicit, Option.bind_some, hcsv, decides_none_cons, decides_some_cons] at hnames
      rw [hnames]
  | fileList hexplicit hcsv =>
      simp only [hexplicit, Option.bind_some, hcsv, decides_none_cons, decides_some_cons] at hnames
      rw [hnames, inScope_splitWhen]
  | environment hexplicit hfile hcsv =>
      simp only [hexplicit, hfile, Environment.names?, hcsv, decides_none_cons] at hnames
      cases csv with
      | nil =>
          -- The default fields decide in its place, and an empty text lists nothing but these.
          rw [decides_some_cons.mp (decides_none_cons.mp hnames)]
          decide +kernel
      | cons u rest => rw [decides_some_cons.mp hnames]

/-- All ways of naming fields in a text with commas mean the same.

The engine of a front end for which the text names the fields has the allowlist of what the text
names, trimmed and in lower case, without blank entries, in the order of first occurrence; or that
of the default fields, which is so exactly if the text holds only white space and commas. An engine
that is made of options has the same one. The flag takes any text, and a configuration file can give
it as well as the list of its entries. A field is allowed exactly if its normal form is listed. -/
theorem fields_eq_of_namedBy (csv : Text) :
    let fields :=
      if Allowlist.namedIn csv = [] then Allowlist.defaultFields else Allowlist.namedIn csv
    (∀ f file env read, NamedBy csv f file env → Config.Reads read f.configPath file →
      ∃ e, f.engine env read = .ok e ∧ e.settings.fields = ⟨fields⟩) ∧
    (∀ options : Options, options.fields = some (.text csv) →
      (Engine.create options).settings.fields = ⟨fields⟩) ∧
    Cli.parse ["--fields", csv] = .ok (.mask { fields := some csv }) ∧
    ConfigFile.ofJson (.object [("fields", .string csv)]) = .ok (.naming (.text csv)) ∧
    ConfigFile.ofJson (.object [("fields", .array ((csv.splitWhen (· == comma)).map .string))])
      = .ok (.naming (.list (csv.splitWhen (· == comma)))) ∧
    (Allowlist.namedIn csv = [] ↔ ∀ u ∈ csv, u = comma ∨ Unicode.isBlank u = true) ∧
    ∀ field, (⟨fields⟩ : Allowlist).allows field = true ↔ Allowlist.normalize field ∈ fields := by
  intro fields
  have hfields : (FieldNames.text csv).inScope = fields := rfl
  refine ⟨?_, ?_, rfl, ?_, ?_, Allowlist.namedIn_eq_nil_iff, fun field => Allowlist.allows_iff⟩
  · intro f file env read hnamed hreads
    -- There is an engine, since the file can be read, and the sources of its settings say what the
    -- fields are.
    obtain ⟨e, he, hdecided⟩ := f.exists_engine_of_reads env hreads
    refine ⟨e, he, congrArg Allowlist.mk ?_⟩
    rw [fields_of_decided hnamed hdecided, hfields]
  · intro options hoptions
    have hsame : (Engine.create options).settings.fields = Allowlist.create (some (.text csv)) := by
      rw [← hoptions]
      rfl
    rw [hsame]
    exact congrArg Allowlist.mk ((Allowlist.fields_create_some _).trans hfields)
  · exact ConfigFile.ofJson_fields rfl
  · exact ConfigFile.ofJson_fields (Config.fieldNames_list _)

/-- A text that names two fields, one of them twice. -/
def rosterText : Text := " Name,,NAME, e-mail"

/-- The text of a configuration that lists the entries of that text, the blank one included. -/
def rosterListText : Text := "\x7b\"fields\":[\" Name\",\"\",\"NAME\",\" e-mail\"]\x7d"

/-- A folder with that configuration, and with nothing else to read. -/
def rosterFolder : Folder := ⟨[("mask.json", .file (Utf8.encode rosterListText))]⟩

/-- The configuration in that folder, with its four entries as they are written. -/
def rosterFile : ConfigFile := .naming (.list [" Name", "", "NAME", " e-mail"])

/-- As a flag, as a variable and as a list in the file, the text lists the same two fields. -/
theorem fields_eq_of_namedBy_rosterText :
    (∃ e, Cli.MaskArgs.engine { fields := some rosterText } ⟨[]⟩ rosterFolder.read = .ok e ∧
      e.settings.fields = ⟨["name", "e-mail"]⟩) ∧
    (∃ e, Cli.MaskArgs.engine {} ⟨[("DATAMASK_FIELDS", rosterText)]⟩ rosterFolder.read = .ok e ∧
      e.settings.fields = ⟨["name", "e-mail"]⟩) ∧
    Config.Reads rosterFolder.read (some "mask.json") (some rosterFile) ∧
    ∃ e, Exchange.resolveEngine { configFile := some "mask.json" } ⟨[]⟩ rosterFolder.read = .ok e ∧
      e.settings.fields = ⟨["name", "e-mail"]⟩ := by
  obtain ⟨hengine, -⟩ := fields_eq_of_namedBy rosterText
  have hfields : (if Allowlist.namedIn rosterText = [] then Allowlist.defaultFields
      else Allowlist.namedIn rosterText) = ["name", "e-mail"] := by decide +kernel
  rw [hfields] at hengine
  have hreads : Config.Reads rosterFolder.read (some "mask.json") (some rosterFile) := by
    have hread : rosterFolder.read "mask.json" = .ok (Utf8.encode rosterListText) := by
      decide +kernel
    have hjson : Json.parse .last (Config.strip (Utf8.decode (Utf8.encode rosterListText)))
        = .ok (.object [("fields",
          .array [.string " Name", .string "", .string "NAME", .string " e-mail"])]) := by
      decide +kernel
    obtain ⟨options, hoptions⟩ : ∃ options, rosterFile.compile = .ok options := ⟨_, rfl⟩
    exact .file (by decide) hread hjson (by decide +kernel) hoptions
  refine ⟨?_, ?_, hreads, ?_⟩
  · exact hengine (.program { fields := some rosterText }) none ⟨[]⟩ _ (.flag rfl) .absent
  · exact hengine (.program {}) none _ _ (.environment rfl rfl rfl) .absent
  · exact hengine (.exchange { configFile := some "mask.json" } rfl) _ ⟨[]⟩ _
      (.fileList rfl (by decide +kernel)) hreads

end FieldMask
