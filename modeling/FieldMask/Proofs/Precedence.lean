import FieldMask.Cli.Run
import FieldMask.Exchange
import FieldMask.Proofs.Allowlist
import FieldMask.Proofs.Result

/-!
# `FieldMask.Proofs.Precedence`: where each setting comes from

The program and an exchange that is not given an engine build one from the same sources: what they
are told, a configuration file, the environment and the defaults. A `FrontEnd` is one of the two,
and both do the same with these sources (`FrontEnd.engine_eq`).

`Decides` says that the first source that gives a value gives this one, whatever the value is:
`false`, a blank text and an empty list are values. `Settings.DecidedBy` says so of every setting,
each on its own, and `settings_by_precedence` that it holds of every engine that a front end builds.

The layers on the way normalise field names, the text of the file and that of the variable once more
than what a front end is told. That makes no difference (`Allowlist.create_parse`), so the sources
of the fields are the names as they are written, and the fields in scope are those that the deciding
names list (`FieldNames.inScope`).

An engine that was built tells as much: `FrontEnd.decidedFrom_of_engine` finds the file that was
read and the sources for every engine of a front end, also where an empty path names no file.
-/

set_option autoImplicit false

namespace FieldMask

/-! ### The first source -/

/-- The first of the sources that gives a value gives this one. -/
def Decides {α : Type} (sources : List (Option α)) (a : α) : Prop :=
  ∃ before after, sources = before ++ some a :: after ∧ ∀ source ∈ before, source = none

section

variable {α : Type} {a b : α} {rest : List (Option α)}

/-- A source that gives a value decides. -/
theorem decides_some_cons : Decides (some b :: rest) a ↔ a = b := by
  constructor
  · rintro ⟨before, after, hsplit, hnone⟩
    cases before with
    | nil => exact (Option.some.inj (List.cons.inj hsplit).1).symm
    | cons first before =>
        obtain rfl := (List.cons.inj hsplit).1
        exact nomatch hnone _ List.mem_cons_self
  · rintro rfl
    exact ⟨[], rest, rfl, List.forall_mem_nil _⟩

/-- A source that gives none leaves it to those after it. -/
theorem decides_none_cons : Decides (none :: rest) a ↔ Decides rest a := by
  constructor
  · rintro ⟨before, after, hsplit, hnone⟩
    cases before with
    | nil => exact nomatch (List.cons.inj hsplit).1
    | cons first before =>
        exact ⟨before, after, (List.cons.inj hsplit).2, fun s hs =>
          hnone s (List.mem_cons_of_mem _ hs)⟩
  · rintro ⟨before, after, rfl, hnone⟩
    exact ⟨none :: before, after, rfl, List.forall_mem_cons.mpr ⟨rfl, hnone⟩⟩

/-- Sources that are asked one after the other, with a default at the end. -/
theorem decides_or_getD (x y : Option α) (d : α) : Decides [x, y, some d] ((x.or y).getD d) := by
  cases x with
  | some a => exact decides_some_cons.mpr rfl
  | none =>
      rw [decides_none_cons]
      cases y with
      | some a => exact decides_some_cons.mpr rfl
      | none => exact decides_none_cons.mpr (decides_some_cons.mpr rfl)

/-- The same with one more source in front. -/
theorem decides_or_or_getD (x y z : Option α) (d : α) :
    Decides [x, y, z, some d] (((x.or y).or z).getD d) := by
  cases x with
  | some a => exact decides_some_cons.mpr rfl
  | none => exact decides_none_cons.mpr (decides_or_getD y z d)

end

/-! ### The sources -/

/-- The words that a flag in the environment can be. -/
def Environment.wordsFor (b : Bool) : List Text := if b then trueWords else falseWords

/-- A flag is given by one of its words, in any case and with white space around it, and by nothing
else. -/
theorem Environment.flag?_eq_some_iff {env : Environment} {name : Text} {b : Bool} :
    env.flag? name = some b ↔
      ∃ value, env.get? name = some value ∧ value.trim.lower ∈ wordsFor b := by
  -- No word means both, so the order in which the two lists are looked through plays no part.
  have hwords : ∀ word ∈ trueWords, word ∉ falseWords := by decide
  have hvalue : ∀ value, flagValue? value = some b ↔ value.trim.lower ∈ wordsFor b := by
    intro value
    unfold flagValue? wordsFor
    simp only [List.contains_iff_mem]
    generalize value.trim.lower = word
    by_cases hfalse : word ∈ falseWords
    · have htrue : word ∉ trueWords := fun h => hwords word h hfalse
      cases b <;> simp [hfalse, htrue]
    · by_cases htrue : word ∈ trueWords
      · cases b <;> simp [hfalse, htrue]
      · cases b <;> simp [hfalse, htrue]
  rw [flag?, Option.bind_eq_some_iff]
  simp only [hvalue]

/-- The field names that a variable gives, as they are written. An empty variable gives none. -/
def Environment.names? (env : Environment) (name : Text) : Option FieldNames :=
  ((env.get? name).filter fun csv => !csv.isEmpty).map .text

/-- The strategies that a configuration gives: the default ones, those that it asks for by name, and
one for each of its rules. A configuration gives none if a rule has none. -/
def ConfigFile.strategyList? (file : ConfigFile) : Option (List Strategy) :=
  (Config.compileRules (file.rules.getD [])).toOption.map fun rules =>
    Strategy.defaults ++ (file.strategies.getD []).map Config.OptionalStrategy.strategy ++ rules

/-- What the configuration file that is named says. There is none if no file is named; if one is, it
can be read, it has the right shape, and it can be compiled. -/
inductive Config.Reads (read : FileReader) :
    (path : Option Text) → (file : Option ConfigFile) → Prop where
  | absent : Reads read none none
  | file {path : Text} {bytes : Bytes} {json : Json} {file : ConfigFile} {options : Options}
      (hpath : path ≠ []) (hread : read path = .ok bytes)
      (hjson : Json.parse .last (strip (Utf8.decode bytes)) = .ok json)
      (hshape : ConfigFile.ofJson json = .ok file) (hcompile : file.compile = .ok options) :
      Reads read (some path) (some file)

/-- Field names as a configuration passes them on: those in a text are normalised. -/
def FieldNames.loaded : FieldNames → FieldNames
  | .text csv => .list (Allowlist.parse csv)
  | .list names => .list names

/-- The options of the layer that a configuration file makes. -/
def Config.layer : Option ConfigFile → Options
  | none => {}
  | some file =>
    { enabled := file.enabled
      fields := file.fields.map .loaded
      strategies := file.strategyList?
      failClosed := file.failClosed }

/-- A configuration that can be compiled gives the options of its layer. -/
theorem ConfigFile.layer_of_compile {file : ConfigFile} {options : Options}
    (h : file.compile = .ok options) :
    Config.layer (some file) = options ∧ file.strategyList?.isSome = true := by
  obtain ⟨rules, hrules, h⟩ := Result.bind_eq_ok_iff.mp h
  obtain rfl := Except.ok.inj h
  have hlist : file.strategyList? = some (Strategy.defaults ++
      (file.strategies.getD []).map Config.OptionalStrategy.strategy ++ rules) := by
    rw [strategyList?, hrules]
    rfl
  -- The layer says what becomes of names without the compiler of configurations; both say the same.
  have hnames : FieldNames.loaded = fun
      | .text csv => .list (Allowlist.parse csv)
      | .list names => .list names := by
    funext names
    cases names <;> rfl
  rw [Config.layer, hlist, hnames]
  exact ⟨rfl, rfl⟩

/-- A file that is read is loaded as its layer. -/
theorem Config.loadNamed_of_reads {read : FileReader} {path : Option Text}
    {file : Option ConfigFile} (h : Reads read path file) :
    loadNamed read path = .ok (layer file) := by
  cases h with
  | absent => rfl
  | @file path bytes json file options hpath hread hjson hshape hcompile =>
      obtain ⟨u, rest, rfl⟩ := List.exists_cons_of_ne_nil hpath
      rw [(ConfigFile.layer_of_compile hcompile).1]
      show load read (u :: rest) = .ok options
      refine Result.bind_eq_ok_iff.mpr ⟨bytes, Result.mapError_eq_ok_iff.mpr hread, ?_⟩
      refine Result.bind_eq_ok_iff.mpr ⟨json, Result.mapError_eq_ok_iff.mpr hjson, ?_⟩
      exact Result.bind_eq_ok_iff.mpr ⟨file, Result.mapError_eq_ok_iff.mpr hshape, hcompile⟩

/-- A file is read if it can be loaded. -/
theorem Config.exists_reads_of_load {read : FileReader} {path : Text} {options : Options}
    (hpath : path ≠ []) (h : load read path = .ok options) :
    ∃ file, Reads read (some path) (some file) ∧ layer (some file) = options := by
  obtain ⟨bytes, hread, h⟩ := Result.bind_eq_ok_iff.mp h
  obtain ⟨json, hjson, h⟩ := Result.bind_eq_ok_iff.mp h
  obtain ⟨file, hshape, hcompile⟩ := Result.bind_eq_ok_iff.mp h
  exact ⟨file, .file hpath (Result.mapError_eq_ok_iff.mp hread) (Result.mapError_eq_ok_iff.mp hjson)
    (Result.mapError_eq_ok_iff.mp hshape) hcompile, (ConfigFile.layer_of_compile hcompile).1⟩

/-- A path says one thing: each step of reading it gives one result. So the sources of settings are
determined by what is told, the path and the environment. -/
theorem Config.Reads.unique {read : FileReader} {path : Option Text}
    {file file' : Option ConfigFile} (h : Reads read path file)
    (h' : Reads read path file') : file = file' := by
  cases h with
  | absent =>
      cases h'
      rfl
  | file _ hread hjson hshape _ =>
      cases h' with
      | file _ hread' hjson' hshape' _ =>
          obtain rfl := Except.ok.inj (hread.symm.trans hread')
          obtain rfl := Except.ok.inj (hjson.symm.trans hjson')
          obtain rfl := Except.ok.inj (hshape.symm.trans hshape')
          rfl

/-! ### The two front ends -/

/-- A front end and what it is told: the program, or an exchange that is not given an engine. -/
inductive FrontEnd where
  | program (args : Cli.MaskArgs)
  | exchange (o : ExchangeOptions) (ho : o.engine = none)

namespace FrontEnd

/-- The settings that the front end is told. -/
def explicit : FrontEnd → Options
  | .program args => args.options
  | .exchange o _ => o.options

/-- The configuration file that it is told. -/
def configPath : FrontEnd → Option Text
  | .program args => args.config
  | .exchange o _ => o.configFile

/-- The engine that it builds. -/
def engine (f : FrontEnd) (env : Environment) (read : FileReader) : Except ConfigError Engine :=
  match f with
  | .program args => args.engine env read
  | .exchange o _ => Exchange.resolveEngine o env read

/-- Both lay the same layers over each other. -/
theorem engine_eq (f : FrontEnd) (env : Environment) (read : FileReader) :
    f.engine env read
      = (Config.loadNamed read f.configPath).map fun file =>
          Engine.create ((f.explicit.orElse file).resolve env) := by
  cases f with
  | program args =>
      show args.engine env read = _
      unfold Cli.MaskArgs.engine
      cases hload : Config.loadNamed read args.config <;> simp only [configPath, hload] <;> rfl
  | exchange o ho =>
      show Exchange.resolveEngine o env read = _
      unfold Exchange.resolveEngine
      cases hload : Config.loadNamed read o.configFile <;> simp only [ho, configPath, hload] <;> rfl

/-- Front ends that are told the same build the same engine, or fail in the same way. -/
theorem engine_congr {f g : FrontEnd} (hexplicit : f.explicit = g.explicit)
    (hpath : f.configPath = g.configPath) (env : Environment) (read : FileReader) :
    f.engine env read = g.engine env read := by
  rw [engine_eq, engine_eq, hexplicit, hpath]

end FrontEnd

/-! ### Each setting on its own -/

/-- Each setting is what the first source that gives it says: what was told, the configuration file,
the environment, or the default.

- `enabled` and `failClosed`: a flag of the environment counts as a source if it is one of the words
  for a truth value;
- `fields`: the fields in scope are those that the deciding names put there, so no other source has
  a part in them;
- `strategies`: the environment gives none. -/
structure Settings.DecidedBy (s : Settings) (explicit : Options) (file : Option ConfigFile)
    (env : Environment) : Prop where
  enabled : Decides [explicit.enabled, file.bind (·.enabled), env.flag? "DATAMASK_ENABLED",
    some true] s.enabled
  failClosed : Decides [explicit.failClosed, file.bind (·.failClosed),
    env.flag? "DATAMASK_FAIL_CLOSED", some false] s.failClosed
  fields : ∃ names, Decides [explicit.fields, file.bind (·.fields), env.names? "DATAMASK_FIELDS",
    some (.list Allowlist.defaultFields)] names ∧ s.fields.fields = names.inScope
  strategies : Decides [explicit.strategies, file.bind (·.strategyList?), some Strategy.defaults]
    s.registry.strategies

/-- Names that were normalised on the way make the allowlist of the names as they are written. -/
theorem create_names (explicit file : Option FieldNames) (env : Environment) (name : Text) :
    ∃ names, Decides [explicit, file, env.names? name, some (.list Allowlist.defaultFields)] names ∧
      Allowlist.create ((explicit.or (file.map .loaded)).or (env.fields? name))
        = Allowlist.create (some names) := by
  have hdefault : Allowlist.create none
      = Allowlist.create (some (.list Allowlist.defaultFields)) := by decide +kernel
  cases explicit with
  | some names => exact ⟨names, decides_some_cons.mpr rfl, rfl⟩
  | none =>
      cases file with
      | some names =>
          refine ⟨names, decides_none_cons.mpr (decides_some_cons.mpr rfl), ?_⟩
          cases names with
          -- A text in a file is normalised when the file is loaded, and the result is a list.
          | text csv => exact Allowlist.create_parse csv
          | list names => rfl
      | none =>
          simp only [decides_none_cons, Environment.names?, Environment.fields?]
          -- A variable that is empty counts as missing, so it leaves the choice to the default.
          cases env.get? name with
          | none => exact ⟨_, decides_none_cons.mpr (decides_some_cons.mpr rfl), hdefault⟩
          | some csv =>
              cases csv with
              | nil => exact ⟨_, decides_none_cons.mpr (decides_some_cons.mpr rfl), hdefault⟩
              | cons u rest => exact ⟨_, decides_some_cons.mpr rfl, Allowlist.create_parse _⟩

/-- Layers that are laid over each other leave each setting to the first source that gives it. The
settings are taken one by one; only the fields are changed on the way. -/
theorem decidedBy_layers (explicit : Options) (file : Option ConfigFile) (env : Environment) :
    (Settings.create ((explicit.orElse (Config.layer file)).resolve env)).DecidedBy explicit file
      env := by
  constructor
  case enabled =>
    have hfile : (Config.layer file).enabled = file.bind (·.enabled) := by cases file <;> rfl
    rw [← hfile]
    exact decides_or_or_getD _ _ _ true
  case failClosed =>
    have hfile : (Config.layer file).failClosed = file.bind (·.failClosed) := by
      cases file <;> rfl
    rw [← hfile]
    exact decides_or_or_getD _ _ _ false
  case fields =>
    obtain ⟨names, hnames, hcreate⟩ :=
      create_names explicit.fields (file.bind (·.fields)) env "DATAMASK_FIELDS"
    refine ⟨names, hnames, ?_⟩
    rw [← Allowlist.fields_create_some, ← hcreate]
    cases file <;> rfl
  case strategies =>
    have hfile : (Config.layer file).strategies = file.bind (·.strategyList?) := by
      cases file <;> rfl
    rw [← hfile]
    exact decides_or_getD _ _ _

/-- The engine of a front end whose file is read, and where its settings come from. -/
theorem FrontEnd.exists_engine_of_reads (f : FrontEnd) (env : Environment) {read : FileReader}
    {file : Option ConfigFile} (h : Config.Reads read f.configPath file) :
    ∃ e, f.engine env read = .ok e ∧ e.settings.DecidedBy f.explicit file env := by
  refine ⟨Engine.create ((f.explicit.orElse (Config.layer file)).resolve env), ?_, ?_⟩
  · rw [f.engine_eq, Config.loadNamed_of_reads h]
    rfl
  · exact decidedBy_layers f.explicit file env

/-- The configuration file that a path names. The empty path names none, as no path does. -/
def Config.named? (path : Option Text) : Option Text := path.filter fun path => !path.isEmpty

/-- Each setting of the engine is decided on with the configuration file at the path among the
sources, and this file can be read. -/
def Engine.DecidedFrom (e : Engine) (explicit : Options) (path : Option Text) (env : Environment)
    (read : FileReader) : Prop :=
  ∃ file, Config.Reads read path file ∧ e.settings.DecidedBy explicit file env

/-- What is loaded from a path is the layer of the file that the path names. -/
theorem Config.exists_reads_of_loadNamed {read : FileReader} {path : Option Text}
    {options : Options} (h : loadNamed read path = .ok options) :
    ∃ file, Reads read (named? path) file ∧ layer file = options := by
  cases path with
  | none => exact ⟨none, .absent, Except.ok.inj h⟩
  | some path =>
      cases path with
      | nil => exact ⟨none, .absent, Except.ok.inj h⟩
      | cons u rest =>
          obtain ⟨file, hreads, hlayer⟩ := exists_reads_of_load (List.cons_ne_nil u rest) h
          exact ⟨some file, hreads, hlayer⟩

/-- Every engine that a front end builds has its settings from the file that is named, if one is,
and from the other sources. -/
theorem FrontEnd.decidedFrom_of_engine {f : FrontEnd} {env : Environment} {read : FileReader}
    {e : Engine} (h : f.engine env read = .ok e) :
    e.DecidedFrom f.explicit (Config.named? f.configPath) env read := by
  rw [f.engine_eq] at h
  cases hload : Config.loadNamed read f.configPath with
  | error mistake =>
      rw [hload] at h
      cases h
  | ok options =>
      rw [hload] at h
      obtain rfl := Except.ok.inj h
      obtain ⟨file, hreads, rfl⟩ := Config.exists_reads_of_loadNamed hload
      exact ⟨file, hreads, decidedBy_layers f.explicit file env⟩

/-- Each setting of an engine comes from the first source that gives it, and the two front ends
agree.

Where no configuration file is named, or one that can be loaded, a front end builds an engine, and
each of its settings is decided on its own: by what the front end is told, the file, the
environment, or the default. The fields in scope are those that the deciding names list, trimmed and
in lower case, and the default fields where these names list none. A flag in the environment is
given by one of its eight words and by nothing else. The flags of the program give `false` for
enabled and `true` for fail-closed, and say nothing where they are missing; an exchange that is told
the same settings and the same file, and no engine, builds the same engine. -/
theorem settings_by_precedence (env : Environment) (read : FileReader) :
    (∀ (f : FrontEnd) (file : Option ConfigFile), Config.Reads read f.configPath file →
      ∃ e, f.engine env read = .ok e ∧ e.settings.DecidedBy f.explicit file env) ∧
    (∀ path options, path ≠ [] → Config.load read path = .ok options →
      ∃ file, Config.Reads read (some path) (some file) ∧ file.strategyList?.isSome = true) ∧
    (∀ name b, env.flag? name = some b ↔
      ∃ value, env.get? name = some value ∧ value.trim.lower ∈ Environment.wordsFor b) ∧
    (∀ (args : Cli.MaskArgs) (o : ExchangeOptions), o.engine = none → o.configFile = args.config →
      o.options =
        { enabled := if args.disable then some false else none
          fields := args.fields.map .text
          failClosed := if args.failClosed then some true else none } →
      Exchange.resolveEngine o env read = args.engine env read) := by
  refine ⟨fun f file h => f.exists_engine_of_reads env h, ?_, ?_, ?_⟩
  · intro path options hpath hload
    obtain ⟨file, hreads, -⟩ := Config.exists_reads_of_load hpath hload
    refine ⟨file, hreads, ?_⟩
    cases hreads with
    | file _ _ _ _ hcompile => exact (ConfigFile.layer_of_compile hcompile).2
  · intro name b
    exact Environment.flag?_eq_some_iff
  · intro args o ho hpath hoptions
    exact FrontEnd.engine_congr (f := .exchange o ho) (g := .program args) hoptions hpath env read

/-- The text of a configuration that says no and names nothing. -/
def quietText : Text := "\x7b\"enabled\":false,\"fields\":\" ,\"\x7d"

/-- A folder with that configuration. -/
def quietFolder : Folder := ⟨[("mask.json", .file (Utf8.encode quietText))]⟩

/-- The configuration in that folder. -/
def quietFile : ConfigFile := ⟨some false, some (.text " ,"), none, none, none⟩

/-- An environment that says yes and names a field. -/
def loudEnvironment : Environment :=
  ⟨[("DATAMASK_ENABLED", "yes"), ("DATAMASK_FIELDS", "email"), ("DATAMASK_FAIL_CLOSED", " ON ")]⟩

/-- Field names on a command line, one of them blank and one given twice. -/
def rosterNames : Text := "E-Mail, name,,NAME"

/-- The file's `false` and its blank text count, and not what the environment says; the environment
decides where the file says nothing. Names on the command line count before both, and are listed
without the blank one and the one that is given twice; without a file, the environment names the
field. -/
theorem settings_by_precedence_quietFolder :
    Config.Reads quietFolder.read (some "mask.json") (some quietFile) ∧
    (∃ e, Cli.MaskArgs.engine { config := some "mask.json" } loudEnvironment quietFolder.read
        = .ok e ∧
      Exchange.resolveEngine { configFile := some "mask.json" } loudEnvironment quietFolder.read
        = .ok e ∧
      e.settings.enabled = false ∧ e.settings.failClosed = true ∧
      e.settings.fields.fields = Allowlist.defaultFields) ∧
    (∃ e, Cli.MaskArgs.engine { config := some "mask.json", fields := some rosterNames }
        loudEnvironment quietFolder.read = .ok e ∧
      e.settings.fields.fields = (["e-mail", "name"] : List Text)) ∧
    ∃ e, Cli.MaskArgs.engine {} loudEnvironment quietFolder.read = .ok e ∧
      e.settings.fields.fields = (["email"] : List Text) := by
  have hreads : Config.Reads quietFolder.read (some "mask.json") (some quietFile) := by
    have hread : quietFolder.read "mask.json" = .ok (Utf8.encode quietText) := by decide +kernel
    have hjson : Json.parse .last (Config.strip (Utf8.decode (Utf8.encode quietText)))
        = .ok (.object [("enabled", .bool false), ("fields", .string " ,")]) := by decide +kernel
    obtain ⟨options, hoptions⟩ : ∃ options, quietFile.compile = .ok options := ⟨_, rfl⟩
    exact .file (by decide) hread hjson (by decide +kernel) hoptions
  obtain ⟨hengine, -, hflag, hfronts⟩ := settings_by_precedence loudEnvironment quietFolder.read
  have hyes : loudEnvironment.flag? "DATAMASK_FAIL_CLOSED" = some true :=
    (hflag _ _).mpr ⟨" ON ", rfl, by decide +kernel⟩
  refine ⟨hreads, ?file, ?flag, ?environment⟩
  case file =>
    obtain ⟨e, he, hdecided⟩ := hengine (.program { config := some "mask.json" }) _ hreads
    refine ⟨e, he, ?_, ?_, ?_, ?_⟩
    · rw [hfronts { config := some "mask.json" } _ rfl rfl rfl]
      exact he
    · exact decides_some_cons.mp (decides_none_cons.mp hdecided.enabled)
    · have hsources := decides_none_cons.mp (decides_none_cons.mp hdecided.failClosed)
      rw [hyes] at hsources
      exact decides_some_cons.mp hsources
    · obtain ⟨names, hnames, hfields⟩ := hdecided.fields
      obtain rfl := decides_some_cons.mp (decides_none_cons.mp hnames)
      rw [hfields]
      decide +kernel
  case flag =>
    obtain ⟨e, he, hdecided⟩ :=
      hengine (.program { config := some "mask.json", fields := some rosterNames }) _ hreads
    obtain ⟨names, hnames, hfields⟩ := hdecided.fields
    obtain rfl := decides_some_cons.mp hnames
    refine ⟨e, he, ?_⟩
    rw [hfields]
    decide +kernel
  case environment =>
    obtain ⟨e, he, hdecided⟩ := hengine (.program {}) none .absent
    obtain ⟨names, hnames, hfields⟩ := hdecided.fields
    have hnamed : loudEnvironment.names? "DATAMASK_FIELDS" = some (.text "email") := by
      decide +kernel
    have hsources := decides_none_cons.mp (decides_none_cons.mp hnames)
    rw [hnamed] at hsources
    obtain rfl := decides_some_cons.mp hsources
    refine ⟨e, he, ?_⟩
    rw [hfields]
    decide +kernel

end FieldMask
