import FieldMask.Proofs.Cli.Grammar
import FieldMask.Proofs.Cli.Run
import FieldMask.Proofs.Precedence

/-!
# `FieldMask.Proofs.NamedPath`: the files that a caller names

A caller can name a file in three places: the configuration of the program, its input, and the
configuration of an exchange. `FrontEnd.Heeds` says that a configuration counts: the engine has its
options as a layer, or there is no engine. What it means for the settings that the file is a layer
is said by their sources (`Engine.DecidedFrom`). `Cli.MasksFile` says that an input counts: a run
that succeeds has masked the document in the file, and what comes on the standard input plays no
part.

A name counts exactly if it is not empty. `named_path_counts_iff` says so for every command line, by
its groups, and for every exchange, under the assumption that no file has the empty path. An empty
name is one that can be given, and it is not the same as none for the parser; but from there on it
is treated as none: a run then has the default layer in place of the file, or masks the standard
input in its place.
-/

set_option autoImplicit false

namespace FieldMask

/-! ### The configuration -/

/-- The front end does not ignore the configuration file at the path: its engine lies over the
options of this file, or it has none. -/
def FrontEnd.Heeds (f : FrontEnd) (env : Environment) (read : FileReader) (path : Text) : Prop :=
  (∃ file, Config.load read path = .ok file ∧
    f.engine env read = .ok (Engine.create ((f.explicit.orElse file).resolve env))) ∨
  ∃ mistake, f.engine env read = .error mistake

section

variable {env : Environment} {read : FileReader} {path : Text}

/-- A file that has a name is loaded. -/
theorem Config.loadNamed_of_ne_nil (hpath : path ≠ []) :
    loadNamed read (some path) = load read path := by
  obtain ⟨u, rest, rfl⟩ := List.exists_cons_of_ne_nil hpath
  rfl

/-- Nothing is loaded from a path that cannot be read. -/
theorem Config.load_of_unreadable {mistake : FileError} (h : read path = .error mistake)
    (options : Options) : load read path ≠ .ok options := by
  intro hload
  obtain ⟨bytes, hbytes, -⟩ := Result.bind_eq_ok_iff.mp hload
  rw [h] at hbytes
  exact nomatch hbytes

/-- A front end heeds the configuration file that it is told, unless the name is empty. -/
theorem FrontEnd.heeds_iff (hempty : ∃ mistake, read [] = .error mistake) {f : FrontEnd}
    (hconfig : f.configPath = some path) : f.Heeds env read path ↔ path ≠ [] := by
  have hengine := f.engine_eq env read
  rw [hconfig] at hengine
  constructor
  · rintro (⟨file, hload, -⟩ | ⟨mistake, herror⟩) rfl
    · obtain ⟨mistake, hread⟩ := hempty
      exact Config.load_of_unreadable hread file hload
    · -- The engine is there: it has the default layer.
      have hdefault : Config.loadNamed read (some []) = .ok {} := rfl
      rw [hdefault] at hengine
      rw [hengine] at herror
      exact nomatch herror
  · intro hpath
    rw [Config.loadNamed_of_ne_nil hpath] at hengine
    cases hload : Config.load read path with
    | ok file => exact .inl ⟨file, hload, by rw [hengine, hload]; rfl⟩
    | error mistake => exact .inr ⟨mistake, by rw [hengine, hload]; rfl⟩

/-- The engine of a front end that is told a configuration file has its settings from this file,
where it gives them and the front end is told nothing else. -/
theorem FrontEnd.decidedFrom_of_ne_nil {f : FrontEnd} {e : Engine} (hpath : path ≠ [])
    (hconfig : f.configPath = some path) (hengine : f.engine env read = .ok e) :
    e.DecidedFrom f.explicit (some path) env read := by
  have hnamed : Config.named? f.configPath = some path := by
    simp [Config.named?, hconfig, hpath]
  rw [← hnamed]
  exact FrontEnd.decidedFrom_of_engine hengine

/-- An exchange has the engine of its front end. -/
theorem Exchange.resolveEngine_of_create {o : ExchangeOptions} {x : Exchange} {log : List LogLine}
    (h : Exchange.create o env read = .ok (x, log)) :
    Exchange.resolveEngine o env read = .ok x.engine := by
  obtain ⟨e, hengine, h⟩ := Result.bind_eq_ok_iff.mp h
  cases h
  exact hengine

/-- An exchange is built around the engine of its front end. -/
theorem FrontEnd.heeds_exchange_iff {o : ExchangeOptions} (ho : o.engine = none) :
    (FrontEnd.exchange o ho).Heeds env read path ↔
      (∃ file x log, Config.load read path = .ok file ∧
        Exchange.create o env read = .ok (x, log) ∧
        x.engine = Engine.create ((o.options.orElse file).resolve env)) ∨
      ∃ mistake, Exchange.create o env read = .error mistake := by
  show ((∃ file, Config.load read path = .ok file ∧ Exchange.resolveEngine o env read
    = .ok (Engine.create ((o.options.orElse file).resolve env))) ∨
      ∃ mistake, Exchange.resolveEngine o env read = .error mistake) ↔ _
  unfold Exchange.create
  cases Exchange.resolveEngine o env read with
  | error mistake =>
      exact ⟨fun _ => .inr ⟨mistake, rfl⟩, fun _ => .inr ⟨mistake, rfl⟩⟩
  | ok e =>
      constructor
      · rintro (⟨file, hload, ⟨⟩⟩ | ⟨mistake, h⟩)
        · exact .inl ⟨file, _, _, hload, rfl, rfl⟩
        · exact nomatch h
      · rintro (⟨file, x, log, hload, hx, hlayers⟩ | ⟨mistake, h⟩)
        · cases hx
          exact .inl ⟨file, hload, congrArg Except.ok hlayers⟩
        · exact nomatch h

end

namespace Cli

/-! ### The input -/

/-- The runs of the command line mask the file at the path: one that succeeds writes the document in
this file, masked, and none depends on the standard input. -/
structure MasksFile (arguments : List Text) (args : MaskArgs) (env : Environment)
    (read : FileReader) (path : Text) : Prop where
  reads : ∀ stdin, (run arguments env read stdin).code = 0 →
    ∃ e bytes out, args.engine env read = .ok e ∧ read path = .ok bytes ∧
      (e.maskDocument (Utf8.decode bytes) .empty).result = .ok out ∧
      (run arguments env read stdin).stdout = Utf8.encode out
  ignoresStdin : ∀ stdin stdin', run arguments env read stdin = run arguments env read stdin'

section

variable {arguments : List Text} {args : MaskArgs} {env : Environment} {read : FileReader}
  {stdin : List Chunk} {path : Text}

/-- A run that succeeds has written its input, masked. -/
theorem exists_result_of_code (hparse : parse arguments = .ok (.mask args))
    (hcode : (run arguments env read stdin).code = 0) :
    ∃ e bytes out, args.engine env read = .ok e ∧ args.input read stdin = .ok bytes ∧
      (e.maskDocument (Utf8.decode bytes) .empty).result = .ok out ∧
      (run arguments env read stdin).stdout = Utf8.encode out := by
  have hused : ¬ Misused arguments read := fun h => by
    have htwo : (run arguments env read stdin).code = 2 := (run_of_misused h).1
    omega
  have hsucceeds : ¬ Fails arguments env read stdin := fun h => by
    have hone : (run arguments env read stdin).code = 1 := (run_of_fails h).1
    omega
  exact (run_of_succeeds hused hsucceeds).2 args hparse

/-- A masking run without an engine has the code 2 and writes nothing, and no other one does. -/
theorem no_engine_iff_code (hparse : parse arguments = .ok (.mask args)) :
    (∃ mistake, args.engine env read = .error mistake) ↔
      (run arguments env read stdin).code = 2 ∧ (run arguments env read stdin).stdout = [] := by
  cases hengine : args.engine env read with
  | error mistake =>
      rw [run_of_configError hparse hengine]
      exact ⟨fun _ => ⟨rfl, rfl⟩, fun _ => ⟨mistake, rfl⟩⟩
  | ok e =>
      rw [run_of_engine hparse hengine]
      constructor
      · rintro ⟨mistake, h⟩
        exact nomatch h
      · rintro ⟨hcode, -⟩
        dsimp only at hcode
        split at hcode <;> exact nomatch hcode

/-- A file that is named is the input. -/
theorem MaskArgs.inputFile?_eq_some (hfile : args.file = some path) (hpath : path ≠ [])
    (hstdin : path ≠ stdinName) : args.inputFile? = some path := by
  simp [inputFile?, hfile, hpath, hstdin]

/-- The empty name is no input file. -/
theorem MaskArgs.inputFile?_eq_none (hfile : args.file = some []) : args.inputFile? = none := by
  simp [inputFile?, hfile]

/-- Runs mask the file that they are told, unless its name is empty and there is an engine. -/
theorem masksFile_iff (hempty : ∃ mistake, read [] = .error mistake)
    (hparse : parse arguments = .ok (.mask args)) (hfile : args.file = some path)
    (hstdin : path ≠ stdinName) :
    MasksFile arguments args env read path ↔
      path ≠ [] ∨ ∃ mistake, args.engine env read = .error mistake := by
  constructor
  · intro h
    cases hengine : args.engine env read with
    | error mistake => exact .inr ⟨mistake, rfl⟩
    | ok e =>
        refine .inl ?_
        rintro rfl
        -- Nothing comes on the standard input, and that is passed on.
        have hinput : args.input read [] = .ok [] := by
          rw [MaskArgs.input, MaskArgs.inputFile?_eq_none hfile]
          rfl
        have hblank : (e.maskDocument (Utf8.decode []) .empty).result = .ok [] := by
          have hpassed : (!e.settings.enabled || (Utf8.decode []).isBlank) = true :=
            Bool.or_true _
          rw [Engine.maskDocument, if_pos hpassed]
          rfl
        have hcode : (run arguments env read []).code = 0 := by
          rw [run_of_engine hparse hengine, MaskArgs.output_of_input hinput, hblank]
          rfl
        obtain ⟨-, bytes, -, -, hread, -⟩ := h.reads [] hcode
        obtain ⟨mistake, hnone⟩ := hempty
        rw [hnone] at hread
        cases hread
  · rintro (hpath | ⟨mistake, hengine⟩)
    · have hinput := MaskArgs.inputFile?_eq_some hfile hpath hstdin
      refine ⟨fun stdin hcode => ?_, fun stdin stdin' => ?_⟩
      · obtain ⟨e, bytes, out, hengine, hbytes, hresult, hstdout⟩ :=
          exists_result_of_code hparse hcode
        rw [MaskArgs.input, hinput] at hbytes
        exact ⟨e, bytes, out, hengine, hbytes, hresult, hstdout⟩
      · simp only [run, hparse, runMask, MaskArgs.source, hinput]
    · refine ⟨fun stdin hcode => ?_, fun stdin stdin' => ?_⟩
      · rw [run_of_configError hparse hengine] at hcode
        cases hcode
      · rw [run_of_configError hparse hengine, run_of_configError hparse hengine]

/-- The only file that groups name is the one that they ask for. -/
theorem asked_file {groups : List Group} (hone : OneFile groups) (hpath : path ∈ fileNames groups) :
    (asked groups).file = some path := by
  show (fileNames groups).head? = some path
  unfold OneFile at hone
  cases hnames : fileNames groups with
  | nil => rw [hnames] at hpath; exact nomatch hpath
  | cons name names =>
      rw [hnames] at hpath hone
      obtain rfl : names = [] := List.eq_nil_of_length_eq_zero (by simpa using hone)
      rw [List.mem_singleton.mp hpath]
      rfl

end

end Cli

/-- The files that a caller names count exactly if their names are not empty.

No file has the empty path. Then, for every command line of a masking run, the last configuration
file that it names is a layer of the engine or ends the run with the code 2 and nothing written,
exactly if its name is not empty; and a file that it names as input, other than the dash, is what
every successful run masks, whatever comes on the standard input, exactly if its name is not empty
or there is no engine. An exchange without an engine of its own has the configuration file that it
is told as a layer, or is not built, exactly if the name is not empty. That the file is a layer
means that it can be read, and that each setting of the engine is decided on with the file among its
sources: it counts wherever the arguments or the options say nothing. Everywhere, an empty name is
as good as none. -/
theorem named_path_counts_iff (env : Environment) (read : FileReader)
    (hempty : ∃ mistake, read [] = .error mistake) :
    (∀ arguments args, Cli.parse arguments = .ok (.mask args) →
      ∃ groups, arguments = Cli.spell groups ∧ Cli.OneFile groups ∧ args = Cli.asked groups ∧
        (∀ path, (Cli.values .config groups).getLast? = some path →
          (∀ stdin,
            ((∃ file, Config.load read path = .ok file ∧
              args.engine env read
                = .ok (Engine.create ((args.options.orElse file).resolve env))) ∨
            ((Cli.run arguments env read stdin).code = 2 ∧
              (Cli.run arguments env read stdin).stdout = [])) ↔ path ≠ []) ∧
          ∀ e, path ≠ [] → args.engine env read = .ok e →
            e.DecidedFrom args.options (some path) env read) ∧
        ∀ path ∈ Cli.fileNames groups, path ≠ Cli.stdinName →
          (Cli.MasksFile arguments args env read path ↔
            path ≠ [] ∨ ∃ mistake, args.engine env read = .error mistake)) ∧
    (∀ (o : ExchangeOptions) path, o.engine = none → o.configFile = some path →
      (((∃ file x log, Config.load read path = .ok file ∧
          Exchange.create o env read = .ok (x, log) ∧
          x.engine = Engine.create ((o.options.orElse file).resolve env)) ∨
        ∃ mistake, Exchange.create o env read = .error mistake) ↔ path ≠ []) ∧
      ∀ x log, path ≠ [] → Exchange.create o env read = .ok (x, log) →
        x.engine.DecidedFrom o.options (some path) env read) ∧
    (∀ (args : Cli.MaskArgs) stdin,
      Cli.runMask { args with config := some [] } env read stdin
        = Cli.runMask { args with config := none } env read stdin ∧
      Cli.runMask { args with file := some [] } env read stdin
        = Cli.runMask { args with file := none } env read stdin) ∧
    ∀ o : ExchangeOptions, Exchange.create { o with configFile := some [] } env read
      = Exchange.create { o with configFile := none } env read := by
  refine ⟨?_, ?_, fun args stdin => ⟨rfl, rfl⟩, fun o => rfl⟩
  · intro arguments args hparse
    obtain ⟨groups, hspell, hone, hasked⟩ := Cli.parse_eq_mask_iff.mp hparse
    refine ⟨groups, hspell, hone, hasked, ?_, ?_⟩
    · intro path hlast
      have hconfig : (FrontEnd.program args).configPath = some path := by
        show args.config = some path
        rw [hasked]
        show (Cli.values .config groups).getLast?.or none = some path
        rw [hlast]
        rfl
      refine ⟨fun stdin => ?_, fun e hpath hengine => ?_⟩
      · rw [← Cli.no_engine_iff_code hparse]
        exact FrontEnd.heeds_iff hempty hconfig
      · exact FrontEnd.decidedFrom_of_ne_nil hpath hconfig hengine
    · intro path hpath hstdin
      exact Cli.masksFile_iff hempty hparse (hasked ▸ Cli.asked_file hone hpath) hstdin
  · intro o path ho hconfig
    refine ⟨?_, fun x log hpath hcreate => ?_⟩
    · rw [← FrontEnd.heeds_exchange_iff ho]
      exact FrontEnd.heeds_iff hempty hconfig
    · have hengine := Exchange.resolveEngine_of_create hcreate
      exact FrontEnd.decidedFrom_of_ne_nil (f := .exchange o ho) hpath hconfig hengine

/-- The configuration in that folder. -/
def homeFile : ConfigFile := ⟨none, some (.text "email"), some true, none, none⟩

/-- It is read. -/
theorem reads_homeFile : Config.Reads Cli.homeFolder.read (some "mask.json") (some homeFile) := by
  have hread : Cli.homeFolder.read "mask.json"
      = .ok (Utf8.encode ("\x7b\"fields\":\"email\",\"failClosed\":true\x7d" : Text)) := by
    decide +kernel
  have hjson : Json.parse .last (Config.strip (Utf8.decode
      (Utf8.encode ("\x7b\"fields\":\"email\",\"failClosed\":true\x7d" : Text))))
      = .ok (.object [("fields", .string "email"), ("failClosed", .bool true)]) := by
    decide +kernel
  obtain ⟨options, hoptions⟩ : ∃ options, homeFile.compile = .ok options := ⟨_, rfl⟩
  exact .file (by decide) hread hjson (by decide +kernel) hoptions

/-- A file of the folder is masked where it is named, and the empty name is not; the configuration
in the folder says which field is in scope; a configuration that is not there is not ignored. -/
theorem named_path_counts_iff_homeFolder :
    let read := Cli.homeFolder.read
    (∃ mistake, read [] = .error mistake) ∧
    Cli.MasksFile ["--config", "mask.json", "in.json"]
      { config := some "mask.json", file := some "in.json" } ⟨[]⟩ read "in.json" ∧
    ¬ Cli.MasksFile ["--config", "mask.json", ""]
      { config := some "mask.json", file := some "" } ⟨[]⟩ read "" ∧
    (∀ x log, Exchange.create { configFile := some "mask.json" } ⟨[]⟩ read = .ok (x, log) →
      x.engine.settings.fields.fields = (["email"] : List Text)) ∧
    (Cli.run ["--config", "none.json", "in.json"] ⟨[]⟩ read []).stdout = [] ∧
    ∃ mistake, Exchange.create { configFile := some "none.json" } ⟨[]⟩ read = .error mistake := by
  intro read
  have hempty : ∃ mistake, read [] = .error mistake := ⟨_, rfl⟩
  have hmissing : read "none.json" = .error (.notFound "none.json") := by decide +kernel
  have hnone := Config.load_of_unreadable hmissing
  obtain ⟨hruns, hexchange, -, -⟩ := named_path_counts_iff ⟨[]⟩ read hempty
  refine ⟨hempty, ?_, ?_, ?_, ?_, ?_⟩
  · obtain ⟨groups, -, -, hasked, -, hfile⟩ :=
      hruns ["--config", "mask.json", "in.json"]
        { config := some "mask.json", file := some "in.json" } (by decide +kernel)
    have hname : (Cli.fileNames groups).head? = some ("in.json" : Text) :=
      (congrArg Cli.MaskArgs.file hasked).symm
    exact (hfile _ (List.mem_of_mem_head? hname) (by decide)).mpr (.inl (by decide))
  · obtain ⟨groups, -, -, hasked, -, hfile⟩ :=
      hruns ["--config", "mask.json", ""] { config := some "mask.json", file := some "" }
        (by decide +kernel)
    have hname : (Cli.fileNames groups).head? = some ("" : Text) :=
      (congrArg Cli.MaskArgs.file hasked).symm
    rw [hfile _ (List.mem_of_mem_head? hname) (by decide)]
    -- The name is empty, and there is an engine.
    rintro (hne | ⟨mistake, herror⟩)
    · exact hne rfl
    · obtain ⟨path, hpath, -, hload⟩ := Cli.MaskArgs.engine_eq_error_iff.mp herror
      obtain rfl := Option.some.inj hpath
      have hok : (Config.load read "mask.json").isOk = true := by decide +kernel
      rw [hload] at hok
      exact nomatch hok
  · intro x log hcreate
    obtain ⟨-, hdecided⟩ := hexchange { configFile := some "mask.json" } _ rfl rfl
    obtain ⟨file, hreads, hsources⟩ := hdecided x log (by decide) hcreate
    obtain rfl := hreads.unique reads_homeFile
    obtain ⟨names, hnames, hfields⟩ := hsources.fields
    obtain rfl := decides_some_cons.mp (decides_none_cons.mp hnames)
    rw [hfields]
    decide +kernel
  · obtain ⟨groups, -, -, hasked, hconfig, -⟩ :=
      hruns ["--config", "none.json", "in.json"]
        { config := some "none.json", file := some "in.json" } (by decide +kernel)
    have hlast : (Cli.values .config groups).getLast? = some ("none.json" : Text) := by
      have hor : (Cli.values .config groups).getLast?.or none = some ("none.json" : Text) :=
        (congrArg Cli.MaskArgs.config hasked).symm
      rwa [Option.or_none] at hor
    obtain ⟨file, hload, -⟩ | ⟨-, hstdout⟩ := ((hconfig _ hlast).1 []).mpr (by decide)
    · exact absurd hload (hnone file)
    · exact hstdout
  · obtain ⟨file, -, -, hload, -⟩ | herror :=
      (hexchange { configFile := some "none.json" } _ rfl rfl).1.mpr (by decide)
    · exact absurd hload (hnone file)
    · exact herror

/-- A document with a name. -/
def plainDocument : Text := "\x7b\"name\":\"Ann\"\x7d"

/-- The same document as the default settings mask it. -/
def coveredDocument : Text := "\x7b\"name\":\"A**\"\x7d"

/-- There is no file with the empty name. A run that names one as its configuration masks by the
default settings, and a run that names one as its input masks what comes on the standard input. -/
theorem empty_path_ignored :
    let ran arguments := Cli.run arguments ⟨[]⟩ Cli.homeFolder.read [.text plainDocument]
    (Cli.homeFolder.read "").isOk = false ∧
    Cli.parse ["--config", ""] = .ok (.mask { config := some "" }) ∧
    ran ["--config", ""] = ⟨0, Utf8.encode coveredDocument, []⟩ ∧
    Cli.parse [""] = .ok (.mask { file := some "" }) ∧
    ran [""] = ⟨0, Utf8.encode coveredDocument, []⟩ ∧
    (Exchange.create { configFile := some "" } ⟨[]⟩ Cli.homeFolder.read).isOk = true := by
  decide +kernel

end FieldMask
