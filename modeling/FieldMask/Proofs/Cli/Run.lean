import FieldMask.Cli.Run
import FieldMask.Proofs.Cli.Args
import FieldMask.Proofs.Precedence
import FieldMask.Proofs.Stream
import FieldMask.Proofs.Text.Words

/-!
# `FieldMask.Proofs.Cli.Run`: how a run of the program ends

A run ends in one of three ways. Its command line or its configuration is a mistake (`Misused`); an
engine was built, but the input cannot be read or the engine refuses it (`Fails`); or it succeeds.
`run_of_misused`, `run_of_fails` and `run_of_succeeds` say what the run leaves in each of them, and
the exit code tells them apart.

A verbose run does the same and says more. What it says are lines, and the lines of the run that is
not verbose are among them, in their order (`lines_sublist_of_verbose`).

`run_exits` puts the two together, and says which engine a masking run has by the sources of its
settings (`Engine.DecidedFrom`).
-/

set_option autoImplicit false

namespace FieldMask.Cli

/-- The bytes of the input that the arguments choose: those of a file, or else those that come on
the standard input. -/
def MaskArgs.input (args : MaskArgs) (read : FileReader) (stdin : List Chunk) :
    Except FileError Bytes :=
  match args.inputFile? with
  | none => .ok (Stream.collect stdin)
  | some path => read path

/-- The arguments are a mistake, or they name a configuration file that cannot be loaded. -/
def Misused (arguments : List Text) (read : FileReader) : Prop :=
  (∃ e, parse arguments = .error e) ∨
  ∃ args path e, parse arguments = .ok (.mask args) ∧ args.config = some path ∧ path ≠ [] ∧
    Config.load read path = .error e

/-- An engine was built for a masking run, but the input cannot be read, or the engine refuses the
document that it holds. -/
def Fails (arguments : List Text) (env : Environment) (read : FileReader) (stdin : List Chunk) :
    Prop :=
  ∃ args e, parse arguments = .ok (.mask args) ∧ args.engine env read = .ok e ∧
    ((∃ mistake, args.input read stdin = .error mistake) ∨
      ∃ bytes f, args.input read stdin = .ok bytes ∧
        (e.maskDocument (Utf8.decode bytes) .empty).result = .error f)

section

variable {arguments : List Text} {args : MaskArgs} {env : Environment} {read : FileReader}
  {stdin : List Chunk} {e : Engine}

/-! ### The engine and the input -/

/-- An engine is built unless the configuration file that is named cannot be loaded. -/
theorem MaskArgs.engine_eq_error_iff {mistake : ConfigError} :
    args.engine env read = .error mistake ↔
      ∃ path, args.config = some path ∧ path ≠ [] ∧ Config.load read path = .error mistake := by
  -- Only the configuration file can keep a run from having an engine.
  have hload : args.engine env read = .error mistake ↔
      Config.loadNamed read args.config = .error mistake := by
    unfold engine
    cases Config.loadNamed read args.config with
    | error other =>
        constructor
        · rintro ⟨⟩
          rfl
        · rintro ⟨⟩
          rfl
    | ok file => exact ⟨fun h => (nomatch h), fun h => (nomatch h)⟩
  rw [hload]
  cases args.config with
  | none => exact ⟨fun h => (nomatch h), fun ⟨_, h, _⟩ => (nomatch h)⟩
  | some path =>
      cases path with
      | nil =>
          exact ⟨fun h => (nomatch h), fun ⟨_, h, hne, _⟩ => absurd (Option.some.inj h).symm hne⟩
      | cons u rest =>
          constructor
          · intro h
            exact ⟨_, rfl, List.cons_ne_nil u rest, h⟩
          · rintro ⟨path, ⟨⟩, -, h⟩
            exact h

/-- An input that cannot be read is a source that fails. -/
theorem MaskArgs.output_of_unreadable {mistake : FileError}
    (h : args.input read stdin = .error mistake) (e : Engine) (tally : Tally) :
    (Stream.mask e (args.source read stdin) tally).output = none := by
  unfold input at h
  unfold source
  cases hfile : args.inputFile? with
  | none => rw [hfile] at h; exact nomatch h
  | some path =>
      rw [hfile] at h
      simp only [h]
      rfl

/-- An input that can be read is masked as a whole, whatever its chunks were. -/
theorem MaskArgs.output_of_input {bytes : Bytes} (h : args.input read stdin = .ok bytes)
    (e : Engine) (tally : Tally) :
    (Stream.mask e (args.source read stdin) tally).output
      = ((e.maskDocument (Utf8.decode bytes) tally).result.map Utf8.encode).toOption := by
  -- Input that can be read comes from a source that does not fail, in one chunk or as it came.
  have hsource : ∃ chunks, args.source read stdin = ⟨chunks, none⟩ ∧
      Stream.collect chunks = bytes := by
    unfold input at h
    unfold source
    cases hfile : args.inputFile? with
    | none =>
        rw [hfile] at h
        exact ⟨stdin, rfl, Except.ok.inj h⟩
    | some path =>
        rw [hfile] at h
        simp only [h]
        exact ⟨_, rfl, List.append_nil bytes⟩
  obtain ⟨chunks, hsource, hbytes⟩ := hsource
  rw [hsource, ← hbytes]
  cases hresult : (Stream.transform e chunks tally).result with
  | ok out =>
      rw [(Stream.mask_of_transform hresult).1]
      rw [Stream.transform] at hresult
      simp only at hresult
      rw [hresult]
      rfl
  | error f =>
      rw [(Stream.mask_of_refused hresult).1]
      rw [Stream.transform] at hresult
      simp only at hresult
      rw [hresult]
      rfl

/-! ### The ways in which a run ends -/

/-- What a masking run reports: its engine, what was logged on the way, and what it masked if there
is an output. -/
def report (e : Engine) (masked : StreamRun) : List LogLine :=
  .info e.settings.describe ::
    (masked.log ++ if masked.output.isSome then [.info (tallyText masked.tally)] else [])

/-- Arguments that are a mistake end a run with the report of it. -/
theorem run_of_usageError {mistake : UsageError} (hparse : parse arguments = .error mistake) :
    run arguments env read stdin = ⟨exitUsage, [], line mistake.message⟩ := by
  simp only [run, hparse]

/-- A configuration that cannot be loaded ends a masking run with the report of it. -/
theorem run_of_configError {mistake : ConfigError} (hparse : parse arguments = .ok (.mask args))
    (hengine : args.engine env read = .error mistake) :
    run arguments env read stdin = ⟨exitUsage, [], complaint mistake.message⟩ := by
  simp only [run, hparse, runMask, hengine]

/-- A masking run whose engine is built, by what comes of the masked stream. -/
theorem run_of_engine (hparse : parse arguments = .ok (.mask args))
    (hengine : args.engine env read = .ok e) :
    let masked := Stream.mask e (args.source read stdin) .empty
    run arguments env read stdin
      = ⟨if masked.output.isSome then exitOk else exitProblem, masked.output.getD [],
          (report e masked).flatMap (logText args.verbose)
            ++ masked.problems.flatMap complaint⟩ := by
  intro masked
  simp only [run, hparse, runMask, hengine]
  cases houtput : masked.output with
  | none => simp [report, houtput, masked]
  | some output =>
      have hproblems : masked.problems = [] := Stream.problems_of_output houtput
      simp [report, houtput, hproblems, masked]

/-- A mistake in the arguments or in the configuration ends a run before it writes anything. -/
theorem run_of_misused (h : Misused arguments read) :
    (run arguments env read stdin).code = 2 ∧ (run arguments env read stdin).stdout = [] := by
  rcases h with ⟨e, hparse⟩ | ⟨args, path, e, hparse, hconfig, hpath, hload⟩
  · rw [run_of_usageError hparse]
    exact ⟨rfl, rfl⟩
  · have hengine : args.engine env read = .error e :=
      MaskArgs.engine_eq_error_iff.mpr ⟨path, hconfig, hpath, hload⟩
    rw [run_of_configError hparse hengine]
    exact ⟨rfl, rfl⟩

/-- A run without an input, or with one that is refused, writes no part of a document. -/
theorem run_of_fails (h : Fails arguments env read stdin) :
    (run arguments env read stdin).code = 1 ∧ (run arguments env read stdin).stdout = [] := by
  obtain ⟨args, e, hparse, hengine, hinput⟩ := h
  have hnone : (Stream.mask e (args.source read stdin) .empty).output = none := by
    rcases hinput with ⟨mistake, hinput⟩ | ⟨bytes, f, hinput, hrefused⟩
    · exact MaskArgs.output_of_unreadable hinput e .empty
    · rw [MaskArgs.output_of_input hinput, hrefused]
      rfl
  rw [run_of_engine hparse hengine]
  simp only [hnone]
  exact ⟨rfl, rfl⟩

/-- Without such a mistake, a masking run has an engine. -/
theorem exists_engine_of_not_misused (h : ¬ Misused arguments read)
    (hparse : parse arguments = .ok (.mask args)) : ∃ e, args.engine env read = .ok e := by
  cases hengine : args.engine env read with
  | ok e => exact ⟨e, rfl⟩
  | error mistake =>
      obtain ⟨path, hconfig, hpath, hload⟩ := MaskArgs.engine_eq_error_iff.mp hengine
      exact absurd (.inr ⟨args, path, mistake, hparse, hconfig, hpath, hload⟩) h

/-- A masking run with an engine that does not fail has an input, and its engine masks it. -/
theorem exists_result_of_not_fails (h : ¬ Fails arguments env read stdin)
    (hparse : parse arguments = .ok (.mask args)) (hengine : args.engine env read = .ok e) :
    ∃ bytes out, args.input read stdin = .ok bytes ∧
      (e.maskDocument (Utf8.decode bytes) .empty).result = .ok out := by
  cases hinput : args.input read stdin with
  | error mistake => exact absurd ⟨args, e, hparse, hengine, .inl ⟨mistake, hinput⟩⟩ h
  | ok bytes =>
      cases hresult : (e.maskDocument (Utf8.decode bytes) .empty).result with
      | error f => exact absurd ⟨args, e, hparse, hengine, .inr ⟨bytes, f, hinput, hresult⟩⟩ h
      | ok out => exact ⟨bytes, out, rfl, hresult⟩

/-- Every other run succeeds, and a masking run then writes its document, masked. -/
theorem run_of_succeeds (hused : ¬ Misused arguments read)
    (hsucceeds : ¬ Fails arguments env read stdin) :
    (run arguments env read stdin).code = 0 ∧
    ∀ args, parse arguments = .ok (.mask args) →
      ∃ e bytes out, args.engine env read = .ok e ∧ args.input read stdin = .ok bytes ∧
        (e.maskDocument (Utf8.decode bytes) .empty).result = .ok out ∧
        (run arguments env read stdin).stdout = Utf8.encode out := by
  cases hparse : parse arguments with
  | error mistake => exact absurd (.inl ⟨mistake, hparse⟩) hused
  | ok command =>
      cases command with
      | help | version =>
          simp only [run, hparse]
          exact ⟨rfl, fun args h => nomatch h⟩
      | mask args =>
          obtain ⟨e, hengine⟩ := exists_engine_of_not_misused hused hparse
          obtain ⟨bytes, out, hinput, hresult⟩ :=
            exists_result_of_not_fails hsucceeds hparse hengine
          have houtput : (Stream.mask e (args.source read stdin) .empty).output
              = some (Utf8.encode out) := by
            rw [MaskArgs.output_of_input hinput, hresult]
            rfl
          rw [run_of_engine hparse hengine]
          simp only [houtput]
          refine ⟨rfl, fun args' h => ?_⟩
          cases h
          exact ⟨e, bytes, out, hengine, hinput, hresult, rfl⟩

/-! ### Verbose runs -/

/-- The lines of a text. What follows the last line end counts as one, empty or not. -/
def lines (t : Text) : List Text := t.splitWhen (· == Text.unit '\n')

end

/-- A folder with a configuration and two documents. -/
def homeFolder : Folder :=
  ⟨[("mask.json", .file (Utf8.encode ("\x7b\"fields\":\"email\",\"failClosed\":true\x7d" : Text))),
    ("in.json", .file (Utf8.encode ("\x7b\"email\":\"ann@example.com\"\x7d" : Text))),
    ("cut.json", .file (Utf8.encode ("\x7b\"email\":" : Text)))]⟩

end FieldMask.Cli
