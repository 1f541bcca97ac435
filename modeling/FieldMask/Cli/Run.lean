import FieldMask.Cli.Args
import FieldMask.Config.Compile
import FieldMask.Environment
import FieldMask.Stream

/-!
# `FieldMask.Cli.Run`: a run of the program

`Cli.run` is the whole program as a function of its arguments, its environment, the files and the
standard input. A `CliRun` is the exit code and what is written. The code is 0 for success, 1 for an
input that cannot be read or is refused, and 2 for a mistake on the command line or in the
configuration.
-/

set_option autoImplicit false

namespace FieldMask.Cli

/-- What comes of a run. -/
structure CliRun where
  code : Nat
  stdout : Bytes
  stderr : Text
  deriving DecidableEq, Repr

/-- The exit code of success. -/
def exitOk : Nat := 0

/-- The exit code of an input that cannot be masked. -/
def exitProblem : Nat := 1

/-- The exit code of a mistake on the command line or in the configuration. -/
def exitUsage : Nat := 2

/-- The text with a line end. -/
def line (t : Text) : Text := t ++ ("\n" : Text)

/-- The text as a complaint of the program. -/
def complaint (t : Text) : Text := line (("datamask: " : Text) ++ t)

/-- The version of the program. -/
def versionText : Text := "datamask 0.1.0"

/-- What a log line writes. Lines that report no error are for verbose runs. -/
def logText (verbose : Bool) (l : LogLine) : Text :=
  if verbose || l.isError then line l.console else []

/-- The options that the arguments give. -/
def MaskArgs.options (args : MaskArgs) : Options where
  enabled := if args.disable then some false else none
  fields := args.fields.map .text
  failClosed := if args.failClosed then some true else none

/-- The engine by the arguments over the configuration file, the environment and the defaults. -/
def MaskArgs.engine (args : MaskArgs) (env : Environment) (read : FileReader) :
    Except ConfigError Engine := do
  let file ← Config.loadNamed read args.config
  return Engine.create ((args.options.orElse file).resolve env)

/-- The file that the arguments name as input. An empty name and a dash name none. -/
def MaskArgs.inputFile? (args : MaskArgs) : Option Text :=
  args.file.filter fun path => !path.isEmpty && path != stdinName

/-- The input that the arguments choose: a file, or else the standard input. -/
def MaskArgs.source (args : MaskArgs) (read : FileReader) (stdin : List Chunk) : Source :=
  match args.inputFile? with
  | none => ⟨stdin, none⟩
  | some path =>
    match read path with
    | .ok content => ⟨[.bytes content], none⟩
    | .error e => ⟨[], some e.message⟩

/-- The report of masked fields. -/
def tallyText (tally : Tally) : Text :=
  ("Masked " : Text) ++ Text.ofNat tally.total ++ (" field(s)" : Text) ++
    if tally.details.isEmpty then [] else (": " : Text) ++ tally.details

/-- A masking run. -/
def runMask (args : MaskArgs) (env : Environment) (read : FileReader) (stdin : List Chunk) :
    CliRun :=
  match args.engine env read with
  | .error e => ⟨exitUsage, [], complaint e.message⟩
  | .ok engine =>
    let log := logText args.verbose
    let masked := Stream.mask engine (args.source read stdin) Tally.empty
    let before := log (.info engine.settings.describe) ++ masked.log.flatMap log
    match masked.output with
    | none => ⟨exitProblem, [], before ++ masked.problems.flatMap complaint⟩
    | some output => ⟨exitOk, output, before ++ log (.info (tallyText masked.tally))⟩

/-- A run of the program. -/
def run (arguments : List Text) (env : Environment) (read : FileReader) (stdin : List Chunk) :
    CliRun :=
  match parse arguments with
  | .error e => ⟨exitUsage, [], line e.message⟩
  | .ok .help => ⟨exitOk, Utf8.encode (line helpText), []⟩
  | .ok .version => ⟨exitOk, Utf8.encode (line versionText), []⟩
  | .ok (.mask args) => runMask args env read stdin

end FieldMask.Cli
