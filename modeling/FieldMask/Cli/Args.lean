import FieldMask.Text.Basic

/-!
# `FieldMask.Cli.Args`: the command line

`Cli.parse` reads the arguments of the program from left to right. The first argument that asks for
help or for the version, or that is a mistake, decides.
-/

set_option autoImplicit false

namespace FieldMask.Cli

/-- The arguments of a masking run. -/
structure MaskArgs where
  /-- The input file. -/
  file : Option Text := none
  fields : Option Text := none
  /-- The document is passed through. -/
  disable : Bool := false
  config : Option Text := none
  failClosed : Bool := false
  verbose : Bool := false
  deriving DecidableEq, Repr

/-- What the program is asked to do. -/
inductive Command where
  | mask (args : MaskArgs)
  | help
  | version
  deriving DecidableEq, Repr

/-- A mistake on the command line. -/
inductive UsageError where
  /-- The option needs a value, and the arguments end. -/
  | missingValue (option : Text)
  | unknownOption (argument : Text)
  /-- There is an input file already. -/
  | unexpectedArgument (argument : Text)
  deriving DecidableEq, Repr

/-- The description of the command line. -/
def helpText : Text := Text.join "\n" [
  "datamask [options] [file]",
  "",
  "Mask sensitive fields in a JSON document. Reads <file>, or stdin when no",
  "file (or \"-\") is given, and writes the masked document to stdout.",
  "",
  "Options:",
  "  --fields <list>     Comma-separated field names to mask",
  "                      (default: name, phone, phonenumber, phone_number,",
  "                      email, emailaddress, email_address; env: DATAMASK_FIELDS)",
  "  --config <path>     Path to a masking config JSON file",
  "  --disable           Pass the document through unmasked (env: DATAMASK_ENABLED=false)",
  "  --fail-closed       Fail instead of passing malformed documents through",
  "                      (env: DATAMASK_FAIL_CLOSED=1)",
  "  --verbose           Log the active configuration and mask counts to stderr",
  "  -v, --version       Show version",
  "  -h, --help          Show this help",
  "",
  "Examples:",
  "  datamask payload.json                     Mask with the default fields",
  "  cat payload.json | datamask --fields name,email",
  "  datamask --config mask.json - < payload.json"]

/-- The wording of a mistake. -/
def UsageError.message : UsageError → Text
  | .missingValue option => option ++ (" requires a value" : Text)
  | .unknownOption argument =>
    ("Unknown option: " : Text) ++ argument ++ ("\n\n" : Text) ++ helpText
  | .unexpectedArgument argument =>
    ("Unexpected argument: " : Text) ++ argument ++ ("\n\n" : Text) ++ helpText

/-- The file name that stands for the standard input. -/
def stdinName : Text := "-"

/-- The meaning of an argument. -/
inductive Token where
  | help
  | version
  | fields
  | config
  | disable
  | failClosed
  | verbose
  /-- A dash with anything else after it. -/
  | unknown
  /-- A file name. -/
  | positional
  deriving DecidableEq, Repr

/-- The meaning of an argument. -/
def Token.of (argument : Text) : Token :=
  if argument = "--help" ∨ argument = "-h" then .help
  else if argument = "--version" ∨ argument = "-v" then .version
  else if argument = "--fields" then .fields
  else if argument = "--config" then .config
  else if argument = "--disable" then .disable
  else if argument = "--fail-closed" then .failClosed
  else if argument = "--verbose" then .verbose
  else if argument.head? = some (Text.unit '-') ∧ argument ≠ stdinName then .unknown
  else .positional

/-- Reads arguments after those that gave `args`. -/
def parseFrom (args : MaskArgs) : List Text → Except UsageError Command
  | [] => .ok (.mask args)
  | argument :: rest =>
    match Token.of argument with
    | .help => .ok .help
    | .version => .ok .version
    | .fields =>
      match rest with
      | [] => .error (.missingValue argument)
      | value :: rest => parseFrom { args with fields := some value } rest
    | .config =>
      match rest with
      | [] => .error (.missingValue argument)
      | value :: rest => parseFrom { args with config := some value } rest
    | .disable => parseFrom { args with disable := true } rest
    | .failClosed => parseFrom { args with failClosed := true } rest
    | .verbose => parseFrom { args with verbose := true } rest
    | .unknown => .error (.unknownOption argument)
    | .positional =>
      match args.file with
      | some _ => .error (.unexpectedArgument argument)
      | none => parseFrom { args with file := some argument } rest

/-- What the arguments of the program ask for. -/
def parse (arguments : List Text) : Except UsageError Command := parseFrom {} arguments

end FieldMask.Cli
