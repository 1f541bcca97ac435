import FieldMask.Cli.Run

/-!
# `FieldMask.Main`: the program

The outer layer of `Cli.run`: it reads the environment, the files that the arguments name and the
standard input if it is needed, and writes what comes of the run.
-/

set_option autoImplicit false

namespace FieldMask.Main

/-- The string of a text. -/
def toString (t : Text) : String :=
  (String.fromUTF8? ⟨(Utf8.encode t).toArray⟩).getD ""

/-- Reads a stream to its end, onto the bytes read so far. -/
partial def readAll (stream : IO.FS.Stream) (bytes : ByteArray) : IO ByteArray := do
  let more ← stream.read 65536
  if more.isEmpty then return bytes
  readAll stream (bytes ++ more)

/-- Reads a file. -/
def readFile (path : Text) : IO (Except FileError Bytes) := do
  try
    let bytes ← IO.FS.readBinFile (toString path)
    return .ok bytes.toList
  catch e =>
    match e with
    | .noFileOrDirectory .. => return .error (.notFound path)
    | .inappropriateType .. => return .error .isDirectory
    | e => return .error (.other (Text.ofString s!"{e}"))

/-- The environment variables with the given names. -/
def readEnvironment (names : List String) : IO Environment := do
  let values ← names.filterMapM fun name => do
    return (← IO.getEnv name).map fun value => (Text.ofString name, Text.ofString value)
  return ⟨values⟩

/-- The files that a run can read. -/
def paths : Except Cli.UsageError Cli.Command → List Text
  | .ok (.mask args) => args.config.toList ++ args.inputFile?.toList
  | _ => []

/-- The run reads the standard input. -/
def readsInput : Except Cli.UsageError Cli.Command → Bool
  | .ok (.mask args) => args.inputFile?.isNone
  | _ => false

end FieldMask.Main

open FieldMask FieldMask.Main in
/-- Runs the program and gives its exit code. -/
def main (arguments : List String) : IO UInt32 := do
  let arguments := arguments.map Text.ofString
  let command := Cli.parse arguments
  let env ← readEnvironment ["DATAMASK_ENABLED", "DATAMASK_FIELDS", "DATAMASK_FAIL_CLOSED"]
  let files ← (paths command).mapM fun path => do return (path, ← readFile path)
  let read : FileReader := fun path => (files.lookup path).getD (.error (.notFound path))
  let stdin ← if readsInput command then readAll (← IO.getStdin) .empty else pure .empty
  let run := Cli.run arguments env read [.bytes stdin.toList]
  let stdout ← IO.getStdout
  stdout.write ⟨run.stdout.toArray⟩
  stdout.flush
  let stderr ← IO.getStderr
  stderr.write ⟨(Utf8.encode run.stderr).toArray⟩
  return UInt32.ofNat run.code
