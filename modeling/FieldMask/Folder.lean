import FieldMask.Text.Utf8

/-!
# `FieldMask.Folder`: files by path

A program reads files by a path, through a `FileReader`. A `Folder` is a folder of files in memory,
and `Folder.read` is its reader. A path is a list of names between slashes; `.` and an empty name
stay where they are, and `..` goes back up.
-/

set_option autoImplicit false

namespace FieldMask

/-- Why a file could not be read. -/
inductive FileError where
  | notFound (path : Text)
  | notDirectory (path : Text)
  /-- A name of the path is too long for the system. -/
  | nameTooLong (path : Text)
  | isDirectory
  /-- Any other reason, in the words of the system. -/
  | other (description : Text)
  deriving DecidableEq, Repr

/-- The wording of the reason. -/
def FileError.message : FileError → Text
  | .notFound path =>
    ("ENOENT: no such file or directory, open '" : Text) ++ path ++ ("'" : Text)
  | .notDirectory path => ("ENOTDIR: not a directory, open '" : Text) ++ path ++ ("'" : Text)
  | .nameTooLong path => ("ENAMETOOLONG: name too long, open '" : Text) ++ path ++ ("'" : Text)
  | .isDirectory => "EISDIR: illegal operation on a directory, read"
  | .other description => description

/-- Reads the file at a path. -/
abbrev FileReader := Text → Except FileError Bytes

/-- What a name in a folder stands for. -/
inductive Entry where
  | file (content : Bytes)
  | directory
  deriving DecidableEq, Repr

/-- A folder whose directories are empty. -/
structure Folder where
  entries : List (Text × Entry)

namespace Folder

/-- The unit between the names of a path. -/
def slash : CodeUnit := 0x2F

/-- The most bytes that a name can have. -/
def maxNameBytes : Nat := 255

/-- Where the names of a path lead to, one after the other. -/
inductive Place where
  /-- The folder itself. -/
  | root
  /-- An entry of the folder. -/
  | entry (e : Entry)
  /-- A directory elsewhere, of which nothing is known. -/
  | elsewhere
  deriving DecidableEq, Repr

/-- Follows one name of a path. The whole path serves for the wording of a mistake. -/
def enter (folder : Folder) (path : Text) (p : Place) (name : Text) : Except FileError Place :=
  match p with
  | .entry (.file _) => .error (.notDirectory path)
  | p =>
    if name.isEmpty || name == "." then .ok p
    else if maxNameBytes < (Utf8.encode name).length then .error (.nameTooLong path)
    else
      match p with
      | .root =>
        if name = ".." then .ok .elsewhere
        else
          match folder.entries.lookup name with
          | some e => .ok (.entry e)
          | none => .error (.notFound path)
      | .elsewhere => if name = ".." then .ok .elsewhere else .error (.notFound path)
      | .entry _ => if name = ".." then .ok .root else .error (.notFound path)

/-- Reads the file at a path of the folder. A path that starts with a slash leads elsewhere. -/
def read (folder : Folder) : FileReader := fun path =>
  if path.isEmpty then .error (.notFound path)
  else
    let start := if path.head? = some slash then Place.elsewhere else .root
    match (path.splitWhen (· == slash)).foldlM (folder.enter path) start with
    | .error e => .error e
    | .ok (.entry (.file content)) => .ok content
    | .ok _ => .error .isDirectory

end Folder

end FieldMask
