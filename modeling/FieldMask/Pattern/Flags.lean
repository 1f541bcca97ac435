import FieldMask.Pattern.Parser

/-!
# `FieldMask.Pattern.Flags`: patterns with letters

A pattern is written as a source with a list of letters, no letter twice. Those that change what a
field test means are `m`, `s` and one of `u` and `v`; the others are allowed and have no effect on
it. `Pattern.compile` reads the source in the mode that the letters name.
-/

set_option autoImplicit false

namespace FieldMask.Pattern

/-- The letters that a pattern can come with. -/
def flagLetters : Text := "dgimsuvy"

/-- The letters are allowed: no letter twice, and not both letters for a grammar. -/
def validFlags : Text → Bool
  | [] => true
  | u :: rest =>
    flagLetters.contains u && !rest.contains u &&
      !(u == Text.unit 'u' && rest.contains (Text.unit 'v')) &&
      !(u == Text.unit 'v' && rest.contains (Text.unit 'u')) && validFlags rest

/-- The grammar that letters name. -/
def Grammar.ofFlags (flags : Text) : Grammar :=
  if flags.contains (Text.unit 'v') then .sets
  else if flags.contains (Text.unit 'u') then .points
  else .units

/-- The mode that letters name, if they are allowed. -/
def Mode.ofFlags? (flags : Text) : Option Mode :=
  if validFlags flags then
    some
      { grammar := .ofFlags flags
        multiline := flags.contains (Text.unit 'm')
        dotAll := flags.contains (Text.unit 's') }
  else none

/-- Why a source with letters is no pattern. -/
inductive CompileError where
  /-- The letters are not allowed. -/
  | invalidFlags (flags : Text)
  /-- There is a mistake in the source. -/
  | invalidSource (source flags : Text) (mistake : PatternError)
  deriving DecidableEq, Repr

/-- The wording of the reason. -/
def CompileError.message : CompileError → Text
  | .invalidFlags flags =>
    ("Invalid flags supplied to RegExp constructor '" : Text) ++ flags ++ ("'" : Text)
  | .invalidSource source flags mistake =>
    ("Invalid regular expression: /" : Text) ++ source ++ ("/" : Text) ++ flags ++
      (": " : Text) ++ mistake.message

/-- The pattern of a source with letters. -/
def compile (source flags : Text) : Except CompileError Pattern :=
  match Mode.ofFlags? flags with
  | none => .error (.invalidFlags flags)
  | some mode => (parse mode source).mapError (.invalidSource source flags)

end FieldMask.Pattern
