import FieldMask.Proofs.Cli.Args
import Mathlib.Data.List.Perm.Basic

/-!
# `FieldMask.Proofs.Cli.Grammar`: the command lines of a masking run

A command line of a masking run is a list of groups, one after the other: a flag, an option with the
text that follows it as its value, or the name of the input file, of which there is at most one.
What it asks for, `asked`, is read off the groups: the flags that are among them, the last value of
each option, and the file name.

Every other command line is a list of such groups with something behind it that `Stops` the reading:
a word for help or for the version, an option that needs a value at the very end, an unknown option,
or a second file name. What stops the reading decides the result, and what comes after it plays no
part.

Two lemmas carry the proofs. `parseFrom_spell` says that the parser goes through a list of groups
and keeps what they ask for; it is an induction on the groups, with `parseFrom_group` as its step.
`exists_reads` says that every command line is a list of groups with nothing behind it, or with
something that stops the reading. `Reads.unique` says that there is one such reading only, so "the
first thing that stops it" is well defined.
-/

set_option autoImplicit false

namespace FieldMask.Cli

/-! ### Groups -/

/-- The argument names an input file: it is a dash, or it does not start with one. The empty
argument does not start with one, so it is a file name, too. -/
def IsFileName (argument : Text) : Prop :=
  argument = stdinName ∨ argument.head? ≠ some (Text.unit '-')

/-- Whether an argument is a file name is seen from its first unit, so for a given argument it is
decided by evaluation. -/
instance (argument : Text) : Decidable (IsFileName argument) :=
  inferInstanceAs (Decidable (_ ∨ _))

/-- An argument that is complete in itself: it is there or not, and to give it twice is to give it
once. -/
inductive Flag where
  | disable
  | failClosed
  | verbose
  deriving DecidableEq

/-- An option that has the next argument as its value, of which the last one given is the one that
counts. -/
inductive ValueOption where
  | fields
  | config
  deriving DecidableEq

/-- How a flag is written. Each has this one spelling. -/
def Flag.spelling : Flag → Text
  | .disable => "--disable"
  | .failClosed => "--fail-closed"
  | .verbose => "--verbose"

/-- How an option is written. Its value is an argument of its own, behind it. -/
def ValueOption.spelling : ValueOption → Text
  | .fields => "--fields"
  | .config => "--config"

/-- The arguments that belong together. The value of an option is any text, also one that looks like
an option or is empty. -/
inductive Group where
  | flag (f : Flag)
  | setting (o : ValueOption) (value : Text)
  | file (name : Text) (hname : IsFileName name)
  deriving DecidableEq

namespace Group

/-- The arguments of a group, in the order in which they stand on the command line. -/
def spell : Group → List Text
  | .flag f => [f.spelling]
  | .setting o value => [o.spelling, value]
  | .file name _ => [name]

/-- The file that a group names, if it names one. The value of an option is no such file. -/
def file? : Group → Option Text
  | .file name _ => some name
  | _ => none

/-- The value that a group gives to an option, if it is a setting of that option. -/
def value? (o : ValueOption) : Group → Option Text
  | .setting p value => if p = o then some value else none
  | _ => none

end Group

/-- The command line of some groups: their arguments one after the other, with nothing between them.
-/
def spell (groups : List Group) : List Text := groups.flatMap Group.spell

/-- The files that the groups name, in order. There may be several here; that there is one at most
is `OneFile`. -/
def fileNames (groups : List Group) : List Text := groups.filterMap Group.file?

/-- The values that an option is given, in order, of which the last one is the one that counts. -/
def values (o : ValueOption) (groups : List Group) : List Text := groups.filterMap (Group.value? o)

/-- The groups name one file at most, which is all the room there is on a command line. -/
def OneFile (groups : List Group) : Prop := (fileNames groups).length ≤ 1

/-- For given groups it is a matter of counting. -/
instance (groups : List Group) : Decidable (OneFile groups) :=
  inferInstanceAs (Decidable (_ ≤ _))

/-- What is asked for once more groups have been read: the flags among them as well, the last value
of each option that they set, and the file that they name, unless there is one already. -/
def MaskArgs.after (args : MaskArgs) (groups : List Group) : MaskArgs where
  file := args.file.or (fileNames groups).head?
  fields := (values .fields groups).getLast?.or args.fields
  disable := args.disable || decide (.flag .disable ∈ groups)
  config := (values .config groups).getLast?.or args.config
  failClosed := args.failClosed || decide (.flag .failClosed ∈ groups)
  verbose := args.verbose || decide (.flag .verbose ∈ groups)

/-- What some groups ask for, read off the groups as a whole and without reading them one after the
other. -/
def asked (groups : List Group) : MaskArgs := MaskArgs.after {} groups

section

variable {args : MaskArgs} {groups : List Group} {rest : List Text}

/-- The first group is spelled first, and what stands behind the groups stays behind them. -/
theorem spell_cons (g : Group) (groups : List Group) (rest : List Text) :
    spell (g :: groups) ++ rest = g.spell ++ (spell groups ++ rest) := by
  rw [spell, List.flatMap_cons, List.append_assoc, spell]

/-- Where no group is read, nothing changes. -/
theorem after_nil : args.after [] = args := by
  simp [MaskArgs.after, fileNames, values]

/-- Groups are read one after the other: what is read off all of them is read off the first one and
then off the rest. -/
theorem after_cons (g : Group) : args.after (g :: groups) = (args.after [g]).after groups := by
  have hlast : ∀ (o : ValueOption) (x : Option Text),
      (values o (g :: groups)).getLast?.or x
        = (values o groups).getLast?.or ((values o [g]).getLast?.or x) := by
    intro o x
    show ((g :: groups).filterMap (Group.value? o)).getLast?.or x = _
    rw [← List.singleton_append, List.filterMap_append, List.getLast?_append, Option.or_assoc]
    rfl
  have hfirst : args.file.or (fileNames (g :: groups)).head?
      = (args.file.or (fileNames [g]).head?).or (fileNames groups).head? := by
    show args.file.or ((g :: groups).filterMap Group.file?).head? = _
    rw [← List.singleton_append, List.filterMap_append, List.head?_append, Option.or_assoc]
    rfl
  have hflag : ∀ (b : Bool) (f : Flag), (b || decide (.flag f ∈ g :: groups))
      = ((b || decide (.flag f ∈ [g])) || decide (.flag f ∈ groups)) := by
    intro b f
    simp [Bool.or_assoc]
  simp only [MaskArgs.after, hlast, hfirst, hflag]

/-- What reading a flag alone changes: the one field that it is about. -/
theorem after_flag (f : Flag) :
    args.after [.flag f] = match f with
      | .disable => { args with disable := true }
      | .failClosed => { args with failClosed := true }
      | .verbose => { args with verbose := true } := by
  cases f <;> simp [MaskArgs.after, fileNames, values, Group.file?, Group.value?]

/-- What reading an option with its value changes: the value takes the place of an earlier one. -/
theorem after_setting (o : ValueOption) (value : Text) :
    args.after [.setting o value] = match o with
      | .fields => { args with fields := some value }
      | .config => { args with config := some value } := by
  cases o <;> simp [MaskArgs.after, fileNames, values, Group.file?, Group.value?]

/-- What reading the first file name changes. With a file already there nothing would. -/
theorem after_file (hnone : args.file = none) {name : Text} (hname : IsFileName name) :
    args.after [.file name hname] = { args with file := some name } := by
  simp [MaskArgs.after, fileNames, values, Group.file?, Group.value?, hnone]

/-! ### What an argument means -/

/-- Each flag means itself. -/
theorem token_flag (f : Flag) :
    Token.of f.spelling = match f with
      | .disable => .disable
      | .failClosed => .failClosed
      | .verbose => .verbose := by
  cases f <;> decide

/-- Each option means itself, whatever its value is. -/
theorem token_option (o : ValueOption) :
    Token.of o.spelling = match o with
      | .fields => .fields
      | .config => .config := by
  cases o <;> decide

/-- The arguments that have a meaning of their own: the words for help and for the version in both
spellings, the options and the flags. -/
def ownWords : List Text :=
  ["--help", "-h", "--version", "-v", "--fields", "--config", "--disable", "--fail-closed",
    "--verbose"]

/-- The argument is an option, and none of those that there are. A dash alone is no option, since it
stands for the standard input. -/
structure IsUnknown (argument : Text) : Prop where
  dash : argument.head? = some (Text.unit '-')
  not_stdin : argument ≠ stdinName
  not_own : argument ∉ ownWords

/-- A word without a meaning of its own is an unknown option or a file name, depending on how it
starts. -/
theorem token_of_not_own {argument : Text} (h : argument ∉ ownWords) :
    Token.of argument
      = if argument.head? = some (Text.unit '-') ∧ argument ≠ stdinName then .unknown
        else .positional := by
  simp only [ownWords, List.mem_cons, List.not_mem_nil, or_false, not_or] at h
  obtain ⟨hhelp, hh, hversion, hv, hfields, hconfig, hdisable, hfail, hverbose⟩ := h
  simp only [Token.of, hhelp, hh, hversion, hv, hfields, hconfig, hdisable, hfail, hverbose,
    or_self, if_false]

/-- An unknown option is taken for one: it has no meaning of its own, and it starts with a dash. -/
theorem token_unknown {argument : Text} (h : IsUnknown argument) :
    Token.of argument = .unknown := by
  rw [token_of_not_own h.not_own, if_pos ⟨h.dash, h.not_stdin⟩]

/-- No word with a meaning of its own is a file name, since all of them start with a dash and are
longer. -/
theorem IsFileName.not_own {argument : Text} (h : IsFileName argument) : argument ∉ ownWords := by
  have hwords : ∀ word ∈ ownWords, ¬ IsFileName word := by decide
  exact fun hmem => hwords argument hmem h

/-- A file name is taken for one, where an argument and not the value of an option is expected. -/
theorem token_file {argument : Text} (h : IsFileName argument) :
    Token.of argument = .positional := by
  rw [token_of_not_own h.not_own, if_neg]
  rintro ⟨hdash, hstdin⟩
  exact h.elim hstdin fun hne => hne hdash

/-- What an argument can be, where it is not the value of an option. The cases exclude each other,
and there are no others (`argument_cases`). -/
inductive Argument : Text → Prop where
  | help {argument : Text} (h : argument = "--help" ∨ argument = "-h") : Argument argument
  | version {argument : Text} (h : argument = "--version" ∨ argument = "-v") : Argument argument
  | flag (f : Flag) : Argument f.spelling
  | option (o : ValueOption) : Argument o.spelling
  | unknown {argument : Text} (h : IsUnknown argument) : Argument argument
  | file {argument : Text} (h : IsFileName argument) : Argument argument

/-- Every argument is one of these. It is looked up among the words with a meaning of their own, and
if it is none of them its start decides. -/
theorem argument_cases (argument : Text) : Argument argument := by
  by_cases hown : argument ∈ ownWords
  · simp only [ownWords, List.mem_cons, List.not_mem_nil, or_false] at hown
    rcases hown with h | h | h | h | rfl | rfl | rfl | rfl | rfl
    · exact .help (.inl h)
    · exact .help (.inr h)
    · exact .version (.inl h)
    · exact .version (.inr h)
    · exact .option .fields
    · exact .option .config
    · exact .flag .disable
    · exact .flag .failClosed
    · exact .flag .verbose
  · by_cases hfile : IsFileName argument
    · exact .file hfile
    · obtain ⟨hstdin, hdash⟩ := not_or.mp hfile
      exact .unknown ⟨not_not.mp hdash, hstdin, hown⟩

/-! ### Reading groups -/

/-- There is no file yet if there is room for one more: with the one that a group names there is one
file at most. -/
theorem file_eq_none (g : Group) {name : Text} (hg : g.file? = some name)
    (hfile : (args.file.toList ++ fileNames (g :: groups)).length ≤ 1) : args.file = none := by
  cases hargs : args.file with
  | none => rfl
  | some other =>
      have hnames : fileNames (g :: groups) = name :: fileNames groups :=
        List.filterMap_cons_some hg
      rw [hargs, hnames] at hfile
      simp at hfile

/-- The parser reads a group, if there is room for the file that it may name, and keeps what the
group asks for. This is the step of `parseFrom_spell`. -/
theorem parseFrom_group (g : Group)
    (hfile : (args.file.toList ++ fileNames (g :: groups)).length ≤ 1) :
    parseFrom args (g.spell ++ rest) = parseFrom (args.after [g]) rest := by
  cases g with
  | flag f =>
      rw [after_flag]
      cases f with
      | disable => exact parseFrom_disable (token_flag .disable)
      | failClosed => exact parseFrom_failClosed (token_flag .failClosed)
      | verbose => exact parseFrom_verbose (token_flag .verbose)
  | setting o value =>
      rw [after_setting]
      cases o with
      | fields => exact parseFrom_fields (token_option .fields) value
      | config => exact parseFrom_config (token_option .config) value
  | file name hname =>
      have hnone : args.file = none := file_eq_none (.file name hname) rfl hfile
      rw [after_file hnone]
      exact parseFrom_file (token_file hname) hnone

/-- The files are those that were there and those that are read. So the bound of one file is kept
while groups are read. -/
theorem toList_file_after (g : Group)
    (hfile : (args.file.toList ++ fileNames (g :: groups)).length ≤ 1) :
    (args.after [g]).file.toList ++ fileNames groups
      = args.file.toList ++ fileNames (g :: groups) := by
  cases hg : g.file? with
  | none =>
      have hnames : ∀ gs, fileNames (g :: gs) = fileNames gs := fun gs =>
        List.filterMap_cons_none hg
      have hsame : (args.after [g]).file = args.file := by
        show args.file.or (fileNames [g]).head? = args.file
        rw [hnames]
        exact Option.or_none
      rw [hsame, hnames]
  | some name =>
      have hnames : ∀ gs, fileNames (g :: gs) = name :: fileNames gs := fun gs =>
        List.filterMap_cons_some hg
      have hnone := file_eq_none g hg hfile
      -- The file goes from those that are still to be read to those that were.
      have hnew : (args.after [g]).file = some name := by
        show args.file.or (fileNames [g]).head? = some name
        rw [hnone, hnames]
        rfl
      rw [hnew, hnone, hnames]
      rfl

/-- The parser goes through groups that name one file at most, and keeps what they ask for. By
induction on the groups. -/
theorem parseFrom_spell (hfile : (args.file.toList ++ fileNames groups).length ≤ 1) :
    parseFrom args (spell groups ++ rest) = parseFrom (args.after groups) rest := by
  induction groups generalizing args with
  | nil => rw [after_nil]; rfl
  | cons g groups ih =>
      have hafter := toList_file_after g hfile
      rw [spell_cons, parseFrom_group g hfile, ih (by rw [hafter]; exact hfile), ← after_cons]

/-- The groups of a command line that name one file at most ask for a masking run, and `asked` is
what they ask for. -/
theorem parse_spell (hfile : OneFile groups) :
    parse (spell groups) = .ok (.mask (asked groups)) := by
  have hrun : parseFrom {} (spell groups ++ []) = parseFrom (asked groups) [] :=
    parseFrom_spell hfile
  rw [List.append_nil] at hrun
  exact hrun

end

/-! ### What stops the reading -/

/-- The rest of a command line, behind some groups, starts with something that stops the reading,
and this comes of it. The groups matter only for a second file name. -/
inductive Stops (groups : List Group) : (rest : List Text) → (result : Except UsageError Command) →
    Prop where
  | help {argument : Text} (h : argument = "--help" ∨ argument = "-h") (after : List Text) :
      Stops groups (argument :: after) (.ok .help)
  | version {argument : Text} (h : argument = "--version" ∨ argument = "-v") (after : List Text) :
      Stops groups (argument :: after) (.ok .version)
  /-- An option that needs a value, and nothing after it. -/
  | missing (o : ValueOption) : Stops groups [o.spelling] (.error (.missingValue o.spelling))
  | unknown {argument : Text} (h : IsUnknown argument) (after : List Text) :
      Stops groups (argument :: after) (.error (.unknownOption argument))
  /-- The name of a file, where the groups name one already. -/
  | second {name : Text} (hname : IsFileName name) (hfile : fileNames groups ≠ [])
      (after : List Text) : Stops groups (name :: after) (.error (.unexpectedArgument name))

variable {groups : List Group} {rest : List Text} {result : Except UsageError Command}

/-- What stops the reading decides the result of the whole command line, whatever the groups before
it ask for and whatever comes after it. -/
theorem Stops.parse_eq (h : Stops groups rest result) (hfile : OneFile groups) :
    parse (spell groups ++ rest) = result := by
  have hrun : parse (spell groups ++ rest) = parseFrom (asked groups) rest :=
    parseFrom_spell hfile
  rw [hrun]
  cases h with
  | help h => exact parseFrom_help (by rcases h with rfl | rfl <;> decide)
  | version h => exact parseFrom_version (by rcases h with rfl | rfl <;> decide)
  | missing o => exact parseFrom_missing (by cases o <;> decide)
  | unknown h => exact parseFrom_unknown (token_unknown h)
  | second hname hnames =>
      refine parseFrom_second (token_file hname) ?_
      show (fileNames groups).head? ≠ none
      rwa [ne_eq, List.head?_eq_none_iff]

/-- The result never is a masking run, so a command line that something stops asks for help, for the
version, or is refused. -/
theorem Stops.ne_mask (h : Stops groups rest result) (args : MaskArgs) :
    result ≠ .ok (.mask args) := by
  cases h <;> exact fun hmask => nomatch hmask

/-- What the first argument means, where it stops the reading. It is by these meanings that a
reading can end in one way only. -/
theorem Stops.token {argument : Text} (h : Stops groups (argument :: rest) result) :
    Token.of argument ∈ [.help, .version, .unknown] ∨
      (Token.of argument ∈ [.fields, .config] ∧ rest = []) ∨
      (Token.of argument = .positional ∧ fileNames groups ≠ []) := by
  cases h with
  | help h => rcases h with rfl | rfl <;> exact .inl (by decide)
  | version h => rcases h with rfl | rfl <;> exact .inl (by decide)
  | missing o => exact .inr (.inl ⟨by cases o <;> decide, rfl⟩)
  | unknown h => exact .inl (by rw [token_unknown h]; decide)
  | second hname hnames => exact .inr (.inr ⟨token_file hname, hnames⟩)

/-- Nothing stops the reading where there is one more group that leaves one file at most. -/
theorem not_stops_spell (g : Group) (hfile : OneFile (groups ++ [g])) :
    ¬ Stops groups (g.spell ++ rest) result := by
  intro h
  cases g with
  | flag f =>
      have htoken := h.token
      rw [token_flag] at htoken
      cases f <;> simp at htoken
  | setting o value =>
      have htoken := h.token
      rw [token_option] at htoken
      cases o <;> simp at htoken
  | file name hname =>
      have htoken := h.token
      rw [token_file hname] at htoken
      -- There is a file already, and this would be the second one.
      have hnames : fileNames groups ≠ [] := by simpa using htoken
      have hlength : (fileNames (groups ++ [.file name hname])).length
          = (fileNames groups).length + 1 := by
        simp [fileNames, Group.file?]
      have hpos := List.length_pos_of_ne_nil hnames
      unfold OneFile at hfile
      omega

/-- The group that arguments start with, and the arguments behind it. It takes arguments apart that
`Group.spell` has put together. -/
def Group.read? : List Text → Option (Group × List Text)
  | [] => none
  | argument :: rest =>
    match Token.of argument, rest with
    | .disable, rest => some (.flag .disable, rest)
    | .failClosed, rest => some (.flag .failClosed, rest)
    | .verbose, rest => some (.flag .verbose, rest)
    | .fields, value :: rest => some (.setting .fields value, rest)
    | .config, value :: rest => some (.setting .config value, rest)
    | .positional, rest => if h : IsFileName argument then some (.file argument h, rest) else none
    | _, _ => none

/-- A group is read back from its spelling, whatever stands behind it. So spelled groups tell where
each of them ends. -/
theorem read?_spell (g : Group) (rest : List Text) :
    Group.read? (g.spell ++ rest) = some (g, rest) := by
  cases g with
  | flag f =>
      simp only [Group.spell, List.cons_append, List.nil_append, Group.read?.eq_def, token_flag]
      cases f <;> rfl
  | setting o value =>
      simp only [Group.spell, List.cons_append, List.nil_append, Group.read?.eq_def, token_option]
      cases o <;> rfl
  | file name hname =>
      simp only [Group.spell, List.cons_append, List.nil_append, Group.read?.eq_def,
        token_file hname, dif_pos hname]

/-- A command line is read as these groups: they name one file at most, and behind them there is
nothing, or something that stops the reading. Other groups may have been read before, and they count
for the number of files. -/
structure Reads (before : List Group) (arguments : List Text) (groups : List Group)
    (rest : List Text) : Prop where
  split : arguments = spell groups ++ rest
  oneFile : OneFile (before ++ groups)
  ends : rest = [] ∨ ∃ result, Stops (before ++ groups) rest result

variable {before groups' : List Group} {arguments rest' : List Text}

/-- One more group is read: a reading of what stands behind the group becomes a reading of the
whole. -/
theorem Reads.cons (g : Group) (h : Reads (before ++ [g]) arguments groups rest) :
    Reads before (g.spell ++ arguments) (g :: groups) rest where
  split := by rw [h.split, spell_cons]
  oneFile := by simpa using h.oneFile
  ends := by simpa using h.ends

/-- The first group is read, and what is left is a reading of what stands behind it. -/
theorem Reads.of_cons {g : Group} (h : Reads before arguments (g :: groups) rest) :
    ∃ more, arguments = g.spell ++ more ∧ Reads (before ++ [g]) more groups rest :=
  ⟨spell groups ++ rest, by rw [h.split, spell_cons], rfl, by simpa using h.oneFile,
    by simpa using h.ends⟩

/-- Fewer groups name fewer files. -/
theorem OneFile.of_append (h : OneFile (before ++ groups)) : OneFile before := by
  unfold OneFile fileNames at h ⊢
  rw [List.filterMap_append, List.length_append] at h
  omega

/-- The reading does not end where there is one more group that leaves one file at most. -/
theorem Reads.not_spell {g : Group} {more : List Text}
    (h : Reads before (g.spell ++ more) [] rest) (hfile : OneFile (before ++ [g])) : False := by
  have hrest : rest = g.spell ++ more := h.split.symm
  obtain hnil | ⟨result, hstops⟩ := h.ends
  · rw [hrest] at hnil
    cases g <;> exact nomatch hnil
  · rw [hrest, List.append_nil] at hstops
    exact not_stops_spell g hfile hstops

/-- A command line is read in one way only. By induction on the groups of the one reading: the other
one can neither end before them nor go on with another group. -/
theorem Reads.unique (h : Reads before arguments groups rest)
    (h' : Reads before arguments groups' rest') : groups = groups' ∧ rest = rest' := by
  induction groups generalizing before arguments groups' with
  | nil =>
      cases groups' with
      | nil => exact ⟨rfl, h.split.symm.trans h'.split⟩
      | cons g' groups' =>
          obtain ⟨more, rfl, hmore⟩ := h'.of_cons
          exact (h.not_spell hmore.oneFile.of_append).elim
  | cons g groups ih =>
      obtain ⟨more, rfl, hmore⟩ := h.of_cons
      cases groups' with
      | nil => exact (h'.not_spell hmore.oneFile.of_append).elim
      | cons g' groups' =>
          obtain ⟨more', hsplit, hmore'⟩ := h'.of_cons
          -- The first group can be read back from the arguments, so both readings have the same
          -- one.
          have hread := read?_spell g more
          rw [hsplit, read?_spell, Option.some.injEq, Prod.mk.injEq] at hread
          obtain ⟨rfl, rfl⟩ := hread
          obtain ⟨rfl, hrest⟩ := ih hmore hmore'
          exact ⟨rfl, hrest⟩

/-- Every command line can be read: either its first argument begins a group that there is room for,
and the rest is shorter, or the reading ends there. -/
theorem exists_reads : ∀ (arguments : List Text) (before : List Group), OneFile before →
    ∃ groups rest, Reads before arguments groups rest
  | [], before, hbefore => ⟨[], [], rfl, by rwa [List.append_nil], .inl rfl⟩
  | argument :: arguments, before, hbefore => by
      -- What stops the reading leaves no group to read.
      have hstop : ∀ {result}, Stops before (argument :: arguments) result →
          ∃ groups rest, Reads before (argument :: arguments) groups rest := fun hstops =>
        ⟨[], argument :: arguments, rfl, by rwa [List.append_nil],
          .inr ⟨_, by rwa [List.append_nil]⟩⟩
      have hplain : ∀ g : Group, g.file? = none → OneFile (before ++ [g]) := by
        intro g hg
        simpa [OneFile, fileNames, hg] using hbefore
      cases argument_cases argument with
      | help h => exact hstop (.help h arguments)
      | version h => exact hstop (.version h arguments)
      | unknown h => exact hstop (.unknown h arguments)
      | flag f =>
          obtain ⟨groups, rest, h⟩ := exists_reads arguments _ (hplain (.flag f) rfl)
          exact ⟨_, rest, h.cons⟩
      | option o =>
          cases arguments with
          | nil => exact hstop (.missing o)
          | cons value arguments =>
              obtain ⟨groups, rest, h⟩ := exists_reads arguments _ (hplain (.setting o value) rfl)
              exact ⟨_, rest, h.cons⟩
      | file hname =>
          by_cases hnames : fileNames before = []
          · have hone : OneFile (before ++ [.file argument hname]) := by
              rw [OneFile, fileNames, List.filterMap_append, ← fileNames, hnames]
              exact Nat.le_refl 1
            obtain ⟨groups, rest, h⟩ := exists_reads arguments _ hone
            exact ⟨_, rest, h.cons⟩
          · exact hstop (.second hname hnames arguments)

/-! ### What is asked for -/

/-- A command line asks for a masking run exactly if it is a list of groups that name one file at
most, and then for what is read off the groups. -/
theorem parse_eq_mask_iff {args : MaskArgs} :
    parse arguments = .ok (.mask args) ↔
      ∃ groups, arguments = spell groups ∧ OneFile groups ∧ args = asked groups := by
  constructor
  · intro hparse
    obtain ⟨groups, rest, hreads⟩ := exists_reads arguments [] (by decide)
    have hfile : OneFile groups := hreads.oneFile
    have hsplit := hreads.split
    obtain rfl | ⟨result, hstops⟩ := hreads.ends
    · rw [List.append_nil] at hsplit
      rw [hsplit, parse_spell hfile] at hparse
      cases hparse
      exact ⟨groups, hsplit, hfile, rfl⟩
    · have hstops : Stops groups rest result := hstops
      rw [hsplit, hstops.parse_eq hfile] at hparse
      exact absurd hparse (hstops.ne_mask args)
  · rintro ⟨groups, rfl, hfile, rfl⟩
    exact parse_spell hfile

/-- What is asked for depends on the flags among the groups, the last value of each option and the
file names, and on nothing else. -/
theorem asked_congr (hflags : ∀ f, Group.flag f ∈ groups ↔ Group.flag f ∈ groups')
    (hvalues : ∀ o, (values o groups).getLast? = (values o groups').getLast?)
    (hnames : fileNames groups = fileNames groups') : asked groups = asked groups' := by
  simp only [asked, MaskArgs.after, hflags, hvalues, hnames]

/-- The order of the groups plays no part, as long as the values of each option keep theirs: flags
are only looked for, and one file cannot be out of order. -/
theorem asked_of_perm (hperm : groups.Perm groups') (hfile : OneFile groups)
    (hvalues : ∀ o, values o groups = values o groups') :
    OneFile groups' ∧ asked groups = asked groups' := by
  have hnames : (fileNames groups).Perm (fileNames groups') := hperm.filterMap _
  have hlength := hnames.length_eq
  refine ⟨by unfold OneFile at hfile ⊢; omega, ?_⟩
  refine asked_congr (fun f => hperm.mem_iff) (fun o => by rw [hvalues o]) ?_
  -- There is one file at most, so there is nothing to reorder among the names.
  cases h : fileNames groups with
  | nil =>
      rw [h] at hnames
      exact (List.nil_perm.mp hnames).symm
  | cons name names =>
      obtain rfl : names = [] := by
        unfold OneFile at hfile
        rw [h, List.length_cons] at hfile
        exact List.eq_nil_of_length_eq_zero (by omega)
      rw [h] at hnames
      exact List.singleton_perm.mp hnames

/-- Two lists of groups are read one after the other, as single groups are. -/
theorem after_append {args : MaskArgs} :
    args.after (groups ++ groups') = (args.after groups).after groups' := by
  induction groups generalizing args with
  | nil => rw [after_nil]; rfl
  | cons g groups ih =>
      rw [List.cons_append, after_cons, ih, ← after_cons]

/-- Some groups that name one file at most ask for this, so there is a command line for it. -/
def Spellable (args : MaskArgs) : Prop := ∃ groups, OneFile groups ∧ asked groups = args

/-- A group that names no file can be added, behind the others, and there is still one file at most.
-/
theorem Spellable.add {args : MaskArgs} (h : Spellable args) (g : Group) (hg : g.file? = none) :
    Spellable (args.after [g]) := by
  obtain ⟨groups, hfile, rfl⟩ := h
  refine ⟨groups ++ [g], ?_, after_append⟩
  simpa [OneFile, fileNames, hg] using hfile

/-- Everything can be asked for whose file is named by a file name: one group for the file, one for
each value, and one for each flag that is set. -/
theorem spellable_of_isFileName (args : MaskArgs) (h : ∀ name ∈ args.file, IsFileName name) :
    Spellable args := by
  obtain ⟨file, fields, disable, config, failClosed, verbose⟩ := args
  -- The groups are put together one by one, the file first.
  have hfile : Spellable { file } := by
    cases file with
    | none => exact ⟨[], by decide, rfl⟩
    | some name => exact ⟨[.file name (h name rfl)], Nat.le_refl 1, rfl⟩
  have hfields : Spellable { file, fields } := by
    cases fields with
    | none => exact hfile
    | some value => simpa only [after_setting] using hfile.add (.setting .fields value) rfl
  have hconfig : Spellable { file, fields, config } := by
    cases config with
    | none => exact hfields
    | some value => simpa only [after_setting] using hfields.add (.setting .config value) rfl
  have hdisable : Spellable { file, fields, config, disable } := by
    cases disable with
    | false => exact hconfig
    | true => simpa only [after_flag] using hconfig.add (.flag .disable) rfl
  have hfailClosed : Spellable { file, fields, config, disable, failClosed } := by
    cases failClosed with
    | false => exact hdisable
    | true => simpa only [after_flag] using hdisable.add (.flag .failClosed) rfl
  cases verbose with
  | false => exact hfailClosed
  | true => simpa only [after_flag] using hfailClosed.add (.flag .verbose) rfl

/-- The file that is asked for is named by a file name, since a group carries the proof of it. -/
theorem isFileName_of_mem_fileNames {name : Text} (h : name ∈ fileNames groups) :
    IsFileName name := by
  obtain ⟨g, -, hg⟩ := List.mem_filterMap.mp h
  cases g with
  | file other hother =>
      obtain rfl := Option.some.inj hg
      exact hother
  | flag f => exact nomatch hg
  | setting o value => exact nomatch hg

/-- What a command line asks for.

It asks for a masking run exactly if it is a list of groups that name one file at most, and what it
asks for is read off the groups: two lists of groups with the same flags among them, the same last
values and the same file are not told apart, and groups can be put in another order in which the
values of each option keep theirs. Everything can be asked for whose file is named by a file name,
and nothing else.

Every other command line is a list of groups with something behind it that stops the reading. It can
be read in that way only, so this is the first thing that does, and it decides the result, whatever
comes after it. -/
theorem parse_decided_by_groups :
    (∀ arguments args, parse arguments = .ok (.mask args) ↔
      ∃ groups, arguments = spell groups ∧ OneFile groups ∧ args = asked groups) ∧
    (∀ groups groups', OneFile groups → OneFile groups' →
      (∀ f, Group.flag f ∈ groups ↔ Group.flag f ∈ groups') →
      (∀ o, (values o groups).getLast? = (values o groups').getLast?) →
      fileNames groups = fileNames groups' → parse (spell groups') = parse (spell groups)) ∧
    (∀ groups groups' : List Group, OneFile groups → groups.Perm groups' →
      (∀ o, values o groups = values o groups') → parse (spell groups') = parse (spell groups)) ∧
    (∀ args : MaskArgs, (∃ arguments, parse arguments = .ok (.mask args)) ↔
      ∀ name ∈ args.file, IsFileName name) ∧
    (∀ arguments, (∀ args, parse arguments ≠ .ok (.mask args)) →
      ∃ groups rest result, arguments = spell groups ++ rest ∧ OneFile groups ∧
        Stops groups rest result ∧
        ∀ groups' rest' result', arguments = spell groups' ++ rest' → OneFile groups' →
          Stops groups' rest' result' → groups' = groups ∧ rest' = rest) ∧
    (∀ groups rest result, OneFile groups → Stops groups rest result →
      parse (spell groups ++ rest) = result ∧ ∀ args, result ≠ .ok (.mask args)) := by
  refine ⟨fun _ _ => parse_eq_mask_iff, ?_, ?_, ?_, ?_, ?_⟩
  · intro groups groups' hfile hfile' hflags hvalues hnames
    rw [parse_spell hfile, parse_spell hfile', asked_congr hflags hvalues hnames]
  · intro groups groups' hfile hperm hvalues
    obtain ⟨hfile', hasked⟩ := asked_of_perm hperm hfile hvalues
    rw [parse_spell hfile, parse_spell hfile', hasked]
  · intro args
    constructor
    · rintro ⟨arguments, hparse⟩ name hname
      obtain ⟨groups, -, -, rfl⟩ := parse_eq_mask_iff.mp hparse
      exact isFileName_of_mem_fileNames (List.mem_of_mem_head? hname)
    · intro hname
      obtain ⟨groups, hfile, rfl⟩ := spellable_of_isFileName args hname
      exact ⟨spell groups, parse_spell hfile⟩
  · intro arguments hnot
    -- Some reading there is; as this is no masking run, something stops it.
    obtain ⟨groups, rest, hreads⟩ := exists_reads arguments [] (by decide)
    obtain rfl | ⟨result, hstops⟩ := hreads.ends
    · refine absurd (parse_eq_mask_iff.mpr ⟨groups, ?_, hreads.oneFile, rfl⟩) (hnot _)
      rw [hreads.split, List.append_nil]
    · refine ⟨groups, rest, result, hreads.split, hreads.oneFile, hstops, ?_⟩
      intro groups' rest' result' hsplit hfile hstops'
      have hreads' : Reads [] arguments groups' rest' := ⟨hsplit, hfile, .inr ⟨result', hstops'⟩⟩
      exact hreads'.unique hreads
  · intro groups rest result hfile hstops
    exact ⟨hstops.parse_eq hfile, hstops.ne_mask⟩

/-- A configuration file can be called like an option, a flag can be given twice or last, and
nothing is read behind a second file name. -/
theorem parse_decided_by_groups_helpFile :
    let named : List Group := [.setting .config "--help", .file "in.json" (by decide)]
    let secondFile : List Text := ["-", "--help"]
    parse (spell named) = .ok (.mask { file := some "in.json", config := some "--help" }) ∧
    parse (spell (.flag .verbose :: named ++ [.flag .verbose]))
      = parse (spell (named ++ [.flag .verbose])) ∧
    parse (spell named.reverse) = parse (spell named) ∧
    (∃ arguments, parse arguments = .ok (.mask { file := some "-", fields := some "" })) ∧
    (∃ groups rest result, spell named ++ secondFile = spell groups ++ rest ∧
      Stops groups rest result) ∧
    parse (spell named ++ secondFile) = .error (.unexpectedArgument "-") := by
  intro named secondFile
  obtain ⟨hmask, hsame, hperm, hevery, hstop, hresult⟩ := parse_decided_by_groups
  have hfile : OneFile named := by decide
  have hstops : Stops named secondFile (.error (.unexpectedArgument "-")) :=
    .second (by decide) (by decide) ["--help"]
  have hsecond := hresult named secondFile _ hfile hstops
  refine ⟨(hmask _ _).mpr ⟨named, rfl, hfile, rfl⟩, ?_, ?_, ?_, ?_, hsecond.1⟩
  · refine hsame _ _ (by decide) (by decide) (fun f => ?_) (fun o => ?_) (by decide)
    · simp [named, or_comm]
    · cases o <;> decide
  · refine hperm _ _ hfile (List.reverse_perm named).symm fun o => ?_
    cases o <;> decide
  · refine (hevery _).mpr fun name hname => ?_
    obtain rfl := Option.some.inj hname
    decide
  · have hnot : ∀ args, parse (spell named ++ secondFile) ≠ .ok (.mask args) := fun args => by
      rw [hsecond.1]
      exact hsecond.2 args
    obtain ⟨groups, rest, result, hsplit, -, hrest, -⟩ := hstop _ hnot
    exact ⟨groups, rest, result, hsplit, hrest⟩

end FieldMask.Cli
