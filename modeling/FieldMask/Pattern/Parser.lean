import FieldMask.Pattern.GroupName
import FieldMask.Pattern.Letter

/-!
# `FieldMask.Pattern.Parser`: reading a pattern

`Pattern.parse` reads the syntax tree of a pattern. In Unicode mode every symbol that has no meaning
where it stands is a mistake. Otherwise it stands for itself as far as that is possible: a brace
that starts no repetition, a closing square bracket, an escape of a letter without meaning, and a
number that is no group, which is read in base eight. The grammar of sets differs from the other one
for Unicode in its classes alone. The properties that hold of texts of several characters are not
among those that it knows.

The parser is a recursive descent. Every call stands after at least one more character than the
third call before it, so a number of calls in proportion to the length of the input is enough.
-/

set_option autoImplicit false

namespace FieldMask.Pattern

/-- What the parser needs to know of the pattern as a whole. -/
structure Outline where
  mode : Mode
  groups : GroupTable

namespace Outline

/-- A reference to a named group is one even if it is misspelt. -/
def readsNames (o : Outline) : Bool := o.mode.unicode || o.groups.named

/-- The node for a character in any case. -/
def charNode (o : Outline) (c : Nat) : Node := .char (canonical o.mode.unicode c)

end Outline

/-- Where the parser stands: the input ahead, and how many groups have been opened. -/
structure Cursor where
  input : List Nat
  opened : Nat

/-- A parser: it reads from the cursor or finds a mistake. -/
abbrev Parse := StateT Cursor (Except PatternError)

/-- The next character. -/
def peek : Parse (Option Nat) := return (← get).input.head?

/-- Takes the next `count` characters away. -/
def skip (count : Nat) : Parse Unit := modify fun s => { s with input := s.input.drop count }

/-- Puts another input ahead. -/
def goto (input : List Nat) : Parse Unit := modify fun s => { s with input }

/-- Takes the given symbol away if it comes next. -/
def take? (c : Char) : Parse Bool := do
  if (← peek) = some (code c) then
    skip 1
    return true
  else return false

/-- Reads a decimal number of at least one digit. -/
def readDecimal (input : List Nat) : Option (Nat × List Nat) :=
  let digits := input.takeWhile isDigit
  if digits.isEmpty then none
  else some (digits.foldl (fun n d => n * 10 + (d - 0x30)) 0, input.drop digits.length)

/-- A repetition count. Beyond this bound all counts are equal. -/
def maxCount : Nat := 0x7FFFFFFF

/-- Reads the bounds of a repetition after its opening brace. -/
def readBounds (input : List Nat) : Option (Nat × Option Nat × List Nat) :=
  match readDecimal input with
  | none => none
  | some (least, 0x7D :: rest) => some (min least maxCount, some (min least maxCount), rest)
  | some (least, 0x2C :: 0x7D :: rest) => some (min least maxCount, none, rest)
  | some (least, 0x2C :: rest) =>
    match readDecimal rest with
    | some (most, 0x7D :: rest) => some (min least maxCount, some (min most maxCount), rest)
    | _ => none
  | _ => none

/-- Reads the bounds of a repetition, if one comes next. -/
def bounds? (unicode : Bool) : Parse (Option (Nat × Option Nat)) := do
  match (← get).input with
  | 0x2A :: rest => goto rest; return some (0, none)
  | 0x2B :: rest => goto rest; return some (1, none)
  | 0x3F :: rest => goto rest; return some (0, some 1)
  | 0x7B :: rest =>
    match readBounds rest with
    | some (least, most, rest) =>
      if most.any (· < least) then throw .quantifierOutOfOrder
      goto rest
      return some (least, most)
    | none => if unicode then throw .incompleteQuantifier else return none
  | _ => return none

/-- Reads the repetition that may follow a node, which holds the groups opened since `before`. -/
def quantified (unicode : Bool) (before : Nat) (body : Node) : Parse Node := do
  match ← bounds? unicode with
  | none => return body
  | some (least, most) =>
    let lazily ← take? '?'
    return .repeated least most (!lazily) (before + 1) ((← get).opened - before) body

/-- Reads up to three digits in base eight, the value below 256, given the first. -/
def readOctal (first : Nat) (input : List Nat) : Nat × List Nat :=
  let isOctal (c : Nat) : Bool := 0x30 ≤ c && c ≤ 0x37
  let value := first - 0x30
  match input with
  | c :: rest =>
    if isOctal c then
      let value := value * 8 + (c - 0x30)
      match rest with
      | d :: rest' =>
        if value < 32 && isOctal d then (value * 8 + (d - 0x30), rest') else (value, rest)
      | [] => (value, [])
    else (value, input)
  | [] => (value, [])

/-- The symbols that an escape can always take literally. -/
def isSyntaxCharacter (c : Nat) : Bool := "^$\\.*+?()[]\x7b\x7d|/".toList.any (code · == c)

/-- The character is an ASCII letter. -/
def isLetter (c : Nat) : Bool := (0x41 ≤ c && c ≤ 0x5A) || (0x61 ≤ c && c ≤ 0x7A)

/-- Reads the character that an escape stands for, after the backslash. -/
def escapedCharacter (o : Outline) (inClass : Bool) : Parse Nat := do
  let unicode := o.mode.unicode
  match (← get).input with
  | [] => throw .escapeAtEnd
  | c :: rest =>
    goto rest
    if c = code 'f' then return 0x0C
    else if c = code 'n' then return 0x0A
    else if c = code 'r' then return 0x0D
    else if c = code 't' then return 0x09
    else if c = code 'v' then return 0x0B
    else if c = code 'c' then
      match rest with
      | letter :: after =>
        if isLetter letter ||
            (inClass && !unicode && (isDigit letter || letter == code '_')) then
          goto after
          return letter % 32
        else if unicode then throw .invalidUnicodeEscape
        else
          goto (c :: rest)
          return code '\\'
      | [] =>
        if unicode then throw .invalidUnicodeEscape
        else
          goto (c :: rest)
          return code '\\'
    else if c = code '0' && !(rest.head?.any isDigit) then return 0
    else if isDigit c then
      if unicode then
        throw (if inClass then .invalidClassEscape else .invalidDecimalEscape)
      else if c ≤ code '7' then
        let (value, after) := readOctal c rest
        goto after
        return value
      else return c
    else if c = code 'x' then
      match readHex 2 0 rest with
      | some (value, after) =>
        goto after
        return value
      | none => if unicode then throw .invalidEscape else return c
    else if c = code 'u' then
      match readUnicodeEscape unicode rest with
      | some (value, after) =>
        goto after
        return value
      | none => if unicode then throw .invalidUnicodeEscape else return c
    else if unicode then
      if isSyntaxCharacter c || (inClass && c == code '-') then return c
      else throw .invalidEscape
    else if c = code 'k' && o.groups.named then throw .invalidEscape
    else return c

/-- The characters of a property name or value. -/
def isPropertyCharacter (c : Nat) : Bool := isLetter c || isDigit c || c == code '_'

/-- Reads a property in braces. -/
def readProperty (input : List Nat) : Option (Unicode.RangeGroup × List Nat) :=
  let toName (cs : List Nat) : String := String.ofList (cs.map Char.ofNat)
  match input with
  | 0x7B :: rest =>
    let name := rest.takeWhile isPropertyCharacter
    match rest.drop name.length with
    | 0x7D :: after => (Unicode.property? (toName name) none).map (·, after)
    | 0x3D :: rest =>
      let value := rest.takeWhile isPropertyCharacter
      match rest.drop value.length with
      | 0x7D :: after => (Unicode.property? (toName name) (some (toName value))).map (·, after)
      | _ => none
    | _ => none
  | _ => none

/-- The set of an item or of what it leaves out. In the grammar of sets no case variant of a
character of the item is left out. -/
def itemSet (grammar : Grammar) (negated : Bool) (item : ClassItem) : ClassSet :=
  if negated && grammar == .sets then .complement (.item false item) else .item negated item

/-- Reads an escape that stands for a set of characters, after the backslash. -/
def escapedSet? (grammar : Grammar) (inClass : Bool) : Parse (Option ClassSet) := do
  match (← get).input with
  | [] => return none
  | c :: rest =>
    let set? : Option ClassSet :=
      if c = code 'd' then some (itemSet grammar false .digit)
      else if c = code 'D' then some (itemSet grammar true .digit)
      else if c = code 's' then some (itemSet grammar false .space)
      else if c = code 'S' then some (itemSet grammar true .space)
      else if c = code 'w' then some (itemSet grammar false .word)
      else if c = code 'W' then some (itemSet grammar true .word)
      else none
    match set? with
    | some s =>
      goto rest
      return some s
    | none =>
      if grammar != .units && (c == code 'p' || c == code 'P') then
        match readProperty rest with
        | some (group, after) =>
          goto after
          return some (itemSet grammar (c == code 'P') (.property group))
        | none => throw (if inClass then .invalidPropertyNameInClass else .invalidPropertyName)
      else return none

/-- One part of a class: a character, which can begin or end a range, or a set. -/
abbrev ClassAtom := Nat ⊕ ClassSet

/-- The set of the characters from `first` to `last`. -/
def rangeSet (first last : Nat) : ClassSet := .item false (.range first last)

/-- The set of a part of a class that is in no range. -/
def atomSet : ClassAtom → ClassSet
  | .inl c => rangeSet c c
  | .inr s => s

/-- Reads one part of a class before ranges are formed. -/
def classAtom (o : Outline) : Parse ClassAtom := do
  match (← get).input with
  | [] => throw .unterminatedClass
  | c :: rest =>
    goto rest
    if c ≠ code '\\' then return .inl c
    else
      match ← escapedSet? o.mode.grammar true with
      | some s => return .inr s
      | none =>
        if ← take? 'b' then return .inl 0x08
        else return .inl (← escapedCharacter o true)

/-- Reads the parts of a class up to its closing bracket. -/
def classParts (o : Outline) : Nat → Parse ClassSet
  | 0 => throw .unterminatedClass
  | fuel + 1 => do
    match (← get).input with
    | [] => throw .unterminatedClass
    | 0x5D :: rest =>
      goto rest
      return .empty
    | _ =>
      let first ← classAtom o
      match (← get).input with
      | 0x2D :: 0x5D :: rest =>
        goto rest
        return .union (atomSet first) (rangeSet 0x2D 0x2D)
      | 0x2D :: rest =>
        goto rest
        let last ← classAtom o
        match first, last with
        | .inl a, .inl b =>
          if b < a then throw .classOutOfOrder
          return .union (rangeSet a b) (← classParts o fuel)
        | _, _ =>
          if o.mode.unicode then throw .invalidClass
          return .union (.union (atomSet first) (rangeSet 0x2D 0x2D))
            (.union (atomSet last) (← classParts o fuel))
      | _ => return .union (atomSet first) (← classParts o fuel)

/-- The symbols that have to be escaped in a class of the grammar of sets. -/
def isSetSyntax (c : Nat) : Bool := "()[]\x7b\x7d/-\\|".toList.any (code · == c)

/-- The symbols that mean nothing yet where they stand twice in such a class. -/
def isSetDouble (c : Nat) : Bool := "&!#$%*+,.:;<=>?@^`~".toList.any (code · == c)

/-- The symbols that an escape can take literally in such a class, besides those that it always
can. -/
def isSetPunctuator (c : Nat) : Bool := "&-!#%,:;<=>@`~".toList.any (code · == c)

/-- Reads a single character of such a class. -/
def setCharacter (o : Outline) : Parse Nat := do
  match (← get).input with
  | [] => throw .unterminatedClass
  | c :: rest =>
    if c = code '\\' then
      goto rest
      if ← take? 'b' then return 0x08
      else
        match rest with
        | d :: after =>
          if isSetPunctuator d then
            goto after
            return d
          else escapedCharacter o true
        | [] => escapedCharacter o true
    else if isSetSyntax c then throw .invalidSetCharacter
    else if isSetDouble c && rest.head? == some c then throw .invalidSetOperation
    else
      goto rest
      return c

/-- The set of one text: a text of one character is that character. -/
def textSet (o : Outline) : List Nat → ClassSet
  | [c] => rangeSet c c
  | cs => .text (cs.map (canonical o.mode.unicode))

/-- Reads texts between bars up to the closing brace, where `before` is what is read of the first
one. -/
def setTexts (o : Outline) : Nat → List Nat → Parse ClassSet
  | 0, _ => throw .unterminatedClass
  | fuel + 1, before => do
    match (← get).input with
    | 0x7D :: rest =>
      goto rest
      return textSet o before
    | 0x7C :: rest =>
      goto rest
      return .union (textSet o before) (← setTexts o fuel [])
    | _ => setTexts o fuel (before ++ [← setCharacter o])

/-- The operations on sets that are written as a doubled symbol between them. -/
inductive Joint where
  | intersection
  | difference
  deriving DecidableEq, Repr

/-- The symbol of an operation. -/
def Joint.symbol : Joint → Nat
  | .intersection => code '&'
  | .difference => code '-'

/-- Two sets by an operation. -/
def Joint.join : Joint → ClassSet → ClassSet → ClassSet
  | .intersection => .intersection
  | .difference => .difference

mutual

/-- Reads a class of the grammar of sets after its opening bracket. -/
def setClass (o : Outline) : Nat → Parse ClassSet
  | 0 => throw .unterminatedClass
  | fuel + 1 => do
    let negated ← take? '^'
    let s ← setContents o fuel
    if !negated then return s
    else if s.mayHoldTexts then throw .negatedTexts
    else return .complement s

/-- Reads what such a class holds up to its closing bracket. The first part decides: it is joined to
the others by one operation throughout. -/
def setContents (o : Outline) : Nat → Parse ClassSet
  | 0 => throw .unterminatedClass
  | fuel + 1 => do
    if ← take? ']' then return .empty
    let first ← setPart o fuel
    match (← get).input with
    | 0x26 :: 0x26 :: _ => setJoined o fuel .intersection (atomSet first)
    | 0x2D :: 0x2D :: _ => setJoined o fuel .difference (atomSet first)
    | _ => setUnion o fuel first

/-- Reads one part of such a class. -/
def setPart (o : Outline) : Nat → Parse ClassAtom
  | 0 => throw .unterminatedClass
  | fuel + 1 => do
    match (← get).input with
    | 0x5B :: rest =>
      goto rest
      return .inr (← setClass o fuel)
    | 0x5C :: 0x71 :: rest =>
      match rest with
      | 0x7B :: rest =>
        goto rest
        return .inr (← setTexts o (rest.length + 1) [])
      | _ => throw .invalidEscape
    | 0x5C :: rest =>
      goto rest
      match ← escapedSet? o.mode.grammar true with
      | some s => return .inr s
      | none =>
        goto (0x5C :: rest)
        return .inl (← setCharacter o)
    | _ => return .inl (← setCharacter o)

/-- Reads the parts of a union after the first one, which may begin a range. -/
def setUnion (o : Outline) : Nat → ClassAtom → Parse ClassSet
  | 0, _ => throw .unterminatedClass
  | fuel + 1, first => do
    match (← get).input with
    | [] => throw .unterminatedClass
    | 0x5D :: rest =>
      goto rest
      return atomSet first
    | 0x2D :: 0x2D :: _ => throw .invalidSetOperation
    | 0x2D :: rest =>
      match first with
      | .inr _ => throw .invalidClass
      | .inl a =>
        goto rest
        match ← setPart o fuel with
        | .inr _ => throw .invalidClass
        | .inl b =>
          if b < a then throw .classOutOfOrder
          setUnion o fuel (.inr (rangeSet a b))
    | _ =>
      let next ← setPart o fuel
      return .union (atomSet first) (← setUnion o fuel next)

/-- Reads the other operands of an operation, given the set of those before them. -/
def setJoined (o : Outline) : Nat → Joint → ClassSet → Parse ClassSet
  | 0, _, _ => throw .unterminatedClass
  | fuel + 1, joint, before => do
    match (← get).input with
    | [] => throw .unterminatedClass
    | 0x5D :: rest =>
      goto rest
      return before
    | c :: rest =>
      if c ≠ joint.symbol ∨ rest.head? ≠ some joint.symbol then throw .invalidSetOperation
      let after := rest.drop 1
      if joint = .intersection ∧ after.head? = some joint.symbol then throw .invalidSetCharacter
      goto after
      let next ← setPart o fuel
      setJoined o fuel joint (joint.join before (atomSet next))

end

/-- Reads a class after its opening bracket. -/
def classNode (o : Outline) : Parse Node := do
  let length := (← get).input.length
  if o.mode.grammar = .sets then return (← setClass o (4 * length + 8)).node
  else
    let negated ← take? '^'
    let s ← classParts o (length + 1)
    return .set (if negated then .complement s else s)

/-- Reads the group that a named reference means, after the `k`. -/
def namedReference (o : Outline) : Parse Node := do
  match (← get).input with
  | 0x3C :: rest =>
    match readGroupName rest with
    | none => throw .invalidNamedReference
    | some (name, rest) =>
      match o.groups.names.lookup name with
      | none => throw .unknownNamedReference
      | some index =>
        goto rest
        return .back index
  | _ => throw .invalidNamedReference

/-- Reads an escape that can be repeated, after the backslash. -/
def escapedNode (o : Outline) : Parse Node := do
  match ← escapedSet? o.mode.grammar false with
  | some s => return .set s
  | none =>
    let input := (← get).input
    if o.readsNames && input.head? == some (code 'k') then
      skip 1
      namedReference o
    else
      match readDecimal input with
      | some (index, rest) =>
        if input.head? ≠ some (code '0') ∧ index ≤ o.groups.count then
          goto rest
          return .back index
        else return o.charNode (← escapedCharacter o false)
      | none => return o.charNode (← escapedCharacter o false)

/-- How a bracket opens. -/
inductive Opening where
  | numbered
  | plain
  | look (ahead negated : Bool)

/-- Reads what follows an opening bracket up to the start of its content. -/
def opening (o : Outline) : Parse Opening := do
  match (← get).input with
  | 0x3F :: rest =>
    match rest with
    | 0x3A :: rest => goto rest; return .plain
    | 0x3D :: rest => goto rest; return .look true false
    | 0x21 :: rest => goto rest; return .look true true
    | 0x3C :: 0x3D :: rest => goto rest; return .look false false
    | 0x3C :: 0x21 :: rest => goto rest; return .look false true
    | 0x3C :: rest =>
      match readGroupName rest with
      | none => throw .invalidGroupName
      | some (name, rest) =>
        let index := (← get).opened + 1
        if o.groups.names.lookup name ≠ some index then throw .duplicateGroupName
        goto rest
        return .numbered
    | _ => throw .invalidGroup
  | _ => return .numbered

mutual

/-- Reads alternatives up to a closing bracket or the end. -/
def alternatives (o : Outline) : Nat → Parse Node
  | 0 => throw .unterminatedGroup
  | fuel + 1 => do
    let first ← sequence o fuel .empty
    if ← take? '|' then return .alt first (← alternatives o fuel)
    else return first

/-- Reads nodes in sequence, after those read so far, up to a bar, a closing bracket or the
end. -/
def sequence (o : Outline) : Nat → Node → Parse Node
  | 0, _ => throw .unterminatedGroup
  | fuel + 1, before => do
    match ← peek with
    | none => return before
    | some c =>
      if c = code '|' ∨ c = code ')' then return before
      else
        let next ← term o fuel
        sequence o fuel (if before = .empty then next else .seq before next)

/-- Reads one node with its repetition. -/
def term (o : Outline) : Nat → Parse Node
  | 0 => throw .unterminatedGroup
  | fuel + 1 => do
    let unicode := o.mode.unicode
    let opened := (← get).opened
    match (← get).input with
    | [] => return .empty
    | c :: rest =>
      goto rest
      if c = code '^' then return .start
      else if c = code '$' then return .finish
      else if c = code '(' then
        let kind ← opening o
        match kind with
        | .numbered =>
          if 65535 ≤ opened then throw .tooManyGroups
          modify fun s => { s with opened := opened + 1 }
        | _ => pure ()
        let body ← alternatives o fuel
        if !(← take? ')') then throw .unterminatedGroup
        match kind with
        | .numbered => quantified unicode opened (.group (opened + 1) body)
        | .plain => quantified unicode opened body
        | .look ahead negated =>
          let node := Node.look ahead negated body
          if ahead && !unicode then quantified unicode opened node else return node
      else if c = code '.' then quantified unicode opened .any
      else if c = code '[' then
        let node ← classNode o
        quantified unicode opened node
      else if c = code '\\' then
        if ← take? 'b' then return .border false
        else if ← take? 'B' then return .border true
        else
          let node ← escapedNode o
          quantified unicode opened node
      else if c = code '*' ∨ c = code '+' ∨ c = code '?' then throw .nothingToRepeat
      else if c = 0x7B then
        if unicode || (readBounds rest).isSome then throw .nothingToRepeat
        else quantified unicode opened (o.charNode c)
      else if unicode && (c == 0x7D || c == code ']') then throw .loneQuantifierBracket
      else quantified unicode opened (o.charNode c)

end

/-- Reads a whole pattern. -/
def parseRoot (o : Outline) (input : List Nat) : Except PatternError (Node × Cursor) :=
  (alternatives o (4 * input.length + 8)).run ⟨input, 0⟩

/-- The characters of a text in a mode: code points or single units. -/
def characters (mode : Mode) (t : Text) : List Nat :=
  if mode.unicode then t.points else t.map UInt16.toNat

/-- The pattern that a text spells in a mode. -/
def parse (mode : Mode) (source : Text) : Except PatternError Pattern :=
  let input := characters mode source
  let groups := GroupTable.ofPattern input
  match parseRoot ⟨mode, groups⟩ input with
  | .error e => .error e
  | .ok (root, rest) =>
    if rest.input.isEmpty then .ok ⟨mode, groups.count, root⟩ else .error .unmatchedBracket

end FieldMask.Pattern
