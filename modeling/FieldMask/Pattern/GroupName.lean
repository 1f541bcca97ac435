import FieldMask.Pattern.Error
import FieldMask.Text.Point
import FieldMask.Unicode.Property

/-!
# `FieldMask.Pattern.GroupName`: the groups of a pattern and their names

A pattern can refer to a group that comes later, so its groups are counted before it is parsed.
`groupStarts` walks over a pattern, past escapes and character classes, and lists what follows the
opening bracket of each numbered group that has a name. `readGroupName` reads a name up to its
closing bracket.
-/

set_option autoImplicit false

namespace FieldMask.Pattern

/-- The character of an ASCII symbol. -/
abbrev code (c : Char) : Nat := c.toNat

/-- The value of a hexadecimal digit. -/
def hexDigit? (c : Nat) : Option Nat :=
  if 0x30 ≤ c ∧ c ≤ 0x39 then some (c - 0x30)
  else if 0x41 ≤ c ∧ c ≤ 0x46 then some (c - 0x41 + 10)
  else if 0x61 ≤ c ∧ c ≤ 0x66 then some (c - 0x61 + 10)
  else none

/-- Reads exactly `count` hexadecimal digits onto `value`. -/
def readHex : Nat → Nat → List Nat → Option (Nat × List Nat)
  | 0, value, rest => some (value, rest)
  | count + 1, value, c :: rest =>
    match hexDigit? c with
    | some d => readHex count (value * 16 + d) rest
    | none => none
  | _ + 1, _, [] => none

/-- Reads hexadecimal digits onto `value` up to a closing brace. There is at least one digit, and
the value is a code point. -/
def readBracedHex (value count : Nat) : List Nat → Option (Nat × List Nat)
  | [] => none
  | c :: rest =>
    if c = 0x7D then if 0 < count then some (value, rest) else none
    else
      match hexDigit? c with
      | some d =>
        if value * 16 + d ≤ 0x10FFFF then readBracedHex (value * 16 + d) (count + 1) rest else none
      | none => none

/-- The first half of a surrogate pair. -/
def isHighPoint (c : Nat) : Bool := 0xD800 ≤ c && c ≤ 0xDBFF

/-- The second half of a surrogate pair. -/
def isLowPoint (c : Nat) : Bool := 0xDC00 ≤ c && c ≤ 0xDFFF

/-- The code point of a surrogate pair. -/
def joinPair (high low : Nat) : Nat := 0x10000 + (high - 0xD800) * 0x400 + (low - 0xDC00)

/-- Reads what follows the `u` of a Unicode escape. When `unicode` holds, braces may enclose the
digits, and two escapes that form a surrogate pair are one character. -/
def readUnicodeEscape (unicode : Bool) (input : List Nat) : Option (Nat × List Nat) :=
  match unicode, input with
  | true, 0x7B :: rest => readBracedHex 0 0 rest
  | _, _ =>
    match readHex 4 0 input with
    | none => none
    | some (high, rest) =>
      match unicode && isHighPoint high, rest with
      | true, 0x5C :: 0x75 :: after =>
        match readHex 4 0 after with
        | some (low, after) =>
          if isLowPoint low then some (joinPair high low, after) else some (high, rest)
        | none => some (high, rest)
      | _, _ => some (high, rest)

/-- Reads one character of a name, written as itself, as a surrogate pair or as a Unicode
escape. -/
def readNameCharacter : List Nat → Option (Nat × List Nat)
  | [] => none
  | 0x5C :: 0x75 :: rest => readUnicodeEscape true rest
  | [c] => some (c, [])
  | c :: d :: rest =>
    if c = 0x5C then none
    else if isHighPoint c && isLowPoint d then some (joinPair c d, rest)
    else some (c, d :: rest)

/-- Reads the rest of a name, up to `>`, onto the characters read so far, last one first. -/
def readNameFrom : Nat → List Nat → List Nat → Option (List Nat × List Nat)
  | 0, _, _ => none
  | fuel + 1, name, input =>
    match readNameCharacter input with
    | none => none
    | some (c, rest) =>
      if c = code '>' && input.head? = some (code '>') then
        if name.isEmpty then none else some (name.reverse, rest)
      else if (if name.isEmpty then Unicode.isIdStart c else Unicode.isIdContinue c) then
        readNameFrom fuel (c :: name) rest
      else none

/-- Reads a group name and the `>` after it. Each character takes at least one place of the
input. -/
def readGroupName (input : List Nat) : Option (List Nat × List Nat) :=
  readNameFrom (input.length + 1) [] input

/-- What follows the opening of each numbered group, in order: the input after `(?<` for a group
with a name, nothing for one without. In a character class brackets open no group. -/
def groupStarts (inClass : Bool) : List Nat → List (Option (List Nat))
  | [] => []
  | c :: rest =>
    if c = code '\\' then
      match rest with
      | [] => []
      | _ :: rest => groupStarts inClass rest
    else if inClass then groupStarts (c != code ']') rest
    else if c = code '[' then groupStarts true rest
    else if c = code '(' then
      match rest with
      | 0x3F :: after =>
        match after with
        | 0x3C :: name =>
          if name.head? = some (code '=') || name.head? = some (code '!') then
            groupStarts false rest
          else some name :: groupStarts false rest
        | _ => groupStarts false rest
      | _ => none :: groupStarts false rest
    else groupStarts false rest

/-- The groups that a pattern has and the names of those that have a readable one, by number. -/
structure GroupTable where
  count : Nat
  /-- Some group has a name, readable or not. -/
  named : Bool
  names : List (List Nat × Nat)

/-- The groups of a pattern. -/
def GroupTable.ofPattern (input : List Nat) : GroupTable :=
  let starts := groupStarts false input
  { count := starts.length
    named := starts.any Option.isSome
    names := (starts.mapIdx fun i start =>
      (start.bind readGroupName).map fun (name, _) => (name, i + 1)).filterMap id }

end FieldMask.Pattern
