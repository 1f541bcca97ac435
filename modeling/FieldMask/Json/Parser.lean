import FieldMask.Json.Basic
import FieldMask.Json.ParseError

/-!
# `FieldMask.Json.Parser`: reading JSON

`Json.parse` reads a JSON text. It differs from a plain reader in what it does with a member name
that an object already has, which `Repeats` decides: the new value replaces the old one in its
place, either always or only if the two count as one.

The parser is a recursive descent over the units ahead. `readValue` finds nothing rather than a
mistake where no value starts, and its callers say what they expected. Two calls in a row take at
least one unit, so twice the length of the text bounds the depth.
-/

set_option autoImplicit false

namespace FieldMask.Json

/-- What an object does with a member name that comes again. -/
inductive Repeats where
  /-- The values have to count as one. -/
  | same
  /-- The last value counts. -/
  | last
  deriving DecidableEq, Repr

/-- Where the parser stands: the number of units behind it, and the units ahead. -/
structure Cursor where
  position : Nat
  ahead : Text
  deriving DecidableEq, Repr

namespace Cursor

/-- The unit at the cursor. -/
def found (c : Cursor) : Found := ⟨c.ahead.head?, c.position⟩

/-- The cursor after the next `count` units. -/
def skip (c : Cursor) (count : Nat) : Cursor := ⟨c.position + count, c.ahead.drop count⟩

/-- The unit separates tokens. -/
def isSpace (u : CodeUnit) : Bool := u == 0x20 || u == 0x0A || u == 0x09 || u == 0x0D

/-- The cursor after the white space ahead. -/
def skipSpace (c : Cursor) : Cursor := c.skip (c.ahead.takeWhile isSpace).length

/-- The units between the cursor and a later one. -/
def upTo (c later : Cursor) : Text := c.ahead.take (later.position - c.position)

end Cursor

/-- A mistake: the expected thing is not at the cursor. -/
def fail {α : Type} (what : Expected) (c : Cursor) : Except ParseError α :=
  .error (.expected what c.found)

/-- The value of a hexadecimal digit. -/
def hexValue? (u : CodeUnit) : Option Nat :=
  if 0x30 ≤ u && u ≤ 0x39 then some (u.toNat - 0x30)
  else if 0x41 ≤ u && u ≤ 0x46 then some (u.toNat - 0x41 + 10)
  else if 0x61 ≤ u && u ≤ 0x66 then some (u.toNat - 0x61 + 10)
  else none

/-- The unit that a letter after a backslash stands for. -/
def escaped? (u : CodeUnit) : Option CodeUnit :=
  if u = 0x22 ∨ u = 0x5C ∨ u = 0x2F then some u
  else if u = Text.unit 'b' then some 0x08
  else if u = Text.unit 'f' then some 0x0C
  else if u = Text.unit 'n' then some 0x0A
  else if u = Text.unit 'r' then some 0x0D
  else if u = Text.unit 't' then some 0x09
  else none

/-- The unit that four hexadecimal digits name. -/
def fourDigits? (a b c d : CodeUnit) : Option CodeUnit :=
  match hexValue? a, hexValue? b, hexValue? c, hexValue? d with
  | some a, some b, some c, some d => some (UInt16.ofNat (((a * 16 + b) * 16 + c) * 16 + d))
  | _, _, _, _ => none

/-- Reads the inside of a string and its closing quote. -/
def readUnits (position : Nat) : Text → Except ParseError (Text × Cursor)
  | [] => .error (.expected .endOfString ⟨none, position⟩)
  | u :: rest =>
    if u = 0x22 then .ok ([], ⟨position + 1, rest⟩)
    else if u = 0x5C then
      match rest with
      | [] => .error (.invalidEscape [u] position)
      | v :: after =>
        match escaped? v with
        | some w => (readUnits (position + 2) after).map fun (t, c) => (w :: t, c)
        | none =>
          if v = 0x75 then
            match after with
            | a :: b :: c :: d :: after =>
              match fourDigits? a b c d with
              | some w => (readUnits (position + 6) after).map fun (t, c) => (w :: t, c)
              | none => .error (.invalidUnicodeEscape [u, v, a, b, c, d] position)
            | _ => .error (.invalidUnicodeEscape (u :: v :: after) position)
          else .error (.invalidEscape [u, v] position)
    else if u < 0x20 then .error (.invalidCharacter u position)
    else (readUnits (position + 1) rest).map fun (t, c) => (u :: t, c)

/-- The unit is a decimal digit. -/
def isDigit (u : CodeUnit) : Bool := 0x30 ≤ u && u ≤ 0x39

/-- The cursor after the digits ahead, of which there has to be one. The number started at
`start`. -/
def readDigits (start c : Cursor) : Except ParseError Cursor :=
  if c.ahead.head?.any isDigit then .ok (c.skip (c.ahead.takeWhile isDigit).length)
  else .error (.digitExpected (start.upTo c) c.found)

/-- The cursor after a unit that satisfies `p`, if there is one. -/
def skipIf (p : CodeUnit → Bool) (c : Cursor) : Cursor :=
  if c.ahead.head?.any p then c.skip 1 else c

/-- The cursor after the fraction ahead, if there is one. -/
def readFraction (start c : Cursor) : Except ParseError Cursor :=
  if c.ahead.head? = some 0x2E then readDigits start (c.skip 1) else .ok c

/-- The cursor after the exponent ahead, if there is one. -/
def readExponent (start c : Cursor) : Except ParseError Cursor :=
  if c.ahead.head?.any fun u => u == Text.unit 'e' || u == Text.unit 'E' then
    readDigits start (skipIf (fun u => u == 0x2B || u == 0x2D) (c.skip 1))
  else .ok c

/-- The cursor after the whole part ahead. A whole part that starts with zero is zero. -/
def skipWhole (c : Cursor) : Cursor :=
  if c.ahead.head? = some 0x30 then c.skip 1 else c.skip (c.ahead.takeWhile isDigit).length

/-- Reads the spelling of a number, which starts at the cursor with a minus sign or a digit. -/
def readNumber (c : Cursor) : Except ParseError (Text × Cursor) := do
  let digits := skipIf (· == 0x2D) c
  if !digits.ahead.head?.any isDigit then throw (.digitExpected (c.upTo digits) digits.found)
  let fraction ← readFraction c (skipWhole digits)
  let finish ← readExponent c fraction
  return (c.upTo finish, finish)

/-- The words that are values. -/
def keywords : List (Text × Json) :=
  [("true", .bool true), ("false", .bool false), ("null", .null)]

/-- Reads a word that is a value, if the units ahead begin with one. -/
def readKeyword (c : Cursor) : Option (Json × Cursor) :=
  (keywords.find? fun entry => entry.1.isPrefixOf c.ahead).map fun entry =>
    (entry.2, c.skip entry.1.length)

/-- Reads a member name, which starts at the cursor, and stops at the colon after it. -/
def readKey (c : Cursor) : Except ParseError (Text × Cursor) :=
  match c.ahead with
  | [] => fail .key c
  | u :: rest =>
    if u = 0x22 then do
      let (name, afterName) ← readUnits (c.position + 1) rest
      let colon := afterName.skipSpace
      if colon.ahead.head? = some 0x3A then return (name, colon) else fail .colon colon
    else fail .key c

/-- Adds a member to those of an object. The name started at `position`. -/
def addMember (repeats : Repeats) (members : Record Json) (name : Text) (value : Json)
    (position : Nat) : Except ParseError (Record Json) :=
  match repeats, members.get? name with
  | .same, some old =>
    if sameValue value old then .ok (members.set name value)
    else .error (.repeatedKey name (position + 1))
  | _, _ => .ok (members.set name value)

mutual

/-- Reads a value, if one starts after the white space ahead, and the white space after it. Finding
none, it gives the cursor after the white space. -/
def readValue (repeats : Repeats) : Nat → Cursor → Except ParseError (Option Json × Cursor)
  | 0, c => .ok (none, c)
  | fuel + 1, c =>
    let c := c.skipSpace
    match c.ahead with
    | [] => .ok (none, c)
    | u :: rest =>
      if u = 0x22 then do
        let (t, c) ← readUnits (c.position + 1) rest
        return (some (.string t), c.skipSpace)
      else if u = 0x2D ∨ isDigit u then do
        let (spelling, c) ← readNumber c
        return (some (.number spelling), c.skipSpace)
      else if u = 0x7B then do
        let (members, c) ← readMembers repeats fuel [] true (c.skip 1).skipSpace
        return (some (.object members), c.skipSpace)
      else if u = 0x5B then do
        let (items, c) ← readItems repeats fuel true (c.skip 1).skipSpace
        return (some (.array items), c.skipSpace)
      else
        match readKeyword c with
        | some (j, c) => .ok (some j, c.skipSpace)
        | none => .ok (none, c)

/-- Reads the members of an object and its closing brace, after those that it has so far. -/
def readMembers (repeats : Repeats) :
    Nat → Record Json → Bool → Cursor → Except ParseError (Record Json × Cursor)
  | 0, _, _, c => fail .keyOrEnd c
  | fuel + 1, members, first, c =>
    match c.ahead with
    | [] => fail .keyOrEnd c
    | u :: _ =>
      if u = 0x7D then .ok (members, c.skip 1)
      else if !first && u != 0x2C then fail .comma c
      else do
        let start := if first then c else (c.skip 1).skipSpace
        let (name, colon) ← readKey start
        let (value, next) ← readValue repeats fuel (colon.skip 1)
        match value with
        | none => .error (.memberValueExpected next.position)
        | some value =>
          let members ← addMember repeats members name value start.position
          readMembers repeats fuel members false next

/-- Reads the items of an array and its closing bracket. -/
def readItems (repeats : Repeats) :
    Nat → Bool → Cursor → Except ParseError (List Json × Cursor)
  | 0, _, c => fail .itemOrEnd c
  | fuel + 1, first, c =>
    match c.ahead with
    | [] => fail .itemOrEnd c
    | u :: _ =>
      if u = 0x5D then .ok ([], c.skip 1)
      else if !first && u != 0x2C then fail .comma c
      else do
        let (value, next) ← readValue repeats fuel (if first then c else c.skip 1)
        match value with
        | none => fail .item next
        | some value =>
          let (items, finish) ← readItems repeats fuel false next
          return (value :: items, finish)

end

/-- The value that a text spells. -/
def parse (repeats : Repeats) (t : Text) : Except ParseError Json := do
  let (value, c) ← readValue repeats (2 * t.length + 2) ⟨0, t⟩
  match value with
  | none => fail .value c
  | some value => if c.ahead.isEmpty then return value else fail .endOfInput c

end FieldMask.Json
