import FieldMask.Unicode.Property

/-!
# `FieldMask.Pattern.Syntax`: the parts of a pattern

A pattern is a regular expression over characters. `Mode` says by which grammar it is read and what
two of the symbols mean; letter case never matters to a pattern of this library, so there is no mode
for it. `Node` is the syntax tree of an expression, `ClassItem` a part of a character class and
`ClassSet` what a class is made of. Groups are numbered from 1 in the order of their opening
brackets.
-/

set_option autoImplicit false

namespace FieldMask.Pattern

open FieldMask.Unicode

/-- The grammars of patterns. -/
inductive Grammar where
  /-- A character is a single UTF-16 unit, and most stray symbols stand for themselves. -/
  | units
  /-- A character is a Unicode code point, and stray symbols are mistakes. -/
  | points
  /-- The same, where a class can hold other classes and texts, and can be what two of them have in
  common or what only the first of them has. -/
  | sets
  deriving DecidableEq, Repr

/-- How a pattern reads its text and its symbols. -/
structure Mode where
  grammar : Grammar
  /-- The start and end of every line count as start and end. -/
  multiline : Bool
  /-- The dot also stands for line terminators. -/
  dotAll : Bool
  deriving DecidableEq, Repr

/-- The characters are Unicode code points. -/
def Mode.unicode (mode : Mode) : Bool := mode.grammar != .units

/-- A part of a character class. -/
inductive ClassItem where
  /-- The characters from `first` to `last`. -/
  | range (first last : Nat)
  /-- The ASCII digits. -/
  | digit
  /-- White space. -/
  | space
  /-- Letters, digits and the underscore. -/
  | word
  /-- The characters with a Unicode property. -/
  | property (group : RangeGroup)
  deriving DecidableEq, Repr

/-- What a character class is made of: characters in any case and, in the grammar of sets, texts of
any other number of characters. -/
inductive ClassSet where
  | empty
  /-- The characters of an item, or those that the item leaves out, each in any case. -/
  | item (negated : Bool) (item : ClassItem)
  /-- A text, by the canonical forms of its characters. -/
  | text (forms : List Nat)
  | union (first second : ClassSet)
  | intersection (first second : ClassSet)
  | difference (first second : ClassSet)
  /-- All characters that are not in the set. -/
  | complement (s : ClassSet)
  deriving DecidableEq, Repr

/-- The syntax tree of a pattern. -/
inductive Node where
  /-- Matches the empty text. -/
  | empty
  /-- One character of a canonical form. -/
  | char (form : Nat)
  /-- The dot. -/
  | any
  /-- One character of a class. -/
  | set (s : ClassSet)
  /-- One node after the other. -/
  | seq (first second : Node)
  /-- The first node or else the second. -/
  | alt (first second : Node)
  /-- A numbered group. -/
  | group (index : Nat) (body : Node)
  /-- A node repeated from `least` up to `most` times, more times first when `greedy`. The groups
  from `firstGroup` on, `groups` of them, stand inside the node. -/
  | repeated (least : Nat) (most : Option Nat) (greedy : Bool) (firstGroup groups : Nat)
    (body : Node)
  /-- The text that a group has matched. -/
  | back (index : Nat)
  /-- The start of the text or, in multiline mode, of a line. -/
  | start
  /-- The end of the text or, in multiline mode, of a line. -/
  | finish
  /-- The border of a word, or any other place. -/
  | border (negated : Bool)
  /-- What follows (`ahead`) or precedes matches the node, or does not. -/
  | look (ahead negated : Bool) (body : Node)
  deriving DecidableEq, Repr

/-- Matches characters of the canonical forms given, one after the other. -/
def Node.text (forms : List Nat) : Node :=
  forms.foldl (fun node form => .seq node (.char form)) .empty

end FieldMask.Pattern

namespace FieldMask

/-- A pattern that field names are tested against. -/
structure Pattern where
  mode : Pattern.Mode
  /-- The number of numbered groups. -/
  groups : Nat
  root : Pattern.Node
  deriving DecidableEq, Repr

end FieldMask
