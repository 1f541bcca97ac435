import FieldMask.Text.Basic

/-!
# `FieldMask.Pattern.Error`: why a text is no pattern

`PatternError` lists the mistakes of a pattern and `PatternError.message` words them.
-/

set_option autoImplicit false

namespace FieldMask

/-- A mistake in a pattern. -/
inductive PatternError where
  | unterminatedGroup
  | unmatchedBracket
  | nothingToRepeat
  | loneQuantifierBracket
  | incompleteQuantifier
  | quantifierOutOfOrder
  | invalidGroup
  | invalidGroupName
  | duplicateGroupName
  | invalidNamedReference
  | unknownNamedReference
  | invalidPropertyName
  | invalidPropertyNameInClass
  | invalidEscape
  | invalidDecimalEscape
  | invalidUnicodeEscape
  | invalidClassEscape
  | invalidClass
  | unterminatedClass
  | classOutOfOrder
  | invalidSetOperation
  | invalidSetCharacter
  | negatedTexts
  | escapeAtEnd
  | tooManyGroups
  deriving DecidableEq, Repr

/-- The wording of a mistake. -/
def PatternError.message : PatternError → Text
  | .unterminatedGroup => "Unterminated group"
  | .unmatchedBracket => "Unmatched ')'"
  | .nothingToRepeat => "Nothing to repeat"
  | .loneQuantifierBracket => "Lone quantifier brackets"
  | .incompleteQuantifier => "Incomplete quantifier"
  | .quantifierOutOfOrder => "numbers out of order in \x7b\x7d quantifier"
  | .invalidGroup => "Invalid group"
  | .invalidGroupName => "Invalid capture group name"
  | .duplicateGroupName => "Duplicate capture group name"
  | .invalidNamedReference => "Invalid named reference"
  | .unknownNamedReference => "Invalid named capture referenced"
  | .invalidPropertyName => "Invalid property name"
  | .invalidPropertyNameInClass => "Invalid property name in character class"
  | .invalidEscape => "Invalid escape"
  | .invalidDecimalEscape => "Invalid decimal escape"
  | .invalidUnicodeEscape => "Invalid Unicode escape"
  | .invalidClassEscape => "Invalid class escape"
  | .invalidClass => "Invalid character class"
  | .unterminatedClass => "Unterminated character class"
  | .classOutOfOrder => "Range out of order in character class"
  | .invalidSetOperation => "Invalid set operation in character class"
  | .invalidSetCharacter => "Invalid character in character class"
  | .negatedTexts => "Negated character class may contain strings"
  | .escapeAtEnd => "\\ at end of pattern"
  | .tooManyGroups => "Too many captures"

end FieldMask
