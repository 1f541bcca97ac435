import FieldMask.Mask
import FieldMask.Number.Shortest
import FieldMask.Pattern.Flags
import FieldMask.Pattern.Matcher
import FieldMask.Text.Case

/-!
# `FieldMask.Strategy`: which fields are masked, and how

A `Strategy` pairs a test of a field name with a mask for the value. A mask can refuse a value.
`Strategy.define` builds a strategy from a `FieldTest`, which is a text to be contained in the
name or a pattern to be found in it, both without regard to case. `FieldTest.ofSource` is the test
with a pattern as it is written, a source with letters. `Strategy.trailingDigits` builds a strategy
that keeps the end of a number, if the count of what it keeps is a natural number.
-/

set_option autoImplicit false

namespace FieldMask

/-- Why a mask gave no result. -/
inductive Refusal where
  /-- An error with a message. -/
  | error (message : Text)
  /-- A bare text. -/
  | value (text : Text)
  deriving DecidableEq, Repr

/-- What is told about a refusal. -/
def Refusal.message : Refusal → Text
  | .error message => message
  | .value text => text

/-- A rule for the values of some fields. -/
structure Strategy where
  name : Text
  /-- The rule applies to the fields with this name. -/
  accepts : Text → Bool
  mask : Text → Except Refusal Text

/-- A test of a field name. -/
inductive FieldTest where
  /-- The name contains the text. -/
  | containing (part : Text)
  /-- The pattern matches somewhere in the name. -/
  | matching (pattern : Pattern)

/-- The test holds of a field name, in any case. -/
def FieldTest.accepts : FieldTest → Text → Bool
  | .containing part, field => part.lower.isInfix field.lower
  | .matching pattern, field => pattern.test field

/-- The letters with which a field test reads its pattern: those that the pattern comes with,
without the two that are about repeated searches, and in any case the one that ignores letter case.
-/
def fieldFlags (flags : Text) : Text :=
  let kept := flags.filter fun u => u != Text.unit 'g' && u != Text.unit 'y'
  if kept.contains (Text.unit 'i') then kept else kept ++ [Text.unit 'i']

/-- The test with the pattern of a source with letters, if they make a pattern. The source is read
again with the letters of a field test. -/
def FieldTest.ofSource (source flags : Text) : Except Pattern.CompileError FieldTest := do
  let _ ← Pattern.compile source flags
  let pattern ← Pattern.compile source (fieldFlags flags)
  return .matching pattern

namespace Strategy

/-- The strategy with a field test and a mask. -/
def define (name : Text) (test : FieldTest) (mask : Text → Except Refusal Text) : Strategy where
  name
  accepts := test.accepts
  mask

/-- The strategy with a field test and a mask that never refuses. -/
def total (name : Text) (test : FieldTest) (mask : Text → Text) : Strategy :=
  define name test fun value => .ok (mask value)

/-- Applies a strategy to a value that may be missing. -/
def maskIfPresent (s : Strategy) : Option Text → Except Refusal (Option Text)
  | none => .ok none
  | some value => (s.mask value).map some

/-- The strategy for names. -/
def forNames : Strategy := total "name" (.containing "name") Mask.name

/-- The strategy for mail addresses. -/
def forEmails : Strategy := total "email" (.containing "email") Mask.email

/-- The strategy for phone numbers. -/
def forPhones : Strategy := total "phone" (.containing "phone") Mask.phone

/-- A count of kept code points that is no natural number. -/
structure InvalidKeep where
  strategy : Text
  keep : Binary64
  deriving DecidableEq, Repr

/-- The wording of an invalid count. -/
def InvalidKeep.message (e : InvalidKeep) : Text :=
  ("Invalid keep count for strategy \"" : Text) ++ e.strategy ++ ("\": " : Text) ++ e.keep.text

/-- How many code points stay readable where nothing else is said. -/
def defaultKeep : Nat := 4

/-- The strategy that hides digits before the last `keep` code points. -/
def digitsKeeping (name : Text) (test : FieldTest) (keep : Nat) : Strategy :=
  total name test (Mask.digits keep)

/-- The strategy that hides digits before the last code points, `keep` of them if that is given. -/
def trailingDigits (name : Text) (test : FieldTest) (keep : Option Binary64) :
    Except InvalidKeep Strategy :=
  match keep with
  | none => .ok (digitsKeeping name test defaultKeep)
  | some keep =>
    match keep.toNat? with
    | some n => .ok (digitsKeeping name test n)
    | none => .error ⟨name, keep⟩

/-- The pattern of the names of account, bank and card numbers: one of three words. -/
def accountPattern : Pattern where
  mode := ⟨.units, false, false⟩
  groups := 0
  root := .alt (.alt (Pattern.wordNode "account") (Pattern.wordNode "iban"))
    (Pattern.wordNode "card")

/-- The strategy for account, bank and card numbers, used only on request. -/
def forAccounts : Strategy := digitsKeeping "account" (.matching accountPattern) 4

/-- The strategies used where no others are given. The first one that accepts a field counts. -/
def defaults : List Strategy := [forNames, forEmails, forPhones]

end Strategy

end FieldMask
