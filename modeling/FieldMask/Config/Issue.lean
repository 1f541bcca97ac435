import FieldMask.Json.Basic

/-!
# `FieldMask.Config.Issue`: what is wrong with a configuration

An `Issue` says which rule of the configuration's shape is broken, and at which place.
-/

set_option autoImplicit false

namespace FieldMask.Config

/-- The types that a setting can be required to have. -/
inductive Shape where
  | object
  | boolean
  | string
  | number
  | array
  /-- One of the strategies that can be asked for by name. -/
  | strategy
  deriving DecidableEq, Repr

/-- The wording of a required type. -/
def Shape.text : Shape → Text
  | .object => "object"
  | .boolean => "boolean"
  | .string => "string"
  | .number => "number"
  | .array => "array"
  | .strategy => "'account'"

/-- A broken rule. -/
inductive Problem where
  /-- The value is of another type. -/
  | wrongType (expected : Shape) (received : Json.Kind)
  /-- The value is missing. -/
  | required
  /-- The fields are neither a text nor a list of texts. -/
  | invalidFields
  /-- There is no such strategy to ask for. -/
  | unknownStrategy (name : Text)
  /-- The text is empty. -/
  | emptyText
  /-- The number is not whole. -/
  | notWhole
  /-- The number is below zero. -/
  | negative
  /-- There are settings that mean nothing. -/
  | unknownKeys (keys : List Text)
  deriving DecidableEq, Repr

/-- The text in single quotes. -/
def quoted (t : Text) : Text := ("'" : Text) ++ t ++ ("'" : Text)

/-- The wording of a broken rule. -/
def Problem.message : Problem → Text
  | .wrongType expected received =>
    ("Expected " : Text) ++ expected.text ++ (", received " : Text) ++ received.text
  | .required => "Required"
  | .invalidFields => "Invalid input"
  | .unknownStrategy name =>
    ("Invalid enum value. Expected " : Text) ++ Shape.strategy.text ++ (", received " : Text) ++
      quoted name
  | .emptyText => "String must contain at least 1 character(s)"
  | .notWhole => "Expected integer, received float"
  | .negative => "Number must be greater than or equal to 0"
  | .unknownKeys keys =>
    ("Unrecognized key(s) in object: " : Text) ++ Text.join ", " (keys.map quoted)

/-- A broken rule and the names and numbers that lead to its place. -/
structure Issue where
  path : List Text
  problem : Problem
  deriving DecidableEq, Repr

namespace Issue

/-- The issue seen from one level further out. -/
def inside (step : Text) (i : Issue) : Issue := { i with path := step :: i.path }

/-- The wording of an issue: the rule, and the place unless that is the whole configuration. -/
def message (i : Issue) : Text :=
  i.problem.message ++
    if i.path.isEmpty then []
    else (" at \"" : Text) ++ Text.join "." i.path ++ ("\"" : Text)

end Issue

end FieldMask.Config
