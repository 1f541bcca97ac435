import FieldMask.Json.Basic
import FieldMask.Settings
import FieldMask.Tally

/-!
# `FieldMask.Walk`: masking a JSON tree

The walk visits every member of an object, depth first and in order, and enters the arrays and
objects among the values. A string member whose field is in scope and has a strategy gets the
masked value; everything else stays as it is, the strings of an array included.

The walk stops at the first value that a mask refuses. `Walked` then holds the tree and the counts
as they are at that moment: what was visited before is masked, the rest is as it was.
-/

set_option autoImplicit false

namespace FieldMask

/-- The state of a walk when it ends. -/
structure Walked (α : Type) where
  value : α
  tally : Tally
  /-- The refusal that ended the walk early. -/
  refusal : Option Refusal
  deriving DecidableEq

namespace Walked

variable {α β : Type}

/-- The state with another value. -/
def map (f : α → β) (w : Walked α) : Walked β := ⟨f w.value, w.tally, w.refusal⟩

/-- Goes on with what follows, unless the walk has ended: then what follows stays as it is. -/
def andThen (w : Walked α) (rest : β) (next : Tally → Walked β) : Walked (α × β) :=
  match w.refusal with
  | some r => ⟨(w.value, rest), w.tally, some r⟩
  | none => (next w.tally).map fun b => (w.value, b)

end Walked

namespace Json

/-- Visits the value of a string member. -/
def walkString (s : Settings) (field value : Text) (tally : Tally) : Walked Json :=
  match s.strategyFor? field with
  | none => ⟨.string value, tally, none⟩
  | some strategy =>
    match strategy.mask value with
    | .ok masked => ⟨.string masked, tally.add strategy.name, none⟩
    | .error r => ⟨.string value, tally, some r⟩

mutual

/-- Visits a value that is not the string of a member. -/
def walk (s : Settings) : Json → Tally → Walked Json
  | .array items, tally => (walkItems s items tally).map .array
  | .object members, tally => (walkMembers s members tally).map .object
  | j, tally => ⟨j, tally, none⟩

/-- Visits the items of an array. -/
def walkItems (s : Settings) : List Json → Tally → Walked (List Json)
  | [], tally => ⟨[], tally, none⟩
  | j :: rest, tally =>
    ((walk s j tally).andThen rest fun tally => walkItems s rest tally).map fun (j, rest) =>
      j :: rest

/-- Visits the members of an object. -/
def walkMembers (s : Settings) : List (Text × Json) → Tally → Walked (List (Text × Json))
  | [], tally => ⟨[], tally, none⟩
  | (name, .string value) :: rest, tally =>
    ((walkString s name value tally).andThen rest fun tally => walkMembers s rest tally).map
      fun (j, rest) => (name, j) :: rest
  | (name, j) :: rest, tally =>
    ((walk s j tally).andThen rest fun tally => walkMembers s rest tally).map
      fun (j, rest) => (name, j) :: rest

end

end Json

end FieldMask
