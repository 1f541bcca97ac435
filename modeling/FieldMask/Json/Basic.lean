import FieldMask.Record

/-!
# `FieldMask.Json.Basic`: JSON documents

A `Json` is a JSON value. A number is its spelling, so that it can be written back exactly as it
was read. The members of an object are in the order of a `Record`.

`Json.sameValue` is the test of two values for a repeated member name. It compares a number with
an object as if the number were an object of its spelling, and an array with an object as if the
array were an object of its indices.
-/

set_option autoImplicit false

namespace FieldMask

/-- A JSON value. -/
inductive Json where
  | null
  | bool (value : Bool)
  /-- A number with its spelling. -/
  | number (spelling : Text)
  | string (value : Text)
  | array (items : List Json)
  | object (members : List (Text × Json))
  deriving Repr, Inhabited

namespace Json

mutual

/-- Equality of values is decidable. -/
def decEq : (a b : Json) → Decidable (a = b)
  | .null, b =>
    match b with
    | .null => isTrue rfl
    | .bool _ | .number _ | .string _ | .array _ | .object _ => isFalse nofun
  | .bool a, b =>
    match b with
    | .bool b => decidable_of_iff (a = b) (by simp)
    | .null | .number _ | .string _ | .array _ | .object _ => isFalse nofun
  | .number a, b =>
    match b with
    | .number b => decidable_of_iff (a = b) (by simp)
    | .null | .bool _ | .string _ | .array _ | .object _ => isFalse nofun
  | .string a, b =>
    match b with
    | .string b => decidable_of_iff (a = b) (by simp)
    | .null | .bool _ | .number _ | .array _ | .object _ => isFalse nofun
  | .array as, b =>
    match b with
    | .array bs =>
      match decEqItems as bs with
      | isTrue h => isTrue (h ▸ rfl)
      | isFalse h => isFalse fun e => h (by cases e; rfl)
    | .null | .bool _ | .number _ | .string _ | .object _ => isFalse nofun
  | .object as, b =>
    match b with
    | .object bs =>
      match decEqMembers as bs with
      | isTrue h => isTrue (h ▸ rfl)
      | isFalse h => isFalse fun e => h (by cases e; rfl)
    | .null | .bool _ | .number _ | .string _ | .array _ => isFalse nofun

/-- Equality of items is decidable. -/
def decEqItems : (as bs : List Json) → Decidable (as = bs)
  | [], [] => isTrue rfl
  | [], _ :: _ => isFalse nofun
  | _ :: _, [] => isFalse nofun
  | a :: as, b :: bs =>
    match decEq a b, decEqItems as bs with
    | isTrue h, isTrue hs => isTrue (h ▸ hs ▸ rfl)
    | isFalse h, _ => isFalse fun e => h (by cases e; rfl)
    | _, isFalse hs => isFalse fun e => hs (by cases e; rfl)

/-- Equality of members is decidable. -/
def decEqMembers : (as bs : List (Text × Json)) → Decidable (as = bs)
  | [], [] => isTrue rfl
  | [], _ :: _ => isFalse nofun
  | _ :: _, [] => isFalse nofun
  | (name, a) :: as, (other, b) :: bs =>
    if hn : name = other then
      match decEq a b, decEqMembers as bs with
      | isTrue h, isTrue hs => isTrue (hn ▸ h ▸ hs ▸ rfl)
      | isFalse h, _ => isFalse fun e => h (by cases e; rfl)
      | _, isFalse hs => isFalse fun e => hs (by cases e; rfl)
    else isFalse fun e => hn (by cases e; rfl)

end

instance : DecidableEq Json := decEq

/-- The kinds of JSON values. -/
inductive Kind where
  | null
  | boolean
  | number
  | string
  | array
  | object
  deriving DecidableEq, Repr

/-- The kind of a value. -/
def kind : Json → Kind
  | .null => .null
  | .bool _ => .boolean
  | .number _ => .number
  | .string _ => .string
  | .array _ => .array
  | .object _ => .object

/-- The word for a kind. -/
def Kind.text : Kind → Text
  | .null => "null"
  | .boolean => "boolean"
  | .number => "number"
  | .string => "string"
  | .array => "array"
  | .object => "object"

/-- The value is an object. -/
def isObject (j : Json) : Bool := j.kind == .object

/-- The items of an array as named members, the first one named by the number `start`. -/
def indexed (start : Nat) : List Json → Record Json
  | [] => []
  | j :: rest => (Text.ofNat start, j) :: indexed (start + 1) rest

/-- The members that a value has when it is compared with an object. -/
def entries? : Json → Option (Record Json)
  | .number spelling => some [("value", .string spelling), ("isLosslessNumber", .bool true)]
  | .array items => some (indexed 0 items)
  | .object members => some members
  | _ => none

/-- The value is a string with the given text. -/
def isString (t : Text) : Json → Bool
  | .string u => t == u
  | _ => false

/-- The value is `true`. -/
def isTrue : Json → Bool
  | .bool b => b
  | _ => false

mutual

/-- The two values count as one: equal scalars, arrays of equal items, or values with the same
member names and equal values under each of them. -/
def sameValue : Json → Json → Bool
  | .null, .null => true
  | .bool a, .bool b => a == b
  | .string a, .string b => a == b
  | .number a, b =>
    match b.entries? with
    | some members =>
      members.length == 2 && (members.get? "value").any (isString a) &&
        (members.get? "isLosslessNumber").any isTrue
    | none => false
  | .array items, .array others => sameItems items others
  | .array items, b =>
    match b.entries? with
    | some members => members.length == items.length && sameIndexed 0 items members
    | none => false
  | .object members, b =>
    match b.entries? with
    | some others => others.length == members.length && sameMembers members others
    | none => false
  | _, _ => false

/-- The items are equal, one by one. -/
def sameItems : List Json → List Json → Bool
  | [], [] => true
  | a :: as, b :: bs => sameValue a b && sameItems as bs
  | _, _ => false

/-- The members have the items as the values of the numbers from `start` on. -/
def sameIndexed (start : Nat) : List Json → Record Json → Bool
  | [], _ => true
  | a :: as, members =>
    (match members.get? (Text.ofNat start) with
      | some b => sameValue a b
      | none => false) && sameIndexed (start + 1) as members

/-- Each of the first members has an equal value among the second. -/
def sameMembers : List (Text × Json) → Record Json → Bool
  | [], _ => true
  | (name, a) :: as, members =>
    (match members.get? name with
      | some b => sameValue a b
      | none => false) && sameMembers as members

end

end Json

end FieldMask
