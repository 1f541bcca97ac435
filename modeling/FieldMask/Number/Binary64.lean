import FieldMask.Text.Basic

/-!
# `FieldMask.Number.Binary64`: double-precision numbers

A number of a configuration is a binary floating-point number of 64 bits. `Binary64` holds its
value exactly: a sign, a significand and a power of two. `ofDecimal` rounds a decimal to the
nearest such number, a tie to the even significand, in exact arithmetic on naturals. `ofText`
reads the spelling that a JSON number has. `toNat?` gives the value when it is a natural number.
-/

set_option autoImplicit false

namespace FieldMask

/-- A double-precision number. -/
inductive Binary64 where
  /-- The value `± significand * 2 ^ exponent`. -/
  | finite (negative : Bool) (significand : Nat) (exponent : Int)
  /-- A number beyond the largest finite one. -/
  | infinite (negative : Bool)
  deriving DecidableEq, Repr

namespace Binary64

/-- The number of bits of a significand. -/
def precision : Nat := 53

/-- The least exponent of two. -/
def minExponent : Int := -1074

/-- The largest exponent of two. -/
def maxExponent : Int := 971

/-- The quotient of two naturals, rounded to the nearest natural, a half to the even one. -/
def roundDiv (num den : Nat) : Nat :=
  let quotient := num / den
  let twice := 2 * (num % den)
  if twice < den || (twice == den && quotient % 2 == 0) then quotient else quotient + 1

/-- The exponent at which the quotient of two positive naturals has a significand of full
precision, or the least exponent if that is larger. -/
def exponentOf (num den : Nat) : Int :=
  let estimate : Int := (num.log2 : Int) - den.log2 - precision
  let scaled := num * Nat.pow 2 (-estimate).toNat / (den * Nat.pow 2 estimate.toNat)
  max minExponent (if scaled < Nat.pow 2 precision then estimate else estimate + 1)

/-- The double-precision number nearest to a quotient of naturals. -/
def ofQuotient (negative : Bool) (num den : Nat) : Binary64 :=
  if num = 0 then .finite negative 0 0
  else
    let exponent := exponentOf num den
    let significand := roundDiv (num * Nat.pow 2 (-exponent).toNat) (den * Nat.pow 2 exponent.toNat)
    let carried := significand == Nat.pow 2 precision
    let significand := if carried then significand / 2 else significand
    let exponent := if carried then exponent + 1 else exponent
    if maxExponent < exponent then .infinite negative else .finite negative significand exponent

/-- The double-precision number nearest to `± digits * 10 ^ exponent`. A decimal too large or too
small for any rounding is settled by the count of its digits. -/
def ofDecimal (negative : Bool) (digits : Nat) (exponent : Int) : Binary64 :=
  let size : Int := (toString digits).length + exponent
  if digits = 0 || size < -400 then .finite negative 0 0
  else if 400 < size then .infinite negative
  else ofQuotient negative (digits * Nat.pow 10 exponent.toNat) (Nat.pow 10 (-exponent).toNat)

/-- The value, when it is a natural number. Zero with a minus sign is zero. -/
def toNat? : Binary64 → Option Nat
  | .infinite _ => none
  | .finite negative significand exponent =>
    if negative && significand != 0 then none
    else if 0 ≤ exponent then some (significand * Nat.pow 2 exponent.toNat)
    else if significand % Nat.pow 2 (-exponent).toNat = 0 then
      some (significand / Nat.pow 2 (-exponent).toNat)
    else none

/-- The value is a whole number, of either sign. -/
def isWhole : Binary64 → Bool
  | .infinite _ => false
  | .finite _ significand exponent =>
    0 ≤ exponent || significand % Nat.pow 2 (-exponent).toNat == 0

/-- The value is below zero. -/
def isNegative : Binary64 → Bool
  | .infinite negative => negative
  | .finite negative significand _ => negative && significand != 0

/-- The value of a unit as a decimal digit. -/
def digit? (u : CodeUnit) : Option Nat :=
  if 0x30 ≤ u && u ≤ 0x39 then some (u.toNat - 0x30) else none

/-- Reads decimal digits onto `value`: the value, how many there were, and what follows. -/
def readDigits (value count : Nat) : Text → Nat × Nat × Text
  | [] => (value, count, [])
  | u :: rest =>
    match digit? u with
    | some d => readDigits (value * 10 + d) (count + 1) rest
    | none => (value, count, u :: rest)

/-- Reads the exponent of ten at the end of a number: a sign and digits. -/
def readExponent : Text → Int
  | [] => 0
  | _ :: rest =>
    match rest with
    | [] => 0
    | u :: digits =>
      if u = Text.unit '-' then -((readDigits 0 0 digits).1 : Int)
      else if u = Text.unit '+' then (readDigits 0 0 digits).1
      else (readDigits 0 0 rest).1

/-- The number that a JSON spelling stands for. -/
def ofText (spelling : Text) : Binary64 :=
  let negative := spelling.head? == some (Text.unit '-')
  let unsigned := if negative then spelling.drop 1 else spelling
  let (whole, _, rest) := readDigits 0 0 unsigned
  let (digits, places, rest) :=
    if rest.head? == some (Text.unit '.') then readDigits whole 0 (rest.drop 1)
    else (whole, 0, rest)
  ofDecimal negative digits (readExponent rest - places)

end Binary64

end FieldMask
