import FieldMask.Number.Binary64

/-!
# `FieldMask.Number.Shortest`: the decimal text of a double-precision number

`Binary64.text` writes a number with the fewest significant digits that still read back as that
number, and of those decimals the one nearest to it. The point stands inside the digits for
magnitudes from `10 ^ -7` up to `10 ^ 21`; beyond, the text has an exponent.
-/

set_option autoImplicit false

namespace FieldMask.Binary64

/-- The decimals that round to a positive number, as multiples of `2 ^ exponent`: those from `low`
to `high`, both ends included when `closed`. The number itself is `middle`. -/
structure Interval where
  low : Nat
  middle : Nat
  high : Nat
  exponent : Int
  closed : Bool

/-- The decimals that round to `significand * 2 ^ exponent`. Below a power of two the next smaller
number is only half as far away as the next larger one. -/
def interval (significand : Nat) (exponent : Int) : Interval where
  low :=
    if significand = Nat.pow 2 (precision - 1) ∧ minExponent < exponent then 4 * significand - 1
    else 4 * significand - 2
  middle := 4 * significand
  high := 4 * significand + 2
  exponent := exponent - 2
  closed := significand % 2 == 0

/-- Both sides of a comparison of `a * 10 ^ places` with `b * 2 ^ exponent`, as naturals. -/
def crossed (a : Nat) (places : Int) (b : Nat) (exponent : Int) : Nat × Nat :=
  (a * Nat.pow 10 places.toNat * Nat.pow 2 (-exponent).toNat,
    b * Nat.pow 2 exponent.toNat * Nat.pow 10 (-places).toNat)

/-- The decimal `a * 10 ^ places` rounds to the number of the interval. -/
def Interval.contains (i : Interval) (a : Nat) (places : Int) : Bool :=
  let (x, low) := crossed a places i.low i.exponent
  let (y, high) := crossed a places i.high i.exponent
  if i.closed then low ≤ x && y ≤ high else low < x && y < high

/-- The distance from `a * 10 ^ places` to the number of the interval, scaled by a factor that
depends on `places` alone. -/
def Interval.distance (i : Interval) (a : Nat) (places : Int) : Nat :=
  let (x, middle) := crossed a places i.middle i.exponent
  (x - middle) + (middle - x)

/-- The decimal on the grid of `10 ^ places` that rounds to the number of the interval, the nearer
one if there are two. -/
def Interval.onGrid (i : Interval) (places : Int) : Option Nat :=
  let below := (i.middle * Nat.pow 2 i.exponent.toNat * Nat.pow 10 (-places).toNat) /
    (Nat.pow 10 places.toNat * Nat.pow 2 (-i.exponent).toNat)
  let above := below + 1
  match i.contains below places, i.contains above places with
  | false, false => none
  | true, false => some below
  | false, true => some above
  | true, true =>
    let (d, e) := (i.distance below places, i.distance above places)
    if d < e || (d == e && below % 2 == 0) then some below else some above

/-- The first grid, from the given one to finer ones, with a decimal that rounds to the number of
the interval: the decimal's digits and the grid. -/
def Interval.search (i : Interval) : Nat → Int → Nat × Int
  | 0, places => (0, places)
  | finer + 1, places =>
    match i.onGrid places with
    | some digits => (digits, places)
    | none => i.search finer (places - 1)

/-- Removes zeros at the end of a decimal's digits. -/
def dropZeros : Nat → Nat → Int → Nat × Int
  | 0, digits, places => (digits, places)
  | fuel + 1, digits, places =>
    if digits != 0 && digits % 10 == 0 then dropZeros fuel (digits / 10) (places + 1)
    else (digits, places)

/-- The fewest digits that read back as `significand * 2 ^ exponent`, and the power of ten that
they count. The coarsest grid that is tried has at most one point below the number. -/
def shortest (significand : Nat) (exponent : Int) : Nat × Int :=
  let i := interval significand exponent
  let top : Int := ((significand.log2 : Int) + exponent) * 30103 / 100000 + 2
  let (digits, places) := i.search 40 top
  dropZeros 40 digits places

/-- The text of a positive number from its digits and the power of ten that they count. -/
def decimalText (digits : Nat) (places : Int) : Text :=
  let written := Text.ofNat digits
  let size := written.length
  let point : Int := size + places
  if size ≤ point ∧ point ≤ 21 then
    written ++ List.replicate (point.toNat - size) (Text.unit '0')
  else if 0 < point ∧ point ≤ 21 then
    written.take point.toNat ++ ("." : Text) ++ written.drop point.toNat
  else if -6 < point ∧ point ≤ 0 then
    ("0." : Text) ++ List.replicate (-point).toNat (Text.unit '0') ++ written
  else
    let mark : Text := if 0 < point then "e+" else "e-"
    let fraction : Text := if size = 1 then [] else ("." : Text) ++ written.drop 1
    written.take 1 ++ fraction ++ mark ++ Text.ofNat (point - 1).natAbs

/-- The decimal text of a number. -/
def text : Binary64 → Text
  | .infinite negative => if negative then "-Infinity" else "Infinity"
  | .finite negative significand exponent =>
    if significand = 0 then "0"
    else
      let (digits, places) := shortest significand exponent
      (if negative then ("-" : Text) else []) ++ decimalText digits places

end FieldMask.Binary64
