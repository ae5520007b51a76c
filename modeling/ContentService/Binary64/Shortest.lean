import ContentService.Binary64.Basic
import ContentService.Text.Digits

/-!
# Writing decimal numbers

A finite number is written with the fewest digits that read back as the same number, of those the
nearest to it, of two equally near ones the one farther from zero, and always positionally: there is
no exponent in the text.
-/

namespace ContentService.Binary64

open Text

/-- The real numbers that round to a positive finite number, in units of a quarter of its last
place: `low` and `high` are its ends, `middle` the number itself, and the unit is two to the
`exponent`. The ends belong to it if `closed`. -/
structure Interval where
  low : Nat
  middle : Nat
  high : Nat
  exponent : Int
  closed : Bool

/-- The interval around a positive finite magnitude. Below a power of two numbers lie twice as
close as above it. -/
def roundingInterval (magnitude : Nat) : Interval :=
  let field : Nat := magnitude / 2 ^ 52
  let fraction := magnitude % 2 ^ 52
  let significand := if field = 0 then fraction else 2 ^ 52 + fraction
  let lastPlace : Int := (max field 1 : Nat) - 1075
  let below := if fraction = 0 ∧ 1 < field then 1 else 2
  { low := 4 * significand - below
    middle := 4 * significand
    high := 4 * significand + 2
    exponent := lastPlace - 2
    closed := significand % 2 = 0 }

/-- The multiple of a power of ten inside the interval that is nearest to its middle; of two equally
near ones, the greater. -/
def Interval.nearestMultiple? (range : Interval) (power : Int) : Option Nat :=
  let unit := 2 ^ range.exponent.toNat * 10 ^ (-power).toNat
  let step := 2 ^ (-range.exponent).toNat * 10 ^ power.toNat
  let inside (n : Nat) : Bool :=
    if range.closed then range.low * unit ≤ n * step && n * step ≤ range.high * unit
    else range.low * unit < n * step && n * step < range.high * unit
  let below := range.middle * unit / step
  let aboveIsNearer := step ≤ 2 * (range.middle * unit % step)
  match inside below, inside (below + 1) with
  | true, true => some (if aboveIsNearer then below + 1 else below)
  | true, false => some below
  | false, true => some (below + 1)
  | false, false => none

/-- Searches the powers of ten from `power` downwards for the first with a multiple in the interval;
gives the multiple and the power. -/
def Interval.coarsest (range : Interval) (power : Int) : Nat → Nat × Int
  | 0 => (0, 0)
  | tries + 1 =>
    match range.nearestMultiple? power with
    | some n => (n, power)
    | none => range.coarsest (power - 1) tries

/-- The shortest decimal of a positive finite magnitude: digits and a power of ten. -/
def shortestDecimal (magnitude : Nat) : Nat × Int :=
  let range := roundingInterval magnitude
  let log : Int := Nat.log2 range.middle + range.exponent
  range.coarsest (log * 30103 / 100000 + 1) 20

/-- Digits times a power of ten, written positionally. -/
def writePositional (digits : Nat) (power : Int) : List Char :=
  let ds := writeNat digits
  if 0 ≤ power then ds ++ List.replicate power.natAbs '0'
  else
    let places := power.natAbs
    let padded := List.replicate (places + 1 - ds.length) '0' ++ ds
    padded.take (padded.length - places) ++ '.' :: padded.drop (padded.length - places)

/-- The text of a number. -/
def write (x : Binary64) : String :=
  if x.isNaN then "NaN"
  else
    let body :=
      if !x.isFinite then "inf".toList
      else if x.magnitude = 0 then ['0']
      else
        let (digits, power) := shortestDecimal x.magnitude
        writePositional digits power
    String.ofList (if x.isNegative then '-' :: body else body)

end ContentService.Binary64
