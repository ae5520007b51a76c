import ContentService.Binary64.Product
import ContentService.Binary64.Reader

/-!
# The magnitude of numbers

Whether a number in a document is too large for floating point. The question is settled by quick
arithmetic and not by the nearest floating-point number: of the digits only those count that fit
into 64 bits, and they and the power of ten are rounded before they are multiplied.
-/

namespace ContentService.Json

open Text

/-- Digits and a power of ten, as quick arithmetic keeps a number without its sign. -/
structure Magnitude where
  significand : Nat
  exponent : Int
  deriving DecidableEq, Repr

namespace Magnitude

/-- What significands stay below. -/
def significandBound : Nat := 2 ^ 64

/-- Takes up the digits before the point. From the first one that takes the significand to its bound
on, they only raise the exponent. -/
def takeWhole (significand : Nat) : List Char → Magnitude
  | [] => ⟨significand, 0⟩
  | c :: rest =>
    if 10 * significand + digitValue c < significandBound then
      takeWhole (10 * significand + digitValue c) rest
    else ⟨significand, rest.length + 1⟩

/-- Takes up the digits behind the point. From the first one that takes the significand to its bound
on, they do not count. -/
def takeFraction (number : Magnitude) : List Char → Magnitude
  | [] => number
  | c :: rest =>
    if 10 * number.significand + digitValue c < significandBound then
      takeFraction ⟨10 * number.significand + digitValue c, number.exponent - 1⟩ rest
    else number

/-- The magnitude of a number as it is spelled. -/
def ofSpelling (spelling : List Char) : Magnitude :=
  let digits := spelling.dropWhile (· = '-')
  let (fraction, rest) :=
    match digits.dropWhile isDigit with
    | '.' :: tail => (tail.takeWhile isDigit, tail.dropWhile isDigit)
    | rest => ([], rest)
  let number := (takeWhole 0 (digits.takeWhile isDigit)).takeFraction fraction
  { number with exponent := number.exponent + (Binary64.readExponent? rest).getD 0 }

/-- The greatest exponent for which the power of ten is a floating-point number. -/
def maxExponent : Int := 308

/-- Whether a number lies beyond floating point. -/
def isTooLarge (number : Magnitude) : Bool :=
  if number.exponent < 0 then false
  else if maxExponent < number.exponent then number.significand ≠ 0
  else
    let digits := Binary64.ofQuotient false number.significand 1
    let power := Binary64.ofQuotient false (10 ^ number.exponent.natAbs) 1
    !(digits.product power).isFinite

end Magnitude

end ContentService.Json
