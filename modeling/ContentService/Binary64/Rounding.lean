import ContentService.Binary64.Basic

/-!
# Rounding

The floating-point number nearest to a quotient of natural numbers; of two equally near ones, the
one with the even significand. Magnitudes count units of 2^-1074 in the lowest two binades, and in
every further binade twice as large units, so the magnitude is found without looking at the exponent
field.
-/

namespace ContentService.Binary64

/-- The quotient rounded to the nearest integer, a half to the even neighbour. -/
def divHalfEven (numerator denominator : Nat) : Nat :=
  let quotient := numerator / denominator
  let twice := 2 * (numerator % denominator)
  if twice < denominator then quotient
  else if denominator < twice then quotient + 1
  else quotient + quotient % 2

/-- The magnitude of the number nearest to a quotient; it may lie beyond infinity. -/
def quotientMagnitude (numerator denominator : Nat) : Nat :=
  let units := numerator * 2 ^ 1074
  let binade := Nat.log2 (units / denominator) - 52
  binade * 2 ^ 52 + divHalfEven units (denominator * 2 ^ binade)

/-- The floating-point number nearest to a quotient. -/
def ofQuotient (negative : Bool) (numerator denominator : Nat) : Binary64 :=
  ofMagnitude negative (quotientMagnitude numerator denominator)

/-- The floating-point number nearest to an integer. -/
def ofInt (n : Int) : Binary64 :=
  ofQuotient (n < 0) n.natAbs 1

/-- The floating-point number nearest to `digits` times a power of ten. Exponents so far from zero
that the result is zero or infinity are not computed with: `digits` has at most `places` digits. -/
def ofScaled (negative : Bool) (digits places : Nat) (exponent : Int) : Binary64 :=
  if digits = 0 ∨ exponent + places < -330 then ofMagnitude negative 0
  else if 310 < exponent then infinity negative
  else if exponent < 0 then ofQuotient negative digits (10 ^ exponent.natAbs)
  else ofQuotient negative (digits * 10 ^ exponent.natAbs) 1

end ContentService.Binary64
