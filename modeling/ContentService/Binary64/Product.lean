import ContentService.Binary64.Rounding

/-!
# Products

The product of two finite floating-point numbers, rounded to the nearest floating-point number.
-/

namespace ContentService.Binary64

/-- How many units of 2^-1074 a finite magnitude is. In each binade from the third on the last place
is worth twice as much as in the one before. -/
def unitsOfMagnitude (magnitude : Nat) : Nat :=
  let field := magnitude / 2 ^ 52
  let fraction := magnitude % 2 ^ 52
  if field = 0 then fraction else (2 ^ 52 + fraction) * 2 ^ (field - 1)

/-- The product of two finite numbers; infinity if it is too large. -/
def product (x y : Binary64) : Binary64 :=
  ofQuotient (x.isNegative != y.isNegative)
    (unitsOfMagnitude x.magnitude * unitsOfMagnitude y.magnitude) (2 ^ 1074 * 2 ^ 1074)

end ContentService.Binary64
