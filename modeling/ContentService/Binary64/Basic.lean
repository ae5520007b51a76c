import ContentService.Power

/-!
# Binary floating point

Floating-point numbers of 64 bits, each given by its bit pattern: a sign bit over a magnitude. Two
orders are defined through integers. The comparison of values (`lt`, `equal`) treats both zeros
alike and answers no for a NaN; the total order (`totalOrder`) places every pattern.
-/

namespace ContentService

/-- A 64-bit floating-point number, by its bit pattern. -/
structure Binary64 where
  bits : Nat
  bits_lt : bits < 2 ^ 64
  deriving DecidableEq, Repr

namespace Binary64

/-- The magnitude of infinity; greater magnitudes are NaNs. -/
def infinityMagnitude : Nat := 2047 * 2 ^ 52

/-- The number with the given sign and magnitude; magnitudes beyond infinity become infinity. -/
def ofMagnitude (negative : Bool) (magnitude : Nat) : Binary64 :=
  let capped := min magnitude infinityMagnitude
  have capped_le : capped ≤ infinityMagnitude := Nat.min_le_right _ _
  have infinity_lt : infinityMagnitude < 2 ^ 63 := by decide
  if negative then ⟨2 ^ 63 + capped, by omega⟩ else ⟨capped, by omega⟩

/-- Zero, without a sign. -/
def zero : Binary64 := ⟨0, by decide⟩

/-- Infinity, of either sign. -/
def infinity (negative : Bool) : Binary64 :=
  ofMagnitude negative infinityMagnitude

/-- The NaN that the word for it reads as, of either sign. -/
def nan (negative : Bool) : Binary64 :=
  if negative then ⟨0xFFF8000000000000, by decide⟩ else ⟨0x7FF8000000000000, by decide⟩

/-- Whether the sign bit is set. -/
def isNegative (x : Binary64) : Bool :=
  2 ^ 63 ≤ x.bits

/-- The bits below the sign. -/
def magnitude (x : Binary64) : Nat :=
  x.bits % 2 ^ 63

/-- Whether the pattern is not a number. -/
def isNaN (x : Binary64) : Bool :=
  infinityMagnitude < x.magnitude

/-- Whether the pattern is a number other than the infinities. -/
def isFinite (x : Binary64) : Bool :=
  x.magnitude < infinityMagnitude

/-- The position of a number among all numbers: equal exactly for equal values. -/
def position (x : Binary64) : Int :=
  if x.isNegative then -x.magnitude else x.magnitude

/-- Equality of values; a NaN equals nothing. -/
def equal (x y : Binary64) : Bool :=
  !x.isNaN && !y.isNaN && x.position == y.position

/-- Order of values; a NaN is below nothing and above nothing. -/
def lt (x y : Binary64) : Bool :=
  !x.isNaN && !y.isNaN && decide (x.position < y.position)

/-- The place of a pattern in the total order: negative NaNs first, then the numbers with the
negative zero before the positive one, then the positive NaNs. -/
def rank (x : Binary64) : Int :=
  if x.isNegative then -x.magnitude - 1 else x.magnitude

/-- The total order of all patterns. -/
def totalOrder (x y : Binary64) : Ordering :=
  compare x.rank y.rank

end Binary64

end ContentService
