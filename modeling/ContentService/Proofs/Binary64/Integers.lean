import ContentService.Binary64.Product
import ContentService.Binary64.Reader
import ContentService.Proofs.Text.Numerals
import Mathlib.Algebra.Order.Group.Nat
import Mathlib.Order.Monotone.Basic

/-! # Integers as floating-point numbers

The floating-point number of an integer has its 53 leading binary digits, rounded to the nearest and
at a half to the even neighbour. So what floating-point numbers tell of integers is what the rounded
integers tell: no integer with 53 significant digits is nearer, and rounding keeps the order, though
not strictly (`ContentService.Binary64.compare_place`).
-/

namespace ContentService.Binary64

open Text

/-! ## Quotients to the nearest integer -/

theorem divHalfEven_bounds (a d : Nat) :
    a / d ≤ divHalfEven a d ∧ divHalfEven a d ≤ a / d + 1 := by
  unfold divHalfEven
  dsimp only
  split
  · omega
  split <;> omega

/-- The multiple that is taken lies at most half of the divisor away from the dividend. -/
theorem divHalfEven_near {d : Nat} (positive : 0 < d) (a : Nat) :
    2 * a ≤ 2 * (divHalfEven a d * d) + d ∧ 2 * (divHalfEven a d * d) ≤ 2 * a + d := by
  have whole : a / d * d + a % d = a := Nat.div_add_mod' a d
  have rest_lt := Nat.mod_lt a positive
  unfold divHalfEven
  dsimp only
  split
  · omega
  split
  · rw [Nat.add_mul, Nat.one_mul]
    omega
  · rw [Nat.add_mul]
    rcases Nat.mod_two_eq_zero_or_one (a / d) with even | odd
    · rw [even, Nat.zero_mul]
      omega
    · rw [odd, Nat.one_mul]
      omega

theorem divHalfEven_of_dvd {a d : Nat} (positive : 0 < d) (divides : d ∣ a) :
    divHalfEven a d = a / d := by
  simp only [divHalfEven, Nat.mod_eq_zero_of_dvd divides, Nat.mul_zero, positive, if_true]

theorem divHalfEven_mul {d : Nat} (positive : 0 < d) (q : Nat) : divHalfEven (q * d) d = q := by
  rw [divHalfEven_of_dvd positive (Nat.dvd_mul_left d q), Nat.mul_div_cancel _ positive]

theorem divHalfEven_mul_right {c : Nat} (positive : 0 < c) (a d : Nat) :
    divHalfEven (a * c) (d * c) = divHalfEven a d := by
  simp only [divHalfEven, Nat.mul_div_mul_right _ _ positive, Nat.mul_mod_mul_right,
    ← Nat.mul_assoc, Nat.mul_lt_mul_right positive]

theorem divHalfEven_mono {a b : Nat} (le : a ≤ b) (d : Nat) :
    divHalfEven a d ≤ divHalfEven b d := by
  have quotients : a / d ≤ b / d := Nat.div_le_div_right le
  rcases Nat.lt_or_eq_of_le quotients with less | same
  · have := divHalfEven_bounds a d
    have := divHalfEven_bounds b d
    omega
  · have first := Nat.div_add_mod' a d
    have second := Nat.div_add_mod' b d
    rw [same] at first
    have rests : a % d ≤ b % d := by omega
    unfold divHalfEven
    dsimp only
    rw [same]
    split <;> split <;> (try split) <;> (try split) <;> omega

/-- No multiple of the divisor is nearer to the dividend. -/
theorem divHalfEven_nearest {d : Nat} (positive : 0 < d) (a j : Nat) :
    (((divHalfEven a d * d : Nat) : Int) - a).natAbs ≤ (((j * d : Nat) : Int) - a).natAbs := by
  obtain ⟨above, below⟩ := divHalfEven_near positive a
  generalize divHalfEven a d = q at above below ⊢
  rcases Nat.lt_trichotomy j q with less | rfl | greater
  · have apart : (j + 1) * d ≤ q * d := Nat.mul_le_mul_right d less
    rw [Nat.add_mul, Nat.one_mul] at apart
    omega
  · exact Nat.le_refl _
  · have apart : (q + 1) * d ≤ j * d := Nat.mul_le_mul_right d greater
    rw [Nat.add_mul, Nat.one_mul] at apart
    omega

/-! ## Significant digits -/

/-- What the last of the 53 leading binary digits counts, or one if there are fewer. -/
def lastPlace (n : Nat) : Nat :=
  2 ^ (Nat.log2 n - 52)

/-- A natural number rounded to 53 significant binary digits, at a half to the even neighbour. -/
def roundNat (n : Nat) : Nat :=
  divHalfEven n (lastPlace n) * lastPlace n

theorem lastPlace_pos (n : Nat) : 0 < lastPlace n :=
  Nat.two_pow_pos _

theorem lt_mul_lastPlace (n : Nat) : n < 2 ^ 53 * lastPlace n := by
  calc n < 2 ^ (n.log2 + 1) := Nat.lt_log2_self
    _ ≤ 2 ^ (53 + (n.log2 - 52)) := Nat.pow_le_pow_right (by decide) (by omega)
    _ = 2 ^ 53 * lastPlace n := by rw [lastPlace, Nat.pow_add]

/-- A number with more than 53 digits has 53 of them from its last place on. -/
theorem log2_le_or_mul_lastPlace_le (n : Nat) :
    Nat.log2 n ≤ 52 ∨ 2 ^ 52 * lastPlace n ≤ n := by
  refine or_iff_not_imp_left.mpr fun many => ?_
  have given : n ≠ 0 := by
    rintro rfl
    exact many (by decide)
  calc 2 ^ 52 * lastPlace n = 2 ^ (52 + (n.log2 - 52)) := by rw [lastPlace, Nat.pow_add]
    _ = 2 ^ n.log2 := by rw [Nat.add_sub_cancel' (Nat.le_of_not_le many)]
    _ ≤ n := Nat.log2_self_le given

theorem lastPlace_of_log2_le {n : Nat} (few : Nat.log2 n ≤ 52) : lastPlace n = 1 := by
  rw [lastPlace, Nat.sub_eq_zero_of_le few, Nat.pow_zero]

theorem significand_le (n : Nat) : divHalfEven n (lastPlace n) ≤ 2 ^ 53 :=
  (divHalfEven_mono (lt_mul_lastPlace n).le _).trans_eq (divHalfEven_mul (lastPlace_pos n) _)

theorem log2_le_or_le_significand (n : Nat) :
    Nat.log2 n ≤ 52 ∨ 2 ^ 52 ≤ divHalfEven n (lastPlace n) := by
  refine (log2_le_or_mul_lastPlace_le n).imp_right fun many => ?_
  rw [← divHalfEven_mul (lastPlace_pos n) (2 ^ 52)]
  exact divHalfEven_mono many _

theorem roundNat_of_dvd {n : Nat} (divides : lastPlace n ∣ n) : roundNat n = n := by
  rw [roundNat, divHalfEven_of_dvd (lastPlace_pos n) divides, Nat.div_mul_cancel divides]

theorem roundNat_of_log2_le {n : Nat} (few : Nat.log2 n ≤ 52) : roundNat n = n :=
  roundNat_of_dvd (by rw [lastPlace_of_log2_le few]; exact Nat.one_dvd n)

theorem roundNat_pos {n : Nat} (positive : 0 < n) : 0 < roundNat n := by
  rcases log2_le_or_le_significand n with few | many
  · rwa [roundNat_of_log2_le few]
  · exact Nat.mul_pos (Nat.lt_of_lt_of_le (by decide) many) (lastPlace_pos n)

theorem log2_mul_two_pow {n : Nat} (given : n ≠ 0) (e : Nat) :
    Nat.log2 (n * 2 ^ e) = n.log2 + e := by
  rw [Nat.log2_eq_iff (Nat.mul_ne_zero given (Nat.two_pow_pos e).ne'), Nat.pow_add,
    Nat.add_right_comm, Nat.pow_add]
  exact ⟨Nat.mul_le_mul_right _ (Nat.log2_self_le given),
    Nat.mul_lt_mul_of_pos_right Nat.lt_log2_self (Nat.two_pow_pos e)⟩

/-- Zeros behind the binary digits do not matter. -/
theorem roundNat_mul_two_pow (n e : Nat) : roundNat (n * 2 ^ e) = roundNat n * 2 ^ e := by
  rcases Nat.eq_zero_or_pos n with rfl | positive
  · rw [Nat.zero_mul, roundNat_of_log2_le (by decide), Nat.zero_mul]
  have scaled := log2_mul_two_pow positive.ne' e
  by_cases few : Nat.log2 n ≤ 52
  · rw [roundNat_of_log2_le few]
    refine roundNat_of_dvd (Nat.dvd_mul_left_of_dvd ?_ n)
    exact Nat.pow_dvd_pow 2 (by omega)
  · have place : lastPlace (n * 2 ^ e) = lastPlace n * 2 ^ e := by
      rw [lastPlace, lastPlace, ← Nat.pow_add, scaled]
      exact congrArg (2 ^ ·) (by omega)
    rw [roundNat, place, divHalfEven_mul_right (Nat.two_pow_pos e), ← Nat.mul_assoc, ← roundNat]

theorem roundNat_mono {m n : Nat} (le : m ≤ n) : roundNat m ≤ roundNat n := by
  rcases Nat.eq_zero_or_pos m with rfl | positive
  · rw [roundNat_of_log2_le (by decide)]
    exact Nat.zero_le _
  have logs : m.log2 ≤ n.log2 :=
    (Nat.le_log2 (by omega)).mpr ((Nat.log2_self_le positive.ne').trans le)
  rcases Nat.lt_or_ge (m.log2 - 52) (n.log2 - 52) with later | same
  · have doubled : 2 * lastPlace m ≤ lastPlace n := by
      rw [lastPlace, lastPlace, ← Nat.pow_succ']
      exact Nat.pow_le_pow_right (by decide) later
    have many := (log2_le_or_le_significand n).resolve_left (by omega)
    calc roundNat m ≤ 2 ^ 53 * lastPlace m := Nat.mul_le_mul_right _ (significand_le m)
      _ = 2 ^ 52 * (2 * lastPlace m) := by rw [← Nat.mul_assoc]
      _ ≤ divHalfEven n (lastPlace n) * lastPlace n := Nat.mul_le_mul many doubled
  · have place : lastPlace m = lastPlace n := congrArg (2 ^ ·) (by omega)
    rw [roundNat, roundNat, place]
    exact Nat.mul_le_mul_right _ (divHalfEven_mono le _)

/-- No number with 53 significant digits is nearer than the rounded one. -/
theorem roundNat_nearest {k : Nat} (few : k ≤ 2 ^ 53) (e n : Nat) :
    ((roundNat n : Int) - n).natAbs ≤ (((k * 2 ^ e : Nat) : Int) - n).natAbs := by
  have multiples := divHalfEven_nearest (lastPlace_pos n) n
  rcases log2_le_or_mul_lastPlace_le n with small | large
  · rw [roundNat_of_log2_le small]
    omega
  have first := multiples (2 ^ 52)
  rcases Nat.lt_or_ge (k * 2 ^ e) (2 ^ 52 * lastPlace n) with below | above
  · exact first.trans (by omega)
  -- Among the numbers from there on all with 53 digits are multiples of the last place.
  obtain ⟨j, multiple⟩ : ∃ j, k * 2 ^ e = j * lastPlace n := by
    unfold lastPlace at above ⊢
    by_cases wide : n.log2 - 52 ≤ e
    · refine ⟨k * 2 ^ (e - (n.log2 - 52)), ?_⟩
      rw [Nat.mul_assoc, ← Nat.pow_add, Nat.sub_add_cancel wide]
    · have doubled : 2 * 2 ^ e ≤ 2 ^ (n.log2 - 52) := by
        rw [← Nat.pow_succ']
        exact Nat.pow_le_pow_right (by decide) (Nat.lt_of_not_le wide)
      have most : k * 2 ^ e ≤ 2 ^ 53 * 2 ^ e := Nat.mul_le_mul_right _ few
      exact ⟨2 ^ 52, by omega⟩
  rw [multiple]
  exact multiples j

/-! ## Magnitudes -/

theorem unitsOfMagnitude_add (field : Nat) {fraction : Nat} (small : fraction < 2 ^ 52) :
    unitsOfMagnitude (field * 2 ^ 52 + fraction) =
      if field = 0 then fraction else (2 ^ 52 + fraction) * 2 ^ (field - 1) := by
  have quotient : (field * 2 ^ 52 + fraction) / 2 ^ 52 = field := by omega
  have rest : (field * 2 ^ 52 + fraction) % 2 ^ 52 = fraction := by omega
  rw [unitsOfMagnitude, quotient, rest]

/-- Greater magnitudes are more units. -/
theorem unitsOfMagnitude_strictMono : StrictMono unitsOfMagnitude := by
  refine strictMono_nat_of_lt_succ fun magnitude => ?_
  obtain ⟨field, fraction, small, rfl⟩ :
      ∃ field fraction, fraction < 2 ^ 52 ∧ magnitude = field * 2 ^ 52 + fraction :=
    ⟨magnitude / 2 ^ 52, magnitude % 2 ^ 52, by omega, by omega⟩
  rw [unitsOfMagnitude_add field small]
  rcases Nat.lt_or_ge (fraction + 1) (2 ^ 52) with within | last
  · rw [Nat.add_assoc, unitsOfMagnitude_add field within]
    split
    · omega
    · exact Nat.mul_lt_mul_of_pos_right (by omega) (Nat.two_pow_pos _)
  · have next : field * 2 ^ 52 + fraction + 1 = (field + 1) * 2 ^ 52 + 0 := by omega
    rw [next, unitsOfMagnitude_add (field + 1) (by decide), if_neg (Nat.succ_ne_zero field),
      Nat.add_sub_cancel]
    split
    · rename_i zero
      rw [zero]
      omega
    · obtain ⟨binade, rfl⟩ := Nat.exists_eq_succ_of_ne_zero ‹_›
      have doubled : 2 ^ binade.succ = 2 * 2 ^ binade := Nat.pow_succ'
      rw [Nat.succ_sub_one, doubled, ← Nat.mul_assoc]
      exact Nat.mul_lt_mul_of_pos_right (by omega) (Nat.two_pow_pos binade)

theorem unitsOfMagnitude_significand (binade : Nat) {q : Nat} (above : 2 ^ 52 ≤ q)
    (below : q ≤ 2 ^ 53) : unitsOfMagnitude (binade * 2 ^ 52 + q) = q * 2 ^ binade := by
  rcases Nat.lt_or_eq_of_le below with within | rfl
  · have fields : binade * 2 ^ 52 + q = (binade + 1) * 2 ^ 52 + (q - 2 ^ 52) := by omega
    rw [fields, unitsOfMagnitude_add _ (by omega), if_neg (Nat.succ_ne_zero binade),
      Nat.add_sub_cancel, Nat.add_sub_cancel' above]
  · have fields : binade * 2 ^ 52 + 2 ^ 53 = (binade + 2) * 2 ^ 52 + 0 := by omega
    have carried : (2 : Nat) ^ (binade + 2 - 1) = 2 * 2 ^ binade := Nat.pow_succ'
    rw [fields, unitsOfMagnitude_add _ (by decide), if_neg (Nat.succ_ne_zero _), Nat.add_zero,
      carried, ← Nat.mul_assoc]

/-- The magnitude that is nearest to a number of units is the rounded number of units. -/
theorem unitsOfMagnitude_nearest (units : Nat) :
    unitsOfMagnitude ((Nat.log2 units - 52) * 2 ^ 52 + divHalfEven units (lastPlace units)) =
      roundNat units := by
  rcases Nat.lt_or_ge (divHalfEven units (lastPlace units)) (2 ^ 52) with small | large
  · have few := (log2_le_or_le_significand units).resolve_right (Nat.not_le.mpr small)
    rw [Nat.sub_eq_zero_of_le few, unitsOfMagnitude_add 0 small, if_pos rfl, roundNat,
      lastPlace_of_log2_le few, Nat.mul_one]
  · rw [unitsOfMagnitude_significand _ large (significand_le units)]
    rfl

/-- The magnitude of a natural number is found by counting it in units, of which some power of two
makes one. -/
theorem exists_units :
    ∃ e ≤ 1074, ∀ n, quotientMagnitude n 1 = (Nat.log2 (n * 2 ^ e) - 52) * 2 ^ 52 +
      divHalfEven (n * 2 ^ e) (lastPlace (n * 2 ^ e)) := by
  refine ⟨1074, Nat.le_refl _, fun n => ?_⟩
  simp only [quotientMagnitude, Nat.div_one, Nat.one_mul, lastPlace]

/-- Magnitudes of natural numbers are in the order of the rounded numbers. -/
theorem quotientMagnitude_lt_iff {m n : Nat} :
    quotientMagnitude m 1 < quotientMagnitude n 1 ↔ roundNat m < roundNat n := by
  obtain ⟨e, -, magnitude⟩ := exists_units
  rw [← unitsOfMagnitude_strictMono.lt_iff_lt, magnitude, magnitude, unitsOfMagnitude_nearest,
    unitsOfMagnitude_nearest, roundNat_mul_two_pow, roundNat_mul_two_pow,
    Nat.mul_lt_mul_right (Nat.two_pow_pos e)]

theorem quotientMagnitude_zero : quotientMagnitude 0 1 = 0 := by
  obtain ⟨e, -, magnitude⟩ := exists_units
  rw [magnitude, Nat.zero_mul]
  rfl

theorem quotientMagnitude_lt {n : Nat} (small : n < 2 ^ 64) :
    quotientMagnitude n 1 < infinityMagnitude := by
  obtain ⟨e, le, magnitude⟩ := exists_units
  have largest := significand_le (n * 2 ^ e)
  rw [magnitude, infinityMagnitude]
  rcases Nat.eq_zero_or_pos n with rfl | positive
  · rw [Nat.zero_mul] at largest ⊢
    rw [Nat.log2_zero]
    omega
  · have log := (Nat.log2_lt positive.ne').mpr small
    rw [log2_mul_two_pow positive.ne']
    omega

/-! ## Integers -/

/-- An integer rounded to 53 significant binary digits, at a half to the even neighbour. -/
def rounded (n : Int) : Int :=
  if n < 0 then -(roundNat n.natAbs : Int) else roundNat n.natAbs

/-- An integer with at most 53 significant binary digits, but for zeros. -/
def Short (n : Int) : Prop :=
  ∃ (k : Int) (e : Nat), k.natAbs ≤ 2 ^ 53 ∧ n = k * 2 ^ e

theorem Short.neg {n : Int} (short : Short n) : Short (-n) := by
  obtain ⟨k, e, few, rfl⟩ := short
  exact ⟨-k, e, by rwa [Int.natAbs_neg], (Int.neg_mul k (2 ^ e)).symm⟩

theorem short_of_natAbs_le {n : Int} (few : n.natAbs ≤ 2 ^ 53) : Short n :=
  ⟨n, 0, few, by rw [Int.pow_zero, Int.mul_one]⟩

theorem short_roundNat (n : Nat) : Short (roundNat n) :=
  ⟨divHalfEven n (lastPlace n), n.log2 - 52, significand_le n, by
    rw [roundNat, lastPlace, Int.natCast_mul, Int.natCast_pow]; rfl⟩

theorem short_rounded (n : Int) : Short (rounded n) := by
  unfold rounded
  split
  · exact (short_roundNat _).neg
  · exact short_roundNat _

theorem natAbs_roundNat_sub_le {m : Int} (short : Short m) (n : Nat) :
    ((roundNat n : Int) - n).natAbs ≤ (m - n).natAbs := by
  obtain ⟨k, e, few, rfl⟩ := short
  by_cases positive : 0 ≤ k
  · obtain ⟨k, rfl⟩ := Int.eq_ofNat_of_zero_le positive
    have nearest := roundNat_nearest few e n
    rwa [Int.natCast_mul, Int.natCast_pow] at nearest
  · -- Zero lies between a number below it and `n`.
    have nearest := roundNat_nearest (Nat.zero_le (2 ^ 53)) e n
    have below : k * 2 ^ e < 0 := 
      Int.mul_neg_of_neg_of_pos (Int.not_le.mp positive) (Int.pow_pos (by decide))
    omega

/-- No integer with 53 significant digits is nearer than the rounded one. -/
theorem natAbs_rounded_sub_le {m : Int} (short : Short m) (n : Int) :
    (rounded n - n).natAbs ≤ (m - n).natAbs := by
  unfold rounded
  split
  · have := natAbs_roundNat_sub_le short.neg n.natAbs
    omega
  · have := natAbs_roundNat_sub_le short n.natAbs
    omega

theorem rounded_of_short {n : Int} (short : Short n) : rounded n = n := by
  have := natAbs_rounded_sub_le short n
  omega

theorem rounded_mono {m n : Int} (le : m ≤ n) : rounded m ≤ rounded n := by
  unfold rounded
  split <;> split
  · have : roundNat n.natAbs ≤ roundNat m.natAbs := roundNat_mono (by omega)
    omega
  · omega
  · omega
  · have : roundNat m.natAbs ≤ roundNat n.natAbs := roundNat_mono (by omega)
    omega

/-- The position of an integer among the floating-point numbers. -/
def place (n : Int) : Int :=
  if n < 0 then -(quotientMagnitude n.natAbs 1 : Int) else quotientMagnitude n.natAbs 1

theorem compare_eq_compare {a b c d : Int} (less : a < b ↔ c < d) (greater : b < a ↔ d < c) :
    compare a b = compare c d := by
  cases order : compare c d with
  | lt => exact Int.compare_eq_lt.mpr (less.mpr (Int.compare_eq_lt.mp order))
  | gt => exact Int.compare_eq_gt.mpr (greater.mpr (Int.compare_eq_gt.mp order))
  | eq =>
      have same := Int.compare_eq_eq.mp order
      exact Int.compare_eq_eq.mpr (by omega)

theorem quotientMagnitude_pos {n : Nat} (positive : 0 < n) : 0 < quotientMagnitude n 1 := by
  have zero : roundNat 0 = 0 := roundNat_of_log2_le (by decide)
  exact Nat.zero_lt_of_lt (quotientMagnitude_lt_iff.mpr (zero.trans_lt (roundNat_pos positive)))

/-- Integers have their places in the order of the rounded integers. -/
theorem compare_place (m n : Int) :
    compare (place m) (place n) = compare (rounded m) (rounded n) := by
  have zero := quotientMagnitude_zero
  have roundZero : roundNat 0 = 0 := roundNat_of_log2_le (by decide)
  have lt_iff (m n : Int) : place m < place n ↔ rounded m < rounded n := by
    have ordered := @quotientMagnitude_lt_iff m.natAbs n.natAbs
    have turned := @quotientMagnitude_lt_iff n.natAbs m.natAbs
    have positive := @quotientMagnitude_lt_iff 0 m.natAbs
    have alsoPositive := @quotientMagnitude_lt_iff 0 n.natAbs
    unfold place rounded
    split <;> split <;> omega
  exact compare_eq_compare (lt_iff m n) (lt_iff n m)

/-! ## Numbers of integers -/

theorem magnitude_ofMagnitude (negative : Bool) {magnitude : Nat}
    (small : magnitude < infinityMagnitude) :
    (ofMagnitude negative magnitude).magnitude = magnitude ∧
      (ofMagnitude negative magnitude).isNegative = negative := by
  have bound : infinityMagnitude < 2 ^ 63 := by decide
  cases negative <;>
    simp only [ofMagnitude, Binary64.magnitude, isNegative, Nat.min_eq_left small.le, if_true,
      Bool.false_eq_true, if_false, decide_eq_true_eq, decide_eq_false_iff_not] <;> omega

section Whole

variable {n : Nat} (small : n < 2 ^ 64)
include small

theorem isFinite_ofQuotient (negative : Bool) : (ofQuotient negative n 1).isFinite = true := by
  have finite := quotientMagnitude_lt small
  rw [isFinite, ofQuotient, (magnitude_ofMagnitude negative finite).1]
  exact decide_eq_true finite

theorem position_ofQuotient (negative : Bool) :
    (ofQuotient negative n 1).position = place (if negative then -n else n) := by
  obtain ⟨magnitude, sign⟩ := magnitude_ofMagnitude negative (quotientMagnitude_lt small)
  have zero := quotientMagnitude_zero
  rw [position, ofQuotient, magnitude, sign, place]
  cases negative with
  | false => simp
  | true =>
    rcases Nat.eq_zero_or_pos n with rfl | positive
    · simp [zero]
    · simp [positive]

end Whole

variable {m n : Int} (small : m.natAbs < 2 ^ 64)
include small

theorem isFinite_ofInt : (ofInt m).isFinite = true :=
  isFinite_ofQuotient small _

theorem position_ofInt : (ofInt m).position = place m := by
  rw [ofInt, position_ofQuotient small]
  refine congrArg place ?_
  simp only [decide_eq_true_eq]
  split <;> omega

theorem rank_ofInt : (ofInt m).rank = if m < 0 then place m - 1 else place m := by
  obtain ⟨magnitude, sign⟩ :=
    magnitude_ofMagnitude (decide (m < 0)) (quotientMagnitude_lt small)
  rw [rank, ofInt, ofQuotient, magnitude, sign, place]
  simp only [decide_eq_true_eq]
  split <;> rfl

/-- The total order of integers as floating-point numbers is that of the rounded integers. -/
theorem totalOrder_ofInt (alsoSmall : n.natAbs < 2 ^ 64) :
    (ofInt m).totalOrder (ofInt n) = compare (rounded m) (rounded n) := by
  have below (m : Int) : m < 0 ↔ place m < 0 := by
    unfold place
    split
    · have := @quotientMagnitude_pos m.natAbs (by omega)
      omega
    · omega
  have first := below m
  have second := below n
  rw [totalOrder, rank_ofInt small, rank_ofInt alsoSmall, ← compare_place]
  refine compare_eq_compare ?_ ?_ <;> split <;> split <;> omega

omit small

/-! ## Notations of integers -/

/-- A whole number in decimal, with or without a sign and with zeros in front, however many. -/
inductive WritesInt : Int → List Char → Prop
  | unsigned {k : Nat} {ds : List Char} (digits : readNat? ds = some k) : WritesInt k ds
  | plus {k : Nat} {ds : List Char} (digits : readNat? ds = some k) : WritesInt k ('+' :: ds)
  | minus {k : Nat} {ds : List Char} (digits : readNat? ds = some k) : WritesInt (-k) ('-' :: ds)

theorem ofScaled_zero (negative : Bool) (digits places : Nat) :
    ofScaled negative digits places 0 = ofQuotient negative digits 1 := by
  unfold ofScaled
  split
  · obtain rfl : digits = 0 := by omega
    rw [ofQuotient, quotientMagnitude_zero]
  · rw [if_neg (by decide), if_neg (by decide), Int.natAbs_zero, Nat.pow_zero, Nat.mul_one]

theorem readUnsigned?_digits (negative : Bool) {k : Nat} {ds : List Char}
    (digits : readNat? ds = some k) :
    readUnsigned? negative ds = some (ofQuotient negative k 1) := by
  obtain ⟨nonempty, all, rfl⟩ := readNat?_eq_some_iff.mp digits
  have taken : ds.takeWhile isDigit = ds := List.takeWhile_eq_self_iff.mpr all
  have nothing : ds.dropWhile isDigit = [] := List.dropWhile_eq_nil_iff.mpr all
  have given : ds.isEmpty = false := List.isEmpty_eq_false_iff.mpr nonempty
  simp only [readUnsigned?, taken, nothing, List.append_nil, given, Bool.false_eq_true, if_false,
    readExponent?, Option.map_some, List.length_nil, Int.natCast_zero, Int.sub_zero, ofScaled_zero]

/-- A whole number is read as the floating-point number nearest to it. -/
theorem WritesInt.readChars? {n : Int} {cs : List Char} (writes : WritesInt n cs) :
    ∃ (negative : Bool) (k : Nat), n = (if negative then -(k : Int) else k) ∧
      readChars? cs = some (ofQuotient negative k 1) := by
  cases writes with
  | @unsigned k ds digits =>
      refine ⟨false, k, rfl, ?_⟩
      obtain ⟨nonempty, all, -⟩ := readNat?_eq_some_iff.mp digits
      have digit {c : Char} {rest : List Char} (begins : cs = c :: rest) : isDigit c = true :=
        all c (begins ▸ List.mem_cons_self)
      rw [Binary64.readChars?, readUnsigned?_digits false digits, Option.some_or]
      -- A digit is no sign.
      · exact fun _ begins => nomatch digit begins
      · exact fun _ begins => nomatch digit begins
  | @plus k ds digits =>
      refine ⟨false, k, rfl, ?_⟩
      rw [Binary64.readChars?, readUnsigned?_digits false digits, Option.some_or]
  | @minus k ds digits =>
      refine ⟨true, k, rfl, ?_⟩
      rw [Binary64.readChars?, readUnsigned?_digits true digits, Option.some_or]

end ContentService.Binary64
