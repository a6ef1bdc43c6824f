import Coinage.Proofs.Numeral.Working
import Mathlib.Algebra.Order.Field.Power

/-!
# The magnitude of a numeral

A numeral denotes a rational number, and bringing it to an exponent means
rounding that number in units of the exponent's power of ten.  Whether zeros
are appended or digits are dropped for this is not visible in the result.
-/

namespace Coinage.Numeral

open Coinage.Text

/-- The magnitude of the number that a numeral denotes. -/
def magnitude (number : Numeral) : ℚ :=
  number.coefficient * 10 ^ number.exponent

/-- The number that a numeral denotes. -/
def value (number : Numeral) : ℚ :=
  if number.negative then -number.magnitude else number.magnitude

theorem magnitude_nonneg (number : Numeral) : 0 ≤ number.magnitude := by
  unfold magnitude
  positivity

theorem abs_value (number : Numeral) : |number.value| = number.magnitude := by
  have nonnegative := number.magnitude_nonneg
  unfold value
  split_ifs
  · rw [abs_neg, abs_of_nonneg nonnegative]
  · exact abs_of_nonneg nonnegative

/-- The first digit bounds a number from below. -/
theorem pow_adjusted_le_magnitude
    {number : Numeral}
    (nonzero : number.coefficient ≠ 0) :
    10 ^ number.adjusted ≤ number.magnitude := by
  have ten : (10 : ℚ) ≠ 0 := by norm_num
  have leading :
      (10 : ℚ) ^ (digitCount number.coefficient - 1) ≤ number.coefficient := by
    exact_mod_cast pow_digitCount_le nonzero
  have digits := digitCount_pos number.coefficient
  have adjustedEq :
      number.adjusted =
        (digitCount number.coefficient - 1 : Nat) + number.exponent := by
    unfold adjusted
    omega
  rw [adjustedEq, zpow_add₀ ten, zpow_natCast, magnitude]
  exact mul_le_mul_of_nonneg_right leading (by positivity)

theorem magnitude_places
    (negative : Bool)
    (coefficient places : Nat) :
    magnitude ⟨negative, coefficient, -places⟩ = coefficient / 10 ^ places := by
  rw [magnitude, zpow_neg, zpow_natCast, div_eq_mul_inv]

/-- The magnitude in units of a power of ten, as a quotient of natural
numbers. -/
theorem magnitude_div_pow
    (number : Numeral)
    (exponent : Int) :
    number.magnitude / 10 ^ exponent =
      (number.coefficient * 10 ^ (number.exponent - exponent).toNat : Nat) /
        (10 ^ (exponent - number.exponent).toNat : Nat) := by
  generalize zerosEq : (number.exponent - exponent).toNat = zeros
  generalize droppedEq : (exponent - number.exponent).toNat = dropped
  have shift : number.exponent - exponent = zeros - dropped := by
    omega
  have ten : (10 : ℚ) ≠ 0 := by norm_num
  rw [magnitude, mul_div_assoc, ← zpow_sub₀ ten, shift, zpow_sub₀ ten,
    zpow_natCast, zpow_natCast, ← mul_div_assoc]
  push_cast
  rfl

/-- Bringing a numeral to an exponent, half to even. -/
theorem roundedAt_halfEven
    (exponent : Int)
    (number : Numeral) :
    (number.roundedAt .halfEven exponent : ℤ) =
      Rounding.nearestEven (number.magnitude / 10 ^ exponent) := by
  rw [roundedAt, Rounding.divide_halfEven _ (by positivity),
    magnitude_div_pow]

/-! ## The first digits of a quotient -/

/-- A numeral of the first `limit` digits of a magnitude, without what lies
behind them. -/
structure IsLeading
    (limit : Nat)
    (magnitude : ℚ)
    (number : Numeral) :
    Prop where
  coefficient_eq :
    (number.coefficient : ℤ) = ⌊magnitude / 10 ^ number.exponent⌋
  digitCount_eq :
    magnitude ≠ 0 → digitCount number.coefficient = limit

/-- A numerator with enough zeros behind it leaves more than `limit` digits of
the quotient. -/
theorem lt_digitCount_extendedQuotient
    {limit numerator denominator shift : Nat}
    (numeratorNonzero : numerator ≠ 0)
    (denominatorNonzero : denominator ≠ 0)
    (extended :
      digitCount numerator + shift = limit + 1 + digitCount denominator) :
    limit < digitCount (numerator * 10 ^ shift / denominator) := by
  refine not_le.1 fun short => ?_
  have below : numerator * 10 ^ shift / denominator < 10 ^ limit :=
    (digitCount_le_iff ((digitCount_pos _).trans_le short)).1 short
  rw [Nat.div_lt_iff_lt_mul (Nat.pos_of_ne_zero denominatorNonzero)] at below
  refine below.not_ge ?_
  calc
    10 ^ limit * denominator ≤ 10 ^ limit * 10 ^ digitCount denominator :=
      Nat.mul_le_mul_left _ (lt_pow_digitCount denominator).le
    _ = 10 ^ (digitCount numerator - 1) * 10 ^ shift := by
      have := digitCount_pos numerator
      rw [← pow_add, ← pow_add]
      congr 1
      omega
    _ ≤ numerator * 10 ^ shift :=
      Nat.mul_le_mul_right _ (pow_digitCount_le numeratorNonzero)

theorem isLeading_quotientTowardZero
    {limit : Nat}
    {left right : Numeral}
    (positive : 0 < limit)
    (nonzero : right.coefficient ≠ 0)
    (short : digitCount left.coefficient ≤ limit) :
    (quotientTowardZero limit left right).IsLeading limit
      (left.magnitude / right.magnitude) := by
  simp only [quotientTowardZero, fit_towardZero positive]
  generalize shiftEq :
    limit + 1 + digitCount right.coefficient - digitCount left.coefficient =
      shift
  constructor
  · dsimp only
    generalize digitCount _ - limit = surplus
    have ten : (10 : ℚ) ≠ 0 := by norm_num
    have divisor : (right.coefficient : ℚ) ≠ 0 := by exact_mod_cast nonzero
    have exactEq :
        left.magnitude / right.magnitude /
            10 ^ (left.exponent - right.exponent - shift + surplus) =
          (left.coefficient * 10 ^ shift : Nat) /
            (right.coefficient * 10 ^ surplus : Nat) := by
      rw [magnitude, magnitude, zpow_add₀ ten, zpow_sub₀ ten, zpow_sub₀ ten,
        zpow_natCast, zpow_natCast]
      push_cast
      field_simp
    rw [exactEq, Rat.floor_natCast_div_natCast, Nat.div_div_eq_div_mul,
      Int.natCast_div]
  · intro some
    have numerator : left.coefficient ≠ 0 := by
      intro zero
      simp [magnitude, zero] at some
    have long :=
      lt_digitCount_extendedQuotient numerator nonzero
        (by omega : digitCount left.coefficient + shift =
          limit + 1 + digitCount right.coefficient)
    dsimp only
    rw [digitCount_div_pow (by omega)]
    omega

end Coinage.Numeral
