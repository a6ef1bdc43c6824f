import Coinage.Proofs.Numeral.Magnitude
import Mathlib.Algebra.Order.Floor.Semifield

/-!
# Notation and value

A number may be written with many coefficients and exponents.  Counting its units
forgets how it was written: whether zeros are appended to the coefficient for this
or digits are dropped, what is counted is the integer part of the magnitude on the
scale.  Two numerals that agree in sign, in the place of the first digit and in
the digits from there on are two notations of one number, and there are no others.
-/

namespace Coinage.Numeral

open Coinage.Text

/-! ## Counting units -/

/-- Counting appends zeros or drops digits, and of the two powers at most one
differs from one. -/
theorem unitsAt_eq_div
    (number : Numeral)
    (places : Nat) :
    number.unitsAt places =
      number.coefficient * 10 ^ (number.exponent + places).toNat /
        10 ^ (-(number.exponent + places)).toNat := by
  unfold unitsAt
  dsimp only
  split_ifs with zero coarse
  · rw [zero, Nat.zero_mul, Nat.zero_div]
  · have noDrop : (-(number.exponent + places)).toNat = 0 := by omega
    rw [noDrop, pow_zero, Nat.div_one]
  · have noZeros : (number.exponent + places).toNat = 0 := by omega
    rw [noZeros, pow_zero, Nat.mul_one, Rounding.dropDigits_eq_divide,
      Rounding.divide_towardZero]

/-- The number of units is the integer part of the magnitude on the scale. -/
theorem unitsAt_eq_floor
    (number : Numeral)
    (places : Nat) :
    number.unitsAt places = ⌊number.magnitude * 10 ^ places⌋₊ := by
  have onScale := number.magnitude_div_pow (-places)
  have opposite :
      -(places : ℤ) - number.exponent = -(number.exponent + places) := by
    ring
  rw [zpow_neg, zpow_natCast, div_inv_eq_mul, sub_neg_eq_add, opposite]
    at onScale
  rw [onScale, Nat.floor_div_eq_div, unitsAt_eq_div]

/-! ## The first digit -/

variable {left right number : Numeral}

/-- The first digit bounds a number from above. -/
theorem magnitude_lt_pow_adjusted (number : Numeral) :
    number.magnitude < 10 ^ (number.adjusted + 1) := by
  have ten : (10 : ℚ) ≠ 0 := by norm_num
  have counted :
      (number.coefficient : ℚ) < 10 ^ digitCount number.coefficient := by
    exact_mod_cast lt_pow_digitCount number.coefficient
  have adjustedEq :
      number.adjusted + 1 =
        (digitCount number.coefficient : ℤ) + number.exponent := by
    unfold adjusted
    omega
  rw [adjustedEq, zpow_add₀ ten, zpow_natCast, magnitude]
  exact mul_lt_mul_of_pos_right counted (by positivity)

/-- The first digit of a greater number stands no lower. -/
theorem adjusted_le_of_magnitude_le
    (nonzero : left.coefficient ≠ 0)
    (ordered : left.magnitude ≤ right.magnitude) :
    left.adjusted ≤ right.adjusted := by
  have below : (10 : ℚ) ^ left.adjusted < 10 ^ (right.adjusted + 1) := by
    calc
      (10 : ℚ) ^ left.adjusted ≤ left.magnitude :=
        pow_adjusted_le_magnitude nonzero
      _ ≤ right.magnitude := ordered
      _ < 10 ^ (right.adjusted + 1) := magnitude_lt_pow_adjusted right
  exact Int.lt_add_one_iff.1 ((zpow_lt_zpow_iff_right₀ (by norm_num)).1 below)

/-! ## Numbers in two notations -/

theorem magnitude_eq_zero_iff :
    number.magnitude = 0 ↔ number.coefficient = 0 := by
  have power : (10 : ℚ) ^ number.exponent ≠ 0 := by positivity
  rw [magnitude, mul_eq_zero_iff_right power, Nat.cast_eq_zero]

theorem value_eq_zero_iff :
    number.value = 0 ↔ number.coefficient = 0 := by
  rw [← abs_eq_zero, abs_value, magnitude_eq_zero_iff]

/-- Magnitudes are equal if the coefficients are once they are brought to one
exponent. -/
theorem magnitude_eq_magnitude_iff :
    left.magnitude = right.magnitude ↔
      left.coefficient * 10 ^ (left.exponent - right.exponent).toNat =
        right.coefficient * 10 ^ (right.exponent - left.exponent).toNat := by
  have unit : (10 : ℚ) ^ right.exponent ≠ 0 := by positivity
  have divisor :
      ((10 ^ (right.exponent - left.exponent).toNat : Nat) : ℚ) ≠ 0 := by
    positivity
  rw [← div_left_inj' unit, magnitude_div_pow left, div_eq_iff divisor,
    magnitude, mul_div_cancel_right₀ _ unit]
  exact_mod_cast Iff.rfl

/-- Numbers that are not zero are equal if their signs and magnitudes are. -/
theorem value_eq_value_iff
    (nonzero : left.coefficient ≠ 0) :
    left.value = right.value ↔
      left.negative = right.negative ∧ left.magnitude = right.magnitude := by
  have positive : 0 < left.magnitude :=
    left.magnitude_nonneg.lt_of_ne' (magnitude_eq_zero_iff.not.2 nonzero)
  have nonnegative := right.magnitude_nonneg
  constructor
  · intro same
    unfold value at same
    split_ifs at same with leftSign rightSign rightSign
    · exact ⟨leftSign.trans rightSign.symm, neg_injective same⟩
    · linarith
    · linarith
    · exact ⟨(Bool.eq_false_iff.2 leftSign).trans
        (Bool.eq_false_iff.2 rightSign).symm, same⟩
  · rintro ⟨signEq, magnitudeEq⟩
    rw [value, value, signEq, magnitudeEq]

/-- Numerals have the same value exactly if they denote the same number. -/
theorem sameValue_iff :
    left.sameValue right = true ↔ left.value = right.value := by
  unfold sameValue
  by_cases zero : left.coefficient = 0 ∨ right.coefficient = 0
  · have isZero :
        (decide (left.coefficient = 0) || decide (right.coefficient = 0)) =
          true := by
      simpa using zero
    rw [if_pos isZero, beq_iff_eq]
    rcases zero with leftZero | rightZero
    · rw [leftZero, value_eq_zero_iff.2 leftZero, eq_comm, @eq_comm ℚ,
        value_eq_zero_iff]
    · rw [rightZero, value_eq_zero_iff.2 rightZero, value_eq_zero_iff]
  · obtain ⟨leftNonzero, rightNonzero⟩ := not_or.1 zero
    have isNonzero :
        ¬ (decide (left.coefficient = 0) || decide (right.coefficient = 0)) =
          true := by
      simpa using zero
    rw [if_neg isNonzero, Bool.and_eq_true, Bool.and_eq_true, beq_iff_eq,
      beq_iff_eq, beq_iff_eq, value_eq_value_iff leftNonzero,
      ← magnitude_eq_magnitude_iff, and_assoc]
    refine and_congr_right fun _ => and_iff_right_of_imp fun magnitudeEq => ?_
    exact le_antisymm
      (adjusted_le_of_magnitude_le leftNonzero magnitudeEq.le)
      (adjusted_le_of_magnitude_le rightNonzero magnitudeEq.ge)

end Coinage.Numeral
