import Coinage.Proofs.Fixed.Exact

/-!
# Differences and products

A difference of operands is exact, and a product is rounded half to even once,
under the sign that the two factors give it.  The operands are not held to the
budget, so what decides on an answer is the number of units of the result alone.

One check comes before: an operand whose first digit stands above the hundredth
power of ten is refused.  Such an operand has at least `10 ^ 119` units, so its
product with anything that is not rounded to zero would exceed the budget
anyhow.  The refusal is described with the text of the operand, so for an integer
with too many digits there is another failure in its place.
-/

namespace Coinage

/-! ## Numerals in units -/

namespace Numeral

/-- The units of the last place nearest to the number. -/
def units (number : Numeral) : ℤ :=
  Rounding.nearestEven (number.value * 10 ^ 18)

/-- The number is not zero, and its first digit stands above the hundredth
power of ten. -/
def IsHuge (number : Numeral) : Prop :=
  number.coefficient ≠ 0 ∧ 100 < number.adjusted

variable {number : Numeral}

theorem abs_units (number : Numeral) :
    |number.units| = Rounding.nearestEven (number.magnitude * 10 ^ 18) := by
  have scale : (0 : ℚ) ≤ 10 ^ 18 := by norm_num
  rw [units, ← Rounding.nearestEven_abs, abs_mul, abs_value,
    abs_of_nonneg scale]

theorem isTooLarge_iff :
    Quantized.isTooLarge number = true ↔ number.IsHuge := by
  rw [Quantized.isTooLarge, Bool.and_eq_true, decide_eq_true_eq,
    decide_eq_true_eq]
  rfl

/-- What the guard refuses has far more units than the budget allows. -/
theorem IsHuge.le_abs_units (huge : number.IsHuge) :
    10 ^ 119 ≤ |number.units| := by
  obtain ⟨nonzero, above⟩ := huge
  have large : (10 : ℚ) ^ (101 : ℤ) ≤ number.magnitude := by
    calc
      (10 : ℚ) ^ (101 : ℤ) ≤ 10 ^ number.adjusted :=
        zpow_le_zpow_right₀ (by norm_num) above
      _ ≤ number.magnitude := pow_adjusted_le_magnitude nonzero
  rw [abs_units]
  apply (Rounding.nearestEven_spec _).le_of_le
  push_cast
  calc
    (10 : ℚ) ^ 119 = 10 ^ (101 : ℤ) * 10 ^ 18 := by norm_num
    _ ≤ number.magnitude * 10 ^ 18 :=
      mul_le_mul_of_nonneg_right large (by norm_num)

end Numeral

/-! ## Units with their signs -/

namespace Quantized

/-- Rounding a magnitude under a sign is rounding the number. -/
theorem signed_nearest (number : Numeral) :
    (nearest number.negative number.magnitude).signed = number.units := by
  have nonnegative := number.magnitude_nonneg
  have rounded :
      0 ≤ Rounding.nearestEven (number.magnitude * 10 ^ 18) :=
    (Rounding.nearestEven_spec _).le_of_le (by push_cast; positivity)
  rw [nearest, signed, Numeral.units, Numeral.value,
    Int.toNat_of_nonneg rounded]
  split_ifs
  · rw [neg_mul, Rounding.nearestEven_neg]
  · rfl

theorem signed_minus (left right : Quantized) :
    (left.minus right).signed = left.signed - right.signed := by
  rw [minus]
  generalize left.signed - right.signed = total
  unfold signed
  dsimp only
  split_ifs with same
  · omega
  · omega
  · rename_i below
    have negative : total < 0 := of_decide_eq_true below
    omega
  · rename_i notBelow
    have nonnegative : ¬ total < 0 :=
      fun negative => notBelow (decide_eq_true negative)
    omega

theorem negative_minus
    {left right : Quantized}
    (same : (left.minus right).signed = 0) :
    (left.minus right).negative = (left.negative && !right.negative) := by
  rw [signed_minus] at same
  rw [minus, if_pos same]

theorem signed_times (left right : Quantized) :
    (left.times right).signed =
      Rounding.nearestEven (left.signed * right.signed / 10 ^ 18) := by
  have rounded :
      (Rounding.halfEven.divide (left.scaled * right.scaled) Scale.one : ℤ) =
        Rounding.nearestEven (left.scaled * right.scaled / 10 ^ 18) := by
    rw [Rounding.divide_halfEven _ Scale.one_pos, Scale.cast_one,
      Nat.cast_mul]
  unfold times signed
  dsimp only
  rw [rounded]
  cases left.negative <;> cases right.negative <;>
    simp [neg_div, Rounding.nearestEven_neg]

/-- A product is off by the half unit of its rounding. -/
theorem abs_times_value_sub_le (left right : Quantized) :
    |(left.times right).value - left.value * right.value| ≤
      1 / (2 * 10 ^ 18) := by
  have scale : (0 : ℚ) < 10 ^ 18 := by norm_num
  have rounded :=
    (Rounding.nearestEven_spec
      (left.signed * right.signed / 10 ^ 18 : ℚ)).near
  rw [← signed_times, abs_sub_comm] at rounded
  have exactEq :
      left.value * right.value =
        left.signed * right.signed / 10 ^ 18 / 10 ^ 18 := by
    rw [value, value]
    ring
  rw [exactEq, value, ← sub_div, abs_div, abs_of_pos scale,
    div_le_iff₀ scale]
  linarith

end Quantized

namespace Fixed

/-! ## Answers -/

/-- An attempt answers with so many units exactly if they are within the
budget, and fails by the budget otherwise.  Zero has the given sign. -/
structure Gives
    (attempt : Except Failure Fixed)
    (units : ℤ)
    (zeroNegative : Bool) :
    Prop where
  within :
    |units| < 2 ^ 315 →
      ∃ result,
        attempt = .ok result ∧
          result.value = units / 10 ^ 18 ∧
          (units = 0 → result.negative = zeroNegative)
  beyond :
    2 ^ 315 ≤ |units| →
      attempt = .error (.decimalBudget (Scale.bitLength units.natAbs))

theorem gives_fix
    {units : Quantized}
    {zeroNegative : Bool}
    (zeroSign : units.signed = 0 → units.negative = zeroNegative) :
    Gives units.fix units.signed zeroNegative := by
  have magnitude : units.signed.natAbs = units.scaled := by
    unfold Quantized.signed
    split_ifs <;> omega
  have abs_lt_iff :
      |units.signed| < 2 ^ 315 ↔ units.scaled < 2 ^ Scale.decimalBits := by
    rw [Int.abs_eq_natAbs, magnitude, Scale.decimalBits]
    exact_mod_cast Iff.rfl
  constructor
  · intro fits
    exact ⟨_, Quantized.fix_of_lt (abs_lt_iff.1 fits), rfl, zeroSign⟩
  · intro exceeds
    rw [magnitude]
    exact Quantized.fix_of_ge
      (not_lt.1 fun fits => exceeds.not_gt (abs_lt_iff.2 fits))

end Fixed

/-- An integer with too many digits is huge. -/
theorem Value.IsLong.isHuge
    {value : Value}
    {number : Numeral}
    (long : value.IsLong)
    (denotes : value.denoted? = some (.finite number)) :
    number.IsHuge := by
  obtain ⟨integer, rfl, long⟩ := long
  cases denotes
  have many : 4300 < Text.digitCount integer.natAbs := long
  constructor
  · intro zero
    change integer.natAbs = 0 at zero
    rw [zero] at many
    exact absurd many (by decide)
  · change (100 : Int) < 0 + Text.digitCount integer.natAbs - 1
    omega

namespace Quantized

section Operand

variable
    {value : Value}
    {number : Numeral}
    (denotes : value.denoted? = some (.finite number))

include denotes

theorem ofValue_of_isHuge
    (operation : NumberOperation)
    (huge : number.IsHuge) :
    ofValue operation value =
      .error (value.worded (.magnitude operation)) := by
  rcases Value.decimal?_eq_some_or_isLong denotes with read | long
  · rw [Value.worded_of_isWritable (Value.isWritable_of_decimal? read)]
    simp only [ofValue, read, Numeral.isTooLarge_iff.2 huge, if_true]
  · rw [ofValue, Value.decimal?_of_isLong long]
    exact congrArg Except.error
      ((Value.worded_of_isLong long _).trans
        (Value.worded_of_isLong long _).symm)

/-- Every other operand is admitted, whatever the number of its units. -/
theorem ofValue_of_not_isHuge
    (operation : NumberOperation)
    (short : ¬ number.IsHuge) :
    ofValue operation value =
      .ok (nearest number.negative number.magnitude) := by
  have read :=
    (Value.decimal?_eq_some_or_isLong denotes).resolve_right
      fun long => short (long.isHuge denotes)
  have small : isTooLarge number = false := by
    rw [← Numeral.isTooLarge_iff, Bool.not_eq_true] at short
    exact short
  simp only [ofValue, read, small, Bool.false_eq_true, if_false]
  exact ofNumeral_eq_nearest small

end Operand

end Quantized

namespace Fixed

section Operands

variable
    {left right : Value}
    {first second : Numeral}
    (leftDenotes : left.denoted? = some (.finite first))
    (rightDenotes : right.denoted? = some (.finite second))

include leftDenotes in
/-- A huge operand on the left is what an operation refuses. -/
theorem refused_of_left
    {operation : NumberOperation}
    {attempt : Quantized → Quantized → Except Failure Fixed}
    (huge : first.IsHuge) :
    (do
      let firstOperand ← Quantized.ofValue operation left
      let secondOperand ← Quantized.ofValue operation right
      attempt firstOperand secondOperand) =
      .error (left.worded (.magnitude operation)) := by
  rw [Quantized.ofValue_of_isHuge leftDenotes _ huge, Failure.error_bind]

include leftDenotes rightDenotes

/-- On the right it is, if the left operand is admitted. -/
theorem refused_of_right
    {operation : NumberOperation}
    {attempt : Quantized → Quantized → Except Failure Fixed}
    (short : ¬ first.IsHuge)
    (huge : second.IsHuge) :
    (do
      let firstOperand ← Quantized.ofValue operation left
      let secondOperand ← Quantized.ofValue operation right
      attempt firstOperand secondOperand) =
      .error (right.worded (.magnitude operation)) := by
  rw [Quantized.ofValue_of_not_isHuge leftDenotes _ short, Failure.ok_bind,
    Quantized.ofValue_of_isHuge rightDenotes _ huge, Failure.error_bind]

variable
    (leftShort : ¬ first.IsHuge)
    (rightShort : ¬ second.IsHuge)

include leftShort rightShort

theorem gives_difference :
    Gives (difference left right) (first.units - second.units)
      (first.negative && !second.negative) := by
  rw [difference_of_ok
      (Quantized.ofValue_of_not_isHuge leftDenotes _ leftShort)
      (Quantized.ofValue_of_not_isHuge rightDenotes _ rightShort),
    ← Quantized.signed_nearest, ← Quantized.signed_nearest,
    ← Quantized.signed_minus]
  exact gives_fix Quantized.negative_minus

theorem gives_product :
    Gives (product left right)
      (Rounding.nearestEven (first.units * second.units / 10 ^ 18))
      (first.negative != second.negative) := by
  rw [product_of_ok
      (Quantized.ofValue_of_not_isHuge leftDenotes _ leftShort)
      (Quantized.ofValue_of_not_isHuge rightDenotes _ rightShort),
    ← Quantized.signed_nearest, ← Quantized.signed_nearest,
    ← Quantized.signed_times]
  exact gives_fix fun _ => rfl

end Operands

/-- A factor of so many units takes every other one beyond the budget, unless
that is rounded to zero. -/
theorem budget_le_of_large
    {units other : ℤ}
    (large : 10 ^ 119 ≤ |units|)
    (nonzero : other ≠ 0) :
    2 ^ 315 ≤ |Rounding.nearestEven (units * other / 10 ^ 18)| := by
  have scale : (0 : ℚ) < 10 ^ 18 := by norm_num
  have one : 1 ≤ |other| := Int.one_le_abs nonzero
  have worth : (10 : ℤ) ^ 119 ≤ |units| * |other| := by
    calc
      (10 : ℤ) ^ 119 = 10 ^ 119 * 1 := (mul_one _).symm
      _ ≤ |units| * |other| :=
        mul_le_mul large one (by norm_num) (abs_nonneg _)
  have worthCast : (10 : ℚ) ^ 119 ≤ |(units : ℚ)| * |(other : ℚ)| := by
    exact_mod_cast worth
  have budget : (2 : ℚ) ^ 315 ≤ 10 ^ 101 := by
    exact_mod_cast (by decide +kernel : (2 : Nat) ^ 315 ≤ 10 ^ 101)
  rw [← Rounding.nearestEven_abs]
  apply (Rounding.nearestEven_spec _).le_of_le
  rw [Int.cast_pow, Int.cast_ofNat, abs_div, abs_mul, abs_of_pos scale]
  calc
    (2 : ℚ) ^ 315 ≤ 10 ^ 101 := budget
    _ = 10 ^ 119 / 10 ^ 18 := by norm_num
    _ ≤ |(units : ℚ)| * |(other : ℚ)| / 10 ^ 18 :=
      div_le_div_of_nonneg_right worthCast scale.le

/--
Differences and products of two numbers, each rounded half to even to units of
the last place.  If one of them is huge, both operations refuse it; this is a
failure of the budget, unless the operand is an integer with too many digits to be
written.  Otherwise each operand is admitted, however many units it has; the
difference is exact, the product is the exact product rounded half to even, where a
zero has the product of the signs, and each operation fails by the budget exactly
if its result has too many units.  What is refused for a huge factor would have
failed by the budget as well, or the other factor is rounded to zero.
-/
theorem difference_product_units
    {left right : Value}
    {first second : Numeral}
    (leftDenotes : left.denoted? = some (.finite first))
    (rightDenotes : right.denoted? = some (.finite second)) :
    (first.IsHuge →
      difference left right = .error (left.worded (.magnitude .subtract)) ∧
        product left right = .error (left.worded (.magnitude .multiply))) ∧
    (¬ first.IsHuge → second.IsHuge →
      difference left right = .error (right.worded (.magnitude .subtract)) ∧
        product left right = .error (right.worded (.magnitude .multiply))) ∧
    (∀ operation,
      (left.IsLong →
        first.IsHuge ∧ left.worded (.magnitude operation) = .longInteger) ∧
      (¬ left.IsLong →
        left.worded (.magnitude operation) =
          .magnitude operation left.shown)) ∧
    (¬ first.IsHuge → ¬ second.IsHuge →
      Gives (difference left right) (first.units - second.units)
          (first.negative && !second.negative) ∧
        Gives (product left right)
          (Rounding.nearestEven (first.units * second.units / 10 ^ 18))
          (first.negative != second.negative)) ∧
    (∀ operation,
      ¬ first.IsHuge →
      ∃ units,
        Quantized.ofValue operation left = .ok units ∧
          units.signed = first.units) ∧
    (first.IsHuge →
      2 ^ 315 ≤
          |Rounding.nearestEven (first.units * second.units / 10 ^ 18)| ∨
        second.units = 0) ∧
    (second.IsHuge →
      2 ^ 315 ≤
          |Rounding.nearestEven (first.units * second.units / 10 ^ 18)| ∨
        first.units = 0) := by
  refine ⟨?_, ?_, ?_, ?_, ?_, ?_, ?_⟩
  · intro huge
    exact ⟨refused_of_left leftDenotes huge, refused_of_left leftDenotes huge⟩
  · intro short huge
    exact ⟨refused_of_right leftDenotes rightDenotes short huge,
      refused_of_right leftDenotes rightDenotes short huge⟩
  · intro operation
    exact ⟨fun long =>
        ⟨long.isHuge leftDenotes, Value.worded_of_isLong long _⟩,
      fun short =>
        Value.worded_of_isWritable (Value.isWritable_of_not_isLong short) _⟩
  · intro leftShort rightShort
    exact ⟨gives_difference leftDenotes rightDenotes leftShort rightShort,
      gives_product leftDenotes rightDenotes leftShort rightShort⟩
  · intro operation leftShort
    exact ⟨_,
      Quantized.ofValue_of_not_isHuge leftDenotes operation leftShort,
      Quantized.signed_nearest first⟩
  · intro huge
    refine or_iff_not_imp_right.2 fun nonzero => ?_
    exact budget_le_of_large huge.le_abs_units nonzero
  · intro huge
    refine or_iff_not_imp_right.2 fun nonzero => ?_
    rw [mul_comm]
    exact budget_le_of_large huge.le_abs_units nonzero

/-- A number with more units than the budget allows. -/
def wide : Value :=
  .decimal (.finite ⟨false, 1, 90⟩)

/-- Two and a half units of the last place below zero, which are rounded to
two. -/
def tied : Value :=
  .decimal (.finite ⟨true, 25, -19⟩)

/-- The smallest power of ten that is refused. -/
def huge : Value :=
  .decimal (.finite ⟨false, 1, 101⟩)

/-- A wide operand has no difference with a small one, but a product.  A huge
one has neither, although its product with what is rounded to zero would be
zero. -/
theorem difference_product_units_wide :
    Numeral.units ⟨false, 1, 90⟩ = 10 ^ 108 ∧
      difference wide tied = .error (.decimalBudget 359) ∧
      (∃ result,
        product wide tied = .ok result ∧
          result.value = (-2 * 10 ^ 90 : ℤ) / 10 ^ 18) ∧
      difference huge tied = .error (.magnitude .subtract "1E+101") ∧
      product tied huge = .error (.magnitude .multiply "1E+101") ∧
      product huge vanishing = .error (.magnitude .multiply "1E+101") ∧
      (2 ^ 315 ≤
          |Rounding.nearestEven
            ((Numeral.units ⟨false, 1, 101⟩ : ℚ) *
              Numeral.units ⟨true, 5, -19⟩ / 10 ^ 18)| ∨
        Numeral.units ⟨true, 5, -19⟩ = 0) := by
  have wideDenotes : wide.denoted? = some (.finite ⟨false, 1, 90⟩) := rfl
  have tiedDenotes : tied.denoted? = some (.finite ⟨true, 25, -19⟩) := rfl
  have hugeDenotes : huge.denoted? = some (.finite ⟨false, 1, 101⟩) := rfl
  have vanishingDenotes :
      vanishing.denoted? = some (.finite ⟨true, 5, -19⟩) :=
    rfl
  have wideUnits : Numeral.units ⟨false, 1, 90⟩ = 10 ^ 108 := by
    decide +kernel
  have tiedUnits : Numeral.units ⟨true, 25, -19⟩ = -2 := by
    decide +kernel
  have wideShort : ¬ Numeral.IsHuge ⟨false, 1, 90⟩ :=
    fun above => absurd above.2 (by decide +kernel)
  have tiedShort : ¬ Numeral.IsHuge ⟨true, 25, -19⟩ :=
    fun above => absurd above.2 (by decide +kernel)
  have isHuge : Numeral.IsHuge ⟨false, 1, 101⟩ :=
    ⟨by decide, by decide +kernel⟩
  obtain ⟨-, -, -, gives, -⟩ :=
    difference_product_units wideDenotes tiedDenotes
  obtain ⟨-, refusedRight, -⟩ :=
    difference_product_units tiedDenotes hugeDenotes
  obtain ⟨refusedLeft, -⟩ :=
    difference_product_units hugeDenotes tiedDenotes
  obtain ⟨refused, -, -, -, -, exceeds, -⟩ :=
    difference_product_units hugeDenotes vanishingDenotes
  obtain ⟨difference, product⟩ := gives wideShort tiedShort
  rw [wideUnits, tiedUnits] at difference product
  have productUnits :
      Rounding.nearestEven ((10 ^ 108 : ℤ) * (-2 : ℤ) / 10 ^ 18) =
        -2 * 10 ^ 90 := by
    decide +kernel
  rw [productUnits] at product
  obtain ⟨result, multiplied, valueEq, -⟩ :=
    product.within (by decide +kernel)
  exact ⟨wideUnits, difference.beyond (by decide +kernel),
    ⟨result, multiplied, valueEq⟩, (refusedLeft isHuge).1,
    (refusedRight tiedShort isHuge).2, (refused isHuge).2,
    exceeds isHuge⟩

/-- The least integer with too many digits denotes a huge number, and its
differences and products fail for another reason than the budget. -/
theorem not_magnitude_leastLong :
    ∃ number,
      Value.leastLong.denoted? = some (.finite number) ∧
        number.IsHuge ∧
        difference Value.leastLong tied = .error .longInteger ∧
        product Value.leastLong tied = .error .longInteger ∧
        Failure.longInteger.family ≠ .budget := by
  obtain ⟨number, denotes⟩ :
      ∃ number, Value.leastLong.denoted? = some (.finite number) :=
    ⟨_, rfl⟩
  have huge := Value.isLong_leastLong.isHuge denotes
  have worded (operation : NumberOperation) :
      Value.leastLong.worded (.magnitude operation) = .longInteger :=
    Value.worded_of_isLong Value.isLong_leastLong _
  refine ⟨number, denotes, huge, ?_, ?_, by decide⟩
  · rw [← worded .subtract]
    exact refused_of_left denotes huge
  · rw [← worded .multiply]
    exact refused_of_left denotes huge

end Fixed

end Coinage
