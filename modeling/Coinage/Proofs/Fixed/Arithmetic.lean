import Coinage.Fixed.Arithmetic
import Coinage.Proofs.Failure
import Coinage.Proofs.Fixed

/-!
# Exact arithmetic on units

The three operations are stated here on whole numbers of units, without a
working space.  For every pair of admitted operands the operations of this
library equal these, followed by the check of the budget; the only other
failure is a divisor of zero.  Later modules use nothing else of the
operations.
-/

namespace Coinage

namespace Quantized

/-- The number of units with its sign. -/
def signed (units : Quantized) : Int :=
  if units.negative then -(units.scaled : Int) else units.scaled

/-- The difference.  A difference of zero is negative only if a negative zero
loses a positive one. -/
def minus (left right : Quantized) : Quantized :=
  ⟨if left.signed - right.signed = 0 then
      left.negative && !right.negative
    else decide (left.signed - right.signed < 0),
    (left.signed - right.signed).natAbs⟩

/-- Numbers without a sign have a difference without one, if it is not below
zero. -/
theorem minus_of_le
    {left right : Nat}
    (le : right ≤ left) :
    (⟨false, left⟩ : Quantized).minus ⟨false, right⟩ =
      ⟨false, left - right⟩ := by
  have signedDifference :
      (⟨false, left⟩ : Quantized).signed -
          (⟨false, right⟩ : Quantized).signed =
        (left - right : Nat) :=
    (Int.ofNat_sub le).symm
  have notNegative : decide (((left - right : Nat) : Int) < 0) = false :=
    decide_eq_false (by omega)
  rw [minus, signedDifference, notNegative, Int.natAbs_natCast,
    Bool.false_and, ite_self]

/-- The product, rounded half to even to whole units. -/
def times (left right : Quantized) : Quantized :=
  ⟨left.negative != right.negative,
    Rounding.halfEven.divide (left.scaled * right.scaled) Scale.one⟩

/-- The quotient, cut toward zero at twice the places and then rounded half to
even to whole units. -/
def dividedBy (left right : Quantized) : Quantized :=
  ⟨left.negative != right.negative,
    Rounding.halfEven.divide (left.scaled * Scale.one ^ 2 / right.scaled)
      Scale.one⟩

theorem signedAt_toNumeral (units : Quantized) :
    units.toNumeral.signedAt (-Scale.places) = units.signed := by
  simp [Numeral.signedAt, toNumeral, signed]

theorem natAbs_signed_le (units : Quantized) :
    units.signed.natAbs ≤ units.scaled := by
  unfold signed
  split_ifs <;> omega

/-- Rounding at the scale keeps a numeral inside the working space, and a digit
that it leaves free stays free. -/
theorem roundedAt_lt_working
    {number : Numeral}
    (coarser : number.exponent ≤ -Scale.places)
    (bounded : number.coefficient < 10 ^ (Scale.workingDigits - 1)) :
    number.roundedAt .halfEven (-Scale.places) <
      10 ^ (Scale.workingDigits - 1) := by
  rw [Numeral.roundedAt_of_ge _ coarser]
  exact (Rounding.divide_halfEven_le _ (by positivity)).trans_lt bounded

/-! ## Results in the working space -/

/-- Products of admitted operands leave room in the working space. -/
theorem mul_lt_working
    {left right : Nat}
    (leftBound : left < 10 ^ 120)
    (rightBound : right < 10 ^ 120) :
    left * right < 10 ^ (Scale.workingDigits - 1) := by
  calc
    left * right < 10 ^ 120 * 10 ^ 120 :=
      Nat.mul_lt_mul'' leftBound rightBound
    _ ≤ 10 ^ (Scale.workingDigits - 1) := by decide +kernel

section Results

variable
    {left right : Quantized}
    (leftBound : left.scaled < 10 ^ 120)

include leftBound

theorem minus_lt_working
    (rightBound : right.scaled < 10 ^ 120) :
    (left.minus right).scaled < 10 ^ (Scale.workingDigits - 1) := by
  have leftSigned := left.natAbs_signed_le
  have rightSigned := right.natAbs_signed_le
  have larger :
      10 ^ 120 + 10 ^ 120 ≤ 10 ^ (Scale.workingDigits - 1) := by
    decide +kernel
  change (left.signed - right.signed).natAbs < _
  omega

theorem difference_toNumeral
    (rightBound : right.scaled < 10 ^ 120) :
    Numeral.difference Scale.workingDigits .halfEven
        left.toNumeral right.toNumeral =
      (left.minus right).toNumeral := by
  have bounded := minus_lt_working leftBound rightBound
  simp only [Numeral.difference]
  rw [show min left.toNumeral.exponent right.toNumeral.exponent =
      -Scale.places from min_self _]
  rw [left.signedAt_toNumeral, right.signedAt_toNumeral, Numeral.fit_of_lt]
  · rfl
  · exact Scale.workingDigits_pos
  · exact bounded.trans_le Scale.working_le

theorem product_toNumeral
    (rightBound : right.scaled < 10 ^ 120) :
    Numeral.product Scale.workingDigits .halfEven
        left.toNumeral right.toNumeral =
      ⟨left.negative != right.negative, left.scaled * right.scaled,
        -Scale.places + -Scale.places⟩ := by
  apply Numeral.product_of_lt
  · exact Scale.workingDigits_pos
  · exact (mul_lt_working leftBound rightBound).trans_le Scale.working_le

/-- A quotient cut at thirty-six places has no more digits than its dividend
with as many zeros. -/
theorem cut_lt_working :
    left.scaled * 10 ^ Scale.quotientPlaces / right.scaled <
      10 ^ (Scale.workingDigits - 1) :=
  (Nat.div_le_self _ _).trans_lt
    (mul_lt_working leftBound (by decide +kernel))

theorem quantize_quotient_toNumeral
    (nonzero : right.scaled ≠ 0) :
    (Numeral.quotientTowardZero Scale.workingDigits
        left.toNumeral right.toNumeral).quantize
        Scale.workingDigits .towardZero (-Scale.quotientPlaces) =
      some ⟨left.negative != right.negative,
        left.scaled * 10 ^ Scale.quotientPlaces / right.scaled,
        -Scale.quotientPlaces⟩ := by
  have room :
      left.scaled * 10 ^ Scale.quotientPlaces <
        10 ^ (Scale.workingDigits - 1) :=
    mul_lt_working leftBound (by decide +kernel)
  exact Numeral.quantize_quotientTowardZero Scale.quotientPlaces
    Scale.workingDigits_pos rfl nonzero (room.trans_le Scale.working_le)

end Results

end Quantized

namespace Fixed

/-- A result at the scale or finer is rounded exactly before its budget is
checked. -/
theorem settle_of_lt
    {result : Numeral}
    (coarser : result.exponent ≤ -Scale.places)
    (bounded : result.coefficient < 10 ^ (Scale.workingDigits - 1)) :
    settle result =
      Quantized.fix
        ⟨result.negative,
          result.roundedAt .halfEven (-Scale.places)⟩ := by
  have fits := Quantized.roundedAt_lt_working coarser bounded
  rw [settle, Quantized.ofNumeral,
    Numeral.quantize_of_lt Scale.workingDigits_pos
      (fits.trans_le Scale.working_le)]
  rfl

theorem difference_of_ok
    {left right : Value}
    {minuend subtrahend : Quantized}
    (first : Quantized.ofValue .subtract left = .ok minuend)
    (second : Quantized.ofValue .subtract right = .ok subtrahend) :
    difference left right = (minuend.minus subtrahend).fix := by
  have firstBound := Quantized.scaled_lt_of_ofValue first
  have secondBound := Quantized.scaled_lt_of_ofValue second
  rw [difference, first, Failure.ok_bind, second, Failure.ok_bind,
    Quantized.difference_toNumeral firstBound secondBound,
    settle_of_lt le_rfl (Quantized.minus_lt_working firstBound secondBound),
    Quantized.roundedAt_toNumeral]
  rfl

theorem product_of_ok
    {left right : Value}
    {firstFactor secondFactor : Quantized}
    (first : Quantized.ofValue .multiply left = .ok firstFactor)
    (second : Quantized.ofValue .multiply right = .ok secondFactor) :
    product left right = (firstFactor.times secondFactor).fix := by
  have firstBound := Quantized.scaled_lt_of_ofValue first
  have secondBound := Quantized.scaled_lt_of_ofValue second
  have coarser : (-Scale.places + -Scale.places : Int) ≤ -Scale.places := by
    decide
  rw [product, first, Failure.ok_bind, second, Failure.ok_bind,
    Quantized.product_toNumeral firstBound secondBound,
    settle_of_lt coarser (Quantized.mul_lt_working firstBound secondBound),
    Numeral.roundedAt_of_ge _ coarser]
  rfl

theorem quotient_of_ok
    {left right : Value}
    {dividend divisor : Quantized}
    (first : Quantized.ofValue .divide left = .ok dividend)
    (second : Quantized.ofValue .divide right = .ok divisor) :
    quotient left right =
      if divisor.scaled = 0 then .error (.zeroDivisor right.shown)
      else (dividend.dividedBy divisor).fix := by
  rw [quotient, first, Failure.ok_bind, second, Failure.ok_bind]
  split_ifs with zero
  · rfl
  have bound := Quantized.scaled_lt_of_ofValue first
  have coarser :
      (-Scale.quotientPlaces : Int) ≤ -Scale.places := by
    decide
  rw [cutQuotient, Quantized.quantize_quotient_toNumeral bound zero]
  dsimp only
  rw [Failure.ok_bind,
    settle_of_lt coarser (Quantized.cut_lt_working bound),
    Numeral.roundedAt_of_ge _ coarser]
  rfl

end Fixed

end Coinage
