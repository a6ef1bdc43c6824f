import Coinage.Proofs.Fixed.Arithmetic
import Coinage.Proofs.Numeral.Magnitude

/-!
# Arithmetic without a working space

Fixing, subtracting, multiplying and dividing are defined here a second time,
on rational numbers: no number of digits occurs in these definitions.  Only the
order of the checks, the guard on operands and the budget of results are those
of the operations themselves.

The working space has four hundred digits, and every numeral that is formed in
it has fewer.  Operands bring at most one hundred and twenty digits, products at
most two hundred and forty; a quotient is first cut to four hundred digits and
then to thirty-six places, and the first cut is not felt by the second.  So the
operations are the exact ones on all values, and they fail only for an operand,
for the budget or for a divisor of zero.
-/

namespace Coinage

open Coinage.Text

/-! ## Exact numbers of units -/

namespace Scale

/-- A magnitude rounded half to even at eighteen places. -/
def roundPlaces (magnitude : ℚ) : ℚ :=
  Rounding.nearestEven (magnitude * 10 ^ 18) / 10 ^ 18

/-- A magnitude without what lies behind thirty-six places. -/
def cutPlaces (magnitude : ℚ) : ℚ :=
  ⌊magnitude * 10 ^ 36⌋ / 10 ^ 36

theorem div_pow_neg_places (number : ℚ) :
    number / 10 ^ (-places : ℤ) = number * 10 ^ 18 := by
  rw [zpow_neg, zpow_natCast, div_inv_eq_mul]
  rfl

end Scale

namespace Quantized

/-- The number that a number of units denotes. -/
def value (units : Quantized) : ℚ :=
  units.signed / 10 ^ 18

/-- The units nearest to a magnitude, under a sign. -/
def nearest (negative : Bool) (magnitude : ℚ) : Quantized :=
  ⟨negative, (Rounding.nearestEven (magnitude * 10 ^ 18)).toNat⟩

theorem nearest_eq
    {negative : Bool}
    {magnitude : ℚ}
    {units : Nat}
    (rounded : (units : ℤ) = Rounding.nearestEven (magnitude * 10 ^ 18)) :
    nearest negative magnitude = ⟨negative, units⟩ := by
  rw [nearest, ← rounded, Int.toNat_natCast]

/-- Whole numbers of units are not rounded. -/
theorem nearest_units
    (negative : Bool)
    (units : Nat) :
    nearest negative (units / 10 ^ 18) = ⟨negative, units⟩ := by
  apply nearest_eq
  rw [div_mul_cancel₀ _ (by norm_num), ← Int.cast_natCast (R := ℚ),
    Rounding.nearestEven_intCast]

theorem abs_signed (units : Quantized) :
    |(units.signed : ℚ)| = units.scaled := by
  unfold signed
  split_ifs <;> simp

theorem abs_value (units : Quantized) :
    |units.value| = units.scaled / 10 ^ 18 := by
  rw [value, abs_div, abs_signed, abs_of_nonneg (by positivity)]

theorem value_eq_zero_iff (units : Quantized) :
    units.value = 0 ↔ units.scaled = 0 := by
  rw [← abs_eq_zero, abs_value, div_eq_zero_iff]
  norm_num

theorem isBelowZero_eq_false_iff (units : Quantized) :
    units.isBelowZero = false ↔ 0 ≤ units.value := by
  have scale : (0 : ℚ) < 10 ^ 18 := by norm_num
  rw [value, le_div_iff₀ scale, zero_mul, isBelowZero, signed]
  cases units.negative <;> simp

/-- A number that is not below zero has the sign of its units. -/
theorem value_of_not_isBelowZero
    {units : Quantized}
    (unsigned : units.isBelowZero = false) :
    units.value = units.scaled / 10 ^ 18 := by
  rw [← abs_value, abs_of_nonneg ((isBelowZero_eq_false_iff _).1 unsigned)]

/-- Numbers that are not below zero are equal if their units are. -/
theorem value_eq_value_iff
    {left right : Quantized}
    (leftNonneg : 0 ≤ left.value)
    (rightNonneg : 0 ≤ right.value) :
    left.value = right.value ↔ left.scaled = right.scaled := by
  have scale : (10 : ℚ) ^ 18 ≠ 0 := by norm_num
  rw [← abs_of_nonneg leftNonneg, ← abs_of_nonneg rightNonneg, abs_value,
    abs_value, div_left_inj' scale, Nat.cast_inj]

theorem magnitude_toNumeral (units : Quantized) :
    units.toNumeral.magnitude = units.scaled / 10 ^ 18 :=
  Numeral.magnitude_places _ _ _

/-- An operand in exact arithmetic: it is refused for the same reasons, and
otherwise rounded to the nearest units. -/
def exactOfValue
    (operation : NumberOperation)
    (value : Value) :
    Except Failure Quantized :=
  match value.decimal? with
  | none => .error (value.worded (.notNumber operation))
  | some (.finite number) =>
    if isTooLarge number then .error (.magnitude operation value.shown)
    else .ok (nearest number.negative number.magnitude)
  | some _ => .error (.notFinite operation value.shown)

end Quantized

namespace Fixed

/-- The fixed-point number nearest to a value, in exact arithmetic. -/
def exactOfValue (value : Value) : Except Failure Fixed := do
  let units ← Quantized.exactOfValue .fix value
  units.fix

/-- The difference of two values, in exact arithmetic.  A difference of zero is
negative only if a negative zero loses a positive one. -/
def exactDifference (left right : Value) : Except Failure Fixed := do
  let minuend ← Quantized.exactOfValue .subtract left
  let subtrahend ← Quantized.exactOfValue .subtract right
  let difference := minuend.value - subtrahend.value
  let negative :=
    if difference = 0 then minuend.negative && !subtrahend.negative
    else decide (difference < 0)
  (Quantized.nearest negative |difference|).fix

/-- The product of two values, in exact arithmetic. -/
def exactProduct (left right : Value) : Except Failure Fixed := do
  let first ← Quantized.exactOfValue .multiply left
  let second ← Quantized.exactOfValue .multiply right
  (Quantized.nearest (first.negative != second.negative)
    |first.value * second.value|).fix

/-- The quotient of two values, in exact arithmetic. -/
def exactQuotient (left right : Value) : Except Failure Fixed := do
  let dividend ← Quantized.exactOfValue .divide left
  let divisor ← Quantized.exactOfValue .divide right
  if divisor.value = 0 then .error (.zeroDivisor right.shown)
  else
    (Quantized.nearest (dividend.negative != divisor.negative)
      (Scale.cutPlaces |dividend.value / divisor.value|)).fix

end Fixed

/-! ## Operations on units -/

namespace Quantized

/-- An operand that is not too large is rounded exactly. -/
theorem ofNumeral_eq_nearest
    {number : Numeral}
    (small : isTooLarge number = false) :
    ofNumeral number = .ok (nearest number.negative number.magnitude) := by
  rw [ofNumeral_of_not_isTooLarge small]
  congr 1
  refine (nearest_eq ?_).symm
  rw [Numeral.roundedAt_halfEven, Scale.div_pow_neg_places]

theorem ofValue_eq_exactOfValue
    (operation : NumberOperation)
    (value : Value) :
    ofValue operation value = exactOfValue operation value := by
  rw [ofValue, exactOfValue]
  cases value.decimal? with
  | none => rfl
  | some datum =>
      cases datum with
      | finite number =>
          dsimp only
          split_ifs with large
          · rfl
          · exact ofNumeral_eq_nearest (Bool.eq_false_iff.2 large)
      | infinite | nan => rfl

theorem value_sub_value (left right : Quantized) :
    left.value - right.value =
      (left.signed - right.signed : Int) / 10 ^ 18 := by
  rw [value, value, ← sub_div, Int.cast_sub]

theorem abs_value_sub_value (left right : Quantized) :
    |left.value - right.value| = ((left.minus right).scaled : ℚ) / 10 ^ 18 := by
  have scale : (0 : ℚ) < 10 ^ 18 := by norm_num
  rw [value_sub_value, abs_div, abs_of_pos scale, minus, Nat.cast_natAbs,
    Int.cast_abs]

theorem minus_eq_nearest (left right : Quantized) :
    left.minus right =
      nearest
        (if left.value - right.value = 0 then
          left.negative && !right.negative
        else decide (left.value - right.value < 0))
        |left.value - right.value| := by
  have scale : (0 : ℚ) < 10 ^ 18 := by norm_num
  rw [abs_value_sub_value, nearest_units, value_sub_value, minus]
  simp only [div_eq_zero_iff, scale.ne', or_false, Int.cast_eq_zero,
    div_lt_iff₀ scale, zero_mul, Int.cast_lt_zero]

theorem times_eq_nearest (left right : Quantized) :
    left.times right =
      nearest (left.negative != right.negative)
        |left.value * right.value| := by
  refine (nearest_eq ?_).symm
  rw [Rounding.divide_halfEven _ Scale.one_pos, Scale.cast_one, abs_mul,
    abs_value, abs_value]
  congr 1
  push_cast
  ring

/-- The integer quotient behind a division, cut at thirty-six places. -/
theorem cut_eq_floor (left right : Quantized) :
    (left.scaled * Scale.one ^ 2 / right.scaled : Nat) =
      ⌊|left.value / right.value| * 10 ^ 36⌋ := by
  have exactEq :
      |left.value / right.value| * 10 ^ 36 =
        (left.scaled * Scale.one ^ 2 : Nat) / (right.scaled : Nat) := by
    rw [abs_div, abs_value, abs_value]
    push_cast
    rw [Scale.cast_one]
    field_simp
  rw [exactEq, Rat.floor_natCast_div_natCast, Int.natCast_div]

theorem dividedBy_eq_nearest (left right : Quantized) :
    left.dividedBy right =
      nearest (left.negative != right.negative)
        (Scale.cutPlaces |left.value / right.value|) := by
  refine (nearest_eq ?_).symm
  rw [Rounding.divide_halfEven _ Scale.one_pos, Scale.cast_one,
    Scale.cutPlaces, ← cut_eq_floor, Int.cast_natCast]
  congr 1
  ring

end Quantized

/-! ## Numerals in the working space -/

namespace Numeral

/-- The numeral has that sign and that magnitude, and it leaves a digit of the
working space free. -/
structure Writes
    (negative : Bool)
    (magnitude : ℚ)
    (number : Numeral) :
    Prop where
  negative_eq : number.negative = negative
  magnitude_eq : number.magnitude = magnitude
  short : digitCount number.coefficient < Scale.workingDigits

theorem digitCount_lt_working
    {coefficient : Nat}
    (bounded : coefficient < 10 ^ (Scale.workingDigits - 1)) :
    digitCount coefficient < Scale.workingDigits := by
  have short := (digitCount_le_iff (by decide)).2 bounded
  exact short.trans_lt (by decide)

/-- Rounding at the scale is exact and gives a short numeral. -/
theorem exists_rounded
    {number : Numeral}
    (fits :
      number.roundedAt .halfEven (-Scale.places) <
        10 ^ (Scale.workingDigits - 1)) :
    ∃ rounded,
      number.quantize Scale.workingDigits .halfEven (-Scale.places) =
          some rounded ∧
        rounded.Writes number.negative
          (Scale.roundPlaces number.magnitude) := by
  refine ⟨_, quantize_of_lt Scale.workingDigits_pos
    (fits.trans_le Scale.working_le), rfl, ?_, digitCount_lt_working fits⟩
  rw [magnitude_places, Scale.roundPlaces, ← Scale.div_pow_neg_places,
    ← roundedAt_halfEven, Int.cast_natCast]
  rfl

theorem Writes.exists_rounded
    {negative : Bool}
    {magnitude : ℚ}
    {number : Numeral}
    (written : number.Writes negative magnitude)
    (coarser : number.exponent ≤ -Scale.places) :
    ∃ rounded,
      number.quantize Scale.workingDigits .halfEven (-Scale.places) =
          some rounded ∧
        rounded.Writes negative (Scale.roundPlaces magnitude) := by
  have bounded : number.coefficient < 10 ^ (Scale.workingDigits - 1) :=
    (digitCount_le_iff (by decide)).1 (Nat.le_sub_one_of_lt written.short)
  have rounds :=
    Numeral.exists_rounded (Quantized.roundedAt_lt_working coarser bounded)
  rwa [written.negative_eq, written.magnitude_eq] at rounds

end Numeral

namespace Quantized

section Results

variable
    {left right : Quantized}
    (leftBound : left.scaled < 10 ^ 120)

include leftBound

theorem writes_difference
    (rightBound : right.scaled < 10 ^ 120) :
    (Numeral.difference Scale.workingDigits .halfEven
        left.toNumeral right.toNumeral).Writes
      (if left.value - right.value = 0 then
        left.negative && !right.negative
      else decide (left.value - right.value < 0))
      |left.value - right.value| := by
  rw [difference_toNumeral leftBound rightBound]
  refine ⟨?_, ?_,
    Numeral.digitCount_lt_working (minus_lt_working leftBound rightBound)⟩
  · rw [minus_eq_nearest]
    rfl
  · rw [magnitude_toNumeral, abs_value_sub_value]

theorem writes_product
    (rightBound : right.scaled < 10 ^ 120) :
    (Numeral.product Scale.workingDigits .halfEven
        left.toNumeral right.toNumeral).Writes
      (left.negative != right.negative)
      |left.value * right.value| := by
  rw [product_toNumeral leftBound rightBound]
  refine ⟨rfl, ?_,
    Numeral.digitCount_lt_working (mul_lt_working leftBound rightBound)⟩
  change Numeral.magnitude ⟨_, _, -(Scale.quotientPlaces : Int)⟩ = _
  rw [Numeral.magnitude_places, abs_mul, abs_value, abs_value,
    Scale.quotientPlaces]
  push_cast
  ring

theorem exists_cut
    (nonzero : right.scaled ≠ 0) :
    ∃ cut : Numeral,
      (Numeral.quotientTowardZero Scale.workingDigits
          left.toNumeral right.toNumeral).quantize
          Scale.workingDigits .towardZero (-Scale.quotientPlaces) =
        some cut ∧
      cut.exponent = -Scale.quotientPlaces ∧
      cut.Writes (left.negative != right.negative)
        (Scale.cutPlaces |left.value / right.value|) := by
  refine ⟨_, quantize_quotient_toNumeral leftBound nonzero, rfl, rfl, ?_,
    Numeral.digitCount_lt_working (cut_lt_working leftBound)⟩
  rw [Numeral.magnitude_places, Scale.cutPlaces, ← cut_eq_floor,
    Int.cast_natCast]
  rfl

end Results

/-- What is formed in the working space from two operands is exact, and it is
short.  A quotient is formed in two steps; the first one leaves its leading
digits only. -/
structure WorksOut (left right : Quantized) : Prop where
  difference :
    (Numeral.difference Scale.workingDigits .halfEven
        left.toNumeral right.toNumeral).Writes
      (if left.value - right.value = 0 then
        left.negative && !right.negative
      else decide (left.value - right.value < 0))
      |left.value - right.value|
  product :
    (Numeral.product Scale.workingDigits .halfEven
        left.toNumeral right.toNumeral).Writes
      (left.negative != right.negative)
      |left.value * right.value|
  roundedProduct :
    ∃ rounded,
      (Numeral.product Scale.workingDigits .halfEven
          left.toNumeral right.toNumeral).quantize
          Scale.workingDigits .halfEven (-Scale.places) =
        some rounded ∧
      rounded.Writes (left.negative != right.negative)
        (Scale.roundPlaces |left.value * right.value|)
  leadingQuotient :
    right.scaled ≠ 0 →
      (Numeral.quotientTowardZero Scale.workingDigits
        left.toNumeral right.toNumeral).IsLeading Scale.workingDigits
          |left.value / right.value|
  cutQuotient :
    right.scaled ≠ 0 →
      ∃ cut,
        (Numeral.quotientTowardZero Scale.workingDigits
            left.toNumeral right.toNumeral).quantize
            Scale.workingDigits .towardZero (-Scale.quotientPlaces) =
          some cut ∧
        cut.Writes (left.negative != right.negative)
          (Scale.cutPlaces |left.value / right.value|) ∧
        ∃ rounded,
          cut.quantize Scale.workingDigits .halfEven (-Scale.places) =
            some rounded ∧
          rounded.Writes (left.negative != right.negative)
            (Scale.roundPlaces
              (Scale.cutPlaces |left.value / right.value|))

theorem worksOut
    {left right : Quantized}
    (leftBound : left.scaled < 10 ^ 120)
    (rightBound : right.scaled < 10 ^ 120) :
    WorksOut left right where
  difference := writes_difference leftBound rightBound
  product := writes_product leftBound rightBound
  roundedProduct := by
    refine (writes_product leftBound rightBound).exists_rounded ?_
    rw [product_toNumeral leftBound rightBound]
    change (-Scale.places + -Scale.places : Int) ≤ -Scale.places
    decide
  leadingQuotient := by
    intro nonzero
    have short : digitCount left.scaled ≤ Scale.workingDigits :=
      ((digitCount_le_iff (by decide)).2 leftBound).trans (by decide)
    have leading :
        (Numeral.quotientTowardZero Scale.workingDigits
          left.toNumeral right.toNumeral).IsLeading Scale.workingDigits
            (left.toNumeral.magnitude / right.toNumeral.magnitude) :=
      Numeral.isLeading_quotientTowardZero Scale.workingDigits_pos
        nonzero short
    rwa [magnitude_toNumeral, magnitude_toNumeral, ← abs_value, ← abs_value,
      ← abs_div] at leading
  cutQuotient := by
    intro nonzero
    obtain ⟨cut, quantized, places, written⟩ := exists_cut leftBound nonzero
    refine ⟨cut, quantized, written, written.exists_rounded ?_⟩
    rw [places]
    decide

/-! ## The operations -/

theorem family_of_ofValue_error
    {operation : NumberOperation}
    {value : Value}
    {failure : Failure}
    (failed : ofValue operation value = .error failure) :
    failure.family = .value ∨ failure.family = .budget := by
  rw [ofValue_eq_exactOfValue, exactOfValue] at failed
  split at failed
  · cases failed
    exact .inl (value.family_worded fun _ => rfl)
  · split_ifs at failed
    cases failed
    exact .inr rfl
  · cases failed
    exact .inl rfl

theorem family_of_fix_error
    {units : Quantized}
    {failure : Failure}
    (failed : units.fix = .error failure) :
    failure.family = .budget := by
  rw [fix] at failed
  split at failed <;> cases failed
  rfl

end Quantized

namespace Fixed

theorem ofValue_eq_exactOfValue (value : Value) :
    ofValue value = exactOfValue value := by
  rw [ofValue, exactOfValue, Quantized.ofValue_eq_exactOfValue]

section Operands

variable
    {operation : NumberOperation}
    {left right : Value}
    {attempt : Quantized → Quantized → Except Failure Fixed}

/-- An operation is known by what it does with admitted operands. -/
theorem eq_of_admitted
    {exactAttempt : Quantized → Quantized → Except Failure Fixed}
    (same :
      ∀ first second,
        Quantized.ofValue operation left = .ok first →
        Quantized.ofValue operation right = .ok second →
        attempt first second = exactAttempt first second) :
    (do
      let first ← Quantized.ofValue operation left
      let second ← Quantized.ofValue operation right
      attempt first second) =
    (do
      let first ← Quantized.exactOfValue operation left
      let second ← Quantized.exactOfValue operation right
      exactAttempt first second) := by
  rw [← Quantized.ofValue_eq_exactOfValue, ← Quantized.ofValue_eq_exactOfValue]
  cases firstEq : Quantized.ofValue operation left with
  | error failure => rfl
  | ok first =>
      cases secondEq : Quantized.ofValue operation right with
      | error failure => rfl
      | ok second => exact same first second firstEq secondEq

/-- A failure of an operation is one of an operand, unless both operands are
admitted. -/
theorem refused_or_admitted
    {failure : Failure}
    (failed :
      (do
        let first ← Quantized.ofValue operation left
        let second ← Quantized.ofValue operation right
        attempt first second) = .error failure) :
    (failure.family = .value ∨ failure.family = .budget) ∨
      ∃ first second,
        Quantized.ofValue operation left = .ok first ∧
          Quantized.ofValue operation right = .ok second := by
  rcases Failure.bind_eq_error_iff.1 failed with
    refused | ⟨first, firstAdmitted, failed⟩
  · exact .inl (Quantized.family_of_ofValue_error refused)
  rcases Failure.bind_eq_error_iff.1 failed with
    refused | ⟨second, secondAdmitted, -⟩
  · exact .inl (Quantized.family_of_ofValue_error refused)
  · exact .inr ⟨first, second, firstAdmitted, secondAdmitted⟩

end Operands

section Operations

variable (left right : Value)

theorem difference_eq_exactDifference :
    difference left right = exactDifference left right := by
  refine eq_of_admitted fun minuend subtrahend first second => ?_
  have exactly := difference_of_ok first second
  rw [difference, first, Failure.ok_bind, second, Failure.ok_bind] at exactly
  rw [exactly, Quantized.minus_eq_nearest]

theorem product_eq_exactProduct :
    product left right = exactProduct left right := by
  refine eq_of_admitted fun firstFactor secondFactor first second => ?_
  have exactly := product_of_ok first second
  rw [product, first, Failure.ok_bind, second, Failure.ok_bind] at exactly
  rw [exactly, Quantized.times_eq_nearest]

theorem quotient_eq_exactQuotient :
    quotient left right = exactQuotient left right := by
  refine eq_of_admitted fun dividend divisor first second => ?_
  have exactly := quotient_of_ok first second
  rw [quotient, first, Failure.ok_bind, second, Failure.ok_bind] at exactly
  rw [exactly, Quantized.dividedBy_eq_nearest]
  simp only [Quantized.value_eq_zero_iff]

variable
    {left right}
    {failure : Failure}

theorem family_of_ofValue_error
    {value : Value}
    (failed : ofValue value = .error failure) :
    failure.family = .value ∨ failure.family = .budget := by
  rcases Failure.bind_eq_error_iff.1 failed with refused | ⟨units, -, failed⟩
  · exact Quantized.family_of_ofValue_error refused
  · exact .inr (Quantized.family_of_fix_error failed)

theorem family_of_difference_error
    (failed : difference left right = .error failure) :
    failure.family = .value ∨ failure.family = .budget := by
  rcases refused_or_admitted failed with refused | ⟨_, _, first, second⟩
  · exact refused
  · rw [difference_of_ok first second] at failed
    exact .inr (Quantized.family_of_fix_error failed)

theorem family_of_product_error
    (failed : product left right = .error failure) :
    failure.family = .value ∨ failure.family = .budget := by
  rcases refused_or_admitted failed with refused | ⟨_, _, first, second⟩
  · exact refused
  · rw [product_of_ok first second] at failed
    exact .inr (Quantized.family_of_fix_error failed)

/-- A quotient also fails if the divisor is rounded to zero. -/
theorem family_of_quotient_error
    (failed : quotient left right = .error failure) :
    (failure.family = .value ∨ failure.family = .budget) ∨
      failure.family = .zeroDivision ∧
        ∃ divisor,
          Quantized.ofValue .divide right = .ok divisor ∧
            divisor.value = 0 := by
  rcases refused_or_admitted failed with refused | ⟨_, divisor, first, second⟩
  · exact .inl refused
  · rw [quotient_of_ok first second] at failed
    split_ifs at failed with zero
    · cases failed
      exact .inr ⟨rfl, divisor, second, divisor.value_eq_zero_iff.2 zero⟩
    · exact .inl (.inr (Quantized.family_of_fix_error failed))

end Operations

/-! ## The working space -/

/--
The working space is never felt.  An operand that passes the guard (a zero, or
a number whose first digit stands at most at the hundredth power of ten) is
rounded in it exactly, and differences, products and quotients of operands are
formed in it exactly, always with fewer digits than it has; for a quotient the
first four hundred digits are kept, and cutting these at thirty-six places cuts
the exact quotient there.  So each operation is the one of exact arithmetic, on
all values, and its failures are those of values and of the budget, and for a
quotient that of a zero divisor.
-/
theorem workingSpace_unfelt :
    (∀ (operation : NumberOperation) (value : Value) (number : Numeral),
      value.decimal? = some (.finite number) →
      number.coefficient = 0 ∨ number.adjusted ≤ Scale.operandPower →
      ∃ rounded,
        number.quantize Scale.workingDigits .halfEven (-Scale.places) =
          some rounded ∧
        rounded.Writes number.negative (Scale.roundPlaces number.magnitude) ∧
        Quantized.ofValue operation value =
          .ok ⟨rounded.negative, rounded.coefficient⟩) ∧
    (∀ (operation : NumberOperation) (left right : Value)
        (first second : Quantized),
      Quantized.ofValue operation left = .ok first →
      Quantized.ofValue operation right = .ok second →
      first.WorksOut second) ∧
    (∀ value, ofValue value = exactOfValue value) ∧
    (∀ left right,
      difference left right = exactDifference left right ∧
        product left right = exactProduct left right ∧
        quotient left right = exactQuotient left right) ∧
    (∀ value failure,
      ofValue value = .error failure →
      failure.family = .value ∨ failure.family = .budget) ∧
    (∀ left right failure,
      difference left right = .error failure ∨
        product left right = .error failure →
      failure.family = .value ∨ failure.family = .budget) ∧
    ∀ left right failure,
      quotient left right = .error failure →
      (failure.family = .value ∨ failure.family = .budget) ∨
        failure.family = .zeroDivision ∧
          ∃ divisor,
            Quantized.ofValue .divide right = .ok divisor ∧
              divisor.value = 0 := by
  refine ⟨?_, ?_, ofValue_eq_exactOfValue, ?_, ?_, ?_, ?_⟩
  · intro operation value number denotes guarded
    have small := (Quantized.isTooLarge_eq_false_iff_adjusted number).2 guarded
    have fits :=
      (Quantized.roundedAt_lt_of_not_isTooLarge small).trans_le
        (by decide +kernel :
          10 ^ 120 ≤ 10 ^ (Scale.workingDigits - 1))
    obtain ⟨rounded, quantized, written⟩ := Numeral.exists_rounded fits
    refine ⟨rounded, quantized, written, ?_⟩
    simp only [Quantized.ofValue, denotes, small, Bool.false_eq_true, if_false]
    rw [Quantized.ofNumeral, quantized]
  · intro operation left right first second leftAdmitted rightAdmitted
    exact Quantized.worksOut
      (Quantized.scaled_lt_of_ofValue leftAdmitted)
      (Quantized.scaled_lt_of_ofValue rightAdmitted)
  · intro left right
    exact ⟨difference_eq_exactDifference left right,
      product_eq_exactProduct left right, quotient_eq_exactQuotient left right⟩
  · intro value failure failed
    exact family_of_ofValue_error failed
  · rintro left right failure (failed | failed)
    · exact family_of_difference_error failed
    · exact family_of_product_error failed
  · intro left right failure failed
    exact family_of_quotient_error failed

/-- The greatest number with twenty fraction digits that is admitted.  It is
rounded up to the hundred and first power of ten. -/
def widest : Value :=
  .decimal (.finite ⟨false, 10 ^ 121 - 1, -20⟩)

/-- One unit of the last place. -/
def finest : Value :=
  .decimal (.finite ⟨false, 1, -18⟩)

/-- Half a unit of the last place below zero, which is rounded to zero. -/
def vanishing : Value :=
  .decimal (.finite ⟨true, 5, -19⟩)

/-- Even the widest operand, divided by the finest one, leaves the working space
unfelt: what stops the operations on it is the budget. -/
theorem workingSpace_unfelt_widest :
    (∃ rounded,
      Numeral.quantize Scale.workingDigits .halfEven (-Scale.places)
          ⟨false, 10 ^ 121 - 1, -20⟩ =
        some rounded ∧
      rounded.Writes false
        (Scale.roundPlaces (Numeral.magnitude ⟨false, 10 ^ 121 - 1, -20⟩)) ∧
      Quantized.ofValue .divide widest =
        .ok ⟨rounded.negative, rounded.coefficient⟩) ∧
    Quantized.WorksOut ⟨false, 10 ^ 119⟩ ⟨false, 1⟩ ∧
    exactQuotient widest finest = .error (.decimalBudget 456) ∧
    (∃ failure,
      ofValue widest = .error failure ∧
        (failure.family = .value ∨ failure.family = .budget)) ∧
    (∃ failure,
      product widest widest = .error failure ∧
        (failure.family = .value ∨ failure.family = .budget)) ∧
    ∃ divisor,
      Quantized.ofValue .divide vanishing = .ok divisor ∧
        divisor.value = 0 := by
  obtain ⟨operand, works, -, exactly, fixing, multiplying, dividing⟩ :=
    workingSpace_unfelt
  have fixFailed : ofValue widest = .error (.decimalBudget 396) := by
    decide +kernel
  have productFailed :
      product widest widest = .error (.decimalBudget 731) := by
    decide +kernel
  refine ⟨operand .divide widest _ rfl (.inr (by decide +kernel)),
    works .divide widest finest _ _ (by decide +kernel) (by decide +kernel),
    ?_, ⟨_, fixFailed, fixing widest _ fixFailed⟩,
    ⟨_, productFailed, multiplying widest widest _ (.inr productFailed)⟩, ?_⟩
  · rw [← (exactly widest finest).2.2]
    decide +kernel
  · rcases dividing widest vanishing (.zeroDivisor "-5E-19")
        (by decide +kernel) with (value | budget) | ⟨-, zero⟩
    · cases value
    · cases budget
    · exact zero

end Fixed

end Coinage
