import Coinage.Exchange
import Coinage.Proofs.Coin

/-!
# Applying a rate

A number of units is exchanged in two steps.  `onScale` is the amount on the
common scale, and `exchanged` is what it becomes in the other denomination; both
are natural numbers, rounded half to even.  Each step can end an exchange by its
budget, and between them stands the check for a divisor of zero.  The lemmas
below are the four outcomes, and no other is possible.
-/

namespace Coinage

/-- Only a unit size of zero can carry a sign. -/
theorem UnitSize.negative_eq_false
    {unit : UnitSize}
    (nonzero : unit.scaled ≠ 0) :
    unit.negative = false := by
  simpa [Quantized.isBelowZero, nonzero] using unit.notBelowZero

theorem UnitSize.value_eq (unit : UnitSize) :
    unit.value = unit.scaled / 10 ^ 18 :=
  Quantized.value_of_not_isBelowZero unit.notBelowZero

theorem UnitSize.value_inj {left right : UnitSize} :
    left.value = right.value ↔ left.scaled = right.scaled := by
  rw [left.value_eq, right.value_eq, div_left_inj' (by norm_num),
    Nat.cast_inj]

theorem UnitSize.value_pos_iff {unit : UnitSize} :
    0 < unit.value ↔ 0 < unit.scaled := by
  have scale : (0 : ℚ) < 10 ^ 18 := by norm_num
  rw [unit.value_eq, div_pos_iff_of_pos_right scale, Nat.cast_pos]

namespace Registry

/-- One unit of the last place. -/
def singleSize : UnitSize :=
  ⟨⟨⟨false, 1⟩, by decide +kernel⟩, rfl⟩

theorem rate_of_found
    {registry : Registry}
    {denom target : String}
    {source destination : UnitSize}
    (accepted : registry.rule.accepts target = true)
    (sourceFound : registry.unit? (.text denom) = some source)
    (destinationFound : registry.unit? (.text target) = some destination) :
    registry.rate denom (.text target) =
      .ok ⟨DenomRule.named accepted, source, destination⟩ := by
  rw [rate, DenomRule.check_of_accepts accepted, Failure.ok_bind,
    DenomRule.named_val, sourceFound, destinationFound]

/-- A rate is found exactly between two registered denominations. -/
theorem rate_eq_ok_iff
    {registry : Registry}
    {denom : String}
    {target : Value}
    {rate : Rate registry.rule} :
    registry.rate denom target = .ok rate ↔
      target = .text rate.target.val ∧
        registry.unit? (.text denom) = some rate.source ∧
        registry.unit? target = some rate.destination := by
  constructor
  · intro found
    obtain ⟨name, checked, looked⟩ := Failure.bind_eq_ok_iff.1 found
    rw [DenomRule.check_eq_ok_iff] at checked
    subst checked
    split at looked
    · cases looked
    · cases looked
    · rename_i source destination sourceFound destinationFound
      cases looked
      exact ⟨rfl, sourceFound, destinationFound⟩
  · rintro ⟨rfl, sourceFound, destinationFound⟩
    exact rate_of_found rate.target.property sourceFound destinationFound

/-- The other name is judged before anything else. -/
theorem rate_of_check_error
    {registry : Registry}
    {target : Value}
    {failure : Failure}
    (denom : String)
    (refused : registry.rule.check target = .error failure) :
    registry.rate denom target = .error failure := by
  rw [rate, refused, Failure.error_bind]

/-- Only an accepted name has a unit size. -/
theorem accepts_of_unit?
    {registry : Registry}
    {name : String}
    {unit : UnitSize}
    (found : registry.unit? (.text name) = some unit) :
    registry.rule.accepts name = true := by
  rw [unit?] at found
  split_ifs at found with accepted
  exact accepted

/-- Without a rate there is a failure of the domain, if the rule copes with the
name of the other denomination. -/
theorem isAbsorbed_of_rate_error
    {registry : Registry}
    {denom : String}
    {target : Value}
    {failure : Failure}
    (copes : registry.rule.CopesWith target)
    (failed : registry.rate denom target = .error failure) :
    failure.isAbsorbed = true := by
  rw [rate] at failed
  cases checked : registry.rule.check target with
  | error refused =>
      rw [checked, Failure.error_bind] at failed
      cases failed
      exact copes _ checked
  | ok name =>
      rw [checked, Failure.ok_bind] at failed
      split at failed <;> cases failed <;> rfl

namespace Rate

variable {rule : DenomRule}

/-- A number of units on the common scale. -/
def onScale (rate : Rate rule) (scaled : Nat) : Nat :=
  Rounding.halfEven.divide (scaled * rate.source.scaled) Scale.one

/-- A number of units in the other denomination. -/
def exchanged (rate : Rate rule) (scaled : Nat) : Nat :=
  Rounding.halfEven.divide
    (rate.onScale scaled * Scale.one ^ 2 / rate.destination.scaled)
    Scale.one

/-- A rate between different sizes turns so many units into a number within the
budget. -/
structure Applies (rate : Rate rule) (scaled : Nat) : Prop where
  onScale_lt : rate.onScale scaled < 2 ^ Scale.decimalBits
  destination_ne_zero : rate.destination.scaled ≠ 0
  exchanged_lt : rate.exchanged scaled < 2 ^ Scale.decimalBits

/-- A rate serves for so many units: the sizes are equal, so that nothing is
computed, or it applies. -/
def Serves (rate : Rate rule) (scaled : Nat) : Prop :=
  rate.source.scaled = rate.destination.scaled ∨ rate.Applies scaled

/-- What so many units become in an exchange: between equal sizes they are
copied. -/
def received (rate : Rate rule) (scaled : Nat) : Nat :=
  if rate.source.scaled = rate.destination.scaled then scaled
  else rate.exchanged scaled

theorem received_of_same_size
    {rate : Rate rule}
    (same : rate.source.scaled = rate.destination.scaled)
    (scaled : Nat) :
    rate.received scaled = scaled :=
  if_pos same

theorem received_of_different_sizes
    {rate : Rate rule}
    (different : rate.source.scaled ≠ rate.destination.scaled)
    (scaled : Nat) :
    rate.received scaled = rate.exchanged scaled :=
  if_neg different

/-- A product that is a whole number of units is not rounded. -/
theorem onScale_of_exact
    {rate : Rate rule}
    {scaled product : Nat}
    (exact : scaled * rate.source.scaled = product * Scale.one) :
    rate.onScale scaled = product := by
  rw [onScale, exact, Rounding.divide_halfEven_mul _ Scale.one_pos]

/-- A quotient that is a whole number of units is neither cut nor rounded. -/
theorem exchanged_of_exact
    {rate : Rate rule}
    {scaled quotient : Nat}
    (positive : 0 < rate.destination.scaled)
    (exact :
      rate.onScale scaled * Scale.one =
        quotient * rate.destination.scaled) :
    rate.exchanged scaled = quotient := by
  have divided :
      rate.onScale scaled * Scale.one ^ 2 / rate.destination.scaled =
        quotient * Scale.one := by
    rw [sq, ← Nat.mul_assoc, exact, Nat.mul_right_comm,
      Nat.mul_div_cancel _ positive]
  rw [exchanged, divided, Rounding.divide_halfEven_mul _ Scale.one_pos]

/-- Where the product is a whole number of units and the other size divides it,
the quotient is received, be it computed or copied. -/
theorem received_of_exact
    {rate : Rate rule}
    {scaled quotient : Nat}
    (positive : 0 < rate.destination.scaled)
    (onScaleEq :
      rate.onScale scaled * Scale.one = scaled * rate.source.scaled)
    (exact :
      scaled * rate.source.scaled = quotient * rate.destination.scaled) :
    rate.received scaled = quotient := by
  by_cases same : rate.source.scaled = rate.destination.scaled
  · rw [same] at exact
    rw [received_of_same_size same]
    exact Nat.eq_of_mul_eq_mul_right positive exact
  · rw [received_of_different_sizes same]
    exact exchanged_of_exact positive (onScaleEq.trans exact)

/-- The amount on the common scale is the exact product, rounded half to
even. -/
theorem onScale_eq_nearestEven
    (rate : Rate rule)
    (scaled : Nat) :
    (rate.onScale scaled : ℤ) =
      Rounding.nearestEven (scaled * rate.source.scaled / 10 ^ 18) := by
  rw [onScale, Rounding.divide_halfEven _ Scale.one_pos, Scale.cast_one,
    Nat.cast_mul]

theorem apply_of_ok
    {rate : Rate rule}
    {amount : Value}
    {units : Quantized}
    (admitted : Quantized.ofValue .multiply amount = .ok units) :
    rate.apply amount =
      (units.times rate.source.toQuantized).fix >>= fun onScale =>
        if rate.destination.scaled = 0 then
          .error (.zeroDivisor rate.destination.toValue.shown)
        else
          (onScale.toQuantized.dividedBy rate.destination.toQuantized).fix := by
  rw [apply, Fixed.product_of_ok admitted
    (Fixed.quantized_toValue .multiply rate.source.toFixed)]
  congr 1
  funext onScale
  exact Fixed.quotient_of_ok
    (Fixed.quantized_toValue .divide onScale)
    (Fixed.quantized_toValue .divide rate.destination.toFixed)

section Outcomes

variable
    {rate : Rate rule}
    {amount : Value}
    {units : Quantized}

/-- The amount on the common scale exceeds the budget. -/
theorem apply_of_onScale_ge
    (admitted : Quantized.ofValue .multiply amount = .ok units)
    (exceeds : 2 ^ Scale.decimalBits ≤ rate.onScale units.scaled) :
    rate.apply amount =
      .error (.decimalBudget
        (Scale.bitLength (rate.onScale units.scaled))) := by
  rw [apply_of_ok admitted, Quantized.fix_of_ge exceeds, Failure.error_bind]
  rfl

/-- The other unit has the size zero. -/
theorem apply_of_destination_zero
    (admitted : Quantized.ofValue .multiply amount = .ok units)
    (fits : rate.onScale units.scaled < 2 ^ Scale.decimalBits)
    (zero : rate.destination.scaled = 0) :
    rate.apply amount =
      .error (.zeroDivisor rate.destination.toValue.shown) := by
  rw [apply_of_ok admitted, Quantized.fix_of_lt fits, Failure.ok_bind,
    if_pos zero]

/-- The result exceeds the budget. -/
theorem apply_of_exchanged_ge
    (admitted : Quantized.ofValue .multiply amount = .ok units)
    (fits : rate.onScale units.scaled < 2 ^ Scale.decimalBits)
    (nonzero : rate.destination.scaled ≠ 0)
    (exceeds : 2 ^ Scale.decimalBits ≤ rate.exchanged units.scaled) :
    rate.apply amount =
      .error (.decimalBudget
        (Scale.bitLength (rate.exchanged units.scaled))) := by
  rw [apply_of_ok admitted, Quantized.fix_of_lt fits, Failure.ok_bind,
    if_neg nonzero, Quantized.fix_of_ge exceeds]
  rfl

/-- A zero unit of the source leaves nothing, so a result has no sign but
possibly that of zero. -/
theorem not_isBelowZero_exchanged
    (unsigned : units.negative = false)
    (nonzero : rate.destination.scaled ≠ 0) :
    ((units.times rate.source.toQuantized).dividedBy
      rate.destination.toQuantized).isBelowZero = false := by
  by_cases sourceZero : rate.source.scaled = 0
  · have nothing :
        ((units.times rate.source.toQuantized).dividedBy
          rate.destination.toQuantized).scaled = 0 := by
      simp [Quantized.dividedBy, Quantized.times, sourceZero, Scale.one]
    simp [Quantized.isBelowZero, nothing]
  · have sourceSign := UnitSize.negative_eq_false sourceZero
    have destinationSign := UnitSize.negative_eq_false nonzero
    simp [Quantized.isBelowZero, Quantized.dividedBy, Quantized.times, unsigned,
      sourceSign, destinationSign]

/-- The exchange succeeds, and its result is not below zero. -/
theorem apply_of_exchanged_lt
    (admitted : Quantized.ofValue .multiply amount = .ok units)
    (unsigned : units.negative = false)
    (onScaleFits : rate.onScale units.scaled < 2 ^ Scale.decimalBits)
    (nonzero : rate.destination.scaled ≠ 0)
    (fits : rate.exchanged units.scaled < 2 ^ Scale.decimalBits) :
    ∃ number : Fixed,
      rate.apply amount = .ok number ∧
        number.scaled = rate.exchanged units.scaled ∧
        number.isBelowZero = false := by
  refine ⟨⟨(units.times rate.source.toQuantized).dividedBy
    rate.destination.toQuantized, fits⟩, ?_, rfl,
    not_isBelowZero_exchanged unsigned nonzero⟩
  rw [apply_of_ok admitted, Quantized.fix_of_lt onScaleFits,
    Failure.ok_bind, if_neg nonzero, Quantized.fix_of_lt fits]

/-- There is no other outcome. -/
theorem apply_cases
    (rate : Rate rule)
    (admitted : Quantized.ofValue .multiply amount = .ok units)
    (unsigned : units.negative = false) :
    (rate.Applies units.scaled ∧
      ∃ number : Fixed,
        rate.apply amount = .ok number ∧
          number.scaled = rate.exchanged units.scaled ∧
          number.isBelowZero = false) ∨
    (¬ rate.Applies units.scaled ∧
      ∃ bits, rate.apply amount = .error (.decimalBudget bits)) ∨
    (¬ rate.Applies units.scaled ∧
      ∃ shown, rate.apply amount = .error (.zeroDivisor shown)) := by
  rcases le_or_gt (2 ^ Scale.decimalBits) (rate.onScale units.scaled) with
    exceeds | onScaleFits
  · exact .inr (.inl
      ⟨fun applies => exceeds.not_gt applies.onScale_lt,
        _, apply_of_onScale_ge admitted exceeds⟩)
  by_cases zero : rate.destination.scaled = 0
  · exact .inr (.inr
      ⟨fun applies => applies.destination_ne_zero zero,
        _, apply_of_destination_zero admitted onScaleFits zero⟩)
  rcases le_or_gt (2 ^ Scale.decimalBits) (rate.exchanged units.scaled) with
    exceeds | fits
  · exact .inr (.inl
      ⟨fun applies => exceeds.not_gt applies.exchanged_lt,
        _, apply_of_exchanged_ge admitted onScaleFits zero exceeds⟩)
  · exact .inl
      ⟨⟨onScaleFits, zero, fits⟩,
        apply_of_exchanged_lt admitted unsigned onScaleFits zero fits⟩

end Outcomes

/-! ## Whole results -/

/-- Cutting the exchanged units to a whole number is one truncation of the
quotient, raised by half a unit of the last place. -/
theorem floor_exchanged
    (rate : Rate rule)
    (scaled : Nat) :
    ((rate.exchanged scaled / Scale.one : Nat) : Int) =
      ⌊(rate.onScale scaled : ℚ) / rate.destination.scaled +
        1 / (2 * 10 ^ 18)⌋ := by
  have floored :=
    Rounding.floor_roundedQuotient (rate.onScale scaled)
      rate.destination.scaled Scale.one_pos Scale.even_one
  rw [Scale.cast_one] at floored
  exact floored

/-- A bound is reached by a truncated raised quotient if what is divided is at
most half a unit of the last place short of it, for each unit of the divisor. -/
theorem le_floor_raised_iff
    {worth : ℚ}
    {size : Nat}
    (positive : 0 < size)
    {bound : Int} :
    bound ≤ ⌊worth / size + 1 / (2 * 10 ^ 18)⌋ ↔
      (bound * size : ℚ) ≤ worth + size / (2 * 10 ^ 18) := by
  have scale : (0 : ℚ) < size := by exact_mod_cast positive
  have raised :
      (worth / size + 1 / (2 * 10 ^ 18)) * size =
        worth + size / (2 * 10 ^ 18) := by
    field_simp
  rw [Int.le_floor, ← raised, mul_le_mul_iff_left₀ scale]

/-- A unit below two is too small for the raise to reach the next integer. -/
theorem floor_raised
    (numerator : Nat)
    {denominator : Nat}
    (positive : 0 < denominator)
    (small : denominator < 2 * 10 ^ 18) :
    ⌊(numerator : ℚ) / denominator + 1 / (2 * 10 ^ 18)⌋ =
      ⌊(numerator : ℚ) / denominator⌋ := by
  have scale : (0 : ℚ) < denominator := by exact_mod_cast positive
  have smallCast : (denominator : ℚ) < 2 * 10 ^ 18 := by
    exact_mod_cast small
  refine eq_of_forall_le_iff fun bound => ?_
  rw [Int.le_floor, Int.le_floor]
  constructor
  · intro raised
    rw [le_div_iff₀ scale]
    -- Both sides are integers, and they differ by less than one.
    have close :
        (bound * denominator : ℚ) < numerator + 1 := by
      have scaled :
          (bound : ℚ) * denominator ≤
            numerator + denominator / (2 * 10 ^ 18) := by
        calc
          (bound : ℚ) * denominator ≤
              ((numerator : ℚ) / denominator + 1 / (2 * 10 ^ 18)) *
                denominator :=
            mul_le_mul_of_nonneg_right raised scale.le
          _ = numerator + denominator / (2 * 10 ^ 18) := by
            field_simp
      have fraction : (denominator : ℚ) / (2 * 10 ^ 18) < 1 := by
        rw [div_lt_one (by norm_num)]
        exact smallCast
      linarith
    have integral : bound * denominator < (numerator : Int) + 1 := by
      exact_mod_cast close
    exact_mod_cast Int.lt_add_one_iff.1 integral
  · intro reached
    have raise : (0 : ℚ) ≤ 1 / (2 * 10 ^ 18) := by norm_num
    linarith

end Rate

end Registry

end Coinage
