import Coinage.Proofs.Exchange.Decimal
import Coinage.Proofs.Fixed.Product
import Coinage.Proofs.Fixed.Quotient

/-!
# The accuracy of exchanging decimal coins

The amount received is the exact one up to three roundings.  The product with
the size of the coin's own unit is off by at most half a unit of the last place,
and the division passes this on, greater the smaller the other unit is.  To it
the quotient adds what is cut off and another half unit.

Two numbers of units of the last place are equal if they are less than one unit
apart, so where both exact numbers are such the roundings are without effect.
This is so for every amount if the size of its unit is a whole number and a
multiple of the other size, and then it is so on the way back as well: the
number on the common scale is the one that was within the budget before.
-/

namespace Coinage

/-! ## Numbers of units -/

/-- A number that is so many units of the last place. -/
def Scale.IsIntegral (number : ℚ) : Prop :=
  ∃ units : ℤ, number = units / 10 ^ 18

/-- Different numbers of units are at least one unit apart. -/
theorem Scale.IsIntegral.eq_of_close
    {left right : ℚ}
    (leftIntegral : IsIntegral left)
    (rightIntegral : IsIntegral right)
    (close : |left - right| < 1 / 10 ^ 18) :
    left = right := by
  obtain ⟨leftUnits, rfl⟩ := leftIntegral
  obtain ⟨rightUnits, rfl⟩ := rightIntegral
  have scale : (0 : ℚ) < 10 ^ 18 := by norm_num
  rw [← sub_div, abs_div, abs_of_pos scale,
    div_lt_div_iff_of_pos_right scale] at close
  have unitsClose : |leftUnits - rightUnits| < 1 := by
    exact_mod_cast close
  rw [sub_eq_zero.1 (Int.abs_lt_one_iff.1 unitsClose)]

namespace Quantized

theorem isIntegral_value (units : Quantized) :
    Scale.IsIntegral units.value :=
  ⟨units.signed, rfl⟩

section Roundings

variable {amount source destination : Quantized}

theorem times_value_of_isIntegral
    (integral : Scale.IsIntegral (amount.value * source.value)) :
    (amount.times source).value = amount.value * source.value := by
  have near := abs_times_value_sub_le amount source
  exact (isIntegral_value _).eq_of_close integral
    (near.trans_lt (by norm_num))

theorem dividedBy_value_of_isIntegral
    (integral : Scale.IsIntegral (amount.value / destination.value)) :
    (amount.dividedBy destination).value =
      amount.value / destination.value := by
  have near := abs_dividedBy_value_sub_le amount destination
  exact (isIntegral_value _).eq_of_close integral
    (near.trans_lt (by norm_num))

/-- A product that is divided brings along its own rounding, divided alike. -/
theorem abs_times_dividedBy_value_sub_le
    (amount source : Quantized)
    (positive : 0 < destination.value) :
    |((amount.times source).dividedBy destination).value -
        amount.value * source.value / destination.value| ≤
      1 / (2 * 10 ^ 18) / destination.value + 1 / (2 * 10 ^ 18) +
        1 / 10 ^ 36 := by
  have quotient :=
    abs_dividedBy_value_sub_le (amount.times source) destination
  have product :
      |(amount.times source).value / destination.value -
          amount.value * source.value / destination.value| ≤
        1 / (2 * 10 ^ 18) / destination.value := by
    rw [← sub_div, abs_div, abs_of_pos positive]
    exact div_le_div_of_nonneg_right (abs_times_value_sub_le _ _)
      positive.le
  have together :=
    (abs_sub_le _ _ _).trans (add_le_add quotient product)
  linarith

end Roundings

end Quantized

namespace Registry

/-! ## Whole multiples -/

namespace Rate

variable {rule : DenomRule}

/-- The rate of the way back. -/
def back (rate : Rate rule) (origin : rule.Name) : Rate rule :=
  ⟨origin, rate.destination, rate.source⟩

theorem back_target
    (rate : Rate rule)
    (origin : rule.Name) :
    (rate.back origin).target = origin :=
  rfl

/-- The unit exchanged is a whole number, and so many times the other one. -/
structure IsMultiple
    (rate : Rate rule)
    (whole count : Nat) :
    Prop where
  source_whole : rate.source.scaled = whole * Scale.one
  source_multiple : rate.source.scaled = count * rate.destination.scaled
  counted : 1 ≤ count
  positive : 0 < rate.destination.scaled

namespace IsMultiple

variable
    {rate : Rate rule}
    {whole count : Nat}
    (multiple : rate.IsMultiple whole count)

include multiple

theorem source_pos : 0 < rate.source.scaled := by
  rw [multiple.source_multiple]
  exact Nat.mul_pos multiple.counted multiple.positive

theorem onScale_mul_one (scaled : Nat) :
    rate.onScale scaled * Scale.one = scaled * rate.source.scaled := by
  have exact :
      scaled * rate.source.scaled = scaled * whole * Scale.one := by
    rw [multiple.source_whole, Nat.mul_assoc]
  rw [onScale_of_exact exact, exact]

theorem worth_eq (scaled : Nat) :
    scaled * rate.source.scaled =
      scaled * count * rate.destination.scaled := by
  rw [multiple.source_multiple, Nat.mul_assoc]

theorem received_eq (scaled : Nat) :
    rate.received scaled = scaled * count :=
  received_of_exact multiple.positive (multiple.onScale_mul_one scaled)
    (multiple.worth_eq scaled)

section Back

variable
    {scaled : Nat}
    (origin : rule.Name)

/-- Both ways meet on the common scale. -/
theorem onScale_back_eq :
    (rate.back origin).onScale (scaled * count) = rate.onScale scaled := by
  apply onScale_of_exact
  rw [multiple.onScale_mul_one, multiple.worth_eq]
  rfl

theorem onScale_back_mul_one :
    (rate.back origin).onScale (scaled * count) * Scale.one =
      scaled * (rate.back origin).destination.scaled := by
  rw [multiple.onScale_back_eq]
  exact multiple.onScale_mul_one scaled

theorem received_back_eq :
    (rate.back origin).received (scaled * count) = scaled := by
  have worth :
      scaled * count * (rate.back origin).source.scaled =
        scaled * (rate.back origin).destination.scaled :=
    (multiple.worth_eq scaled).symm
  exact received_of_exact multiple.source_pos
    ((multiple.onScale_back_mul_one origin).trans worth.symm) worth

/-- The way back computes with numbers that were within the budget before. -/
theorem serves_back
    (serves : rate.Serves scaled)
    (fits : scaled < 2 ^ Scale.decimalBits) :
    (rate.back origin).Serves (scaled * count) := by
  rcases serves with same | applies
  · exact .inl same.symm
  · have exchangedEq :
        (rate.back origin).exchanged (scaled * count) = scaled :=
      exchanged_of_exact multiple.source_pos
        (multiple.onScale_back_mul_one origin)
    exact .inr
      ⟨(multiple.onScale_back_eq origin).trans_lt applies.onScale_lt,
        multiple.source_pos.ne', exchangedEq.trans_lt fits⟩

end Back

end IsMultiple

end Rate

/-- What the values of two sizes say of their units. -/
theorem Rate.isMultiple_of_value
    {rule : DenomRule}
    {rate : Rate rule}
    {whole count : Nat}
    (counted : 1 ≤ count)
    (positive : 0 < rate.destination.value)
    (sourceWhole : rate.source.value = whole)
    (sourceMultiple :
      rate.source.value = count * rate.destination.value) :
    rate.IsMultiple whole count := by
  have scale : (10 ^ 18 : ℚ) ≠ 0 := by norm_num
  refine ⟨?_, ?_, counted, UnitSize.value_pos_iff.1 positive⟩
  · rw [UnitSize.value_eq, div_eq_iff scale, ← Scale.cast_one]
      at sourceWhole
    exact_mod_cast sourceWhole
  · rw [UnitSize.value_eq, UnitSize.value_eq, ← mul_div_assoc,
      div_left_inj' scale] at sourceMultiple
    exact_mod_cast sourceMultiple

/-! ## Exchanges -/

/-- A rate is found in the other direction as well. -/
theorem rate_back
    {registry : Registry}
    {denom target : String}
    {rate : Rate registry.rule}
    (found : registry.rate denom (.text target) = .ok rate) :
    ∃ origin : registry.rule.Name,
      origin.val = denom ∧
        registry.rate target (.text denom) = .ok (rate.back origin) := by
  obtain ⟨-, sourceFound, destinationFound⟩ := rate_eq_ok_iff.1 found
  have accepted := accepts_of_unit? sourceFound
  exact ⟨DenomRule.named accepted, DenomRule.named_val accepted,
    rate_of_found accepted destinationFound sourceFound⟩

section Exchanges

variable
    {registry : Registry}
    {given received : DecimalCoin}
    {target : Value}
    {rate : Rate registry.rule}
    (found : registry.rate given.denom target = .ok rate)
    (exchanged :
      registry.exchangeDecimal (.fractional given) target = .ok received)

include found exchanged

/-- Between different units nothing is exchanged into a unit of zero. -/
theorem destination_ne_zero_of_exchangeDecimal
    (different : rate.source.scaled ≠ rate.destination.scaled) :
    rate.destination.scaled ≠ 0 :=
  ((serves_of_exchangeDecimal found exchanged).resolve_left
    different).destination_ne_zero

theorem value_of_exchangeDecimal
    (different : rate.source.scaled ≠ rate.destination.scaled) :
    received.amount.value =
      ((given.amount.times rate.source.toQuantized).dividedBy
        rate.destination.toQuantized).value := by
  have nonzero :=
    destination_ne_zero_of_exchangeDecimal found exchanged different
  have scaledEq :=
    (scaled_cases_of_exchangeDecimal found exchanged).resolve_left
      fun copied => different copied.1
  rw [received.value_amount, scaledEq.2,
    Quantized.value_of_not_isBelowZero
      (Rate.not_isBelowZero_exchanged given.unsigned nonzero)]
  rfl

/-- Into a divisor the number of units is multiplied, and on the way back it is
divided again. -/
theorem exchangeDecimal_of_isMultiple
    {whole count : Nat}
    (multiple : rate.IsMultiple whole count) :
    received.amount.scaled = given.amount.scaled * count ∧
      DecimalCoin.Makes registry.rule given.denom given.amount.scaled
        (registry.exchangeDecimal (.fractional received)
          (.text given.denom)) := by
  have serves := serves_of_exchangeDecimal found exchanged
  have scaledEq :
      received.amount.scaled = rate.received given.amount.scaled :=
    (exchangeDecimal_of_serves found serves).amount_eq exchanged
  rw [multiple.received_eq] at scaledEq
  rw [(named_of_exchangeDecimal exchanged).1] at found
  obtain ⟨origin, originEq, backFound⟩ := rate_back found
  have backServes :=
    multiple.serves_back origin serves given.amount.withinBudget
  rw [← scaledEq] at backServes
  have returned := exchangeDecimal_of_serves backFound backServes
  rw [Rate.back_target, originEq, scaledEq,
    multiple.received_back_eq origin] at returned
  exact ⟨scaledEq, returned⟩

end Exchanges

/--
How exactly a decimal coin is exchanged.  Between different units the other one
is above zero, and the amount received differs from the exact one by at most half
a unit of the last place divided by that unit, another half unit, and one unit of
the thirty-sixth place.  It is exact wherever the exact product and the exact
quotient are numbers of units of the last place.  If the unit of the coin is a
whole number and `count` times the other one, and not both are zero, the amount
is multiplied by `count`, and the exchange back succeeds and returns it.
-/
theorem exchangeDecimal_accuracy
    (registry : Registry)
    (given received : DecimalCoin)
    (target : Value)
    (source destination : UnitSize)
    (sourceFound : registry.unit? (.text given.denom) = some source)
    (destinationFound : registry.unit? target = some destination)
    (exchanged :
      registry.exchangeDecimal (.fractional given) target = .ok received) :
    (source.value ≠ destination.value →
      0 < destination.value ∧
        |received.amount.value -
            given.amount.value * source.value / destination.value| ≤
          1 / (2 * 10 ^ 18) / destination.value + 1 / (2 * 10 ^ 18) +
            1 / 10 ^ 36 ∧
        (Scale.IsIntegral (given.amount.value * source.value) →
          Scale.IsIntegral
            (given.amount.value * source.value / destination.value) →
          received.amount.value =
            given.amount.value * source.value / destination.value)) ∧
    ∀ whole count : Nat,
      1 ≤ count →
      source.value ≠ destination.value ∨ 0 < destination.value →
      source.value = whole →
      source.value = count * destination.value →
      received.amount.value = count * given.amount.value ∧
        ∃ returned,
          registry.exchangeDecimal (.fractional received)
              (.text given.denom) = .ok returned ∧
            returned.denom = given.denom ∧
            returned.amount = given.amount := by
  obtain ⟨rate, found, -⟩ := Failure.bind_eq_ok_iff.1 exchanged
  obtain ⟨-, sourceKnown, destinationKnown⟩ := rate_eq_ok_iff.1 found
  cases sourceKnown.symm.trans sourceFound
  cases destinationKnown.symm.trans destinationFound
  have positive_of_ne :
      rate.source.value ≠ rate.destination.value →
        0 < rate.destination.value := by
    intro valuesDiffer
    have different := UnitSize.value_inj.not.1 valuesDiffer
    exact UnitSize.value_pos_iff.2 (Nat.pos_of_ne_zero
      (destination_ne_zero_of_exchangeDecimal found exchanged different))
  constructor
  · intro valuesDiffer
    have different := UnitSize.value_inj.not.1 valuesDiffer
    have positive := positive_of_ne valuesDiffer
    rw [value_of_exchangeDecimal found exchanged different]
    refine ⟨positive,
      Quantized.abs_times_dividedBy_value_sub_le _ _ positive, ?_⟩
    intro productIntegral quotientIntegral
    have product := Quantized.times_value_of_isIntegral productIntegral
    rw [← product] at quotientIntegral ⊢
    exact Quantized.dividedBy_value_of_isIntegral quotientIntegral
  · intro whole count counted sizes sourceWhole sourceMultiple
    have positive : 0 < rate.destination.value :=
      sizes.elim positive_of_ne id
    have multiple :=
      Rate.isMultiple_of_value counted positive sourceWhole sourceMultiple
    obtain ⟨scaledEq, returned, back, -, denomEq, returnedEq⟩ :=
      exchangeDecimal_of_isMultiple found exchanged multiple
    refine ⟨?_, returned, back, denomEq, ?_⟩
    · rw [received.value_amount, given.value_amount, scaledEq,
        Nat.cast_mul]
      ring
    · exact Fixed.eq_of_scaled
        (returned.unsigned.trans given.unsigned.symm) returnedEq

/-- A registry in which one unit is five whole, and the others are seven units
of the last place and one. -/
def fiveAndFine : Registry :=
  (((empty .standard).register (.text "five") (.text "5")
    (.text "fine") (.text "0.000000000000000001")).registry.register
    (.text "seven") (.text "0.000000000000000007")
    (.text "fine") (.text "0.000000000000000001")).registry

/-- Five whole. -/
def fiveSize : UnitSize :=
  ⟨⟨⟨false, 5 * 10 ^ 18⟩, by decide +kernel⟩, rfl⟩

/-- Seven units of the last place. -/
def sevenFineSize : UnitSize :=
  ⟨⟨⟨false, 7⟩, by decide +kernel⟩, rfl⟩

/-- One and a quarter of five whole. -/
def fiveQuarters : DecimalCoin :=
  ⟨.standard, "five", ⟨⟨false, 125 * 10 ^ 16⟩, by decide +kernel⟩,
    by decide, rfl⟩

/-- Four tenths of seven fine units. -/
def fourTenths : DecimalCoin :=
  ⟨.standard, "seven", ⟨⟨false, 4 * 10 ^ 17⟩, by decide +kernel⟩,
    by decide, rfl⟩

/-- Four tenths of seven fine units become three of them, one fifth of a unit too
much.  One and a quarter of five whole are multiplied by `5 * 10 ^ 18`, and come
back. -/
theorem exchangeDecimal_accuracy_fine :
    (∃ received,
      fiveAndFine.exchangeDecimal (.fractional fourTenths)
          (.text "fine") = .ok received ∧
        received.amount.value = 3 ∧
        |received.amount.value -
            fourTenths.amount.value * sevenFineSize.value /
              singleSize.value| ≤
          1 / (2 * 10 ^ 18) / singleSize.value + 1 / (2 * 10 ^ 18) +
            1 / 10 ^ 36) ∧
    ∃ received,
      fiveAndFine.exchangeDecimal (.fractional fiveQuarters)
          (.text "fine") = .ok received ∧
        received.amount.value =
          (5 * 10 ^ 18 : Nat) * fiveQuarters.amount.value ∧
        ∃ returned,
          fiveAndFine.exchangeDecimal (.fractional received)
              (.text "five") = .ok returned ∧
            returned.denom = "five" ∧
            returned.amount = fiveQuarters.amount := by
  have scaledEq :
      (fiveAndFine.exchangeDecimal (.fractional fourTenths)
          (.text "fine") >>=
        fun received => Except.ok received.amount.scaled) =
        .ok (3 * 10 ^ 18) := by
    decide +kernel
  have wholeEq :
      (fiveAndFine.exchangeDecimal (.fractional fiveQuarters)
          (.text "fine") >>=
        fun received => Except.ok received.amount.scaled) =
        .ok (625 * 10 ^ 34) := by
    decide +kernel
  obtain ⟨small, smallExchanged, scaledEq⟩ :=
    Failure.bind_eq_ok_iff.1 scaledEq
  obtain ⟨great, greatExchanged, -⟩ := Failure.bind_eq_ok_iff.1 wholeEq
  have smallEq : small.amount.scaled = 3 * 10 ^ 18 :=
    Except.ok.inj scaledEq
  have fineEq : singleSize.value = 1 / 10 ^ 18 := by
    rw [UnitSize.value_eq, singleSize, Nat.cast_one]
  have fiveEq : fiveSize.value = 5 := by
    rw [UnitSize.value_eq, fiveSize]
    norm_num
  obtain ⟨accurate, -⟩ :=
    exchangeDecimal_accuracy fiveAndFine fourTenths small (.text "fine")
      sevenFineSize singleSize (by decide +kernel) (by decide +kernel)
      smallExchanged
  obtain ⟨-, multiplied⟩ :=
    exchangeDecimal_accuracy fiveAndFine fiveQuarters great (.text "fine")
      fiveSize singleSize (by decide +kernel) (by decide +kernel)
      greatExchanged
  have different : sevenFineSize.value ≠ singleSize.value :=
    UnitSize.value_inj.not.2 (by decide)
  obtain ⟨-, bound, -⟩ := accurate different
  obtain ⟨greatEq, back⟩ :=
    multiplied 5 (5 * 10 ^ 18) (by norm_num)
      (.inl (UnitSize.value_inj.not.2 (by decide)))
      (by rw [fiveEq]; norm_num) (by rw [fiveEq, fineEq]; norm_num)
  refine ⟨⟨small, smallExchanged, ?_, bound⟩, great, greatExchanged, greatEq,
    back⟩
  rw [small.value_amount, smallEq]
  norm_num

end Registry

end Coinage
