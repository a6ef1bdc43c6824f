import Coinage.Proofs.Exchange.Rate

/-!
# Exchanging whole coins

An exchange between different unit sizes rounds three times before it cuts the
result to an integer.  For a whole coin the product is exact, and the rest is
one truncation of the exact quotient, raised by half a unit of the last place.
`exchange_whole` says for every registry and every coin which of the possible
outcomes occurs.
-/

namespace Coinage.Registry

/-- A quotient in units of `10 ^ (-18)`: cut at thirty-six places, then rounded
half to even at eighteen. -/
def roundedQuotient (numerator denominator : Nat) : Int :=
  Rounding.nearestEven
    (⌊(numerator * 10 ^ 36 : ℚ) / denominator⌋ / 10 ^ 18)

variable {registry : Registry}

theorem exchanged_eq_roundedQuotient
    {rule : DenomRule}
    (rate : Rate rule)
    (scaled : Nat) :
    (rate.exchanged scaled : Int) =
      roundedQuotient (rate.onScale scaled) rate.destination.scaled := by
  have floorEq :
      ⌊(rate.onScale scaled * 10 ^ 36 : ℚ) / rate.destination.scaled⌋ =
        (rate.onScale scaled * Scale.one ^ 2 / rate.destination.scaled :
          Nat) := by
    rw [Int.natCast_div, ← Rat.floor_natCast_div_natCast]
    norm_num [Scale.one, Scale.places]
  rw [Rate.exchanged, Rounding.divide_halfEven _ Scale.one_pos,
    Scale.cast_one, roundedQuotient, floorEq, Int.cast_natCast]

/-- The product of a whole amount with a unit size is exact. -/
theorem Rate.onScale_whole
    {rule : DenomRule}
    (rate : Rate rule)
    (amount : Nat) :
    rate.onScale (amount * Scale.one) = amount * rate.source.scaled := by
  rw [Rate.onScale, Nat.mul_right_comm,
    Rounding.divide_halfEven_mul _ Scale.one_pos]

/-- Once the rate is known, an exchange copies the amount or applies the
rate. -/
theorem exchange_of_rate
    {holding : Holding}
    {target : Value}
    {rate : Rate registry.rule}
    (found : registry.rate holding.denom target = .ok rate) :
    registry.exchange holding target =
      if rate.source.scaled = rate.destination.scaled then
        Coin.make registry.rule (.text rate.target.val) holding.amount
      else
        rate.apply holding.amount >>= fun exchanged =>
          Coin.make registry.rule (.text rate.target.val)
            (.integer exchanged.integerPart) := by
  rw [exchange, found, Failure.ok_bind]

theorem exchange_of_rate_error
    {holding : Holding}
    {target : Value}
    {failure : Failure}
    (failed : registry.rate holding.denom target = .error failure) :
    registry.exchange holding target = .error failure := by
  rw [exchange, failed, Failure.error_bind]

/-- A coin received has the name that was asked for and the rule of the
registry. -/
theorem named_of_exchange
    {holding : Holding}
    {target : Value}
    {result : Coin}
    (exchanged : registry.exchange holding target = .ok result) :
    target = .text result.denom ∧ result.rule = registry.rule := by
  obtain ⟨rate, found, made⟩ := Failure.bind_eq_ok_iff.1 exchanged
  rw [(rate_eq_ok_iff.1 found).1]
  split_ifs at made with same
  · exact Coin.named_of_make made
  · obtain ⟨number, -, made⟩ := Failure.bind_eq_ok_iff.1 made
    exact Coin.named_of_make made

section Outcomes

variable
    {coin : Coin}
    {target : Value}
    {rate : Rate registry.rule}

theorem exchange_whole_of_same_size
    (found : registry.rate coin.denom target = .ok rate)
    (same : rate.source.scaled = rate.destination.scaled) :
    Coin.Makes registry.rule rate.target.val coin.amount
      (registry.exchange (.whole coin) target) := by
  refine ⟨⟨registry.rule, rate.target.val, coin.amount,
    rate.target.property, coin.withinBudget⟩, ?_, rfl, rfl, rfl⟩
  rw [exchange_of_rate found, if_pos same]
  exact Coin.make_of_accepts rate.target.property coin.withinBudget

/-- A failure to apply the rate is the failure of the exchange. -/
theorem exchange_whole_of_apply_error
    {failure : Failure}
    (found : registry.rate coin.denom target = .ok rate)
    (different : rate.source.scaled ≠ rate.destination.scaled)
    (failed : rate.apply (.integer coin.amount) = .error failure) :
    registry.exchange (.whole coin) target = .error failure := by
  rw [exchange_of_rate found, if_neg different]
  change (rate.apply (.integer coin.amount) >>= _) = _
  rw [failed, Failure.error_bind]

/-- A number of units in the other denomination makes a coin: its whole part is
within the budget of amounts. -/
theorem exchange_whole_of_apply_ok
    {number : Fixed}
    (found : registry.rate coin.denom target = .ok rate)
    (different : rate.source.scaled ≠ rate.destination.scaled)
    (applied : rate.apply (.integer coin.amount) = .ok number)
    (scaledEq :
      number.scaled = rate.exchanged (coin.amount * Scale.one))
    (unsigned : number.isBelowZero = false) :
    Coin.Makes registry.rule rate.target.val
      ⌊(coin.amount * rate.source.scaled : ℚ) / rate.destination.scaled +
        1 / (2 * 10 ^ 18)⌋
      (registry.exchange (.whole coin) target) := by
  have floored := rate.floor_exchanged (coin.amount * Scale.one)
  rw [rate.onScale_whole, ← scaledEq] at floored
  push_cast at floored
  have wholeFits := Scale.wholePart_lt number.withinBudget
  refine ⟨⟨registry.rule, rate.target.val, _, rate.target.property,
    wholeFits⟩, ?_, rfl, rfl, by exact_mod_cast floored⟩
  rw [exchange_of_rate found, if_neg different]
  change (rate.apply (.integer coin.amount) >>= _) = _
  rw [applied, Failure.ok_bind,
    Quantized.integerPart_of_not_isBelowZero unsigned]
  exact Coin.make_of_accepts rate.target.property wholeFits

/-- The amount on the common scale exceeds the budget. -/
theorem exchange_whole_of_onScale_ge
    (found : registry.rate coin.denom target = .ok rate)
    (different : rate.source.scaled ≠ rate.destination.scaled)
    (exceeds : 2 ^ Scale.decimalBits ≤ coin.amount * rate.source.scaled) :
    registry.exchange (.whole coin) target =
      .error (.decimalBudget
        (Scale.bitLength (coin.amount * rate.source.scaled))) := by
  rw [← rate.onScale_whole] at exceeds ⊢
  exact exchange_whole_of_apply_error found different
    (Rate.apply_of_onScale_ge (coin.quantized_amount .multiply) exceeds)

variable
    (onScaleFits :
      coin.amount * rate.source.scaled < 2 ^ Scale.decimalBits)

include onScaleFits

/-- The other unit has the size zero. -/
theorem exchange_whole_of_destination_zero
    (found : registry.rate coin.denom target = .ok rate)
    (different : rate.source.scaled ≠ rate.destination.scaled)
    (zero : rate.destination.scaled = 0) :
    registry.exchange (.whole coin) target =
      .error (.zeroDivisor rate.destination.toValue.shown) := by
  rw [← rate.onScale_whole] at onScaleFits
  exact exchange_whole_of_apply_error found different
    (Rate.apply_of_destination_zero (coin.quantized_amount .multiply)
      onScaleFits zero)

/-- The result exceeds the budget. -/
theorem exchange_whole_of_exchanged_ge
    (found : registry.rate coin.denom target = .ok rate)
    (different : rate.source.scaled ≠ rate.destination.scaled)
    (nonzero : rate.destination.scaled ≠ 0)
    (exceeds :
      2 ^ Scale.decimalBits ≤ rate.exchanged (coin.amount * Scale.one)) :
    registry.exchange (.whole coin) target =
      .error (.decimalBudget
        (Scale.bitLength (rate.exchanged (coin.amount * Scale.one)))) := by
  rw [← rate.onScale_whole] at onScaleFits
  have admitted := coin.quantized_amount .multiply
  have failed :=
    Rate.apply_of_exchanged_ge admitted onScaleFits nonzero exceeds
  exact exchange_whole_of_apply_error found different failed

/-- The result is within the budget. -/
theorem exchange_whole_of_exchanged_lt
    (found : registry.rate coin.denom target = .ok rate)
    (different : rate.source.scaled ≠ rate.destination.scaled)
    (nonzero : rate.destination.scaled ≠ 0)
    (fits :
      rate.exchanged (coin.amount * Scale.one) < 2 ^ Scale.decimalBits) :
    Coin.Makes registry.rule rate.target.val
      ⌊(coin.amount * rate.source.scaled : ℚ) / rate.destination.scaled +
        1 / (2 * 10 ^ 18)⌋
      (registry.exchange (.whole coin) target) := by
  rw [← rate.onScale_whole] at onScaleFits
  obtain ⟨number, applied, scaledEq, unsigned⟩ :=
    Rate.apply_of_exchanged_lt (coin.quantized_amount .multiply) rfl
      onScaleFits nonzero fits
  exact exchange_whole_of_apply_ok found different applied scaledEq unsigned

omit onScaleFits

/-- There is no other outcome than a coin, an exceeded budget of decimals and a
divisor of zero. -/
theorem exchange_whole_cases
    (found : registry.rate coin.denom target = .ok rate) :
    (rate.source.scaled = rate.destination.scaled ∧
      Coin.Makes registry.rule rate.target.val coin.amount
        (registry.exchange (.whole coin) target)) ∨
    (rate.source.scaled ≠ rate.destination.scaled ∧
      rate.Applies (coin.amount * Scale.one) ∧
      Coin.Makes registry.rule rate.target.val
        ⌊(coin.amount * rate.source.scaled : ℚ) / rate.destination.scaled +
          1 / (2 * 10 ^ 18)⌋
        (registry.exchange (.whole coin) target)) ∨
    (¬ rate.Serves (coin.amount * Scale.one) ∧
      ∃ bits,
        registry.exchange (.whole coin) target =
          .error (.decimalBudget bits)) ∨
    (¬ rate.Serves (coin.amount * Scale.one) ∧
      ∃ shown,
        registry.exchange (.whole coin) target =
          .error (.zeroDivisor shown)) := by
  by_cases same : rate.source.scaled = rate.destination.scaled
  · exact .inl ⟨same, exchange_whole_of_same_size found same⟩
  right
  rcases rate.apply_cases (coin.quantized_amount .multiply) rfl with
    ⟨applies, number, applied, scaledEq, unsigned⟩ |
      ⟨fails, bits, failed⟩ | ⟨fails, shown, failed⟩
  · exact .inl
      ⟨same, applies,
        exchange_whole_of_apply_ok found same applied scaledEq unsigned⟩
  · exact .inr (.inl
      ⟨not_or.2 ⟨same, fails⟩, bits,
        exchange_whole_of_apply_error found same failed⟩)
  · exact .inr (.inr
      ⟨not_or.2 ⟨same, fails⟩, shown,
        exchange_whole_of_apply_error found same failed⟩)

/-- Where a rate serves, the amount becomes the whole part of what it makes of
its units. -/
theorem exchange_whole_of_serves
    (found : registry.rate coin.denom target = .ok rate)
    (serves : rate.Serves (coin.amount * Scale.one)) :
    Coin.Makes registry.rule rate.target.val
      (rate.received (coin.amount * Scale.one) / Scale.one : Nat)
      (registry.exchange (.whole coin) target) := by
  rcases exchange_whole_cases found with
    ⟨same, made⟩ | ⟨different, -, made⟩ | ⟨fails, -⟩ | ⟨fails, -⟩
  · rwa [Rate.received_of_same_size same, Nat.mul_div_cancel _ Scale.one_pos]
  · rw [Rate.received_of_different_sizes different, rate.floor_exchanged,
      rate.onScale_whole, Nat.cast_mul]
    exact made
  · exact absurd serves fails
  · exact absurd serves fails

theorem serves_of_exchange_whole
    {result : Coin}
    (found : registry.rate coin.denom target = .ok rate)
    (exchanged : registry.exchange (.whole coin) target = .ok result) :
    rate.Serves (coin.amount * Scale.one) := by
  rcases exchange_whole_cases found with
    ⟨same, -⟩ | ⟨-, applies, -⟩ | ⟨-, _, failed⟩ | ⟨-, _, failed⟩
  · exact .inl same
  · exact .inr applies
  · rw [exchanged] at failed
    cases failed
  · rw [exchanged] at failed
    cases failed

/-- A coin received has the amount given, or what the rate makes of it. -/
theorem amount_cases_of_exchange
    {result : Coin}
    (found : registry.rate coin.denom target = .ok rate)
    (exchanged : registry.exchange (.whole coin) target = .ok result) :
    (rate.source.scaled = rate.destination.scaled ∧
      result.amount = coin.amount) ∨
    (rate.source.scaled ≠ rate.destination.scaled ∧
      (result.amount : Int) =
        ⌊(coin.amount * rate.source.scaled : ℚ) / rate.destination.scaled +
          1 / (2 * 10 ^ 18)⌋) := by
  rcases exchange_whole_cases found with
    ⟨same, made⟩ | ⟨different, -, made⟩ | ⟨-, _, failed⟩ | ⟨-, _, failed⟩
  · exact .inl ⟨same, Int.ofNat_inj.1 (made.amount_eq exchanged)⟩
  · exact .inr ⟨different, made.amount_eq exchanged⟩
  · rw [exchanged] at failed
    cases failed
  · rw [exchanged] at failed
    cases failed

theorem amount_of_exchange_same_size
    {result : Coin}
    (found : registry.rate coin.denom target = .ok rate)
    (same : rate.source.scaled = rate.destination.scaled)
    (exchanged : registry.exchange (.whole coin) target = .ok result) :
    result.amount = coin.amount :=
  Int.ofNat_inj.1
    ((exchange_whole_of_same_size found same).amount_eq exchanged)

/-- Where the other unit is below two, the amount is the whole part of the exact
quotient. -/
theorem amount_of_exchange_whole
    {result : Coin}
    (found : registry.rate coin.denom target = .ok rate)
    (nonzero : rate.destination.scaled ≠ 0)
    (small : rate.destination.scaled < 2 * 10 ^ 18)
    (exchanged : registry.exchange (.whole coin) target = .ok result) :
    (result.amount : Int) =
      ⌊(coin.amount * rate.source.scaled : ℚ) /
        rate.destination.scaled⌋ := by
  have scale : (rate.destination.scaled : ℚ) ≠ 0 := by
    exact_mod_cast nonzero
  have unraised :=
    Rate.floor_raised (coin.amount * rate.source.scaled)
      (Nat.pos_of_ne_zero nonzero) small
  push_cast at unraised
  rcases amount_cases_of_exchange found exchanged with
    ⟨same, amountEq⟩ | ⟨-, amountEq⟩
  · rw [amountEq, same, mul_div_cancel_right₀ _ scale, Int.floor_natCast]
  · rw [amountEq, unraised]

/-- The budget of amounts never ends an exchange. -/
theorem exchange_whole_ne_integerBudget
    (found : registry.rate coin.denom target = .ok rate)
    (bits : Nat) :
    registry.exchange (.whole coin) target ≠
      .error (.integerBudget bits) := by
  intro failed
  rcases exchange_whole_cases found with
    ⟨-, made⟩ | ⟨-, -, made⟩ | ⟨-, _, other⟩ | ⟨-, _, other⟩
  · exact made.ne_error _ failed
  · exact made.ne_error _ failed
  · rw [failed] at other
    cases other
  · rw [failed] at other
    cases other

end Outcomes

/--
The outcome of exchanging a whole coin of `a` units, where `S` and `D` are the
two unit sizes in units of `10 ^ (-18)`.  Between equal sizes the amount is
copied.  Otherwise the exchange fails by its budget if `a * S` is too large, by
a zero divisor if `D` is zero, or by its budget if the rounded quotient is too
large; else it gives the coin of `⌊a * S / D + 1 / (2 * 10 ^ 18)⌋` units.  The
raise plays no part if the other unit is below two, and the budget of amounts is
never exceeded.
-/
theorem exchange_whole
    (registry : Registry)
    (coin : Coin)
    (target : String)
    (source destination : UnitSize)
    (accepted : registry.rule.accepts target = true)
    (sourceFound : registry.unit? (.text coin.denom) = some source)
    (destinationFound : registry.unit? (.text target) = some destination) :
    (source.scaled = destination.scaled →
      Coin.Makes registry.rule target coin.amount
        (registry.exchange (.whole coin) (.text target))) ∧
    (source.scaled ≠ destination.scaled →
      (2 ^ 315 ≤ coin.amount * source.scaled →
        registry.exchange (.whole coin) (.text target) =
          .error (.decimalBudget
            (Scale.bitLength (coin.amount * source.scaled)))) ∧
      (coin.amount * source.scaled < 2 ^ 315 →
        destination.scaled = 0 →
        registry.exchange (.whole coin) (.text target) =
          .error (.zeroDivisor destination.toValue.shown)) ∧
      (coin.amount * source.scaled < 2 ^ 315 →
        destination.scaled ≠ 0 →
        2 ^ 315 ≤ roundedQuotient (coin.amount * source.scaled)
          destination.scaled →
        registry.exchange (.whole coin) (.text target) =
          .error (.decimalBudget
            (Scale.bitLength
              (roundedQuotient (coin.amount * source.scaled)
                destination.scaled).toNat))) ∧
      (coin.amount * source.scaled < 2 ^ 315 →
        destination.scaled ≠ 0 →
        roundedQuotient (coin.amount * source.scaled)
          destination.scaled < 2 ^ 315 →
        Coin.Makes registry.rule target
          ⌊(coin.amount * source.scaled : ℚ) / destination.scaled +
            1 / (2 * 10 ^ 18)⌋
          (registry.exchange (.whole coin) (.text target)))) ∧
    (destination.scaled ≠ 0 →
      destination.scaled < 2 * 10 ^ 18 →
      ∀ result,
        registry.exchange (.whole coin) (.text target) = .ok result →
        (result.amount : Int) =
          ⌊(coin.amount * source.scaled : ℚ) / destination.scaled⌋) ∧
    ∀ bits,
      registry.exchange (.whole coin) (.text target) ≠
        .error (.integerBudget bits) := by
  have found := rate_of_found accepted sourceFound destinationFound
  generalize rateEq :
    (⟨DenomRule.named accepted, source, destination⟩ :
      Rate registry.rule) = rate at found
  obtain ⟨rfl, rfl, rfl⟩ :
      target = rate.target.val ∧
        source = rate.source ∧ destination = rate.destination := by
    subst rateEq
    exact ⟨rfl, rfl, rfl⟩
  have quotientEq :
      roundedQuotient (coin.amount * rate.source.scaled)
          rate.destination.scaled =
        rate.exchanged (coin.amount * Scale.one) := by
    rw [exchanged_eq_roundedQuotient, rate.onScale_whole]
  rw [show (2 : Nat) ^ 315 = 2 ^ Scale.decimalBits by
    rw [Scale.decimalBits]]
  rw [show (2 : Int) ^ 315 = (2 ^ Scale.decimalBits : Nat) by
    rw [Scale.decimalBits, Nat.cast_pow, Nat.cast_ofNat]]
  rw [quotientEq, Int.toNat_natCast]
  refine ⟨exchange_whole_of_same_size found, fun different => ?_, ?_, ?_⟩
  · refine ⟨exchange_whole_of_onScale_ge found different,
      fun onScaleFits zero => ?_, fun onScaleFits nonzero exceeds => ?_,
      fun onScaleFits nonzero fits => ?_⟩
    · exact exchange_whole_of_destination_zero onScaleFits found different
        zero
    · exact exchange_whole_of_exchanged_ge onScaleFits found different
        nonzero (by exact_mod_cast exceeds)
    · exact exchange_whole_of_exchanged_lt onScaleFits found different
        nonzero (by exact_mod_cast fits)
  · exact fun nonzero small result exchanged =>
      amount_of_exchange_whole found nonzero small exchanged
  · exact exchange_whole_ne_integerBudget found

/-- A registry in which a fine unit is the last place and the base is four
whole. -/
def fineAndCoarse : Registry :=
  ((empty .standard).register (.text "fine")
    (.text "0.000000000000000001") (.text "coarse") (.text "4")).registry

/-- A coin that is one fine unit short of a coarse one. -/
def almostCoarse : Coin :=
  ⟨.standard, "fine", 4 * 10 ^ 18 - 1, by decide, by decide +kernel⟩

/-- The raise reaches the next integer here. -/
theorem exchange_almostCoarse :
    Coin.Makes fineAndCoarse.rule "coarse" 1
      (fineAndCoarse.exchange (.whole almostCoarse) (.text "coarse")) := by
  have outcome :=
    exchange_whole fineAndCoarse almostCoarse "coarse"
      ⟨⟨⟨false, 1⟩, by decide +kernel⟩, rfl⟩
      ⟨⟨⟨false, 4 * 10 ^ 18⟩, by decide +kernel⟩, rfl⟩
      (by decide) (by decide +kernel) (by decide +kernel)
  have made :=
    (outcome.2.1 (by decide)).2.2.2 (by decide +kernel) (by decide)
      (by decide +kernel)
  have raised :
      ⌊((4 * 10 ^ 18 - 1 : Nat) * (1 : Nat) : ℚ) / (4 * 10 ^ 18 : Nat) +
        1 / (2 * 10 ^ 18)⌋ = 1 := by
    decide +kernel
  rwa [almostCoarse, raised] at made

end Coinage.Registry
