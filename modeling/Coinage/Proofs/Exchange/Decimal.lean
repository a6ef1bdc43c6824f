import Coinage.Proofs.Exchange.Rate

/-!
# Exchanging decimal coins

For a decimal coin the product with its unit size is itself rounded, so the
exact value of a coin passes through two half-even roundings before its fraction
is dropped.  The first one works on the common scale: it can lift the value to
the next multiple of the other unit, but no further.
-/

namespace Coinage.Registry

variable {registry : Registry}

/-! ## Outcomes -/

/-- Once the rate is known, an exchange copies the amount or applies the
rate. -/
theorem exchangeDecimal_of_rate
    {holding : Holding}
    {target : Value}
    {rate : Rate registry.rule}
    (found : registry.rate holding.denom target = .ok rate) :
    registry.exchangeDecimal holding target =
      if rate.source.scaled = rate.destination.scaled then
        DecimalCoin.make registry.rule (.text rate.target.val) holding.amount
      else
        rate.apply holding.amount >>= fun exchanged =>
          DecimalCoin.make registry.rule (.text rate.target.val)
            exchanged.toValue := by
  rw [exchangeDecimal, found, Failure.ok_bind]

theorem exchangeDecimal_of_rate_error
    {holding : Holding}
    {target : Value}
    {failure : Failure}
    (failed : registry.rate holding.denom target = .error failure) :
    registry.exchangeDecimal holding target = .error failure := by
  rw [exchangeDecimal, failed, Failure.error_bind]

/-- A coin received has the name that was asked for and the rule of the
registry. -/
theorem named_of_exchangeDecimal
    {holding : Holding}
    {target : Value}
    {result : DecimalCoin}
    (exchanged : registry.exchangeDecimal holding target = .ok result) :
    target = .text result.denom ∧ result.rule = registry.rule := by
  obtain ⟨rate, found, made⟩ := Failure.bind_eq_ok_iff.1 exchanged
  rw [(rate_eq_ok_iff.1 found).1]
  split_ifs at made with same
  · exact DecimalCoin.named_of_make made
  · obtain ⟨number, -, made⟩ := Failure.bind_eq_ok_iff.1 made
    exact DecimalCoin.named_of_make made

section Outcomes

variable
    {coin : DecimalCoin}
    {target : Value}
    {rate : Rate registry.rule}

theorem exchangeDecimal_of_same_size
    (found : registry.rate coin.denom target = .ok rate)
    (same : rate.source.scaled = rate.destination.scaled) :
    DecimalCoin.Makes registry.rule rate.target.val coin.amount.scaled
      (registry.exchangeDecimal (.fractional coin) target) := by
  rw [exchangeDecimal_of_rate found, if_pos same]
  exact DecimalCoin.makes_toValue rate.target.property
    coin.isBelowZero_amount

/-- A failure to apply the rate is the failure of the exchange. -/
theorem exchangeDecimal_of_apply_error
    {failure : Failure}
    (found : registry.rate coin.denom target = .ok rate)
    (different : rate.source.scaled ≠ rate.destination.scaled)
    (failed : rate.apply coin.amount.toValue = .error failure) :
    registry.exchangeDecimal (.fractional coin) target = .error failure := by
  rw [exchangeDecimal_of_rate found, if_neg different]
  change (rate.apply coin.amount.toValue >>= _) = _
  rw [failed, Failure.error_bind]

/-- A number of units in the other denomination makes a decimal coin. -/
theorem exchangeDecimal_of_apply_ok
    {number : Fixed}
    (found : registry.rate coin.denom target = .ok rate)
    (different : rate.source.scaled ≠ rate.destination.scaled)
    (applied : rate.apply coin.amount.toValue = .ok number)
    (unsigned : number.isBelowZero = false) :
    DecimalCoin.Makes registry.rule rate.target.val number.scaled
      (registry.exchangeDecimal (.fractional coin) target) := by
  have exchanged :
      registry.exchangeDecimal (.fractional coin) target =
        DecimalCoin.make registry.rule (.text rate.target.val)
          number.toValue := by
    rw [exchangeDecimal_of_rate found, if_neg different]
    change (rate.apply coin.amount.toValue >>= _) = _
    rw [applied, Failure.ok_bind]
  rw [exchanged]
  exact DecimalCoin.makes_toValue rate.target.property unsigned

/-- Once the rate is known, an exchange makes a coin or fails for a reason that
leaves a coin as it is when its base denomination is sought. -/
theorem exchangeDecimal_cases
    (found : registry.rate coin.denom target = .ok rate) :
    (rate.source.scaled = rate.destination.scaled ∧
      DecimalCoin.Makes registry.rule rate.target.val coin.amount.scaled
        (registry.exchangeDecimal (.fractional coin) target)) ∨
    (rate.source.scaled ≠ rate.destination.scaled ∧
      rate.Applies coin.amount.scaled ∧
      DecimalCoin.Makes registry.rule rate.target.val
        (rate.exchanged coin.amount.scaled)
        (registry.exchangeDecimal (.fractional coin) target)) ∨
    (¬ rate.Serves coin.amount.scaled ∧
      ∃ failure,
        failure.isAbsorbed = true ∧
          registry.exchangeDecimal (.fractional coin) target =
            .error failure) := by
  by_cases same : rate.source.scaled = rate.destination.scaled
  · exact .inl ⟨same, exchangeDecimal_of_same_size found same⟩
  right
  rcases rate.apply_cases (Fixed.quantized_toValue .multiply coin.amount)
      coin.unsigned with
    ⟨applies, number, applied, scaledEq, unsigned⟩ |
      ⟨fails, bits, failed⟩ | ⟨fails, shown, failed⟩
  · rw [← scaledEq]
    exact .inl
      ⟨same, applies,
        exchangeDecimal_of_apply_ok found same applied unsigned⟩
  · exact .inr
      ⟨not_or.2 ⟨same, fails⟩, _, rfl,
        exchangeDecimal_of_apply_error found same failed⟩
  · exact .inr
      ⟨not_or.2 ⟨same, fails⟩, _, rfl,
        exchangeDecimal_of_apply_error found same failed⟩

/-- Where a rate serves, the units become what it makes of them. -/
theorem exchangeDecimal_of_serves
    (found : registry.rate coin.denom target = .ok rate)
    (serves : rate.Serves coin.amount.scaled) :
    DecimalCoin.Makes registry.rule rate.target.val
      (rate.received coin.amount.scaled)
      (registry.exchangeDecimal (.fractional coin) target) := by
  rcases exchangeDecimal_cases found with
    ⟨same, made⟩ | ⟨different, -, made⟩ | ⟨fails, -⟩
  · rwa [Rate.received_of_same_size same]
  · rwa [Rate.received_of_different_sizes different]
  · exact absurd serves fails

theorem serves_of_exchangeDecimal
    {result : DecimalCoin}
    (found : registry.rate coin.denom target = .ok rate)
    (exchanged :
      registry.exchangeDecimal (.fractional coin) target = .ok result) :
    rate.Serves coin.amount.scaled := by
  rcases exchangeDecimal_cases found with
    ⟨same, -⟩ | ⟨-, applies, -⟩ | ⟨-, _, -, failed⟩
  · exact .inl same
  · exact .inr applies
  · rw [exchanged] at failed
    cases failed

/-- A decimal coin received has the units given, or what the rate makes of
them. -/
theorem scaled_cases_of_exchangeDecimal
    {result : DecimalCoin}
    (found : registry.rate coin.denom target = .ok rate)
    (exchanged :
      registry.exchangeDecimal (.fractional coin) target = .ok result) :
    (rate.source.scaled = rate.destination.scaled ∧
      result.amount.scaled = coin.amount.scaled) ∨
    (rate.source.scaled ≠ rate.destination.scaled ∧
      result.amount.scaled = rate.exchanged coin.amount.scaled) := by
  rcases exchangeDecimal_cases found with
    ⟨same, made⟩ | ⟨different, -, made⟩ | ⟨-, _, -, failed⟩
  · exact .inl ⟨same, made.amount_eq exchanged⟩
  · exact .inr ⟨different, made.amount_eq exchanged⟩
  · rw [exchanged] at failed
    cases failed

end Outcomes

/-! ## Lifting -/

section Lifting

variable
    {exact : ℚ}
    {onScale size : Nat}
    (rounds : Rounding.IsNearestEven exact onScale)
    (positive : 0 < size)

include rounds positive

/-- Rounding on the common scale does not lower the whole part. -/
theorem floor_le_floor_raised :
    ⌊exact / size⌋ ≤ ⌊(onScale : ℚ) / size + 1 / (2 * 10 ^ 18)⌋ := by
  have scale : (0 : ℚ) < size := by exact_mod_cast positive
  have reached : (⌊exact / size⌋ * size : ℤ) ≤ (onScale : ℤ) := by
    apply rounds.le_of_le
    push_cast
    exact (le_div_iff₀ scale).1 (Int.floor_le _)
  rw [Int.le_floor]
  have reachedCast : (⌊exact / size⌋ : ℚ) * size ≤ onScale := by
    exact_mod_cast reached
  have quotient : (⌊exact / size⌋ : ℚ) ≤ onScale / size :=
    (le_div_iff₀ scale).2 reachedCast
  have raise : (0 : ℚ) ≤ 1 / (2 * 10 ^ 18) := by norm_num
  linarith

/-- Rounding on the common scale stops at the next multiple of the size. -/
theorem onScale_le_next :
    (onScale : ℤ) ≤ (⌊exact / size⌋ + 1) * size := by
  have scale : (0 : ℚ) < size := by exact_mod_cast positive
  apply rounds.le_of_ge
  push_cast
  exact ((div_lt_iff₀ scale).1 (Int.lt_floor_add_one _)).le

theorem floor_raised_le_succ :
    ⌊(onScale : ℚ) / size + 1 / (2 * 10 ^ 18)⌋ ≤ ⌊exact / size⌋ + 1 := by
  have scale : (0 : ℚ) < size := by exact_mod_cast positive
  have bound : (onScale : ℚ) ≤ (⌊exact / size⌋ + 1) * size := by
    exact_mod_cast onScale_le_next rounds positive
  have quotient : (onScale : ℚ) / size ≤ ⌊exact / size⌋ + 1 :=
    (div_le_iff₀ scale).2 bound
  have raise : (1 : ℚ) / (2 * 10 ^ 18) < 1 := by norm_num
  rw [← Int.lt_add_one_iff, Int.floor_lt]
  push_cast
  linarith

/-- The whole part is lifted if the rounded product comes close enough to the
next multiple of the size. -/
theorem floor_raised_eq_succ_iff :
    ⌊(onScale : ℚ) / size + 1 / (2 * 10 ^ 18)⌋ = ⌊exact / size⌋ + 1 ↔
      (⌊exact / size⌋ + 1 : ℚ) * size ≤
        onScale + size / (2 * 10 ^ 18) := by
  have above := floor_raised_le_succ rounds positive
  calc
    _ ↔ ⌊exact / size⌋ + 1 ≤
          ⌊(onScale : ℚ) / size + 1 / (2 * 10 ^ 18)⌋ :=
        ⟨fun lifted => lifted.ge, fun reached => le_antisymm above reached⟩
    _ ↔ _ := by
        rw [Rate.le_floor_raised_iff positive]
        push_cast
        rfl

/-- Below a size of two the whole part is lifted exactly if the product is
rounded to the next multiple of the size. -/
theorem floor_raised_eq_succ_iff_of_small
    (small : size < 2 * 10 ^ 18) :
    ⌊(onScale : ℚ) / size + 1 / (2 * 10 ^ 18)⌋ = ⌊exact / size⌋ + 1 ↔
      (onScale : ℤ) = (⌊exact / size⌋ + 1) * size := by
  have above := onScale_le_next rounds positive
  have scale : (0 : ℚ) < size := by exact_mod_cast positive
  have unraised := floor_raised_le_succ rounds positive
  rw [Rate.floor_raised onScale positive small] at unraised ⊢
  constructor
  · intro lifted
    refine le_antisymm above ?_
    have reached : ((⌊exact / size⌋ + 1 : ℤ) : ℚ) ≤ onScale / size :=
      Int.le_floor.1 lifted.ge
    rw [le_div_iff₀ scale] at reached
    exact_mod_cast reached
  · intro onScaleEq
    refine le_antisymm unraised (Int.le_floor.2 ?_)
    rw [le_div_iff₀ scale]
    exact_mod_cast onScaleEq.ge

/-- The whole part is at most half a scaled unit and half a unit of the last
place above the exact value. -/
theorem floor_raised_le_exact :
    (⌊(onScale : ℚ) / size + 1 / (2 * 10 ^ 18)⌋ : ℚ) ≤
      exact / size + 1 / (2 * size) + 1 / (2 * 10 ^ 18) := by
  have scale : (0 : ℚ) < size := by exact_mod_cast positive
  obtain ⟨low, -⟩ := abs_le.1 rounds.near
  have floored := Int.floor_le ((onScale : ℚ) / size + 1 / (2 * 10 ^ 18))
  have rounding : (onScale : ℚ) ≤ exact + 1 / 2 := by
    push_cast at low
    linarith
  have quotient : (onScale : ℚ) / size ≤ exact / size + 1 / (2 * size) := by
    calc
      (onScale : ℚ) / size ≤ (exact + 1 / 2) / size :=
        div_le_div_of_nonneg_right rounding scale.le
      _ = exact / size + 1 / (2 * size) := by
        field_simp
  linarith

end Lifting

end Coinage.Registry
