import Coinage.Proofs.Exchange.Return

/-!
# Exchanging by way of a divisor

If the unit of a coin is a whole multiple of another unit, the coin can be
exchanged into that divisor without loss: nothing is rounded and nothing is cut.
`exchange_detour` says that every further exchange then ends as it would have
ended for the coin itself, with the same coin or with the same failure.

Between different sizes both ways compute with one number, since the amount and
the multiple trade places in the product.  The ways differ only where one of
them meets equal sizes and copies.  What the other one computes there is within
its budgets because the exchange into the divisor was.
-/

namespace Coinage.Registry

variable {registry : Registry}

/-! ## Exact quotients -/

section Exact

variable
    {rule : DenomRule}
    {amount quotient : Nat}

/-- A worth that the other size divides is exchanged without rounding. -/
theorem Rate.exchanged_whole_of_exact
    {rate : Rate rule}
    (positive : 0 < rate.destination.scaled)
    (exact :
      amount * rate.source.scaled = quotient * rate.destination.scaled) :
    rate.exchanged (amount * Scale.one) = quotient * Scale.one := by
  apply Rate.exchanged_of_exact positive
  rw [rate.onScale_whole, exact, Nat.mul_right_comm]

theorem Rate.floor_of_exact
    {rate : Rate rule}
    (positive : 0 < rate.destination.scaled)
    (exact :
      amount * rate.source.scaled = quotient * rate.destination.scaled) :
    ⌊(amount * rate.source.scaled : ℚ) / rate.destination.scaled +
        1 / (2 * 10 ^ 18)⌋ =
      quotient := by
  have floored := rate.floor_exchanged (amount * Scale.one)
  rw [rate.onScale_whole, Rate.exchanged_whole_of_exact positive exact,
    Nat.mul_div_cancel _ Scale.one_pos, Nat.cast_mul] at floored
  exact floored.symm

end Exact

section Whole

variable
    {coin result : Coin}
    {target : Value}
    {rate : Rate registry.rule}
    {quotient : Nat}

/-- A coin that is exchanged between different sizes has a rate that applies. -/
theorem applies_of_exchange
    (found : registry.rate coin.denom target = .ok rate)
    (different : rate.source.scaled ≠ rate.destination.scaled)
    (exchanged : registry.exchange (.whole coin) target = .ok result) :
    rate.Applies (coin.amount * Scale.one) :=
  (serves_of_exchange_whole found exchanged).resolve_left different

/-- A coin whose worth the other size divides is exchanged into that many
units, if both numbers are within the budget. -/
theorem exchange_whole_of_exact
    (found : registry.rate coin.denom target = .ok rate)
    (different : rate.source.scaled ≠ rate.destination.scaled)
    (positive : 0 < rate.destination.scaled)
    (exact :
      coin.amount * rate.source.scaled =
        quotient * rate.destination.scaled)
    (onScaleFits :
      coin.amount * rate.source.scaled < 2 ^ Scale.decimalBits)
    (fits : quotient * Scale.one < 2 ^ Scale.decimalBits) :
    Coin.Makes registry.rule rate.target.val quotient
      (registry.exchange (.whole coin) target) := by
  rw [← Rate.exchanged_whole_of_exact positive exact] at fits
  have made :=
    exchange_whole_of_exchanged_lt onScaleFits found different positive.ne'
      fits
  rwa [Rate.floor_of_exact positive exact] at made

/-- The amount received is the exact quotient. -/
theorem amount_of_exchange_exact
    (found : registry.rate coin.denom target = .ok rate)
    (positive : 0 < rate.destination.scaled)
    (exact :
      coin.amount * rate.source.scaled =
        quotient * rate.destination.scaled)
    (exchanged : registry.exchange (.whole coin) target = .ok result) :
    result.amount = quotient := by
  have raised :=
    amount_of_exchange_whole_raised found positive.ne' exchanged
  rw [Rate.floor_of_exact positive exact] at raised
  exact Int.ofNat_inj.1 raised

end Whole

/-! ## The two ways -/

/-- A rate between known denominations fails for its target alone. -/
theorem rate_error_of_known
    {first second : String}
    {firstSize secondSize : UnitSize}
    {target : Value}
    {failure : Failure}
    (firstFound : registry.unit? (.text first) = some firstSize)
    (secondFound : registry.unit? (.text second) = some secondSize)
    (failed : registry.rate first target = .error failure) :
    registry.rate second target = .error failure := by
  rw [rate, firstFound] at failed
  rw [rate, secondFound]
  cases checked : registry.rule.check target with
  | error refused =>
      rw [checked, Failure.error_bind] at failed
      rwa [Failure.error_bind]
  | ok name =>
      rw [checked, Failure.ok_bind] at failed
      rw [Failure.ok_bind]
      cases known : registry.unit? (.text name.val) with
      | none =>
          rw [known] at failed
          exact failed
      | some size =>
          rw [known] at failed
          cases failed

/-- Amounts of one worth are computed to the same result. -/
theorem apply_eq_of_worth_eq
    {rule : DenomRule}
    {given received : Coin}
    {first second : UnitSize}
    (firstPositive : 0 < first.scaled)
    (secondPositive : 0 < second.scaled)
    (worthEq :
      received.amount * second.scaled = given.amount * first.scaled)
    (target : rule.Name)
    (destination : UnitSize) :
    (Rate.mk target second destination).apply (.integer received.amount) =
      (Rate.mk target first destination).apply (.integer given.amount) := by
  have timesEq :
      (⟨false, received.amount * Scale.one⟩ : Quantized).times
          second.toQuantized =
        (⟨false, given.amount * Scale.one⟩ : Quantized).times
          first.toQuantized := by
    rw [Quantized.times, Quantized.times, Nat.mul_right_comm, worthEq,
      Nat.mul_right_comm, UnitSize.negative_eq_false firstPositive.ne',
      UnitSize.negative_eq_false secondPositive.ne']
  rw [Rate.apply_of_ok (received.quantized_amount .multiply),
    Rate.apply_of_ok (given.quantized_amount .multiply), timesEq]

/-- A coin, what it becomes in a divisor of its unit, and the two sizes. -/
structure Divides
    (registry : Registry)
    (given received : Coin)
    (source shared : UnitSize)
    (count : Nat) :
    Prop where
  sourceFound : registry.unit? (.text given.denom) = some source
  sharedFound : registry.unit? (.text received.denom) = some shared
  multiple : source.scaled = count * shared.scaled
  counted : 1 ≤ count
  positive : 0 < shared.scaled
  down :
    registry.exchange (.whole given) (.text received.denom) = .ok received

namespace Divides

variable
    {given received : Coin}
    {source shared : UnitSize}
    {count : Nat}
    (divides : registry.Divides given received source shared count)

include divides

theorem source_pos : 0 < source.scaled := by
  rw [divides.multiple]
  exact Nat.mul_pos divides.counted divides.positive

/-- The rate of the exchange into the divisor. -/
theorem rate_down :
    registry.rate given.denom (.text received.denom) =
      .ok ⟨DenomRule.named (accepts_of_unit? divides.sharedFound), source,
        shared⟩ :=
  rate_of_found _ divides.sourceFound divides.sharedFound

theorem exact_down :
    given.amount * source.scaled = given.amount * count * shared.scaled := by
  rw [divides.multiple, Nat.mul_assoc]

/-- Nothing is lost on the way into the divisor. -/
theorem amount_eq : received.amount = given.amount * count :=
  amount_of_exchange_exact divides.rate_down divides.positive
    divides.exact_down divides.down

theorem worth_eq :
    received.amount * shared.scaled = given.amount * source.scaled := by
  rw [divides.amount_eq, divides.exact_down]

/-- A proper divisor has shown that the worth of the coin and the amount
received are within the budget. -/
theorem fits
    (different : source.scaled ≠ shared.scaled) :
    given.amount * source.scaled < 2 ^ Scale.decimalBits ∧
      received.amount * Scale.one < 2 ^ Scale.decimalBits := by
  have applies :=
    applies_of_exchange divides.rate_down different divides.down
  have onScaleFits := applies.onScale_lt
  have exchangedFits := applies.exchanged_lt
  rw [Rate.onScale_whole] at onScaleFits
  rw [Rate.exchanged_whole_of_exact divides.positive divides.exact_down,
    ← divides.amount_eq] at exchangedFits
  exact ⟨onScaleFits, exchangedFits⟩

theorem amount_le : given.amount ≤ received.amount := by
  rw [divides.amount_eq]
  exact Nat.le_mul_of_pos_right _ divides.counted

section Target

variable
    {target : registry.rule.Name}
    {destination : UnitSize}
    (destinationFound :
      registry.unit? (.text target.val) = some destination)

include destinationFound

theorem rate_direct :
    registry.rate given.denom (.text target.val) =
      .ok ⟨target, source, destination⟩ :=
  rate_eq_ok_iff.2 ⟨rfl, divides.sourceFound, destinationFound⟩

theorem rate_onward :
    registry.rate received.denom (.text target.val) =
      .ok ⟨target, shared, destination⟩ :=
  rate_eq_ok_iff.2 ⟨rfl, divides.sharedFound, destinationFound⟩

/-- Where the coin itself is copied, the way through the divisor ends with the
same amount. -/
theorem onward_of_same_size
    (same : source.scaled = destination.scaled) :
    Coin.Makes registry.rule target.val given.amount
      (registry.exchange (.whole received) (.text target.val)) := by
  have onward := divides.rate_onward destinationFound
  by_cases proper : shared.scaled = destination.scaled
  · -- All three sizes are equal, so the amount was copied before, too.
    have copied : received.amount = given.amount :=
      amount_of_exchange_exact divides.rate_down divides.positive
        (congrArg (given.amount * ·) (same.trans proper.symm)) divides.down
    rw [← copied]
    exact exchange_whole_of_same_size onward proper
  · obtain ⟨onScaleFits, fits⟩ :=
      divides.fits fun equal => proper (equal.symm.trans same)
    have exact :
        received.amount * shared.scaled =
          given.amount * destination.scaled := by
      rw [divides.worth_eq, same]
    refine exchange_whole_of_exact onward proper
      (same ▸ divides.source_pos) exact ?_ ?_
    · exact divides.worth_eq.trans_lt onScaleFits
    · exact (Nat.mul_le_mul_right _ divides.amount_le).trans_lt fits

/-- Where the amount in the divisor is copied, the coin itself is exchanged
into that amount. -/
theorem direct_of_same_size
    (different : source.scaled ≠ destination.scaled)
    (same : shared.scaled = destination.scaled) :
    Coin.Makes registry.rule target.val received.amount
      (registry.exchange (.whole given) (.text target.val)) := by
  obtain ⟨onScaleFits, fits⟩ :=
    divides.fits fun equal => different (equal.trans same)
  have exact :
      given.amount * source.scaled =
        received.amount * destination.scaled := by
    rw [← divides.worth_eq, same]
  exact exchange_whole_of_exact (divides.rate_direct destinationFound)
    different (same ▸ divides.positive) exact onScaleFits fits

/-- Between different sizes both ways are one computation. -/
theorem onward_of_different_sizes
    (different : source.scaled ≠ destination.scaled)
    (proper : shared.scaled ≠ destination.scaled) :
    registry.exchange (.whole received) (.text target.val) =
      registry.exchange (.whole given) (.text target.val) := by
  have applied :=
    apply_eq_of_worth_eq divides.source_pos divides.positive
      divides.worth_eq target destination
  rw [exchange_of_rate (divides.rate_onward destinationFound),
    exchange_of_rate (divides.rate_direct destinationFound),
    if_neg different, if_neg proper]
  exact congrArg (· >>= _) applied

end Target

/-- Both ways end alike, wherever they lead. -/
theorem exchange_eq
    (target : Value) :
    registry.exchange (.whole received) target =
      registry.exchange (.whole given) target := by
  cases found : registry.rate given.denom target with
  | error failure =>
      have failed :=
        rate_error_of_known divides.sourceFound divides.sharedFound found
      rw [exchange_of_rate_error failed, exchange_of_rate_error found]
  | ok rate =>
      obtain ⟨rfl, -, destinationFound⟩ := rate_eq_ok_iff.1 found
      by_cases same : source.scaled = rate.destination.scaled
      · have onward := divides.onward_of_same_size destinationFound same
        have direct :=
          exchange_whole_of_same_size
            (divides.rate_direct destinationFound) same
        exact onward.attempt_eq direct
      by_cases copied : shared.scaled = rate.destination.scaled
      · have onward :=
          exchange_whole_of_same_size
            (divides.rate_onward destinationFound) copied
        have direct :=
          divides.direct_of_same_size destinationFound same copied
        exact onward.attempt_eq direct
      · exact divides.onward_of_different_sizes destinationFound same copied

end Divides

/--
Let the unit of a coin be `count` times the unit of a base, and let the coin be
exchanged into that base.  From what is received, every exchange ends exactly as
from the coin itself, with an equal coin or the same failure.  In particular the
exchange back always succeeds, and it returns the name and the amount given.
-/
theorem exchange_detour
    (registry : Registry)
    (given received : Coin)
    (base : String)
    (source shared : UnitSize)
    (count : Nat)
    (sourceFound : registry.unit? (.text given.denom) = some source)
    (sharedFound : registry.unit? (.text base) = some shared)
    (multiple : source.scaled = count * shared.scaled)
    (counted : 1 ≤ count)
    (positive : 0 < shared.scaled)
    (down : registry.exchange (.whole given) (.text base) = .ok received) :
    (∀ target,
      registry.exchange (.whole received) target =
        registry.exchange (.whole given) target) ∧
    Coin.Makes registry.rule given.denom given.amount
      (registry.exchange (.whole received) (.text given.denom)) := by
  obtain ⟨baseEq, -⟩ := named_of_exchange down
  cases baseEq
  have divides : registry.Divides given received source shared count :=
    ⟨sourceFound, sharedFound, multiple, counted, positive, down⟩
  refine ⟨divides.exchange_eq, ?_⟩
  rw [divides.exchange_eq]
  have own :=
    rate_of_found (accepts_of_unit? sourceFound) sourceFound sourceFound
  exact exchange_whole_of_same_size own rfl

/-- Three coarse units. -/
def threeCoarse : Coin :=
  ⟨.standard, "coarse", 3, by decide, by decide +kernel⟩

/-- Three coarse units become twelve times `10 ^ 18` fine ones, and come back. -/
theorem exchange_detour_threeCoarse :
    ∃ received,
      fineAndCoarse.exchange (.whole threeCoarse) (.text "fine") =
          .ok received ∧
        received.amount = 12 * 10 ^ 18 ∧
        (∀ target,
          fineAndCoarse.exchange (.whole received) target =
            fineAndCoarse.exchange (.whole threeCoarse) target) ∧
        Coin.Makes fineAndCoarse.rule "coarse" 3
          (fineAndCoarse.exchange (.whole received) (.text "coarse")) := by
  have amountEq :
      (fineAndCoarse.exchange (.whole threeCoarse) (.text "fine") >>=
        fun received => Except.ok received.amount) =
        .ok (12 * 10 ^ 18) := by
    decide +kernel
  obtain ⟨received, down, amountEq⟩ := Failure.bind_eq_ok_iff.1 amountEq
  exact ⟨received, down, Except.ok.inj amountEq,
    exchange_detour fineAndCoarse threeCoarse received "fine" coarseSize
      singleSize (4 * 10 ^ 18) (by decide +kernel) (by decide +kernel)
      (by decide) (by decide) (by decide) down⟩

end Coinage.Registry
