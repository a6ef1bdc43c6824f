import Coinage.Proofs.Exchange.Whole

/-!
# Exchanging there and back

Each of the two exchanges cuts its result, so one expects to get back at most
what was given.  But the quotient is rounded to the last place before it is cut,
and this can lift it to the next whole coin.  The lifted coin is worth more than
the one given, by at most half a unit of the last place for each unit of its
size.  That is worth a whole coin on the way back only if the sizes of the two
denominations are about `2 * 10 ^ 18` apart; `exchange_return` gives the exact
condition.
-/

namespace Coinage.Registry

/-- Between equal sizes the raise is without effect, so one formula serves for
all sizes but zero. -/
theorem amount_of_exchange_whole_raised
    {registry : Registry}
    {coin result : Coin}
    {target : Value}
    {rate : Rate registry.rule}
    (found : registry.rate coin.denom target = .ok rate)
    (nonzero : rate.destination.scaled ≠ 0)
    (exchanged : registry.exchange (.whole coin) target = .ok result) :
    (result.amount : ℤ) =
      ⌊(coin.amount * rate.source.scaled : ℚ) / rate.destination.scaled +
        1 / (2 * 10 ^ 18)⌋ := by
  have scale : (rate.destination.scaled : ℚ) ≠ 0 := by
    exact_mod_cast nonzero
  rcases amount_cases_of_exchange found exchanged with
    ⟨same, amountEq⟩ | ⟨-, amountEq⟩
  · have raise : ⌊(1 : ℚ) / (2 * 10 ^ 18)⌋ = 0 := by
      rw [Int.floor_eq_zero_iff]
      constructor <;> norm_num
    rw [amountEq, same, mul_div_cancel_right₀ _ scale,
      Int.floor_natCast_add, raise, add_zero]
  · exact amountEq

/-! ## The surplus of an exchange -/

/-- What the coin received is worth beyond the coin given, in units of
`10 ^ (-18)` on the common scale. -/
def surplus
    (given received : Coin)
    (source destination : UnitSize) :
    ℤ :=
  received.amount * destination.scaled - given.amount * source.scaled

section Surplus

variable
    {given received returned : Coin}
    {source destination : UnitSize}

theorem cast_surplus :
    (surplus given received source destination : ℚ) =
      received.amount * destination.scaled -
        given.amount * source.scaled := by
  rw [surplus]
  push_cast
  rfl

/-- The surplus is at most half a unit of the last place for each unit of the
size received. -/
theorem surplus_le
    (nonzero : destination.scaled ≠ 0)
    (receivedEq :
      (received.amount : ℤ) =
        ⌊(given.amount * source.scaled : ℚ) / destination.scaled +
          1 / (2 * 10 ^ 18)⌋) :
    2 * 10 ^ 18 * surplus given received source destination ≤
      destination.scaled := by
  have reached :=
    (Rate.le_floor_raised_iff (Nat.pos_of_ne_zero nonzero)).1 receivedEq.le
  have bound :
      (2 * 10 ^ 18 * surplus given received source destination : ℚ) ≤
        destination.scaled := by
    rw [cast_surplus]
    push_cast at reached
    linarith
  exact_mod_cast bound

variable
    (nonzero : source.scaled ≠ 0)
    (returnedEq :
      (returned.amount : ℤ) =
        ⌊(received.amount * destination.scaled : ℚ) / source.scaled +
          1 / (2 * 10 ^ 18)⌋)

include nonzero returnedEq

/-- More comes back than was given exactly if the surplus and the raise on the
way back make up a unit of the size given. -/
theorem lt_returned_iff :
    given.amount < returned.amount ↔
      (2 * 10 ^ 18 - 1) * (source.scaled : ℤ) ≤
        2 * 10 ^ 18 * surplus given received source destination := by
  calc
    given.amount < returned.amount ↔
        (given.amount + 1 : ℤ) ≤ returned.amount := by
      omega
    _ ↔ ((given.amount + 1 : ℤ) * source.scaled : ℚ) ≤
          received.amount * destination.scaled +
            source.scaled / (2 * 10 ^ 18) := by
      rw [returnedEq,
        Rate.le_floor_raised_iff (Nat.pos_of_ne_zero nonzero)]
    _ ↔ ((2 * 10 ^ 18 - 1) * source.scaled : ℚ) ≤
          2 * 10 ^ 18 * surplus given received source destination := by
      rw [cast_surplus]
      push_cast
      constructor <;> intro reached <;> linarith
    _ ↔ _ := by
      exact_mod_cast Iff.rfl

/-- What comes back exceeds what was given by no more than the raises of both
exchanges are worth. -/
theorem returned_le
    (bound :
      2 * 10 ^ 18 * surplus given received source destination ≤
        destination.scaled) :
    (returned.amount : ℚ) ≤
      given.amount +
        ((destination.scaled : ℚ) / source.scaled + 1) / (2 * 10 ^ 18) := by
  have scale : (0 : ℚ) < source.scaled := by
    exact_mod_cast Nat.pos_of_ne_zero nonzero
  have boundCast :
      (2 * 10 ^ 18 * surplus given received source destination : ℚ) ≤
        destination.scaled := by
    exact_mod_cast bound
  have reached :=
    (Rate.le_floor_raised_iff (Nat.pos_of_ne_zero nonzero)).1 returnedEq.le
  have worth :
      (returned.amount * source.scaled : ℚ) ≤
        given.amount * source.scaled +
          (destination.scaled + source.scaled) / (2 * 10 ^ 18) := by
    rw [cast_surplus] at boundCast
    push_cast at reached
    linarith
  calc
    (returned.amount : ℚ) ≤
        (given.amount * source.scaled +
          (destination.scaled + source.scaled) / (2 * 10 ^ 18)) /
            source.scaled :=
      (le_div_iff₀ scale).2 worth
    _ = given.amount +
          ((destination.scaled : ℚ) / source.scaled + 1) /
            (2 * 10 ^ 18) := by
      field_simp

end Surplus

/-! ## There and back -/

/-- How what comes back compares with what was given.  More comes back exactly
if the coin received in between is worth almost a whole unit more than the coin
given.  That takes a unit of two or more, about `2 * 10 ^ 18` times as large as
the unit given. -/
structure ReturnBounds
    (given received returned : Coin)
    (source destination : UnitSize) :
    Prop where
  surplus_le :
    2 * 10 ^ 18 * surplus given received source destination ≤
      destination.scaled
  gain_iff :
    given.amount < returned.amount ↔
      (2 * 10 ^ 18 - 1) * (source.scaled : ℤ) ≤
        2 * 10 ^ 18 * surplus given received source destination
  le_of_near :
    destination.scaled < (2 * 10 ^ 18 - 1) * source.scaled →
      returned.amount ≤ given.amount
  le_of_small :
    destination.scaled < 2 * 10 ^ 18 →
      returned.amount ≤ given.amount
  le_bound :
    (returned.amount : ℚ) ≤
      given.amount +
        ((destination.scaled : ℚ) / source.scaled + 1) / (2 * 10 ^ 18)

/-- Where the surplus is bounded and decides on a gain, near or small units
leave none. -/
theorem returnBounds_of_surplus
    {given received returned : Coin}
    {source destination : UnitSize}
    (nonzero : source.scaled ≠ 0)
    (bound :
      2 * 10 ^ 18 * surplus given received source destination ≤
        destination.scaled)
    (gain_iff :
      given.amount < returned.amount ↔
        (2 * 10 ^ 18 - 1) * (source.scaled : ℤ) ≤
          2 * 10 ^ 18 * surplus given received source destination)
    (le_bound :
      (returned.amount : ℚ) ≤
        given.amount +
          ((destination.scaled : ℚ) / source.scaled + 1) /
            (2 * 10 ^ 18)) :
    ReturnBounds given received returned source destination where
  surplus_le := bound
  gain_iff := gain_iff
  le_of_near near := by
    refine not_lt.1 fun gain => ?_
    have reached := gain_iff.1 gain
    omega
  le_of_small small := by
    refine not_lt.1 fun gain => ?_
    have reached := gain_iff.1 gain
    -- The surplus is an integer, so below a size of two it is not positive.
    omega
  le_bound := le_bound

/--
A coin is exchanged into another denomination and back, both units being
larger than zero.  Then at most as much comes back as was given, unless the
first exchange was lifted and the units are far apart.
-/
theorem exchange_return
    (registry : Registry)
    (given received returned : Coin)
    (target : String)
    (source destination : UnitSize)
    (sourceFound : registry.unit? (.text given.denom) = some source)
    (destinationFound : registry.unit? (.text target) = some destination)
    (sourceNonzero : source.scaled ≠ 0)
    (destinationNonzero : destination.scaled ≠ 0)
    (there :
      registry.exchange (.whole given) (.text target) = .ok received)
    (back :
      registry.exchange (.whole received) (.text given.denom) =
        .ok returned) :
    ReturnBounds given received returned source destination := by
  have thereRate :=
    rate_of_found (accepts_of_unit? destinationFound) sourceFound
      destinationFound
  have receivedEq :=
    amount_of_exchange_whole_raised thereRate destinationNonzero there
  obtain ⟨named, -⟩ := named_of_exchange there
  rw [named] at destinationFound
  have backRate :=
    rate_of_found (accepts_of_unit? sourceFound) destinationFound
      sourceFound
  have returnedEq :=
    amount_of_exchange_whole_raised backRate sourceNonzero back
  have bound := surplus_le destinationNonzero receivedEq
  exact returnBounds_of_surplus sourceNonzero bound
    (lt_returned_iff sourceNonzero returnedEq)
    (returned_le sourceNonzero returnedEq bound)

/-! ## A gain -/

/-- Four whole. -/
def coarseSize : UnitSize :=
  ⟨⟨⟨false, 4 * 10 ^ 18⟩, by decide +kernel⟩, rfl⟩

/-- One fine unit short of a coarse one, a coin is lifted to the coarse one and
comes back with that fine unit. -/
theorem exists_return_almostCoarse :
    ∃ received returned,
      fineAndCoarse.exchange (.whole almostCoarse) (.text "coarse") =
          .ok received ∧
        fineAndCoarse.exchange (.whole received) (.text "fine") =
          .ok returned ∧
        returned.amount = 4 * 10 ^ 18 := by
  have amountEq :
      (fineAndCoarse.exchange (.whole almostCoarse) (.text "coarse") >>=
        fun received =>
          fineAndCoarse.exchange (.whole received) (.text "fine") >>=
            fun returned => Except.ok returned.amount) =
        .ok (4 * 10 ^ 18) := by
    decide +kernel
  obtain ⟨received, there, amountEq⟩ := Failure.bind_eq_ok_iff.1 amountEq
  obtain ⟨returned, back, amountEq⟩ := Failure.bind_eq_ok_iff.1 amountEq
  exact ⟨received, returned, there, back, Except.ok.inj amountEq⟩

/-- The bounds where more comes back than was given. -/
theorem exchange_return_almostCoarse :
    ∃ received returned,
      fineAndCoarse.exchange (.whole almostCoarse) (.text "coarse") =
          .ok received ∧
        fineAndCoarse.exchange (.whole received) (.text "fine") =
          .ok returned ∧
        ReturnBounds almostCoarse received returned singleSize coarseSize ∧
        almostCoarse.amount < returned.amount := by
  obtain ⟨received, returned, there, back, returnedEq⟩ :=
    exists_return_almostCoarse
  refine ⟨received, returned, there, back, ?_, by rw [returnedEq]; decide⟩
  exact exchange_return fineAndCoarse almostCoarse received returned "coarse"
    singleSize coarseSize (by decide +kernel) (by decide +kernel) (by decide)
    (by decide) there back

/-- More comes back than was given, although both units are larger than zero
and both exchanges succeed. -/
theorem almostCoarse_lt_returned :
    fineAndCoarse.unit? (.text almostCoarse.denom) = some singleSize ∧
      fineAndCoarse.unit? (.text "coarse") = some coarseSize ∧
      singleSize.scaled ≠ 0 ∧
      coarseSize.scaled ≠ 0 ∧
      ∃ received returned,
        fineAndCoarse.exchange (.whole almostCoarse) (.text "coarse") =
            .ok received ∧
          fineAndCoarse.exchange (.whole received)
              (.text almostCoarse.denom) =
            .ok returned ∧
          ¬ returned.amount ≤ almostCoarse.amount := by
  obtain ⟨received, returned, there, back, returnedEq⟩ :=
    exists_return_almostCoarse
  refine ⟨by decide +kernel, by decide +kernel, by decide, by decide,
    received, returned, there, back, ?_⟩
  rw [returnedEq]
  decide

end Coinage.Registry
