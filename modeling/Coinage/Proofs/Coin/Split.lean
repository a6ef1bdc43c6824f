import Coinage.Proofs.Coin

/-!
# Whole part and change

A decimal coin splits into a whole coin and a change below one, and nothing is
lost: their amounts add up to the amount that was split.  No check can end this,
since the budget of decimals leaves whole parts within the budget of amounts.

The budgets do not nest the other way.  Some whole coins have more units than a
decimal coin may have, and these alone have no decimal coin with their parts.
Where there is one, splitting it gives the whole coin back.
-/

namespace Coinage

/-! ## The parts of a decimal coin -/

namespace DecimalCoin

/-- A decimal coin is split into a whole coin and a change: both have its name
and its rule, and their amounts are the whole part and the fraction of its
own. -/
structure Splits
    (coin : DecimalCoin)
    (kept : Coin)
    (rest : DecimalCoin) :
    Prop where
  truncate_eq : coin.truncate = .ok (kept, rest)
  kept_denom : kept.denom = coin.denom
  kept_rule : kept.rule = coin.rule
  rest_denom : rest.denom = coin.denom
  rest_rule : rest.rule = coin.rule
  kept_amount : (kept.amount : ℤ) = ⌊coin.amount.value⌋
  rest_nonneg : 0 ≤ rest.amount.value
  rest_lt_one : rest.amount.value < 1
  amount_add : kept.amount + rest.amount.value = coin.amount.value

theorem floor_amount (coin : DecimalCoin) :
    ⌊coin.amount.value⌋ = (coin.amount.scaled / Scale.one : Nat) := by
  rw [value_amount, ← Scale.cast_one, Rat.floor_natCast_div_natCast,
    Int.natCast_div]

theorem value_change (coin : DecimalCoin) :
    coin.change.amount.value =
      (coin.amount.scaled % Scale.one : Nat) / 10 ^ 18 :=
  coin.change.value_amount

theorem splits (coin : DecimalCoin) :
    coin.Splits coin.wholeCoin coin.change where
  truncate_eq := coin.truncate_eq
  kept_denom := rfl
  kept_rule := rfl
  rest_denom := rfl
  rest_rule := rfl
  kept_amount := coin.floor_amount.symm
  rest_nonneg := by
    rw [value_change]
    positivity
  rest_lt_one := by
    have below : ((coin.amount.scaled % Scale.one : Nat) : ℚ) < Scale.one := by
      exact_mod_cast Nat.mod_lt _ Scale.one_pos
    rwa [value_change, ← Scale.cast_one,
      div_lt_one (by exact_mod_cast Scale.one_pos)]
  amount_add := by
    have split :
        ((coin.amount.scaled / Scale.one : Nat) : ℚ) * Scale.one +
            (coin.amount.scaled % Scale.one : Nat) =
          coin.amount.scaled := by
      exact_mod_cast Nat.div_add_mod' coin.amount.scaled Scale.one
    rw [value_change, value_amount, ← split, Scale.cast_one, add_div,
      mul_div_cancel_right₀ _ (by norm_num)]
    rfl

/-- A change splits into nothing and itself. -/
theorem splits_change (coin : DecimalCoin) :
    coin.change.Splits coin.change.wholeCoin coin.change ∧
      coin.change.wholeCoin.amount = 0 := by
  have below : coin.amount.scaled % Scale.one < Scale.one :=
    Nat.mod_lt _ Scale.one_pos
  have unchanged : coin.change.change = coin.change :=
    eq_of_scaled rfl rfl (Nat.mod_eq_of_lt below)
  refine ⟨?_, Nat.div_eq_of_lt below⟩
  have again := coin.change.splits
  rwa [unchanged] at again

/-- The whole part as a decimal coin is within the budget, too. -/
theorem wholeCoin_fits (coin : DecimalCoin) :
    coin.wholeCoin.amount * Scale.one < 2 ^ Scale.decimalBits :=
  (Nat.div_mul_le_self _ _).trans_lt coin.amount.withinBudget

end DecimalCoin

/-! ## Whole coins as decimal coins -/

namespace Coin

theorem toDecimal_whole_of_ge
    {coin : Coin}
    (exceeds : 2 ^ Scale.decimalBits ≤ coin.amount * Scale.one) :
    (Holding.whole coin).toDecimal =
      .error (.decimalBudget
        (Scale.bitLength (coin.amount * Scale.one))) := by
  have refused :
      Fixed.ofValue (.integer coin.amount) =
        .error (.decimalBudget
          (Scale.bitLength (coin.amount * Scale.one))) := by
    rw [Fixed.ofValue, coin.quantized_amount, Failure.ok_bind,
      Quantized.fix_of_ge exceeds]
  change DecimalCoin.make coin.rule (.text coin.denom) (.integer coin.amount) =
    _
  rw [DecimalCoin.make, DenomRule.check_of_accepts coin.accepted,
    Failure.ok_bind, refused, Failure.error_bind]

/-- A whole coin is the decimal coin with its parts, if there is one, and
nothing else. -/
theorem truncate_inUnits
    {coin : Coin}
    (fits : coin.amount * Scale.one < 2 ^ Scale.decimalBits) :
    (coin.inUnits coin.accepted fits).wholeCoin = coin ∧
      (coin.inUnits coin.accepted fits).change.amount.value = 0 := by
  have whole : coin.amount * Scale.one / Scale.one = coin.amount :=
    Nat.mul_div_cancel _ Scale.one_pos
  have rest : coin.amount * Scale.one % Scale.one = 0 :=
    Nat.mul_mod_left _ _
  constructor
  · obtain ⟨rule, denom, amount, accepted, withinBudget⟩ := coin
    simp only [DecimalCoin.wholeCoin, inUnits, whole]
  · rw [DecimalCoin.value_change]
    simp only [inUnits, rest, Nat.cast_zero, zero_div]

end Coin

/--
Splitting a decimal coin loses nothing and cannot fail.  The whole part can be
made a decimal coin again; subtracting that from the amount leaves the change,
and the change splits into nothing and itself.  Conversely a whole coin can be
made a decimal coin exactly if its units are within the budget, and splitting
that decimal coin gives the whole coin back, with a change of zero.
-/
theorem DecimalCoin.truncate_lossless :
    (∀ coin : DecimalCoin,
      ∃ kept rest,
        coin.Splits kept rest ∧
          (∃ whole,
            (Holding.whole kept).toDecimal = .ok whole ∧
              Fixed.difference coin.amount.toValue whole.amount.toValue =
                .ok rest.amount) ∧
          ∃ nothing,
            rest.Splits nothing rest ∧ nothing.amount = 0) ∧
    ∀ coin : Coin,
      ((∃ decimal, (Holding.whole coin).toDecimal = .ok decimal) ↔
        coin.amount * 10 ^ 18 < 2 ^ 315) ∧
      (2 ^ 315 ≤ coin.amount * 10 ^ 18 →
        (Holding.whole coin).toDecimal =
          .error (.decimalBudget
            (Scale.bitLength (coin.amount * 10 ^ 18)))) ∧
      ∀ decimal,
        (Holding.whole coin).toDecimal = .ok decimal →
        ∃ change,
          decimal.Splits coin change ∧ change.amount.value = 0 := by
  refine ⟨fun coin => ?_, fun coin => ?_⟩
  · exact ⟨coin.wholeCoin, coin.change, coin.splits,
      ⟨_, Coin.toDecimal_whole coin.wholeCoin_fits,
        DecimalCoin.difference_of_admitted
          (Fixed.quantized_toValue .subtract _)⟩,
      _, coin.splits_change⟩
  · have one : 10 ^ 18 = Scale.one := by rw [Scale.one, Scale.places]
    have budget : 2 ^ 315 = 2 ^ Scale.decimalBits := by
      rw [Scale.decimalBits]
    rw [one, budget]
    rcases lt_or_ge (coin.amount * Scale.one) (2 ^ Scale.decimalBits) with
      fits | exceeds
    · have made := Coin.toDecimal_whole fits
      refine ⟨iff_of_true ⟨_, made⟩ fits,
        fun exceeds => absurd fits exceeds.not_gt, fun decimal converted => ?_⟩
      cases made.symm.trans converted
      obtain ⟨wholeEq, rest⟩ := Coin.truncate_inUnits fits
      have parts := (coin.inUnits coin.accepted fits).splits
      rw [wholeEq] at parts
      exact ⟨_, parts, rest⟩
    · have refused := Coin.toDecimal_whole_of_ge exceeds
      have none :
          ∀ decimal, (Holding.whole coin).toDecimal ≠ .ok decimal := by
        intro decimal converted
        cases refused.symm.trans converted
      have no_decimal :
          ¬ ∃ decimal, (Holding.whole coin).toDecimal = .ok decimal :=
        not_exists.2 none
      exact ⟨iff_of_false no_decimal exceeds.not_gt, fun _ => refused,
        fun decimal converted => absurd converted (none decimal)⟩

namespace DecimalCoin

/-- The greatest decimal coin. -/
def greatest : DecimalCoin :=
  ⟨.standard, "stake", ⟨⟨false, 2 ^ 315 - 1⟩, by decide +kernel⟩, by decide,
    rfl⟩

/-- The greatest whole coin. -/
def greatestWhole : Coin :=
  ⟨.standard, "stake", 2 ^ 256 - 1, by decide, by decide +kernel⟩

/-- The greatest decimal coin can be split, and its whole part is a decimal coin
again.  The greatest whole coin cannot be made one. -/
theorem truncate_lossless_greatest :
    (∃ kept rest,
      greatest.Splits kept rest ∧
        kept.amount = (2 ^ 315 - 1) / 10 ^ 18 ∧
        rest.amount.scaled = (2 ^ 315 - 1) % 10 ^ 18) ∧
    (Holding.whole greatestWhole).toDecimal =
      .error (.decimalBudget 316) ∧
    ∃ decimal change,
      (Holding.whole greatest.wholeCoin).toDecimal = .ok decimal ∧
        decimal.Splits greatest.wholeCoin change ∧
        change.amount.value = 0 := by
  obtain ⟨split, whole⟩ := truncate_lossless
  obtain ⟨kept, rest, parts, -⟩ := split greatest
  have bits :
      Scale.bitLength (greatestWhole.amount * 10 ^ 18) = 316 := by
    decide +kernel
  obtain ⟨-, refused, -⟩ := whole greatestWhole
  rw [bits] at refused
  obtain ⟨exactly, -, back⟩ := whole greatest.wholeCoin
  obtain ⟨decimal, converted⟩ := exactly.2 (by decide +kernel)
  obtain ⟨change, again, nothing⟩ := back decimal converted
  refine ⟨⟨kept, rest, parts, ?_, ?_⟩, refused (by decide +kernel),
    decimal, change, converted, again, nothing⟩
  · cases parts.truncate_eq.symm.trans greatest.truncate_eq
    decide +kernel
  · cases parts.truncate_eq.symm.trans greatest.truncate_eq
    decide +kernel

end DecimalCoin

end Coinage
