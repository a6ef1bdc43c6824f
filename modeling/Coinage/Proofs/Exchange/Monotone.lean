import Coinage.Proofs.Exchange.Decimal
import Coinage.Proofs.Exchange.Whole

/-!
# Exchanging less, and exchanging in parts

Every stage of an exchange keeps the order of amounts: the rounded product, the
cut quotient, its rounding and its whole part.  So a smaller amount is within
every budget that a greater one is within, and it never becomes more.

Into a unit below two an exchange of whole coins is one floor of the exact
quotient.  In parts it then gives at most what it gives at once, and at most one
coin less.  Into greater units parts can pay, since each of them may be lifted
to the next whole coin where the whole is not.
-/

namespace Coinage

/-- A coin has at most the amount of another one in the same denomination. -/
structure Coin.AtMost (less more : Coin) : Prop where
  denom_eq : less.denom = more.denom
  amount_le : less.amount ≤ more.amount

/-- Two coins of one denomination that make up a third. -/
structure Coin.MakeUp (first second total : Coin) : Prop where
  first_denom : first.denom = total.denom
  second_denom : second.denom = total.denom
  amount_add : first.amount + second.amount = total.amount

theorem Coin.MakeUp.first_atMost
    {first second total : Coin}
    (parts : first.MakeUp second total) :
    first.AtMost total :=
  ⟨parts.first_denom, parts.amount_add ▸ Nat.le_add_right _ _⟩

theorem Coin.MakeUp.second_atMost
    {first second total : Coin}
    (parts : first.MakeUp second total) :
    second.AtMost total :=
  ⟨parts.second_denom, parts.amount_add ▸ Nat.le_add_left _ _⟩

/-- A decimal coin has at most the amount of another one in the same
denomination. -/
structure DecimalCoin.AtMost (less more : DecimalCoin) : Prop where
  denom_eq : less.denom = more.denom
  amount_le : less.amount.value ≤ more.amount.value

namespace DecimalCoin

theorem value_le_iff {left right : DecimalCoin} :
    left.amount.value ≤ right.amount.value ↔
      left.amount.scaled ≤ right.amount.scaled := by
  have scale : (0 : ℚ) < 10 ^ 18 := by norm_num
  rw [value_amount, value_amount, div_le_div_iff_of_pos_right scale,
    Nat.cast_le]

end DecimalCoin

namespace Registry

/-! ## The stages of an exchange -/

namespace Rate

variable
    {rule : DenomRule}
    {less more : Nat}

theorem onScale_mono (rate : Rate rule) : Monotone rate.onScale :=
  fun _ _ le =>
    Rounding.divide_halfEven_mono Scale.one_pos (Nat.mul_le_mul_right _ le)

theorem exchanged_mono (rate : Rate rule) : Monotone rate.exchanged := by
  intro less more le
  have worth :
      rate.onScale less * Scale.one ^ 2 ≤
        rate.onScale more * Scale.one ^ 2 :=
    Nat.mul_le_mul_right _ (rate.onScale_mono le)
  exact Rounding.divide_halfEven_mono Scale.one_pos
    (Nat.div_le_div_right worth)

theorem received_mono (rate : Rate rule) : Monotone rate.received := by
  intro less more le
  by_cases same : rate.source.scaled = rate.destination.scaled
  · rwa [received_of_same_size same, received_of_same_size same]
  · rw [received_of_different_sizes same, received_of_different_sizes same]
    exact rate.exchanged_mono le

/-- A rate that applies to so many units applies to fewer. -/
theorem Applies.of_le
    {rate : Rate rule}
    (applies : rate.Applies more)
    (le : less ≤ more) :
    rate.Applies less where
  onScale_lt := (rate.onScale_mono le).trans_lt applies.onScale_lt
  destination_ne_zero := applies.destination_ne_zero
  exchanged_lt := (rate.exchanged_mono le).trans_lt applies.exchanged_lt

theorem Serves.of_le
    {rate : Rate rule}
    (serves : rate.Serves more)
    (le : less ≤ more) :
    rate.Serves less :=
  serves.imp_right fun applies => applies.of_le le

end Rate

/-! ## Less of a coin -/

variable
    {registry : Registry}
    {target : Value}

/-- Where a coin is exchanged, less of it is exchanged into no more. -/
theorem exchange_whole_of_atMost
    {less more result : Coin}
    (atMost : less.AtMost more)
    (exchanged : registry.exchange (.whole more) target = .ok result) :
    ∃ smaller,
      registry.exchange (.whole less) target = .ok smaller ∧
        smaller.AtMost result := by
  obtain ⟨rate, found, -⟩ := Failure.bind_eq_ok_iff.1 exchanged
  have lessFound : registry.rate less.denom target = .ok rate := by
    rw [atMost.denom_eq]
    exact found
  have le : less.amount * Scale.one ≤ more.amount * Scale.one :=
    Nat.mul_le_mul_right _ atMost.amount_le
  have serves := serves_of_exchange_whole found exchanged
  obtain ⟨smaller, lessExchanged, -, -, smallerEq⟩ :=
    exchange_whole_of_serves lessFound (serves.of_le le)
  have resultEq :=
    (exchange_whole_of_serves found serves).amount_eq exchanged
  refine ⟨smaller, lessExchanged, ?_, ?_⟩
  · exact Value.text.inj
      ((named_of_exchange lessExchanged).1.symm.trans
        (named_of_exchange exchanged).1)
  · rw [Int.ofNat_inj.1 smallerEq, Int.ofNat_inj.1 resultEq]
    exact Nat.div_le_div_right (rate.received_mono le)

theorem exchangeDecimal_of_atMost
    {less more result : DecimalCoin}
    (atMost : less.AtMost more)
    (exchanged :
      registry.exchangeDecimal (.fractional more) target = .ok result) :
    ∃ smaller,
      registry.exchangeDecimal (.fractional less) target = .ok smaller ∧
        smaller.AtMost result := by
  obtain ⟨rate, found, -⟩ := Failure.bind_eq_ok_iff.1 exchanged
  have lessFound : registry.rate less.denom target = .ok rate := by
    rw [atMost.denom_eq]
    exact found
  have le := DecimalCoin.value_le_iff.1 atMost.amount_le
  have serves := serves_of_exchangeDecimal found exchanged
  obtain ⟨smaller, lessExchanged, -, -,
      (smallerEq : smaller.amount.scaled = _)⟩ :=
    exchangeDecimal_of_serves lessFound (serves.of_le le)
  have resultEq :
      result.amount.scaled = rate.received more.amount.scaled :=
    (exchangeDecimal_of_serves found serves).amount_eq exchanged
  refine ⟨smaller, lessExchanged, ?_, DecimalCoin.value_le_iff.2 ?_⟩
  · exact Value.text.inj
      ((named_of_exchangeDecimal lessExchanged).1.symm.trans
        (named_of_exchangeDecimal exchanged).1)
  · rw [smallerEq, resultEq]
    exact rate.received_mono le

/-! ## A coin in parts -/

section Parts

variable
    {first second total : Coin}
    (parts : first.MakeUp second total)

include parts

theorem rate_of_makeUp
    {rate : Rate registry.rule}
    (found : registry.rate total.denom target = .ok rate) :
    registry.rate first.denom target = .ok rate ∧
      registry.rate second.denom target = .ok rate := by
  rw [parts.first_denom, parts.second_denom]
  exact ⟨found, found⟩

/-- Below a unit of two the amounts received are floors of the exact quotients,
and these add up. -/
theorem amounts_of_makeUp
    {rate : Rate registry.rule}
    {firstPart secondPart result : Coin}
    (found : registry.rate total.denom target = .ok rate)
    (small : rate.destination.scaled < 2 * 10 ^ 18)
    (firstExchanged :
      registry.exchange (.whole first) target = .ok firstPart)
    (secondExchanged :
      registry.exchange (.whole second) target = .ok secondPart)
    (exchanged : registry.exchange (.whole total) target = .ok result) :
    firstPart.amount + secondPart.amount ≤ result.amount ∧
      result.amount ≤ firstPart.amount + secondPart.amount + 1 := by
  obtain ⟨firstFound, secondFound⟩ := rate_of_makeUp parts found
  rcases serves_of_exchange_whole found exchanged with same | applies
  · -- Between equal sizes the amounts are copied, even if both are zero.
    have firstEq :=
      amount_of_exchange_same_size firstFound same firstExchanged
    have secondEq :=
      amount_of_exchange_same_size secondFound same secondExchanged
    have totalEq := amount_of_exchange_same_size found same exchanged
    have together := parts.amount_add
    omega
  · have nonzero := applies.destination_ne_zero
    have firstEq :=
      amount_of_exchange_whole firstFound nonzero small firstExchanged
    have secondEq :=
      amount_of_exchange_whole secondFound nonzero small secondExchanged
    have totalEq := amount_of_exchange_whole found nonzero small exchanged
    have quotientEq :
        (total.amount * rate.source.scaled : ℚ) / rate.destination.scaled =
          first.amount * rate.source.scaled / rate.destination.scaled +
            second.amount * rate.source.scaled /
              rate.destination.scaled := by
      rw [← parts.amount_add, Nat.cast_add, add_mul, add_div]
    rw [quotientEq] at totalEq
    generalize
      (first.amount * rate.source.scaled : ℚ) / rate.destination.scaled =
        firstExact at firstEq totalEq
    generalize
      (second.amount * rate.source.scaled : ℚ) / rate.destination.scaled =
        secondExact at secondEq totalEq
    have above := Int.le_floor_add firstExact secondExact
    have below := Int.le_floor_add_floor firstExact secondExact
    omega

/-- Exchanging in parts succeeds where exchanging at once does, and it gives
no more, and at most one coin less. -/
theorem exchange_makeUp
    {result : Coin}
    {destination : UnitSize}
    (destinationFound : registry.unit? target = some destination)
    (small : destination.value < 2)
    (exchanged : registry.exchange (.whole total) target = .ok result) :
    ∃ firstPart secondPart,
      registry.exchange (.whole first) target = .ok firstPart ∧
        registry.exchange (.whole second) target = .ok secondPart ∧
        firstPart.amount + secondPart.amount ≤ result.amount ∧
        result.amount ≤ firstPart.amount + secondPart.amount + 1 := by
  obtain ⟨rate, found, -⟩ := Failure.bind_eq_ok_iff.1 exchanged
  obtain ⟨-, -, known⟩ := rate_eq_ok_iff.1 found
  cases known.symm.trans destinationFound
  have units : rate.destination.scaled < 2 * 10 ^ 18 := by
    rw [UnitSize.value_eq, div_lt_iff₀ (by norm_num)] at small
    exact_mod_cast small
  obtain ⟨firstPart, firstExchanged, -⟩ :=
    exchange_whole_of_atMost parts.first_atMost exchanged
  obtain ⟨secondPart, secondExchanged, -⟩ :=
    exchange_whole_of_atMost parts.second_atMost exchanged
  exact ⟨firstPart, secondPart, firstExchanged, secondExchanged,
    amounts_of_makeUp parts found units firstExchanged secondExchanged
      exchanged⟩

end Parts

/--
Exchanges keep the order of amounts.  Where a coin of one amount is exchanged,
a coin of a smaller amount in the same denomination is exchanged into at most as
much; this holds for whole coins and for decimal ones.  Two whole coins that make
up a third one are exchanged where that is, and into a unit below two they give
together what it gives, or one coin less.
-/
theorem exchange_monotone
    (registry : Registry)
    (target : Value) :
    (∀ less more result : Coin,
      less.AtMost more →
      registry.exchange (.whole more) target = .ok result →
      ∃ smaller,
        registry.exchange (.whole less) target = .ok smaller ∧
          smaller.AtMost result) ∧
    (∀ less more result : DecimalCoin,
      less.AtMost more →
      registry.exchangeDecimal (.fractional more) target = .ok result →
      ∃ smaller,
        registry.exchangeDecimal (.fractional less) target = .ok smaller ∧
          smaller.AtMost result) ∧
    ∀ (first second total result : Coin) (destination : UnitSize),
      first.MakeUp second total →
      registry.unit? target = some destination →
      destination.value < 2 →
      registry.exchange (.whole total) target = .ok result →
      ∃ firstPart secondPart,
        registry.exchange (.whole first) target = .ok firstPart ∧
          registry.exchange (.whole second) target = .ok secondPart ∧
          firstPart.amount + secondPart.amount ≤ result.amount ∧
          result.amount ≤ firstPart.amount + secondPart.amount + 1 := by
  refine ⟨?_, ?_, ?_⟩
  · intro less more result atMost exchanged
    exact exchange_whole_of_atMost atMost exchanged
  · intro less more result atMost exchanged
    exact exchangeDecimal_of_atMost atMost exchanged
  · intro first second total result destination parts found small exchanged
    exact exchange_makeUp parts found small exchanged

/-- A registry in which one unit is greater than the other, but below two. -/
def smallAndLarge : Registry :=
  ((empty .standard).register (.text "large") (.text "1.6")
    (.text "small") (.text "1")).registry

/-- The size of the large unit. -/
def largeSize : UnitSize :=
  ⟨⟨⟨false, 16 * 10 ^ 17⟩, by decide +kernel⟩, rfl⟩

/-- Four small units. -/
def fourSmall : Coin :=
  ⟨.standard, "small", 4, by decide, by decide +kernel⟩

/-- Eight small units. -/
def eightSmall : Coin :=
  ⟨.standard, "small", 8, by decide, by decide +kernel⟩

/-- The tenth part of a small unit. -/
def tenthSmall : DecimalCoin :=
  ⟨.standard, "small", ⟨⟨false, 10 ^ 17⟩, by decide +kernel⟩, by decide, rfl⟩

/-- One half of a small unit. -/
def halfSmall : DecimalCoin :=
  ⟨.standard, "small", ⟨⟨false, 5 * 10 ^ 17⟩, by decide +kernel⟩, by decide,
    rfl⟩

/-- Eight small units give five large ones, and in two parts one less.  Parts of a
small unit keep their order, too. -/
theorem exchange_monotone_eightSmall :
    (∃ smaller result,
      smallAndLarge.exchange (.whole fourSmall) (.text "large") =
          .ok smaller ∧
        smallAndLarge.exchange (.whole eightSmall) (.text "large") =
          .ok result ∧
        smaller.AtMost result) ∧
    (∃ smaller result,
      smallAndLarge.exchangeDecimal (.fractional tenthSmall)
            (.text "large") =
          .ok smaller ∧
        smallAndLarge.exchangeDecimal (.fractional halfSmall)
            (.text "large") =
          .ok result ∧
        smaller.AtMost result) ∧
    ∃ firstPart secondPart result,
      smallAndLarge.exchange (.whole fourSmall) (.text "large") =
          .ok firstPart ∧
        smallAndLarge.exchange (.whole fourSmall) (.text "large") =
          .ok secondPart ∧
        smallAndLarge.exchange (.whole eightSmall) (.text "large") =
          .ok result ∧
        result.amount = 5 ∧
        firstPart.amount + secondPart.amount ≤ 5 ∧
        5 ≤ firstPart.amount + secondPart.amount + 1 := by
  have amountEq :
      (smallAndLarge.exchange (.whole eightSmall) (.text "large") >>=
        fun result => Except.ok result.amount) =
        .ok 5 := by
    decide +kernel
  have scaledEq :
      (smallAndLarge.exchangeDecimal (.fractional halfSmall)
          (.text "large") >>=
        fun result => Except.ok result.amount.scaled) =
        .ok 312500000000000000 := by
    decide +kernel
  obtain ⟨result, exchanged, amountEq⟩ := Failure.bind_eq_ok_iff.1 amountEq
  obtain ⟨decimal, converted, -⟩ := Failure.bind_eq_ok_iff.1 scaledEq
  have five : result.amount = 5 := Except.ok.inj amountEq
  obtain ⟨whole, fractional, parts⟩ :=
    exchange_monotone smallAndLarge (.text "large")
  obtain ⟨smaller, smallerExchanged, smallerLe⟩ :=
    whole fourSmall eightSmall result ⟨rfl, by decide⟩ exchanged
  obtain ⟨less, lessConverted, lessLe⟩ :=
    fractional tenthSmall halfSmall decimal
      ⟨rfl, DecimalCoin.value_le_iff.2 (by decide)⟩ converted
  obtain ⟨first, second, firstExchanged, secondExchanged, bounds⟩ :=
    parts fourSmall fourSmall eightSmall result largeSize ⟨rfl, rfl, rfl⟩
      (by decide +kernel) (by decide +kernel) exchanged
  rw [five] at bounds
  exact
    ⟨⟨smaller, result, smallerExchanged, exchanged, smallerLe⟩,
      ⟨less, decimal, lessConverted, converted, lessLe⟩,
      first, second, result, firstExchanged, secondExchanged, exchanged,
      five, bounds⟩

/-- Into a unit of four, two parts are lifted to a whole coin each, but both
together are exchanged into one. -/
example :
    (fineAndCoarse.exchange
        (.whole ⟨.standard, "fine", 4 * 10 ^ 18 - 2, by decide,
          by decide +kernel⟩)
        (.text "coarse") >>= fun part => Except.ok part.amount) =
      .ok 1 ∧
    (fineAndCoarse.exchange
        (.whole ⟨.standard, "fine", 2 * (4 * 10 ^ 18 - 2), by decide,
          by decide +kernel⟩)
        (.text "coarse") >>= fun result => Except.ok result.amount) =
      .ok 1 := by
  decide +kernel

end Registry

end Coinage
