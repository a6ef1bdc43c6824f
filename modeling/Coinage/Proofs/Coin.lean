import Coinage.Coin
import Coinage.Proofs.Denom
import Coinage.Proofs.Fixed.Exact

/-!
# Making and splitting coins

From a name that the rule accepts and an amount within its budget a coin is
always made.  Splitting a decimal coin needs no check at all: a fixed-point
number has three hundred and fifteen bits on a scale of `10 ^ 18` units, so its
whole part has fewer than two hundred and fifty-six.
-/

namespace Coinage

/-! ## Numbers that are not below zero -/

namespace Quantized

theorem integerPart_of_not_isBelowZero
    {units : Quantized}
    (unsigned : units.isBelowZero = false) :
    units.integerPart = (units.scaled / Scale.one : Nat) := by
  unfold integerPart
  split_ifs with negative
  · have zero : units.scaled = 0 := by
      simpa [isBelowZero, negative] using unsigned
    simp [zero]
  · rfl

end Quantized

/-! ## The whole part of a fixed-point number -/

/-- The budget of decimals leaves whole parts within the budget of amounts. -/
theorem Scale.wholePart_lt
    {scaled : Nat}
    (fits : scaled < 2 ^ decimalBits) :
    scaled / one < 2 ^ integerBits := by
  rw [Nat.div_lt_iff_lt_mul one_pos]
  exact fits.trans_le (by decide +kernel)

theorem Scale.integerAmount_lt
    {amount : Nat}
    (fits : amount < 2 ^ integerBits) :
    amount < 10 ^ 101 :=
  fits.trans (by decide +kernel)

/-! ## What coins are made of -/

/-- The parts of coins of one kind, which are all that there is to a coin. -/
structure Makeup (Kind Amount : Type) where
  rule : Kind → DenomRule
  denom : Kind → String
  amount : Kind → Amount
  eq_of_parts {left right : Kind} :
    rule left = rule right →
    denom left = denom right →
    amount left = amount right →
    left = right

namespace Makeup

variable
    {Kind Amount : Type}
    {makeup : Makeup Kind Amount}
    {rule : DenomRule}
    {denom : String}
    {amount : Amount}
    {attempt : Except Failure Kind}

/-- An attempt that makes a coin with the given parts. -/
def Makes
    (makeup : Makeup Kind Amount)
    (rule : DenomRule)
    (denom : String)
    (amount : Amount)
    (attempt : Except Failure Kind) :
    Prop :=
  ∃ coin, attempt = .ok coin ∧
    makeup.rule coin = rule ∧
      makeup.denom coin = denom ∧
        makeup.amount coin = amount

theorem Makes.amount_eq
    {coin : Kind}
    (made : makeup.Makes rule denom amount attempt)
    (succeeded : attempt = .ok coin) :
    makeup.amount coin = amount := by
  obtain ⟨_, made, -, -, amountEq⟩ := made
  rw [succeeded] at made
  cases made
  exact amountEq

theorem Makes.ne_error
    (made : makeup.Makes rule denom amount attempt)
    (failure : Failure) :
    attempt ≠ .error failure := by
  intro failed
  obtain ⟨_, made, -⟩ := made
  rw [failed] at made
  cases made

/-- Attempts that make coins with the same parts are the same. -/
theorem Makes.attempt_eq
    {other : Except Failure Kind}
    (made : makeup.Makes rule denom amount attempt)
    (otherMade : makeup.Makes rule denom amount other) :
    attempt = other := by
  obtain ⟨left, rfl, rfl, rfl, rfl⟩ := made
  obtain ⟨right, rfl, ruleEq, denomEq, amountEq⟩ := otherMade
  rw [makeup.eq_of_parts ruleEq denomEq amountEq]

end Makeup

namespace Coin

/-- Coins are equal if their rules, names and amounts are. -/
theorem eq_of_amount
    {left right : Coin}
    (ruleEq : left.rule = right.rule)
    (denomEq : left.denom = right.denom)
    (amountEq : left.amount = right.amount) :
    left = right := by
  cases left
  cases right
  cases ruleEq
  cases denomEq
  cases amountEq
  rfl

/-- The parts of whole coins. -/
def makeup : Makeup Coin Int where
  rule := Coin.rule
  denom := Coin.denom
  amount coin := coin.amount
  eq_of_parts ruleEq denomEq amountEq :=
    eq_of_amount ruleEq denomEq (Int.ofNat_inj.1 amountEq)

/-- An attempt that makes a coin with the given rule, name and amount. -/
def Makes
    (rule : DenomRule)
    (denom : String)
    (amount : Int)
    (attempt : Except Failure Coin) :
    Prop :=
  makeup.Makes rule denom amount attempt

theorem make_of_accepts
    {rule : DenomRule}
    {denom : String}
    {amount : Nat}
    (accepted : rule.accepts denom = true)
    (fits : amount < 2 ^ Scale.integerBits) :
    make rule (.text denom) (.integer amount) =
      .ok ⟨rule, denom, amount, accepted, fits⟩ := by
  have short : Scale.bitLength (amount : Int).natAbs ≤ Scale.integerBits :=
    Scale.bitLength_le_iff.2 fits
  have unsigned : ¬ (amount : Int) < 0 := by omega
  rw [make, DenomRule.check_of_accepts accepted, Failure.ok_bind,
    integerAmount, Failure.ok_bind, if_neg unsigned, dif_pos short]
  rfl

/-- A coin carries the name and the rule that it was made with. -/
theorem named_of_make
    {rule : DenomRule}
    {denom amount : Value}
    {coin : Coin}
    (made : make rule denom amount = .ok coin) :
    denom = .text coin.denom ∧ coin.rule = rule := by
  obtain ⟨name, checked, made⟩ := Failure.bind_eq_ok_iff.1 made
  obtain ⟨number, -, made⟩ := Failure.bind_eq_ok_iff.1 made
  split_ifs at made
  cases made
  exact ⟨DenomRule.check_eq_ok_iff.1 checked, rfl⟩

/-- The budget leaves every amount short enough to be written. -/
theorem isWritable_amount (coin : Coin) :
    (Value.integer coin.amount).isWritable = true := by
  refine Text.isConvertible_iff.2 ?_
  rw [Int.natAbs_natCast]
  exact (Scale.integerAmount_lt coin.withinBudget).trans_le
    (Nat.pow_le_pow_right (by decide) (by decide))

/-- The amount of a coin as an operand. -/
theorem quantized_amount
    (coin : Coin)
    (operation : NumberOperation) :
    Quantized.ofValue operation (.integer coin.amount) =
      .ok ⟨false, coin.amount * Scale.one⟩ := by
  have notNegative : decide ((coin.amount : Int) < 0) = false :=
    decide_eq_false (by omega)
  rw [Quantized.ofValue_integer operation, notNegative, Int.natAbs_natCast]
  exact Scale.integerAmount_lt coin.withinBudget

end Coin

namespace DecimalCoin

/-- Coins are equal if their rules, names and numbers of units are. -/
theorem eq_of_scaled
    {left right : DecimalCoin}
    (ruleEq : left.rule = right.rule)
    (denomEq : left.denom = right.denom)
    (scaledEq : left.amount.scaled = right.amount.scaled) :
    left = right := by
  have amountEq : left.amount = right.amount :=
    Fixed.eq_of_scaled (left.unsigned.trans right.unsigned.symm) scaledEq
  cases left
  cases right
  cases ruleEq
  cases denomEq
  cases amountEq
  rfl

/-- The parts of decimal coins. -/
def makeup : Makeup DecimalCoin Nat where
  rule := DecimalCoin.rule
  denom := DecimalCoin.denom
  amount coin := coin.amount.scaled
  eq_of_parts := eq_of_scaled

/-- An attempt that makes a decimal coin with the given rule, name and number
of units. -/
def Makes
    (rule : DenomRule)
    (denom : String)
    (scaled : Nat)
    (attempt : Except Failure DecimalCoin) :
    Prop :=
  makeup.Makes rule denom scaled attempt

theorem make_toValue
    {rule : DenomRule}
    {denom : String}
    {number : Fixed}
    (accepted : rule.accepts denom = true)
    (unsigned : number.isBelowZero = false) :
    make rule (.text denom) number.toValue =
      .ok ⟨rule, denom, ⟨⟨false, number.scaled⟩, number.withinBudget⟩,
        accepted, rfl⟩ := by
  rw [make, DenomRule.check_of_accepts accepted, Failure.ok_bind,
    Fixed.ofValue_toValue, Failure.ok_bind, if_neg (by simp [unsigned])]
  rfl

theorem makes_toValue
    {rule : DenomRule}
    {denom : String}
    {number : Fixed}
    (accepted : rule.accepts denom = true)
    (unsigned : number.isBelowZero = false) :
    Makes rule denom number.scaled
      (make rule (.text denom) number.toValue) :=
  ⟨_, make_toValue accepted unsigned, rfl, rfl, rfl⟩

/-- A coin carries the name and the rule that it was made with. -/
theorem named_of_make
    {rule : DenomRule}
    {denom amount : Value}
    {coin : DecimalCoin}
    (made : make rule denom amount = .ok coin) :
    denom = .text coin.denom ∧ coin.rule = rule := by
  obtain ⟨name, checked, made⟩ := Failure.bind_eq_ok_iff.1 made
  obtain ⟨number, -, made⟩ := Failure.bind_eq_ok_iff.1 made
  split_ifs at made
  cases made
  exact ⟨DenomRule.check_eq_ok_iff.1 checked, rfl⟩

theorem isBelowZero_amount (coin : DecimalCoin) :
    coin.amount.isBelowZero = false := by
  simp [Quantized.isBelowZero, coin.unsigned]

theorem value_amount (coin : DecimalCoin) :
    coin.amount.value = coin.amount.scaled / 10 ^ 18 :=
  Quantized.value_of_not_isBelowZero coin.isBelowZero_amount

/-- The whole coin below a decimal coin. -/
def wholeCoin (coin : DecimalCoin) : Coin :=
  ⟨coin.rule, coin.denom, coin.amount.scaled / Scale.one, coin.accepted,
    Scale.wholePart_lt coin.amount.withinBudget⟩

/-- What a decimal coin has beyond the whole coin below it. -/
def change (coin : DecimalCoin) : DecimalCoin :=
  ⟨coin.rule, coin.denom,
    ⟨⟨false, coin.amount.scaled % Scale.one⟩,
      (Nat.mod_le _ _).trans_lt coin.amount.withinBudget⟩,
    coin.accepted, rfl⟩

theorem toQuantized_amount (coin : DecimalCoin) :
    coin.amount.toQuantized = ⟨false, coin.amount.scaled⟩ := by
  rw [← coin.unsigned]

/-- What the whole part takes from the amount is the change, in whichever kind of
number the whole part is given. -/
theorem difference_of_admitted
    {coin : DecimalCoin}
    {whole : Value}
    (admitted :
      Quantized.ofValue .subtract whole =
        .ok ⟨false, coin.amount.scaled / Scale.one * Scale.one⟩) :
    Fixed.difference coin.amount.toValue whole =
      .ok coin.change.amount := by
  have remainder :
      coin.amount.scaled - coin.amount.scaled / Scale.one * Scale.one =
        coin.amount.scaled % Scale.one := by
    have split := Nat.div_add_mod' coin.amount.scaled Scale.one
    omega
  rw [Fixed.difference_of_ok
      (Fixed.quantized_toValue .subtract coin.amount) admitted,
    toQuantized_amount, Quantized.minus_of_le (Nat.div_mul_le_self _ _),
    remainder]
  exact Quantized.fix_of_lt coin.change.amount.withinBudget

/-- Splitting a decimal coin always succeeds. -/
theorem truncate_eq (coin : DecimalCoin) :
    coin.truncate = .ok (coin.wholeCoin, coin.change) := by
  have whole : coin.amount.integerPart = coin.wholeCoin.amount :=
    Quantized.integerPart_of_not_isBelowZero coin.isBelowZero_amount
  have difference :=
    difference_of_admitted (coin.wholeCoin.quantized_amount .subtract)
  rw [truncate, whole, difference, Failure.ok_bind,
    Coin.make_of_accepts coin.accepted coin.wholeCoin.withinBudget,
    Failure.ok_bind,
    make_toValue coin.accepted coin.change.isBelowZero_amount]
  rfl

end DecimalCoin

/-! ## A whole coin as a decimal coin -/

namespace Coin

/-- A whole coin as a decimal coin, if its units are within the budget. -/
def inUnits
    (coin : Coin)
    {rule : DenomRule}
    (accepted : rule.accepts coin.denom = true)
    (fits : coin.amount * Scale.one < 2 ^ Scale.decimalBits) :
    DecimalCoin :=
  ⟨rule, coin.denom, ⟨⟨false, coin.amount * Scale.one⟩, fits⟩, accepted, rfl⟩

/-- The decimal coin with the parts of a whole coin exists if its units are
within the budget. -/
theorem toDecimal_whole
    {coin : Coin}
    (fits : coin.amount * Scale.one < 2 ^ Scale.decimalBits) :
    (Holding.whole coin).toDecimal =
      .ok (coin.inUnits coin.accepted fits) := by
  have fixed :
      Fixed.ofValue (.integer coin.amount) =
        .ok ⟨⟨false, coin.amount * Scale.one⟩, fits⟩ := by
    rw [Fixed.ofValue, coin.quantized_amount, Failure.ok_bind,
      Quantized.fix_of_lt fits]
  change DecimalCoin.make coin.rule (.text coin.denom) (.integer coin.amount) =
    _
  rw [DecimalCoin.make, DenomRule.check_of_accepts coin.accepted,
    Failure.ok_bind, fixed, Failure.ok_bind]
  rfl

end Coin

end Coinage
