import Coinage.Proofs.Coin
import Coinage.Proofs.Fixed.Text

/-!
# Coins made again

A coin is made from a name, an amount and a rule, and these three say everything
about it.  What a coin keeps as its amount is what it can be made from again: an
integer, or a number with eighteen fraction digits and without a sign, also if it
was made from a number below zero that is rounded to zero.  So a coin that is
made again from its own parts is the coin itself.

Printing fixes the amount of a decimal coin once more.  That never fails, and no
sign is printed in front of the digits.
-/

namespace Coinage

open Coinage.Text

/-! ## What coins are made from -/

namespace Quantized

/-- A number of units is not rounded when it is read. -/
theorem units_toNumeral (number : Quantized) :
    number.toNumeral.units = number.signed := by
  rw [← signed_nearest, magnitude_toNumeral]
  change (nearest number.negative (number.scaled / 10 ^ 18)).signed = _
  rw [nearest_units]

end Quantized

/-- A whole coin is made from its rule, its name and its amount, and from nothing
else. -/
theorem Coin.make_eq_ok_iff
    {rule : DenomRule}
    {denom amount : Value}
    {coin : Coin} :
    make rule denom amount = .ok coin ↔
      coin.rule = rule ∧ denom = .text coin.denom ∧
        amount = .integer coin.amount := by
  constructor
  · intro made
    obtain ⟨denomEq, ruleEq⟩ := named_of_make made
    obtain ⟨name, -, made⟩ := Failure.bind_eq_ok_iff.1 made
    obtain ⟨number, read, made⟩ := Failure.bind_eq_ok_iff.1 made
    have amountEq : amount = .integer number := by
      cases amount with
      | integer =>
          cases read
          rfl
      | text | float | decimal | boolean | absent | nan => cases read
    split_ifs at made with below
    cases made
    refine ⟨ruleEq, denomEq, ?_⟩
    rw [amountEq, Int.natAbs_of_nonneg (not_lt.1 below)]
  · rintro ⟨rfl, rfl, rfl⟩
    exact make_of_accepts coin.accepted coin.withinBudget

/-- A decimal coin is made from its rule, its name and every number that is
rounded to the units of its amount. -/
theorem DecimalCoin.make_eq_ok_iff
    {rule : DenomRule}
    {denom amount : Value}
    {coin : DecimalCoin} :
    make rule denom amount = .ok coin ↔
      coin.rule = rule ∧ denom = .text coin.denom ∧
        ∃ number : Numeral,
          amount.decimal? = some (.finite number) ∧
            number.units = coin.amount.scaled := by
  constructor
  · intro made
    obtain ⟨denomEq, ruleEq⟩ := named_of_make made
    refine ⟨ruleEq, denomEq, ?_⟩
    obtain ⟨name, -, made⟩ := Failure.bind_eq_ok_iff.1 made
    obtain ⟨fixed, read, made⟩ := Failure.bind_eq_ok_iff.1 made
    obtain ⟨number, denotes⟩ :
        ∃ number, amount.decimal? = some (.finite number) := by
      by_contra absent
      obtain ⟨failure, refused, -⟩ :=
        Fixed.ofValue_of_not_finite (not_exists.1 absent)
      cases refused.symm.trans read
    refine ⟨number, denotes, ?_⟩
    -- A number that is not below zero has the sign of its units.
    split_ifs at made with below
    cases made
    have valueEq :=
      ((Fixed.rounds (Value.denoted?_of_decimal? denotes)).result fixed
        read).2
    rw [Quantized.value_of_not_isBelowZero (Bool.eq_false_iff.2 below),
      div_left_inj' (by norm_num)] at valueEq
    exact_mod_cast valueEq.symm
  · rintro ⟨rfl, rfl, number, denotes, unitsEq⟩
    have scaledEq : number.units.natAbs = coin.amount.scaled := by
      rw [unitsEq, Int.natAbs_natCast]
    have fits : number.units.natAbs < 2 ^ Scale.decimalBits :=
      scaledEq ▸ coin.amount.withinBudget
    have notBelow :
        (⟨number.negative, number.units.natAbs⟩ :
          Quantized).isBelowZero = false := by
      rw [Quantized.isBelowZero_eq_false_iff, Quantized.value,
        Quantized.signed_units, unitsEq]
      positivity
    rw [make, DenomRule.check_of_accepts coin.accepted, Failure.ok_bind,
      Fixed.ofValue_of_units_lt (Value.denoted?_of_decimal? denotes) fits,
      Failure.ok_bind,
      if_neg (by rw [notBelow]; decide)]
    exact congrArg Except.ok (eq_of_scaled rfl rfl scaledEq)

/-- A value is read as an amount of coins of a kind: a whole coin takes it as it
is, a decimal coin takes the units that its number is rounded to, which are not
below zero, and no sign. -/
def CoinKind.Reads
    (kind : CoinKind)
    (value amount : Value) :
    Prop :=
  match kind with
  | .whole => value = amount
  | .fractional =>
    ∃ (number : Numeral) (units : Nat),
      value.decimal? = some (.finite number) ∧
        number.units = units ∧
        amount = .decimal (.finite ⟨false, units, -18⟩)

theorem DecimalCoin.toValue_amount (coin : DecimalCoin) :
    coin.amount.toValue =
      .decimal (.finite ⟨false, coin.amount.scaled, -18⟩) := by
  rw [toQuantized_amount]
  rfl

theorem DecimalCoin.reads_iff
    {coin : DecimalCoin}
    {value : Value} :
    CoinKind.fractional.Reads value coin.amount.toValue ↔
      ∃ number : Numeral,
        value.decimal? = some (.finite number) ∧
          number.units = coin.amount.scaled := by
  constructor
  · rintro ⟨number, units, denotes, unitsEq, amountEq⟩
    rw [toValue_amount] at amountEq
    cases amountEq
    exact ⟨number, denotes, unitsEq⟩
  · rintro ⟨number, denotes, unitsEq⟩
    exact ⟨number, _, denotes, unitsEq, coin.toValue_amount⟩

namespace Holding

/-- Make a coin of a kind. -/
def make
    (kind : CoinKind)
    (rule : DenomRule)
    (denom amount : Value) :
    Except Failure Holding :=
  match kind with
  | .whole => do
    let coin ← Coin.make rule denom amount
    return .whole coin
  | .fractional => do
    let coin ← DecimalCoin.make rule denom amount
    return .fractional coin

/-- A coin is made exactly from its kind, its rule, its name and what is read as
its amount. -/
theorem make_eq_ok_iff
    {kind : CoinKind}
    {rule : DenomRule}
    {denom amount : Value}
    {holding : Holding} :
    make kind rule denom amount = .ok holding ↔
      holding.kind = kind ∧ holding.rule = rule ∧
        denom = .text holding.denom ∧ kind.Reads amount holding.amount := by
  constructor
  · intro made
    cases kind with
    | whole =>
        obtain ⟨coin, coinMade, ⟨⟩⟩ := Failure.bind_eq_ok_iff.1 made
        exact ⟨rfl, Coin.make_eq_ok_iff.1 coinMade⟩
    | fractional =>
        obtain ⟨coin, coinMade, ⟨⟩⟩ := Failure.bind_eq_ok_iff.1 made
        obtain ⟨ruleEq, denomEq, reads⟩ :=
          DecimalCoin.make_eq_ok_iff.1 coinMade
        exact ⟨rfl, ruleEq, denomEq, DecimalCoin.reads_iff.2 reads⟩
  · rintro ⟨rfl, ruleEq, denomEq, reads⟩
    cases holding with
    | whole coin =>
        exact Failure.bind_eq_ok_iff.2
          ⟨coin, Coin.make_eq_ok_iff.2 ⟨ruleEq, denomEq, reads⟩, rfl⟩
    | fractional coin =>
        exact Failure.bind_eq_ok_iff.2
          ⟨coin, DecimalCoin.make_eq_ok_iff.2
            ⟨ruleEq, denomEq, DecimalCoin.reads_iff.1 reads⟩, rfl⟩

/-- From its own parts a coin is made again. -/
theorem make_self (holding : Holding) :
    make holding.kind holding.rule (.text holding.denom) holding.amount =
      .ok holding := by
  refine make_eq_ok_iff.2 ⟨rfl, rfl, rfl, ?_⟩
  cases holding with
  | whole coin =>
      exact rfl
  | fractional coin =>
      refine DecimalCoin.reads_iff.2 ⟨_, rfl, ?_⟩
      rw [Quantized.units_toNumeral, Quantized.signed, coin.unsigned]
      rfl

theorem sameAs_self (holding : Holding) : holding.sameAs holding = true := by
  cases holding with
  | whole coin => simp [sameAs, Coin.sameAs]
  | fractional coin => simp [sameAs, DecimalCoin.sameAs]

end Holding

/-! ## Printing coins -/

/-- A text that begins with a digit and has only digits and points, and so no
sign. -/
structure Text.IsUnsigned (source : List Char) : Prop where
  isDigit_head : ∃ first ∈ source.head?, first.isDigit = true
  isDigit_or_eq :
    ∀ character ∈ source, character.isDigit = true ∨ character = '.'

theorem Text.isUnsigned_digits (number : Nat) :
    IsUnsigned (digits number) where
  isDigit_head :=
    ⟨_, List.head?_eq_some_head (digits_ne_nil number),
      isDigit_of_mem_digits (List.head_mem _)⟩
  isDigit_or_eq _ member := .inl (isDigit_of_mem_digits member)

/-- A literal without a sign is an unsigned text. -/
theorem Literal.IsWritten.isUnsigned_text
    {literal : Literal}
    (written : literal.IsWritten)
    (unsigned : literal.sign = none) :
    IsUnsigned literal.text := by
  rw [text_eq_append, unsigned]
  change IsUnsigned (literal.whole ++ literal.fractionText)
  constructor
  · obtain ⟨first, rest, wholeEq⟩ :=
      List.exists_cons_of_ne_nil written.whole_ne_nil
    rw [wholeEq]
    refine ⟨first, rfl, written.isDigit_whole first ?_⟩
    rw [wholeEq]
    exact List.mem_cons_self
  · intro character member
    rcases List.mem_append.1 member with whole | fraction
    · exact .inl (written.isDigit_whole character whole)
    · unfold fractionText at fraction
      split_ifs at fraction
      · cases fraction
      · rcases List.mem_cons.1 fraction with rfl | digit
        · exact .inr rfl
        · exact .inl (written.isDigit_fraction character digit)

namespace Holding

/-- The text of a coin. -/
def text : Holding → String
  | .whole coin => coin.text
  | .fractional coin => coin.text

/-- The description of a coin. -/
def description : Holding → String
  | .whole coin => coin.description
  | .fractional coin => coin.description

/-- The amount of a coin as it is printed.  For a decimal coin this is an
attempt, since its amount is fixed again. -/
def shownAmount (holding : Holding) : Except Failure String :=
  match holding.kind with
  | .whole => .ok holding.amount.shown
  | .fractional => Fixed.format holding.amount

/-- Printing a coin succeeds, and shows its amount by an unsigned text. -/
structure Prints (holding : Holding) (amount : List Char) : Prop where
  shownAmount_eq : holding.shownAmount = .ok (String.ofList amount)
  isUnsigned : IsUnsigned amount
  text_eq : holding.text = String.ofList amount ++ holding.denom
  description_eq :
    holding.description =
      holding.kind.label ++ "(" ++ holding.denom ++ ", " ++
        String.ofList amount ++ ")"

theorem exists_prints (holding : Holding) :
    ∃ amount, holding.Prints amount := by
  cases holding with
  | whole coin =>
      have shown :
          (Value.integer coin.amount).shown =
            String.ofList (digits coin.amount) := by
        simp [Value.shown, integerDigits, minusText]
      exact ⟨digits coin.amount, congrArg Except.ok shown,
        isUnsigned_digits coin.amount, rfl, rfl⟩
  | fractional coin =>
      have unsigned : coin.amount.toQuantized.literal.sign = none := by
        rw [Quantized.literal, coin.unsigned]
        rfl
      refine ⟨coin.amount.text, coin.amount.format_toValue, ?_, rfl, rfl⟩
      rw [← Quantized.text_literal]
      have printed := coin.amount.toQuantized.isPrinted_literal
      exact printed.toIsWritten.isUnsigned_text unsigned

end Holding

/-! ## Well-formed coins -/

/-- The amounts of coins of a kind: an integer within its budget, or units within
theirs with eighteen fraction digits and without a sign. -/
inductive CoinKind.Holds : CoinKind → Value → Prop where
  | whole {amount : Nat} :
      amount < 2 ^ 256 →
      Holds .whole (.integer amount)
  | fractional {units : Nat} :
      units < 2 ^ 315 →
      Holds .fractional (.decimal (.finite ⟨false, units, -18⟩))

/-- A coin has a name that its rule accepts and an amount of its kind, and it can
be printed.  It is known what it can be made from, and its own parts are among
that. -/
structure Holding.IsWellFormed (holding : Holding) : Prop where
  accepted : holding.rule.accepts holding.denom = true
  holds : holding.kind.Holds holding.amount
  prints : ∃ amount, holding.Prints amount
  made_iff :
    ∀ kind rule denom amount,
      make kind rule denom amount = .ok holding ↔
        holding.kind = kind ∧ holding.rule = rule ∧
          denom = .text holding.denom ∧ kind.Reads amount holding.amount
  make_eq :
    make holding.kind holding.rule (.text holding.denom) holding.amount =
      .ok holding
  sameAs_eq : holding.sameAs holding = true

/-- All coins that there are are well formed. -/
theorem Holding.isWellFormed (holding : Holding) : holding.IsWellFormed where
  accepted := by
    cases holding with
    | whole coin => exact coin.accepted
    | fractional coin => exact coin.accepted
  holds := by
    cases holding with
    | whole coin => exact .whole coin.withinBudget
    | fractional coin =>
        have budget : 2 ^ Scale.decimalBits = 2 ^ 315 := by
          rw [Scale.decimalBits]
        have fits := budget ▸ coin.amount.withinBudget
        change CoinKind.Holds .fractional coin.amount.toValue
        rw [coin.toValue_amount]
        exact .fractional fits
  prints := holding.exists_prints
  made_iff _ _ _ _ := make_eq_ok_iff
  make_eq := holding.make_self
  sameAs_eq := holding.sameAs_self

end Coinage
