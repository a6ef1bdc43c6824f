import Coinage.Proofs.Expression
import Coinage.Proofs.Fixed.Exact

/-!
# The grammar of coin expressions

A well-formed expression is a written amount with a plain name behind it.  Both
parts are unrestricted in length, and the name may contain whatever an amount
contains, but it cannot begin with it.  So a text is at most one expression:
the amount that stands in front of it cannot be shortened or extended.

A text denotes a coin exactly if it is a well-formed expression between blanks,
the rule accepts the name, and the amount is a number of units within the budget
and not below zero.  Then the coin has that name and exactly that amount.  Any
other value is refused, always with a failure of expressions.
-/

namespace Coinage

open Coinage.Text

/-! ## The number that a literal spells -/

namespace Literal

/-- The number that the digits of a literal spell. -/
def magnitude (literal : Literal) : ℚ :=
  natOfDigits literal.whole +
    natOfDigits literal.fraction / 10 ^ literal.fraction.length

/-- The number that a literal spells. -/
def value (literal : Literal) : ℚ :=
  if literal.sign = some true then -literal.magnitude else literal.magnitude

variable {literal : Literal}

theorem abs_value (literal : Literal) :
    |literal.value| = literal.magnitude := by
  have nonnegative : 0 ≤ literal.magnitude := by
    unfold magnitude
    positivity
  unfold value
  split_ifs
  · rw [abs_neg, abs_of_nonneg nonnegative]
  · exact abs_of_nonneg nonnegative

/-- With at most eighteen fraction digits a literal spells a whole number of
units. -/
theorem cast_scaled_units
    (short : literal.fraction.length ≤ Scale.places) :
    (literal.units.scaled : ℚ) = literal.magnitude * 10 ^ 18 := by
  have digitsEq :
      natOfDigits (literal.whole ++ literal.fraction) =
        10 ^ literal.fraction.length * natOfDigits literal.whole +
          natOfDigits literal.fraction := by
    rw [natOfDigits, Nat.ofDigitChars_append,
      Nat.ofDigitChars_eq_ofDigitChars_zero]
    rfl
  have scaleEq :
      (10 : ℚ) ^ 18 =
        10 ^ literal.fraction.length *
          10 ^ (Scale.places - literal.fraction.length) := by
    rw [← pow_add, Nat.add_sub_of_le short]
    rfl
  rw [units, digitsEq, magnitude, scaleEq]
  push_cast
  field_simp

theorem value_units
    (short : literal.fraction.length ≤ Scale.places) :
    literal.units.value = literal.value := by
  have scale : (10 : ℚ) ^ 18 ≠ 0 := by norm_num
  have magnitudeEq : literal.magnitude = literal.units.scaled / 10 ^ 18 := by
    rw [cast_scaled_units short, mul_div_cancel_right₀ _ scale]
  rw [value, magnitudeEq, Quantized.value, Quantized.signed]
  by_cases minus : literal.sign = some true
  · simp [units, minus, neg_div]
  · simp [units, minus]

/-- The budget of a literal's number. -/
theorem units_lt_iff
    (short : literal.fraction.length ≤ Scale.places) :
    literal.units.scaled < 2 ^ Scale.decimalBits ↔
      |literal.value| * 10 ^ 18 < 2 ^ 315 := by
  rw [abs_value, ← cast_scaled_units short, ← Nat.cast_lt (α := ℚ),
    Nat.cast_pow, Nat.cast_ofNat, Scale.decimalBits]

end Literal

namespace Expression

/-! ## Expressions and their texts -/

/-- An amount that may be written, with a name that may stand behind it. -/
structure WellFormed (expression : Expression) : Prop where
  written : expression.amount.IsWritten
  plain : PlainName expression.denom

/-- A text is an expression between blanks exactly if it is written as one. -/
theorem ofText?_eq_some_iff
    {source : List Char}
    {expression : Expression} :
    ofText? source = some expression ↔
      strip source = expression.text ∧ expression.WellFormed := by
  rw [ofText?]
  constructor
  · intro read
    split at read
    · rename_i amount denom split
      obtain ⟨textEq, written⟩ := Literal.of_split? split
      split_ifs at read with plain
      cases read
      exact ⟨textEq, written, isPlainName_iff.1 plain⟩
    · cases read
  · rintro ⟨textEq, written, plain⟩
    rw [textEq, text, Literal.split?_text_append written plain.follows]
    exact if_pos (isPlainName_iff.2 plain)

/-- A text is at most one expression. -/
theorem WellFormed.eq_of_text
    {first second : Expression}
    (firstFormed : first.WellFormed)
    (secondFormed : second.WellFormed)
    (textEq : first.text = second.text) :
    first = second := by
  have firstSplit :=
    Literal.split?_text_append firstFormed.written firstFormed.plain.follows
  have secondSplit :=
    Literal.split?_text_append secondFormed.written secondFormed.plain.follows
  rw [text, text] at textEq
  rw [textEq, secondSplit] at firstSplit
  cases first
  cases second
  cases firstSplit
  rfl

/-! ## Expressions and their coins -/

/-- A literal denotes the number of a coin exactly if that is what it spells,
and it is a number of units within the budget. -/
theorem exists_number_iff
    {literal : Literal}
    {coin : DecimalCoin} :
    (∃ number,
      literal.toFixed = .ok number ∧
        number.isBelowZero = false ∧
        coin.amount.scaled = number.scaled) ↔
      literal.fraction.length ≤ 18 ∧
        |literal.value| * 10 ^ 18 < 2 ^ 315 ∧
        0 ≤ literal.value ∧
        coin.amount.value = literal.value := by
  have coinNonneg : 0 ≤ coin.amount.value :=
    (Quantized.isBelowZero_eq_false_iff _).1 coin.isBelowZero_amount
  constructor
  · rintro ⟨number, denotes, notBelow, scaledEq⟩
    obtain ⟨short, unitsEq⟩ := Literal.toFixed_eq_ok_iff.1 denotes
    have nonneg := (Quantized.isBelowZero_eq_false_iff _).1 notBelow
    have fits := number.withinBudget
    rw [← unitsEq] at nonneg scaledEq fits
    rw [← Quantized.value_eq_value_iff coinNonneg nonneg] at scaledEq
    rw [Literal.value_units short] at nonneg scaledEq
    exact ⟨short, (Literal.units_lt_iff short).1 fits, nonneg, scaledEq⟩
  · rintro ⟨short, fits, nonneg, valueEq⟩
    rw [← Literal.value_units short] at nonneg valueEq
    exact ⟨⟨literal.units, (Literal.units_lt_iff short).2 fits⟩,
      Literal.toFixed_eq_ok_iff.2 ⟨short, rfl⟩,
      (Quantized.isBelowZero_eq_false_iff _).2 nonneg,
      (Quantized.value_eq_value_iff coinNonneg nonneg).1 valueEq⟩

section Coins

variable
    {rule : DenomRule}
    {expression : Expression}
    {coin : DecimalCoin}

/-- An expression denotes the coin of its name and its number, provided that the
coin may exist. -/
theorem toCoin_eq_ok_iff
    {source : String} :
    expression.toCoin rule source = .ok coin ↔
      (coin.rule = rule ∧ coin.denom = String.ofList expression.denom) ∧
        ∃ number,
          expression.amount.toFixed = .ok number ∧
            number.isBelowZero = false ∧
            coin.amount.scaled = number.scaled := by
  constructor
  · intro denoted
    rw [toCoin] at denoted
    cases checked : rule.check (.text (String.ofList expression.denom)) with
    | error refused =>
        rw [checked] at denoted
        cases denoted
    | ok name =>
        have denomEq := Value.text.inj (DenomRule.check_eq_ok_iff.1 checked)
        rw [checked] at denoted
        dsimp only at denoted
        split at denoted
        · cases denoted
        · rename_i number value
          split_ifs at denoted with below
          have notBelow := Bool.eq_false_iff.2 below
          rw [DecimalCoin.make_toValue name.property notBelow] at denoted
          cases denoted
          exact ⟨⟨rfl, denomEq.symm⟩, number, value, notBelow, rfl⟩
  · rintro ⟨⟨rfl, denomEq⟩, number, denotes, notBelow, scaledEq⟩
    have accepted :
        coin.rule.accepts (String.ofList expression.denom) = true := by
      rw [← denomEq]
      exact coin.accepted
    rw [toCoin_of_accepts accepted denotes notBelow source]
    exact (DecimalCoin.makes_toValue accepted notBelow).attempt_eq
      ⟨coin, rfl, rfl, denomEq, scaledEq⟩

/-- A text that denotes a coin by a rule: it is this expression between blanks,
the rule accepts the name, and the amount is a number of units within the budget
that is not below zero. -/
structure Denotes
    (rule : DenomRule)
    (source : List Char)
    (expression : Expression) :
    Prop extends WellFormed expression where
  text_eq : strip source = expression.text
  short : expression.amount.fraction.length ≤ 18
  fits : |expression.amount.value| * 10 ^ 18 < 2 ^ 315
  notBelow : 0 ≤ expression.amount.value
  accepted : rule.accepts (String.ofList expression.denom) = true

/-- The coin has the name and exactly the number of an expression, and no sign,
also if it is zero. -/
structure StandsFor
    (rule : DenomRule)
    (expression : Expression)
    (coin : DecimalCoin) :
    Prop where
  rule_eq : coin.rule = rule
  denom_eq : coin.denom = String.ofList expression.denom
  value_eq : coin.amount.value = expression.amount.value
  unsigned : coin.amount.negative = false

/-- A coin is denoted exactly by the texts of the expressions that stand for
it. -/
theorem coinOfText_eq_ok_iff
    {source : String} :
    coinOfText rule source = .ok coin ↔
      ∃ expression,
        Denotes rule source.toList expression ∧
          StandsFor rule expression coin := by
  rw [coinOfText]
  constructor
  · intro denoted
    split at denoted
    · rename_i expression read
      obtain ⟨textEq, formed⟩ := ofText?_eq_some_iff.1 read
      obtain ⟨⟨ruleEq, denomEq⟩, number⟩ := toCoin_eq_ok_iff.1 denoted
      obtain ⟨short, fits, notBelow, valueEq⟩ := exists_number_iff.1 number
      refine ⟨expression, ⟨formed, textEq, short, fits, notBelow, ?_⟩,
        ruleEq, denomEq, valueEq, coin.unsigned⟩
      rw [← ruleEq, ← denomEq]
      exact coin.accepted
    · cases denoted
  · rintro ⟨expression, denotes, standsFor⟩
    rw [ofText?_eq_some_iff.2 ⟨denotes.text_eq, denotes.toWellFormed⟩]
    exact toCoin_eq_ok_iff.2
      ⟨⟨standsFor.rule_eq, standsFor.denom_eq⟩,
        exists_number_iff.2
          ⟨denotes.short, denotes.fits, denotes.notBelow,
            standsFor.value_eq⟩⟩

theorem Denotes.exists_coin
    {source : String}
    (denotes : Denotes rule source.toList expression) :
    ∃ coin,
      coinOfText rule source = .ok coin := by
  have number :
      expression.amount.toFixed =
        .ok ⟨expression.amount.units,
          (Literal.units_lt_iff denotes.short).2 denotes.fits⟩ :=
    Literal.toFixed_eq_ok_iff.2 ⟨denotes.short, rfl⟩
  have notBelow : expression.amount.units.isBelowZero = false := by
    rw [Quantized.isBelowZero_eq_false_iff, Literal.value_units denotes.short]
    exact denotes.notBelow
  have made := toCoin_of_accepts denotes.accepted number notBelow source
  rw [DecimalCoin.make_toValue denotes.accepted notBelow] at made
  rw [coinOfText,
    ofText?_eq_some_iff.2 ⟨denotes.text_eq, denotes.toWellFormed⟩]
  exact ⟨_, made⟩

/-- A text denotes by one expression only. -/
theorem Denotes.eq
    {source : List Char}
    {other : Expression}
    (denotes : Denotes rule source expression)
    (otherDenotes : Denotes rule source other) :
    expression = other :=
  denotes.toWellFormed.eq_of_text otherDenotes.toWellFormed
    (denotes.text_eq.symm.trans otherDenotes.text_eq)

end Coins

/-! ## The grammar -/

/--
Reading a coin accepts exactly its grammar.  A text denotes a coin exactly if
between blanks it is a written amount with a plain name behind it, the amount
has at most eighteen fraction digits, is within the budget and not below zero,
and the rule accepts the name.  The amount and the name are determined by the
text.  The coin has that name, that rule and exactly that number, without a
sign.  Every other value is refused, with a failure of expressions.
-/
theorem coin_grammar
    (rule : DenomRule) :
    (∀ source : String,
      (∃ result, coin rule (.text source) = .ok result) ↔
        ∃ expression, Denotes rule source.toList expression) ∧
    (∀ first second : Expression,
      first.WellFormed →
      second.WellFormed →
      first.text = second.text →
      first = second) ∧
    (∀ (source : String) (expression : Expression) (result : DecimalCoin),
      Denotes rule source.toList expression →
      coin rule (.text source) = .ok result →
      StandsFor rule expression result) ∧
    ∀ value : Value,
      (∀ (source : String) (expression : Expression),
        value = .text source → ¬ Denotes rule source.toList expression) →
      ∃ failure,
        coin rule value = .error failure ∧
          failure.family = .expression := by
  refine ⟨?_, fun _ _ => WellFormed.eq_of_text, ?_, ?_⟩
  · intro source
    constructor
    · rintro ⟨result, denoted⟩
      obtain ⟨expression, denotes, -⟩ := coinOfText_eq_ok_iff.1 denoted
      exact ⟨expression, denotes⟩
    · rintro ⟨expression, denotes⟩
      exact denotes.exists_coin
  · intro source expression result denotes denoted
    obtain ⟨other, otherDenotes, standsFor⟩ := coinOfText_eq_ok_iff.1 denoted
    rwa [denotes.eq otherDenotes]
  · intro value refused
    cases read : coin rule value with
    | error failure =>
        exact ⟨failure, rfl, family_of_coin_error read⟩
    | ok result =>
        cases value with
        | text source =>
            obtain ⟨expression, denotes, -⟩ := coinOfText_eq_ok_iff.1 read
            exact absurd denotes (refused source expression rfl)
        | integer | float | decimal | boolean | absent | nan => cases read

/-- A negative zero in front of a name that contains digits, an exponent, a
point and signs. -/
def negativeZero : Expression :=
  ⟨⟨some true, ['0'], ['0']⟩, "a1e5.+-".toList⟩

/-- The text is read between blanks that are not of ASCII, its zero has no sign,
and a number that is no text is refused. -/
theorem coin_grammar_negativeZero :
    (∃ result,
      coin .anyText (.text "\u2003-0.0a1e5.+-\n") = .ok result ∧
        StandsFor .anyText negativeZero result) ∧
    ∃ failure,
      coin .anyText (.integer 5) = .error failure ∧
        failure.family = .expression := by
  obtain ⟨accepts, -, exactly, refuses⟩ := coin_grammar .anyText
  have zero : negativeZero.amount.value = 0 := by
    norm_num [negativeZero, Literal.value, Literal.magnitude, natOfDigits,
      Nat.ofDigitChars_cons]
  have denotes :
      Denotes .anyText "\u2003-0.0a1e5.+-\n".toList negativeZero := by
    refine ⟨⟨⟨by decide, List.forall_mem_singleton.2 (by decide),
        List.forall_mem_singleton.2 (by decide)⟩,
      isPlainName_iff.1 (by decide)⟩, by decide, by decide, ?_, zero.ge, rfl⟩
    rw [zero, abs_zero, zero_mul]
    positivity
  obtain ⟨result, denoted⟩ := (accepts _).2 ⟨_, denotes⟩
  refine ⟨⟨result, denoted, exactly _ _ _ denotes denoted⟩, ?_⟩
  exact refuses (.integer 5) (by rintro _ _ ⟨⟩)

end Expression

end Coinage
