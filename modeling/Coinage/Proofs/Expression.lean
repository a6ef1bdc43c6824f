import Coinage.Expression
import Coinage.Proofs.Coin
import Coinage.Proofs.Fixed.Literal

/-!
# Reading the text of a coin

The text of a coin is an expression if its name is plain, and it denotes that
coin.  Conversely only coins with plain names are denoted by any text.  Whatever
keeps a text from denoting a coin is a failure of expressions.
-/

namespace Coinage

open Coinage.Text

namespace Expression

/-! ## Plain names -/

/-- A name that may stand in an expression: it is not empty, has no blank and no
comma, and begins with no character that could continue an amount. -/
structure PlainName (name : List Char) : Prop where
  nonempty : name ≠ []
  solid :
    ∀ character ∈ name, isBlank character = false ∧ character ≠ ','
  initial :
    ∀ character ∈ name.head?,
      character.isDigit = false ∧
        character ≠ '.' ∧ character ≠ '+' ∧ character ≠ '-'

theorem isBreak_eq_false_iff {character : Char} :
    isBreak character = false ↔
      isBlank character = false ∧ character ≠ ',' := by
  rw [isBreak, Bool.or_eq_false_iff, beq_eq_false_iff_ne]

theorem isAmountPart_eq_false_iff {character : Char} :
    isAmountPart character = false ↔
      character.isDigit = false ∧
        character ≠ '.' ∧ character ≠ '+' ∧ character ≠ '-' := by
  simp only [isAmountPart, Bool.or_eq_false_iff, beq_eq_false_iff_ne,
    and_assoc]

theorem isPlainName_iff {name : List Char} :
    isPlainName name = true ↔ PlainName name := by
  cases name with
  | nil =>
      exact iff_of_false (by decide) fun plain => plain.nonempty rfl
  | cons first others =>
      rw [isPlainName, Bool.and_eq_true, Bool.not_eq_true',
        isAmountPart_eq_false_iff, List.all_eq_true]
      simp only [Bool.not_eq_true', isBreak_eq_false_iff]
      constructor
      · rintro ⟨initial, solid⟩
        refine ⟨List.cons_ne_nil _ _, solid, ?_⟩
        rintro character ⟨⟩
        exact initial
      · exact fun plain => ⟨plain.initial first rfl, plain.solid⟩

theorem PlainName.isBreak_eq_false
    {name : List Char}
    (plain : PlainName name) :
    ∀ character ∈ name, isBreak character = false :=
  fun character member =>
    isBreak_eq_false_iff.2 (plain.solid character member)

theorem PlainName.follows
    {name : List Char}
    (plain : PlainName name) :
    Literal.Follows name := by
  intro character head
  obtain ⟨digit, point, -, -⟩ := plain.initial character head
  exact ⟨digit, point⟩

/-! ## Standard names -/

/-- The visible characters of ASCII behind the comma. -/
theorem isBreak_of_visible
    {character : Char}
    (low : 45 ≤ character.toNat)
    (high : character.toNat ≤ 126) :
    isBreak character = false := by
  refine isBreak_eq_false_iff.2 ⟨isBlank_of_visible (by omega) high, ?_⟩
  rintro rfl
  exact absurd low (by decide)

theorem isBreak_of_isFollowing
    {character : Char}
    (following : DenomRule.isFollowing character = true) :
    isBreak character = false := by
  rw [DenomRule.isFollowing, Bool.or_eq_true, Char.isAlphanum,
    Bool.or_eq_true, List.contains_iff_mem] at following
  rcases following with (letter | digit) | listed
  · obtain ⟨low, high⟩ := toNat_of_isAlpha letter
    exact isBreak_of_visible (by omega) (by omega)
  · obtain ⟨low, high⟩ := toNat_of_isDigit digit
    exact isBreak_of_visible (by omega) (by omega)
  · have plain :
        ("/:._-".toList.all fun other => !isBreak other) = true := by
      decide
    simpa using List.all_eq_true.1 plain character listed

theorem isAmountPart_of_isAlpha
    {character : Char}
    (letter : character.isAlpha = true) :
    isAmountPart character = false := by
  obtain ⟨low, -⟩ := toNat_of_isAlpha letter
  refine isAmountPart_eq_false_iff.2 ⟨?_, ?_, ?_, ?_⟩
  · refine Bool.eq_false_iff.2 fun digit => ?_
    obtain ⟨-, high⟩ := toNat_of_isDigit digit
    omega
  all_goals
    rintro rfl
    exact absurd low (by decide)

/-- Names by the standard rule are plain. -/
theorem plainName_of_standard
    {name : String}
    (accepted : DenomRule.standard.accepts name = true) :
    PlainName name.toList := by
  change DenomRule.isStandardName name.toList = true at accepted
  rw [← isPlainName_iff]
  cases shape : name.toList with
  | nil =>
      rw [shape] at accepted
      exact absurd accepted (by decide)
  | cons first others =>
      rw [shape] at accepted
      simp only [DenomRule.isStandardName, Bool.and_eq_true,
        List.all_eq_true, decide_eq_true_eq] at accepted
      obtain ⟨⟨⟨initial, following⟩, -⟩, -⟩ := accepted
      have firstFollows : DenomRule.isFollowing first = true := by
        rw [DenomRule.isFollowing, Char.isAlphanum,
          show first.isAlpha = true from initial]
        rfl
      rw [isPlainName, isAmountPart_of_isAlpha initial]
      rw [Bool.not_false, Bool.true_and, List.all_eq_true]
      intro character member
      rcases List.mem_cons.1 member with rfl | later
      · rw [isBreak_of_isFollowing firstFollows]
        rfl
      · rw [isBreak_of_isFollowing (following character later)]
        rfl

/-! ## Reading -/

theorem isBreak_of_mem_signText
    {sign : Option Bool}
    {character : Char}
    (member : character ∈ Literal.signText sign) :
    isBreak character = false := by
  rcases sign with - | - | -
  · cases member
  · rw [List.mem_singleton.1 member]
    decide
  · rw [List.mem_singleton.1 member]
    decide

/-- Written amounts have no blank and no comma. -/
theorem isBreak_of_mem_text
    {literal : Literal}
    (written : literal.IsWritten)
    {character : Char}
    (member : character ∈ literal.text) :
    isBreak character = false := by
  have digital :
      character.isDigit = true → isBreak character = false := by
    intro digit
    obtain ⟨low, high⟩ := toNat_of_isDigit digit
    exact isBreak_of_visible (by omega) (by omega)
  rcases List.mem_append.1 member with front | fraction
  · rcases List.mem_append.1 front with sign | whole
    · exact isBreak_of_mem_signText sign
    · exact digital (written.isDigit_whole character whole)
  · split_ifs at fraction with empty
    · cases fraction
    · rcases List.mem_cons.1 fraction with rfl | digit
      · decide
      · exact digital (written.isDigit_fraction character digit)

/-- A written amount and a plain name make an expression. -/
theorem ofText?_append
    {literal : Literal}
    {name : List Char}
    (written : literal.IsWritten)
    (plain : PlainName name) :
    ofText? (literal.text ++ name) = some ⟨literal, name⟩ := by
  have solid :
      ∀ character ∈ literal.text ++ name, isBlank character = false := by
    intro character member
    rcases List.mem_append.1 member with amount | denom
    · exact (isBreak_eq_false_iff.1 (isBreak_of_mem_text written amount)).1
    · exact (plain.solid character denom).1
  rw [ofText?, strip_of_forall solid,
    Literal.split?_text_append written plain.follows]
  exact if_pos (isPlainName_iff.2 plain)

/-- With an accepted name and a number that is not below zero an expression
makes a coin. -/
theorem toCoin_of_accepts
    {rule : DenomRule}
    {expression : Expression}
    {number : Fixed}
    (accepted : rule.accepts (String.ofList expression.denom) = true)
    (value : expression.amount.toFixed = .ok number)
    (notBelow : number.isBelowZero = false)
    (source : String) :
    expression.toCoin rule source =
      DecimalCoin.make rule (.text (String.ofList expression.denom))
        number.toValue := by
  simp only [toCoin, DenomRule.check_of_accepts accepted, value, notBelow,
    DenomRule.named_val, Bool.false_eq_true, if_false]

/-- What an expression denotes if its name is accepted and its amount has a
value. -/
theorem coinOfText_append
    {rule : DenomRule}
    {literal : Literal}
    {denom : String}
    {number : Fixed}
    (written : literal.IsWritten)
    (plain : PlainName denom.toList)
    (accepted : rule.accepts denom = true)
    (value : literal.toFixed = .ok number)
    (unsigned : number.negative = false) :
    coinOfText rule (String.ofList literal.text ++ denom) =
      .ok ⟨rule, denom, number, accepted, unsigned⟩ := by
  have notBelow : number.isBelowZero = false := by
    simp [Quantized.isBelowZero, unsigned]
  have read := ofText?_append written plain
  have acceptedList :
      rule.accepts (String.ofList denom.toList) = true := by
    rwa [String.ofList_toList]
  rw [coinOfText, String.toList_append, String.toList_ofList, read]
  dsimp only
  rw [toCoin_of_accepts acceptedList value notBelow, String.ofList_toList,
    DecimalCoin.make_toValue accepted notBelow]
  exact congrArg Except.ok (DecimalCoin.eq_of_scaled rfl rfl rfl)

/-! ## The text of a coin -/

end Expression

namespace DecimalCoin

/-- The same coin under another rule that accepts its name. -/
def underRule
    (coin : DecimalCoin)
    {rule : DenomRule}
    (accepted : rule.accepts coin.denom = true) :
    DecimalCoin :=
  ⟨rule, coin.denom, coin.amount, accepted, coin.unsigned⟩

theorem text_eq (coin : DecimalCoin) :
    coin.text =
      String.ofList (Literal.ofUnits coin.amount.scaled Scale.places).text ++
        coin.denom := by
  rw [text, Quantized.text, coin.unsigned, Literal.text_ofUnits]
  rfl

end DecimalCoin

namespace Coin

theorem text_eq (coin : Coin) :
    coin.text =
      String.ofList (Literal.ofUnits coin.amount 0).text ++ coin.denom := by
  rw [text, Literal.text_ofUnits, positional_zero]

end Coin

namespace Expression

variable {rule : DenomRule}

/-- The text of a decimal coin denotes that coin. -/
theorem coinOfText_text
    {coin : DecimalCoin}
    (plain : PlainName coin.denom.toList)
    (accepted : rule.accepts coin.denom = true) :
    coinOfText rule coin.text = .ok (coin.underRule accepted) := by
  have unscaled :
      coin.amount.scaled * 10 ^ (Scale.places - Scale.places) =
        coin.amount.scaled := by
    rw [Nat.sub_self, Nat.pow_zero, Nat.mul_one]
  have value :
      (Literal.ofUnits coin.amount.scaled Scale.places).toFixed =
        .ok coin.amount := by
    rw [Literal.toFixed_ofUnits le_rfl
      (by rw [unscaled]; exact coin.amount.withinBudget)]
    exact congrArg Except.ok
      (Fixed.eq_of_scaled coin.unsigned.symm unscaled)
  rw [coin.text_eq]
  exact coinOfText_append (Literal.isWritten_ofUnits _ _) plain accepted
    value coin.unsigned

/-- The text of a whole coin denotes the decimal coin of as many units. -/
theorem coinOfText_text_whole
    {coin : Coin}
    (plain : PlainName coin.denom.toList)
    (accepted : rule.accepts coin.denom = true)
    (fits : coin.amount * Scale.one < 2 ^ Scale.decimalBits) :
    coinOfText rule coin.text = .ok (coin.inUnits accepted fits) := by
  rw [coin.text_eq]
  exact coinOfText_append (Literal.isWritten_ofUnits _ _) plain accepted
    (Literal.toFixed_ofUnits (Nat.zero_le _) fits) rfl

/-! ## What a text denotes -/

theorem plainName_of_ofText?
    {source : List Char}
    {expression : Expression}
    (read : ofText? source = some expression) :
    PlainName expression.denom := by
  rw [ofText?] at read
  split at read
  · split_ifs at read with plain
    cases read
    exact isPlainName_iff.1 plain
  · cases read

/-- An expression denotes a coin with its name, or it fails for a reason of
expressions.  Making the coin is not one: its name has been accepted and its
amount has been read. -/
theorem toCoin_cases
    (expression : Expression)
    (rule : DenomRule)
    (source : String) :
    (∃ coin,
      expression.toCoin rule source = .ok coin ∧
        coin.denom = String.ofList expression.denom ∧
        coin.rule = rule) ∨
    ∃ failure,
      expression.toCoin rule source = .error failure ∧
        failure.family = .expression := by
  rw [toCoin]
  cases checked : rule.check (.text (String.ofList expression.denom)) with
  | error refused =>
      exact .inr ⟨_, rfl, rfl⟩
  | ok name =>
      have denomEq := Value.text.inj (DenomRule.check_eq_ok_iff.1 checked)
      cases value : expression.amount.toFixed with
      | error failure =>
          exact .inr ⟨_, rfl, rfl⟩
      | ok number =>
          by_cases below : number.isBelowZero = true
          · exact .inr ⟨_, if_pos below, rfl⟩
          · have made :=
              DecimalCoin.make_toValue name.property
                (Bool.eq_false_iff.2 below)
            exact .inl
              ⟨_, (if_neg below).trans made, denomEq.symm, rfl⟩

theorem coinOfText_cases
    (rule : DenomRule)
    (source : String) :
    (∃ coin,
      coinOfText rule source = .ok coin ∧
        PlainName coin.denom.toList ∧
        coin.rule = rule) ∨
    ∃ failure,
      coinOfText rule source = .error failure ∧
        failure.family = .expression := by
  rw [coinOfText]
  cases read : ofText? source.toList with
  | none =>
      exact .inr ⟨_, rfl, rfl⟩
  | some expression =>
      rcases expression.toCoin_cases rule source with
        ⟨coin, denoted, denomEq, ruleEq⟩ | failed
      · refine .inl ⟨coin, denoted, ?_, ruleEq⟩
        rw [denomEq, String.toList_ofList]
        exact plainName_of_ofText? read
      · exact .inr failed

/-- A coin that a text denotes has a plain name and the rule that was read
by. -/
theorem plainName_of_coinOfText
    {source : String}
    {coin : DecimalCoin}
    (read : coinOfText rule source = .ok coin) :
    PlainName coin.denom.toList ∧ coin.rule = rule := by
  rcases coinOfText_cases rule source with
    ⟨other, denoted, plain, ruleEq⟩ | ⟨failure, failed, -⟩
  · rw [read] at denoted
    cases denoted
    exact ⟨plain, ruleEq⟩
  · rw [read] at failed
    cases failed

/-- Every failure to read a coin is one of expressions. -/
theorem family_of_coin_error
    {source : Value}
    {failure : Failure}
    (failed : coin rule source = .error failure) :
    failure.family = .expression := by
  cases source with
  | text content =>
      rcases coinOfText_cases rule content with
        ⟨other, denoted, -⟩ | ⟨found, foundFailed, family⟩
      · rw [coin, denoted] at failed
        cases failed
      · rw [coin, foundFailed] at failed
        cases failed
        exact family
  | integer | float | decimal | boolean | absent | nan =>
      cases failed
      rfl

end Expression

end Coinage
