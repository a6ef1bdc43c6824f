import Coinage.Decimal.Printer
import Coinage.Proofs.Fixed.Text
import Coinage.Proofs.Value

/-!
# Decimal data in writing

A numeral is written as a literal, with its power of ten behind it where positional
notation is not used.  The literal has no zero in front that could be left out, and
together with the power it determines the coefficient and the exponent: trailing
zeros are digits of the coefficient, and also a zero shows its exponent.  So the
text of a datum spells that datum, of any kind and with all its data, and what is
read from it is the datum itself, as long as it is within the range.
-/

namespace Coinage

open Coinage.Text

/-! ## Powers of ten -/

namespace Decimal.Power

/-- A power of ten as it is written: the mark in capitals, and always a sign. -/
def ofInt (power : Int) : Power where
  mark := 'E'
  sign := some (decide (power < 0))
  digits := Text.digits power.natAbs
  mark_eq := .inr rfl
  digits_ne_nil := Text.digits_ne_nil power.natAbs
  isDigit_digits _ member := isDigit_of_mem_digits member

theorem text_ofInt (power : Int) :
    (ofInt power).text = Numeral.powerText power := by
  by_cases below : power < 0
  · simp [text, ofInt, Numeral.powerText, Literal.signText, below]
  · simp [text, ofInt, Numeral.powerText, Literal.signText, below]

theorem exponent_ofInt (power : Int) : (ofInt power).exponent = power := by
  simp only [exponent, ofInt, natOfDigits_digits, Option.some.injEq,
    decide_eq_true_eq]
  split_ifs
  · omega
  · omega

end Decimal.Power

/-! ## Numerals -/

namespace Numeral

/-- How a numeral is written: a literal without superfluous zeros and an optional
power of ten behind it, which make up the numeral.  A power of ten is written
unless the exponent is at most zero and the first digit stands at most six places
behind the point, and there is one digit in front of the point then. -/
structure IsWrittenAs
    (number : Numeral)
    (literal : Literal)
    (power : Option Decimal.Power) :
    Prop extends literal.IsWritten where
  sign_eq : literal.sign = if number.negative then some true else none
  whole_eq : literal.whole.head? = some '0' → literal.whole = ['0']
  coefficient_eq :
    natOfDigits (literal.whole ++ literal.fraction) = number.coefficient
  exponent_eq :
    power.elim 0 Decimal.Power.exponent - literal.fraction.length =
      number.exponent
  power_eq :
    power =
      if number.exponent ≤ 0 ∧ -6 ≤ number.adjusted then none
      else some (.ofInt number.adjusted)
  length_whole : power ≠ none → literal.whole.length = 1

variable {number : Numeral}

theorem IsWrittenAs.spells
    {literal : Literal}
    {power : Option Decimal.Power}
    (written : number.IsWrittenAs literal power) :
    Decimal.Spells (literal.text ++ power.elim [] Decimal.Power.text)
      (.finite number) := by
  have spells := Literal.spells_text_append written.toIsWritten power
  have signEq : (literal.sign == some true) = number.negative := by
    rw [written.sign_eq]
    cases number.negative with
    | true => rfl
    | false => rfl
  rwa [signEq, written.coefficient_eq, written.exponent_eq] at spells

theorem isPositional_iff :
    number.isPositional = true ↔
      number.exponent ≤ 0 ∧ -6 ≤ number.adjusted := by
  rw [isPositional, Bool.and_eq_true, decide_eq_true_eq, decide_eq_true_eq]

/-- In positional notation the digits behind the point are those below one. -/
theorem isWrittenAs_positional
    (positional : number.isPositional = true) :
    number.IsWrittenAs
      ((Literal.ofUnits number.coefficient
        (-number.exponent).toNat).withSign number.negative)
      none where
  toIsWritten := (Literal.isWritten_ofUnits _ _).withSign _
  sign_eq := rfl
  whole_eq := Literal.whole_ofUnits
  coefficient_eq := by
    change
      natOfDigits
        ((Literal.ofUnits number.coefficient (-number.exponent).toNat).whole ++
          (Literal.ofUnits number.coefficient
            (-number.exponent).toNat).fraction) =
        number.coefficient
    rw [Literal.whole_append_fraction_ofUnits, natOfDigits_paddedDigits]
  exponent_eq := by
    have below := (isPositional_iff.1 positional).1
    have counted :=
      Literal.length_fraction_ofUnits number.coefficient
        (-number.exponent).toNat
    change
      0 - ((Literal.ofUnits number.coefficient
        (-number.exponent).toNat).fraction.length : Int) =
        number.exponent
    rw [counted]
    omega
  power_eq := (if_pos (isPositional_iff.1 positional)).symm
  length_whole powered := absurd rfl powered

/-- The digits of a coefficient, all but the first behind the point. -/
def significand (coefficient : Nat) : Literal :=
  ⟨none, (digits coefficient).take 1, (digits coefficient).drop 1⟩

theorem isWritten_significand (coefficient : Nat) :
    (significand coefficient).IsWritten where
  whole_ne_nil := by
    have positive : 0 < (digits coefficient).length :=
      digitCount_pos coefficient
    exact List.ne_nil_of_length_pos (by rw [significand, List.length_take]; omega)
  isDigit_whole _ member :=
    isDigit_of_mem_digits (List.mem_of_mem_take member)
  isDigit_fraction _ member :=
    isDigit_of_mem_digits (List.mem_of_mem_drop member)

theorem length_whole_significand (coefficient : Nat) :
    (significand coefficient).whole.length = 1 := by
  have positive : 0 < (digits coefficient).length :=
    digitCount_pos coefficient
  rw [significand, List.length_take]
  omega

/-- Otherwise the power of ten is that of the first digit. -/
theorem isWrittenAs_scientific
    (scientific : number.isPositional = false) :
    number.IsWrittenAs
      ((significand number.coefficient).withSign number.negative)
      (some (.ofInt number.adjusted)) where
  toIsWritten := (isWritten_significand _).withSign _
  sign_eq := rfl
  whole_eq leads := by
    obtain ⟨first, wholeEq⟩ :=
      List.length_eq_one_iff.1 (length_whole_significand number.coefficient)
    change (significand number.coefficient).whole.head? = some '0' at leads
    change (significand number.coefficient).whole = ['0']
    rw [wholeEq] at leads ⊢
    exact congrArg (fun digit => [digit]) (Option.some.inj leads)
  coefficient_eq := by
    change
      natOfDigits
        ((digits number.coefficient).take 1 ++
          (digits number.coefficient).drop 1) =
        number.coefficient
    rw [List.take_append_drop, natOfDigits_digits]
  exponent_eq := by
    have positive := digitCount_pos number.coefficient
    have digitsEq :
        (digits number.coefficient).length = digitCount number.coefficient :=
      rfl
    have counted :
        ((significand number.coefficient).fraction.length : Int) =
          digitCount number.coefficient - 1 := by
      rw [significand, List.length_drop, digitsEq]
      omega
    change
      (Decimal.Power.ofInt number.adjusted).exponent -
          ((significand number.coefficient).fraction.length : Int) =
        number.exponent
    rw [Decimal.Power.exponent_ofInt, counted, adjusted]
    omega
  power_eq := by
    rw [if_neg]
    rw [← isPositional_iff, scientific]
    decide
  length_whole _ := length_whole_significand number.coefficient

theorem exists_isWrittenAs (number : Numeral) :
    ∃ literal power,
      number.IsWrittenAs literal power ∧
        number.text =
          literal.text ++ power.elim [] Decimal.Power.text := by
  cases positional : number.isPositional with
  | true =>
      refine ⟨_, _, isWrittenAs_positional positional, ?_⟩
      rw [text, if_pos positional, Literal.text_withSign rfl,
        Literal.text_ofUnits, Option.elim_none, List.append_nil]
  | false =>
      refine ⟨_, _, isWrittenAs_scientific positional, ?_⟩
      rw [text, positional, if_neg Bool.false_ne_true, Literal.text_withSign rfl,
        Option.elim_some, Decimal.Power.text_ofInt, List.append_assoc]
      rfl

end Numeral

/-! ## Data -/

namespace Decimal

theorem isDigit_of_mem_payloadText
    {payload : Nat}
    {character : Char}
    (member : character ∈ payloadText payload) :
    character.isDigit = true := by
  unfold payloadText at member
  split_ifs at member
  · cases member
  · exact isDigit_of_mem_digits member

theorem natOfDigits_payloadText (payload : Nat) :
    natOfDigits (payloadText payload) = payload := by
  unfold payloadText
  split_ifs with zero
  · rw [zero]
    rfl
  · exact natOfDigits_digits payload

/-- The text of a datum spells that datum. -/
theorem spells_text (datum : Decimal) :
    Spells datum.text datum := by
  cases datum with
  | finite number =>
      obtain ⟨literal, power, written, textEq⟩ := number.exists_isWrittenAs
      rw [text, textEq]
      exact written.spells
  | infinite negative =>
      exact (SpellsUnsigned.infinity (by decide)).spells_minusText
  | nan negative signaling payload =>
      have named :
          (if signaling then "sNaN".toList else "NaN".toList).map
              Char.toLower =
            payloadWord signaling := by
        cases signaling with
        | true => decide
        | false => decide
      have digital :
          ∀ character ∈ payloadText payload, character.isDigit = true :=
        fun _ member => isDigit_of_mem_payloadText member
      have spells :
          SpellsUnsigned negative _
            (.nan negative signaling (natOfDigits (payloadText payload))) :=
        .nan named digital
      rw [natOfDigits_payloadText] at spells
      rw [text, List.append_assoc]
      exact spells.spells_minusText

/--
Numbers survive the way through their text.  What is read from the text of a datum
within the range, be it finite, infinite or no number, is the datum itself, with
its sign, coefficient, exponent, kind and payload.  An integer of up to four thousand
and three hundred digits is read with its sign, its magnitude as the coefficient, and
exponent zero; one with more digits has no text and is not read.  Reading accepts
exactly the grammar of decimal data, between blanks, with underscores and in the
digits of any script, as far as the datum is within the range.  A numeral is written
without a power of ten exactly if its exponent is at most zero and its first digit
stands at most six places behind the point.
-/
theorem text_codec :
    (∀ datum : Decimal,
      datum.isInRange = true →
      (Value.text (Value.decimal datum).shown).toDecimal = .ok datum) ∧
    (∀ number : Int,
      digitCount number.natAbs ≤ 4300 →
      (Value.integer number).toDecimal =
        .ok (.finite ⟨decide (number < 0), number.natAbs, 0⟩)) ∧
    (∀ number : Int,
      4300 < digitCount number.natAbs →
      (Value.integer number).toDecimal = .error .longInteger) ∧
    (∀ (source : String) (datum : Decimal),
      (Value.text source).toDecimal = .ok datum ↔
        Spells (plainText source.toList) datum ∧
          datum.isInRange = true) ∧
    ∀ number : Numeral,
      ∃ literal power,
        number.IsWrittenAs literal power ∧
          (finite number).text =
            literal.text ++ power.elim [] Power.text := by
  refine ⟨?_, ?_, ?_, ?_, Numeral.exists_isWrittenAs⟩
  · intro datum inRange
    have shownEq :
        (Value.decimal datum).shown.toList = datum.text :=
      String.toList_ofList
    rw [Value.toDecimal_eq_ok_iff, Value.decimal?_text, shownEq]
    exact datum.spells_text.ofText?_eq inRange
  · intro number short
    exact Value.toDecimal_eq_ok_iff.2 (Value.decimal?_integer short)
  · intro number long
    exact Value.toDecimal_of_isLong ⟨number, rfl, long⟩
  · intro source datum
    rw [Value.toDecimal_eq_ok_iff, Value.decimal?_text]
    exact ofText?_eq_some_iff

/-- A payload behind both signs, a number with trailing zeros at the edge of
positional notation, a zero with an exponent above zero, a negative integer, and
an integer with one digit too many. -/
theorem text_codec_edge :
    (Value.text "-sNaN7").toDecimal = .ok (.nan true true 7) ∧
    (Value.text "-0.000001500").toDecimal =
      .ok (.finite ⟨true, 1500, -9⟩) ∧
    (Value.text "0E+3").toDecimal = .ok (.finite ⟨false, 0, 3⟩) ∧
    (Value.integer (-7)).toDecimal = .ok (.finite ⟨true, 7, 0⟩) ∧
    Value.leastLong.toDecimal = .error .longInteger := by
  obtain ⟨reads, readsInteger, tooLong, -⟩ := text_codec
  have signaling : (Value.decimal (.nan true true 7)).shown = "-sNaN7" := by
    decide
  have edge :
      (Value.decimal (.finite ⟨true, 1500, -9⟩)).shown = "-0.000001500" := by
    decide
  have zero : (Value.decimal (.finite ⟨false, 0, 3⟩)).shown = "0E+3" := by
    decide
  rw [← signaling, ← edge, ← zero]
  obtain ⟨number, leastEq, long⟩ := Value.isLong_leastLong
  rw [leastEq]
  exact ⟨reads (.nan true true 7) rfl,
    reads (.finite ⟨true, 1500, -9⟩) (by decide),
    reads (.finite ⟨false, 0, 3⟩) (by decide),
    readsInteger (-7) (by decide),
    tooLong number long⟩

/-- Not every integer is read. -/
theorem not_toDecimal_integer :
    ¬ ∀ number : Int,
      (Value.integer number).toDecimal =
        .ok (.finite ⟨decide (number < 0), number.natAbs, 0⟩) := by
  intro reads
  have read := reads (10 ^ longestInteger : Nat)
  have unread : Value.leastLong.toDecimal = .error .longInteger :=
    Value.toDecimal_of_isLong Value.isLong_leastLong
  cases unread.symm.trans read

end Decimal

end Coinage
