import Coinage.Proofs.Expression.Grammar
import Coinage.Proofs.Fixed.Nearest

/-!
# Fixed-point numbers in writing

A literal denotes exactly the number that it spells, and as a decimal datum it
denotes the same; what keeps a literal from denoting a number is a long fraction
or the budget, and nothing is ever rounded.  The text of a fixed-point number is
a literal with all eighteen fraction digits and no zero in front that could be
left out.  So a number is read back from its text, with the sign that a zero may
have, and texts tell numbers apart.
-/

namespace Coinage

open Coinage.Text

/-! ## Leading digits -/

namespace Text

/-- Only the number zero begins with the digit zero. -/
theorem eq_zero_of_head?_digits
    {number : Nat}
    (leads : (digits number).head? = some '0') :
    number = 0 := by
  induction number using Nat.strongRecOn with
  | ind number shorter =>
      rw [digits, Nat.toDigits_eq_if (by decide)] at leads
      split_ifs at leads with single
      · interval_cases number <;> simp_all
      · rw [List.head?_append_of_ne_nil _ Nat.toDigits_ne_nil] at leads
        have zero := shorter (number / 10) (by omega) leads
        omega

end Text

namespace Literal

/-- A literal as it is printed: all fraction digits of the scale, no zero in
front of another digit, and no plus. -/
structure IsPrinted (literal : Literal) : Prop extends IsWritten literal where
  length_fraction : literal.fraction.length = 18
  whole_eq : literal.whole.head? = some '0' → literal.whole = ['0']
  sign_ne : literal.sign ≠ some false

/-- A zero leads the digits in front of the point only if it is the only one:
padding leaves one digit there, and without padding it is the first digit of the
number. -/
theorem whole_ofUnits
    {units places : Nat}
    (leads : (ofUnits units places).whole.head? = some '0') :
    (ofUnits units places).whole = ['0'] := by
  have counted : (digits units).length = digitCount units := rfl
  simp only [ofUnits, paddedDigits] at leads ⊢
  rcases Nat.lt_or_ge (digitCount units) (places + 1) with short | long
  · have padding :
        places + 1 - digitCount units = places - digitCount units + 1 := by
      omega
    have kept :
        (List.replicate (places + 1 - digitCount units) '0' ++
          digits units).length - places = 1 := by
      rw [List.length_append, List.length_replicate, counted]
      omega
    rw [kept, padding, List.replicate_succ]
    rfl
  · rw [Nat.sub_eq_zero_of_le long, List.replicate_zero, List.nil_append]
      at leads ⊢
    have positive : (digits units).length - places ≠ 0 := by omega
    rw [List.head?_take, if_neg positive] at leads
    obtain rfl := eq_zero_of_head?_digits leads
    have single : digitCount 0 = 1 := rfl
    rw [List.take_of_length_le (by omega)]
    rfl

/-! ## Literals as decimal data -/

variable {literal : Literal}

/-- The fraction digits with their point, or nothing. -/
def fractionText (literal : Literal) : List Char :=
  if literal.fraction = [] then [] else '.' :: literal.fraction

theorem text_eq_append (literal : Literal) :
    literal.text =
      signText literal.sign ++ (literal.whole ++ literal.fractionText) := by
  rw [text, List.append_assoc, fractionText]

/-- An unsigned literal with a minus in front, or nothing. -/
def withSign (literal : Literal) (negative : Bool) : Literal :=
  { literal with sign := if negative then some true else none }

theorem IsWritten.withSign
    (written : literal.IsWritten)
    (negative : Bool) :
    (literal.withSign negative).IsWritten :=
  ⟨written.whole_ne_nil, written.isDigit_whole, written.isDigit_fraction⟩

theorem text_withSign
    (unsigned : literal.sign = none)
    (negative : Bool) :
    (literal.withSign negative).text = minusText negative ++ literal.text := by
  rw [text_eq_append, text_eq_append literal, unsigned]
  cases negative with
  | true => rfl
  | false => rfl

theorem sign_withSign
    (literal : Literal)
    (negative : Bool) :
    ((literal.withSign negative).sign == some true) = negative := by
  cases negative with
  | true => rfl
  | false => rfl

/-- A literal spells a number, and so does one with a power of ten behind it. -/
theorem spells_text_append
    (written : literal.IsWritten)
    (power : Option Decimal.Power) :
    Decimal.Spells (literal.text ++ power.elim [] Decimal.Power.text)
      (.finite ⟨literal.sign == some true,
        natOfDigits (literal.whole ++ literal.fraction),
        power.elim 0 Decimal.Power.exponent - literal.fraction.length⟩) := by
  refine ⟨literal.sign, _, ?_,
    Decimal.spellsUnsigned_pointed written.whole_ne_nil
      written.isDigit_whole written.isDigit_fraction power⟩
  rw [text, List.append_assoc, List.append_assoc]

/-- A literal spells its numeral as decimal data do. -/
theorem spelled?_text
    (written : literal.IsWritten) :
    Decimal.spelled? literal.text = some (.finite literal.toNumeral) := by
  have spells := spells_text_append written none
  rw [Option.elim_none, Option.elim_none, List.append_nil, Int.zero_sub]
    at spells
  exact spells.spelled?_eq

/-- A literal within the budget is within the range of decimal data. -/
theorem inRange_toNumeral
    (short : literal.fraction.length ≤ Scale.places)
    (fits : literal.units.scaled < 2 ^ Scale.decimalBits) :
    Decimal.inRange literal.toNumeral = true := by
  have low :
      Decimal.lowestExponent ≤ -(literal.fraction.length : Int) := by
    unfold Decimal.lowestExponent
    unfold Scale.places at short
    omega
  have high : (-(literal.fraction.length : Int)) ≤ Decimal.highestPower := by
    unfold Decimal.highestPower
    omega
  rw [Decimal.inRange, Bool.and_eq_true, decide_eq_true_eq]
  refine ⟨low, ?_⟩
  split_ifs with zero
  · exact decide_eq_true high
  · have guarded :=
      (Quantized.isTooLarge_eq_false_iff_adjusted _).1
        (isTooLarge_toNumeral fits)
    exact decide_eq_true ((guarded.resolve_left zero).trans (by decide))

/-- A whole text is a literal exactly if it is written as one. -/
theorem ofText?_text_iff
    {source : List Char} :
    ofText? source = some literal ↔
      literal.IsWritten ∧ source = literal.text := by
  rw [ofText?]
  constructor
  · intro read
    split at read
    · rename_i found split
      cases read
      obtain ⟨textEq, written⟩ := of_split? split
      exact ⟨written, textEq.trans (List.append_nil _)⟩
    · cases read
  · rintro ⟨written, rfl⟩
    have ends : Follows [] := by
      rintro character ⟨⟩
    have split := split?_text_append written ends
    rw [List.append_nil] at split
    rw [split]

/-- A text is at most one literal. -/
theorem eq_of_text
    {other : Literal}
    (written : literal.IsWritten)
    (otherWritten : other.IsWritten)
    (textEq : literal.text = other.text) :
    literal = other := by
  have read := ofText?_text_iff.2 ⟨written, textEq.symm⟩
  have otherRead := ofText?_text_iff.2 ⟨otherWritten, rfl⟩
  exact Option.some.inj (read.symm.trans otherRead)

end Literal

/-! ## Reading numbers -/

namespace Fixed

/-- A text denotes a number as a literal exactly if it is written as one with
these units. -/
theorem ofLiteral_text_eq_ok_iff
    {source : String}
    {number : Fixed} :
    ofLiteral (.text source) = .ok number ↔
      ∃ literal : Literal,
        literal.IsWritten ∧
          source.toList = literal.text ∧
          literal.fraction.length ≤ Scale.places ∧
          literal.units = number.toQuantized := by
  rw [ofLiteral]
  constructor
  · intro read
    split at read
    · rename_i literal found
      obtain ⟨written, textEq⟩ := Literal.ofText?_text_iff.1 found
      exact ⟨literal, written, textEq, Literal.toFixed_eq_ok_iff.1 read⟩
    · cases read
  · rintro ⟨literal, written, textEq, denotes⟩
    rw [Literal.ofText?_text_iff.2 ⟨written, textEq⟩]
    exact Literal.toFixed_eq_ok_iff.2 denotes

/-- What a literal denotes is the fixed-point number nearest to its text, too. -/
theorem ofValue_of_ofLiteral
    {source : String}
    {number : Fixed}
    (read : ofLiteral (.text source) = .ok number) :
    ofValue (.text source) = .ok number := by
  obtain ⟨literal, written, textEq, short, unitsEq⟩ :=
    ofLiteral_text_eq_ok_iff.1 read
  have fits : literal.units.scaled < 2 ^ Scale.decimalBits := by
    rw [unitsEq]
    exact number.withinBudget
  have denotes :
      (Value.text source).denoted? = some (.finite literal.toNumeral) := by
    change Decimal.ofText? source.toList = _
    rw [textEq, Decimal.ofText?, Literal.spelled?_text written,
      Option.filter_some]
    exact if_pos (Literal.inRange_toNumeral short fits)
  have asDatum :
      ofValue (.decimal (.finite literal.toNumeral)) = .ok number := by
    have denoted := Literal.toFixed_eq_ok_iff.2 ⟨short, unitsEq⟩
    rwa [Literal.toFixed, if_neg (not_lt.2 short)] at denoted
  have alike :=
    toOption_ofValue_eq denotes
      (rfl : (Value.decimal (.finite literal.toNumeral)).denoted? = _) rfl rfl
  rw [asDatum] at alike
  cases nearest : ofValue (.text source) with
  | error failure =>
      rw [nearest] at alike
      cases alike
  | ok found =>
      rw [nearest] at alike
      cases alike
      rfl

end Fixed

/-! ## Printing numbers -/

namespace Quantized

/-- The literal of a number: all fraction digits, and a minus for what is
negative. -/
def literal (number : Quantized) : Literal :=
  { Literal.ofUnits number.scaled Scale.places with
    sign := if number.negative then some true else none }

variable (number : Quantized)

theorem literal_eq_withSign :
    number.literal =
      (Literal.ofUnits number.scaled Scale.places).withSign number.negative :=
  rfl

theorem isPrinted_literal : number.literal.IsPrinted where
  toIsWritten :=
    (Literal.isWritten_ofUnits number.scaled Scale.places).withSign
      number.negative
  length_fraction := Literal.length_fraction_ofUnits _ _
  whole_eq := Literal.whole_ofUnits
  sign_ne := by
    unfold literal
    dsimp only
    split_ifs <;> decide

theorem text_literal : number.literal.text = number.text := by
  rw [literal_eq_withSign, Literal.text_withSign rfl, Literal.text_ofUnits,
    text]

theorem units_literal : number.literal.units = number := by
  have counted : number.literal.fraction.length = Scale.places :=
    Literal.length_fraction_ofUnits _ _
  have digitsEq :
      number.literal.whole ++ number.literal.fraction =
        paddedDigits (Scale.places + 1) number.scaled :=
    Literal.whole_append_fraction_ofUnits _ _
  rw [Literal.units, digitsEq, natOfDigits_paddedDigits, counted, Nat.sub_self,
    Nat.pow_zero, Nat.mul_one, literal_eq_withSign, Literal.sign_withSign]

end Quantized

namespace Fixed

/-- A number is read back from its text. -/
theorem ofLiteral_text (number : Fixed) :
    ofLiteral (.text (String.ofList number.text)) = .ok number := by
  refine ofLiteral_text_eq_ok_iff.2 ⟨number.literal,
    number.isPrinted_literal.toIsWritten, ?_,
    number.isPrinted_literal.length_fraction.le, number.units_literal⟩
  rw [String.toList_ofList, Quantized.text_literal]

/-- Texts tell numbers apart. -/
theorem text_inj
    {first second : Fixed}
    (same : first.text = second.text) :
    first = second := by
  have read := first.ofLiteral_text
  rw [same, second.ofLiteral_text] at read
  cases read
  rfl

theorem format_eq_ok_iff
    {value : Value}
    {shown : String} :
    format value = .ok shown ↔
      ∃ number, ofValue value = .ok number ∧
        shown = String.ofList number.text := by
  rw [format, Failure.bind_eq_ok_iff]
  refine exists_congr fun number => and_congr_right fun _ => ?_
  constructor
  · rintro ⟨⟩
    rfl
  · rintro rfl
    rfl

/-! ## The codec -/

/--
Reading and printing are exact.  A text denotes a number as a literal exactly if
the whole of it is a written literal, which has at most eighteen fraction digits
and spells a number within the budget; then the number is exactly what the
literal spells, at eighteen fraction digits and with its sign, and it is also the
fixed-point number nearest to the text.  What is printed for a value is a literal
with eighteen fraction digits, without a plus and without a zero that could be
left out, and it denotes the fixed-point number of the value again.  So the texts
of two values are the same exactly if their fixed-point numbers agree in sign and
units.
-/
theorem literal_codec :
    (∀ source : String,
      (∃ number, ofLiteral (.text source) = .ok number) ↔
        ∃ literal : Literal,
          literal.IsWritten ∧
            source.toList = literal.text ∧
            literal.fraction.length ≤ 18 ∧
            |literal.value| * 10 ^ 18 < 2 ^ 315) ∧
    (∀ (source : String) (literal : Literal) (number : Fixed),
      literal.IsWritten →
      source.toList = literal.text →
      ofLiteral (.text source) = .ok number →
      number.value = literal.value ∧
        number.negative = (literal.sign == some true) ∧
        number.toNumeral.exponent = -18 ∧
        ofValue (.text source) = .ok number) ∧
    (∀ (value : Value) (shown : String),
      format value = .ok shown →
      ∃ (literal : Literal) (number : Fixed),
        literal.IsPrinted ∧
          shown.toList = literal.text ∧
          ofValue value = .ok number ∧
          ofLiteral (.text shown) = .ok number) ∧
    ∀ left right : Value,
      (∃ shown, format left = .ok shown ∧ format right = .ok shown) ↔
        ∃ first second,
          ofValue left = .ok first ∧
            ofValue right = .ok second ∧
            first.negative = second.negative ∧
            first.scaled = second.scaled := by
  refine ⟨?_, ?_, ?_, ?_⟩
  · intro source
    constructor
    · rintro ⟨number, read⟩
      obtain ⟨literal, written, textEq, short, unitsEq⟩ :=
        ofLiteral_text_eq_ok_iff.1 read
      refine ⟨literal, written, textEq, short,
        (Literal.units_lt_iff short).1 ?_⟩
      rw [unitsEq]
      exact number.withinBudget
    · rintro ⟨literal, written, textEq, short, fits⟩
      exact ⟨⟨literal.units, (Literal.units_lt_iff short).2 fits⟩,
        ofLiteral_text_eq_ok_iff.2 ⟨literal, written, textEq, short, rfl⟩⟩
  · intro source literal number written textEq read
    obtain ⟨other, otherWritten, otherEq, short, unitsEq⟩ :=
      ofLiteral_text_eq_ok_iff.1 read
    obtain rfl :=
      Literal.eq_of_text written otherWritten (textEq.symm.trans otherEq)
    refine ⟨?_, ?_, rfl, ofValue_of_ofLiteral read⟩
    · rw [← unitsEq, Literal.value_units short]
    · rw [← unitsEq]
      rfl
  · intro value shown printed
    obtain ⟨number, nearest, rfl⟩ := format_eq_ok_iff.1 printed
    refine ⟨number.literal, number, number.isPrinted_literal, ?_, nearest,
      number.ofLiteral_text⟩
    rw [String.toList_ofList, Quantized.text_literal]
  · intro left right
    constructor
    · rintro ⟨shown, leftShown, rightShown⟩
      obtain ⟨first, leftNearest, rfl⟩ := format_eq_ok_iff.1 leftShown
      obtain ⟨second, rightNearest, same⟩ := format_eq_ok_iff.1 rightShown
      obtain rfl := text_inj (String.ofList_injective same)
      exact ⟨first, first, leftNearest, rightNearest, rfl, rfl⟩
    · rintro ⟨first, second, leftNearest, rightNearest, signEq, scaledEq⟩
      obtain rfl := eq_of_scaled signEq scaledEq
      exact ⟨_, format_eq_ok_iff.2 ⟨first, leftNearest, rfl⟩,
        format_eq_ok_iff.2 ⟨first, rightNearest, rfl⟩⟩

/-- A literal with a plus and with zeros that could be left out. -/
def sevenAndHalf : Literal :=
  ⟨some false, ['0', '0', '7'], ['5', '0']⟩

/-- The literal is read exactly, half a unit below zero is printed as a zero with
its sign, which is read back, and a number that is written in two ways is printed
in one. -/
theorem literal_codec_sevenAndHalf :
    (∃ number,
      ofLiteral (.text "+007.50") = .ok number ∧
        number.value = 15 / 2 ∧
        ofValue (.text "+007.50") = .ok number) ∧
    (∃ (literal : Literal) (number : Fixed),
      literal.IsPrinted ∧
        "-0.000000000000000000".toList = literal.text ∧
        ofValue (.decimal (.finite ⟨true, 5, -19⟩)) = .ok number ∧
        ofLiteral (.text "-0.000000000000000000") = .ok number) ∧
    ∃ first second,
      ofValue (.float "7.5") = .ok first ∧
        ofValue (.decimal (.finite ⟨false, 7500, -3⟩)) = .ok second ∧
        first.negative = second.negative ∧
        first.scaled = second.scaled := by
  obtain ⟨reads, exactly, prints, alike⟩ := literal_codec
  have written : sevenAndHalf.IsWritten :=
    ⟨by decide, List.all_eq_true.1 (by decide),
      List.all_eq_true.1 (by decide)⟩
  have value : sevenAndHalf.value = 15 / 2 := by decide +kernel
  have fits : |sevenAndHalf.value| * 10 ^ 18 < 2 ^ 315 := by
    rw [value]
    decide +kernel
  obtain ⟨number, read⟩ :=
    (reads "+007.50").2
      ⟨sevenAndHalf, written, by decide, by decide, fits⟩
  obtain ⟨valueEq, -, -, nearest⟩ :=
    exactly "+007.50" sevenAndHalf number written (by decide) read
  rw [value] at valueEq
  exact ⟨⟨number, read, valueEq, nearest⟩,
    prints _ _ (by decide +kernel),
    (alike _ _).1 ⟨"7.500000000000000000", by decide +kernel,
      by decide +kernel⟩⟩

end Fixed

end Coinage
