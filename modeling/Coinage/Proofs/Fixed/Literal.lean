import Coinage.Fixed.Literal
import Coinage.Proofs.Failure
import Coinage.Proofs.Fixed
import Coinage.Proofs.Text.Blank

/-!
# Written literals

A literal that is written in front of a text that cannot continue it is read
back from there, with the text left over; conversely what is read off the front
of a text is written there.  A literal with at most eighteen fraction digits
denotes exactly the units that its digits spell, if they are within the budget:
no digit is rounded and none is lost.  The positional text of a number of units
is such a literal of these units.
-/

namespace Coinage

open Coinage.Text

/-! ## Leading zeros -/

namespace Text

theorem natOfDigits_replicate_zero_append
    (count : Nat)
    (rest : List Char) :
    natOfDigits (List.replicate count '0' ++ rest) = natOfDigits rest := by
  rw [natOfDigits, Nat.ofDigitChars_append, Nat.ofDigitChars_replicate_zero,
    Nat.mul_zero, natOfDigits]

@[simp]
theorem natOfDigits_paddedDigits (width number : Nat) :
    natOfDigits (paddedDigits width number) = number := by
  rw [paddedDigits, natOfDigits_replicate_zero_append, natOfDigits_digits]

theorem isDigit_of_mem_paddedDigits
    {character : Char}
    {width number : Nat}
    (member : character ∈ paddedDigits width number) :
    character.isDigit = true := by
  rcases List.mem_append.1 member with zero | digit
  · rw [List.eq_of_mem_replicate zero]
    decide
  · exact isDigit_of_mem_digits digit

theorem le_length_paddedDigits (width number : Nat) :
    width ≤ (paddedDigits width number).length := by
  have counted : (digits number).length = digitCount number := rfl
  rw [paddedDigits, List.length_append, List.length_replicate, counted]
  omega

/-- Without fraction digits the positional text is that of the integer. -/
theorem positional_zero (number : Nat) :
    positional number 0 = digits number := by
  have positive := digitCount_pos number
  have unpadded : 0 + 1 - digitCount number = 0 := by omega
  simp [positional, paddedDigits, unpadded]

end Text

namespace Literal

/-! ## Reading what is written -/

/-- A literal as it may be written: a digit at least in front of the point, and
nothing but digits on both sides. -/
structure IsWritten (literal : Literal) : Prop where
  whole_ne_nil : literal.whole ≠ []
  isDigit_whole :
    ∀ character ∈ literal.whole, character.isDigit = true
  isDigit_fraction :
    ∀ character ∈ literal.fraction, character.isDigit = true

/-- A text that cannot continue a literal. -/
def Follows (rest : List Char) : Prop :=
  ∀ character ∈ rest.head?, character.isDigit = false ∧ character ≠ '.'

variable
    {literal : Literal}
    {rest : List Char}

theorem splitSign_text
    (sign : Option Bool)
    {unsigned : List Char}
    (digital : ∃ first others,
      unsigned = first :: others ∧ first.isDigit = true) :
    splitSign (signText sign ++ unsigned) = (sign, unsigned) := by
  obtain ⟨first, others, rfl, digit⟩ := digital
  rcases sign with - | - | -
  · change splitSign (first :: others) = _
    unfold splitSign
    split
    · rename_i same
      obtain ⟨rfl, -⟩ := List.cons.inj same
      exact absurd digit (by decide)
    · rename_i same
      obtain ⟨rfl, -⟩ := List.cons.inj same
      exact absurd digit (by decide)
    · rfl
  · rfl
  · rfl

theorem splitFraction_text
    {fraction : List Char}
    (digital : ∀ character ∈ fraction, character.isDigit = true)
    (follows : Follows rest) :
    splitFraction
        ((if fraction = [] then [] else '.' :: fraction) ++ rest) =
      (fraction, rest) := by
  have stops :
      ∀ character ∈ rest.head?, character.isDigit = false :=
    fun character first => (follows character first).1
  split_ifs with empty
  · subst empty
    cases rest with
    | nil => rfl
    | cons first others =>
        rw [List.nil_append]
        unfold splitFraction
        split
        · rename_i same
          obtain ⟨rfl, -⟩ := List.cons.inj same
          exact absurd rfl (follows _ rfl).2
        · rfl
  · rw [List.cons_append, splitFraction,
      takeWhile_append_of_head? digital stops,
      dropWhile_append_of_head? digital stops, if_neg empty]

/-- A written literal is read off the front of a text, if the rest cannot
continue it. -/
theorem split?_text_append
    (written : literal.IsWritten)
    (follows : Follows rest) :
    split? (literal.text ++ rest) = some (literal, rest) := by
  obtain ⟨sign, whole, fraction⟩ := literal
  obtain ⟨first, others, wholeEq⟩ :=
    List.exists_cons_of_ne_nil written.whole_ne_nil
  have wholeDigits := written.isDigit_whole
  have fractionDigits := written.isDigit_fraction
  dsimp only at wholeEq wholeDigits fractionDigits
  have stops :
      ∀ character ∈
          ((if fraction = [] then [] else '.' :: fraction) ++ rest).head?,
        character.isDigit = false := by
    split_ifs with empty
    · exact fun character head => (follows character head).1
    · rintro character ⟨⟩
      decide
  have signed :
      splitSign (signText sign ++
          (whole ++
            ((if fraction = [] then [] else '.' :: fraction) ++ rest))) =
        (sign, _) :=
    splitSign_text sign
      ⟨first, others ++
          ((if fraction = [] then [] else '.' :: fraction) ++ rest),
        by rw [wholeEq, List.cons_append],
        wholeDigits first (by rw [wholeEq]; exact List.mem_cons_self)⟩
  rw [split?, text, List.append_assoc, List.append_assoc, signed]
  simp only [takeWhile_append_of_head? wholeDigits stops,
    dropWhile_append_of_head? wholeDigits stops,
    splitFraction_text fractionDigits follows]
  exact if_neg written.whole_ne_nil

/-! ## Writing what is read -/

theorem signText_append_splitSign (source : List Char) :
    signText (splitSign source).1 ++ (splitSign source).2 = source := by
  unfold splitSign
  split <;> rfl

theorem fraction_append_splitFraction (source : List Char) :
    (if (splitFraction source).1 = [] then []
      else '.' :: (splitFraction source).1) ++ (splitFraction source).2 =
      source := by
  unfold splitFraction
  split
  · rename_i rest
    by_cases empty : rest.takeWhile Char.isDigit = []
    · rw [if_pos empty]
      rfl
    · rw [if_neg empty]
      dsimp only
      rw [if_neg empty, List.cons_append, List.takeWhile_append_dropWhile]
  · rfl

theorem isDigit_of_mem_splitFraction
    {source : List Char}
    {character : Char}
    (member : character ∈ (splitFraction source).1) :
    character.isDigit = true := by
  unfold splitFraction at member
  split at member
  · split_ifs at member
    · cases member
    · exact List.mem_takeWhile_imp member
  · cases member

/-- What is read off the front of a text is written there. -/
theorem of_split?
    {source : List Char}
    (read : split? source = some (literal, rest)) :
    source = literal.text ++ rest ∧ literal.IsWritten := by
  simp only [split?] at read
  split_ifs at read with empty
  cases read
  constructor
  · rw [text, List.append_assoc, List.append_assoc,
      fraction_append_splitFraction, List.takeWhile_append_dropWhile,
      signText_append_splitSign]
  · exact ⟨empty, fun _ member => List.mem_takeWhile_imp member,
      fun _ member => isDigit_of_mem_splitFraction member⟩

/-! ## What a literal denotes -/

/-- The number of units of a literal with at most as many fraction digits as the
scale. -/
def units (literal : Literal) : Quantized :=
  ⟨literal.sign == some true,
    natOfDigits (literal.whole ++ literal.fraction) *
      10 ^ (Scale.places - literal.fraction.length)⟩

/-- Bringing such a literal to the scale only appends zeros. -/
theorem ofValue_toNumeral
    (short : literal.fraction.length ≤ Scale.places)
    (small : Quantized.isTooLarge literal.toNumeral = false) :
    Quantized.ofValue .fix (.decimal (.finite literal.toNumeral)) =
      .ok literal.units := by
  have denotes :
      (Value.decimal (.finite literal.toNumeral)).decimal? =
        some (.finite literal.toNumeral) := rfl
  have finer : (-Scale.places : Int) ≤ -(literal.fraction.length : Int) := by
    omega
  have shift :
      (-(literal.fraction.length : Int) - -(Scale.places : Int)).toNat =
        Scale.places - literal.fraction.length := by
    omega
  rw [Quantized.ofValue_of_finite .fix denotes small,
    Numeral.roundedAt_of_le .halfEven finer]
  dsimp only [toNumeral]
  rw [shift, units]

/-- Within the budget the guard on operands is not met. -/
theorem isTooLarge_toNumeral
    (fits : literal.units.scaled < 2 ^ Scale.decimalBits) :
    Quantized.isTooLarge literal.toNumeral = false := by
  have scaled :
      natOfDigits (literal.whole ++ literal.fraction) ≤
        literal.units.scaled :=
    Nat.le_mul_of_pos_right _ (Nat.pow_pos (by decide))
  have budget : 2 ^ Scale.decimalBits < 10 ^ 101 := by decide +kernel
  have counted :
      digitCount (natOfDigits (literal.whole ++ literal.fraction)) ≤ 101 :=
    (digitCount_le_iff (by decide)).2 (by omega)
  refine (Quantized.isTooLarge_eq_false_iff _).2 (.inr ?_)
  dsimp only [toNumeral]
  omega

/-- A literal denotes its units, exactly, if they are within the budget and its
fraction is not too long; otherwise it denotes nothing. -/
theorem toFixed_eq_ok_iff
    {number : Fixed} :
    literal.toFixed = .ok number ↔
      literal.fraction.length ≤ Scale.places ∧
        literal.units = number.toQuantized := by
  rw [toFixed]
  constructor
  · intro denoted
    split_ifs at denoted with long
    have short := not_lt.1 long
    obtain ⟨units, admitted, fixed⟩ := Failure.bind_eq_ok_iff.1 denoted
    refine ⟨short, ?_⟩
    by_cases large : Quantized.isTooLarge literal.toNumeral = true
    · simp [Quantized.ofValue, Value.decimal?, large] at admitted
    · rw [ofValue_toNumeral short (Bool.eq_false_iff.2 large)] at admitted
      cases admitted
      exact Quantized.fix_eq_ok_iff.1 fixed
  · rintro ⟨short, unitsEq⟩
    have fits : literal.units.scaled < 2 ^ Scale.decimalBits := by
      rw [unitsEq]
      exact number.withinBudget
    rw [if_neg (not_lt.2 short), Fixed.ofValue,
      ofValue_toNumeral short (isTooLarge_toNumeral fits),
      Failure.ok_bind, Quantized.fix_eq_ok_iff, unitsEq]

/-! ## The literals of numbers of units -/

/-- The literal of `units · 10 ^ (-places)` with so many fraction digits. -/
def ofUnits (units places : Nat) : Literal :=
  let padded := paddedDigits (places + 1) units
  ⟨none, padded.take (padded.length - places),
    padded.drop (padded.length - places)⟩

variable (units places : Nat)

theorem whole_append_fraction_ofUnits :
    (ofUnits units places).whole ++ (ofUnits units places).fraction =
      paddedDigits (places + 1) units :=
  List.take_append_drop _ _

theorem length_fraction_ofUnits :
    (ofUnits units places).fraction.length = places := by
  have wide := le_length_paddedDigits (places + 1) units
  simp only [ofUnits, List.length_drop]
  omega

theorem isWritten_ofUnits : (ofUnits units places).IsWritten where
  whole_ne_nil := by
    have wide := le_length_paddedDigits (places + 1) units
    refine List.ne_nil_of_length_pos ?_
    simp only [ofUnits, List.length_take]
    omega
  isDigit_whole character member :=
    isDigit_of_mem_paddedDigits (List.mem_of_mem_take member)
  isDigit_fraction character member :=
    isDigit_of_mem_paddedDigits (List.mem_of_mem_drop member)

/-- The positional text of a number of units is a literal. -/
theorem text_ofUnits :
    (ofUnits units places).text = positional units places := by
  have counted := length_fraction_ofUnits units places
  rw [text, positional]
  by_cases none : places = 0
  · subst none
    have empty : (ofUnits units 0).fraction = [] :=
      List.eq_nil_of_length_eq_zero counted
    have all := whole_append_fraction_ofUnits units 0
    rw [empty, List.append_nil] at all
    rw [if_pos empty, if_pos rfl, all, List.append_nil]
    rfl
  · have nonempty : (ofUnits units places).fraction ≠ [] := by
      intro empty
      rw [empty] at counted
      exact none counted.symm
    rw [if_neg nonempty, if_neg none]
    rfl

/-- What the literal of a number of units denotes: these units, at the places
of the scale. -/
theorem toFixed_ofUnits
    {units places : Nat}
    (short : places ≤ Scale.places)
    (fits :
      units * 10 ^ (Scale.places - places) < 2 ^ Scale.decimalBits) :
    (ofUnits units places).toFixed =
      .ok ⟨⟨false, units * 10 ^ (Scale.places - places)⟩, fits⟩ := by
  have counted := length_fraction_ofUnits units places
  refine toFixed_eq_ok_iff.2 ⟨counted.trans_le short, ?_⟩
  rw [Literal.units, whole_append_fraction_ofUnits, natOfDigits_paddedDigits,
    counted]
  rfl

end Literal

end Coinage
