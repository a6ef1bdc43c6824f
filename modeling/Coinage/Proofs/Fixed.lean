import Coinage.Fixed
import Coinage.Proofs.Numeral.Working
import Coinage.Proofs.Value

/-!
# Operands

Every operand that is admitted to the arithmetic is rounded exactly, and it has
fewer than `10 ^ 120` units.  The bound comes from the guard on the first digit
alone, since operands are not held to the budget of results.  Integers and
fixed-point numbers within their bounds are admitted as they are.
-/

namespace Coinage

open Coinage.Text

/-! ## The scale -/

namespace Scale

theorem one_pos : 0 < one :=
  Nat.pow_pos (by norm_num)

theorem even_one : Even one := by
  decide

theorem cast_one : (one : ℚ) = 10 ^ 18 := by
  norm_num [one, places]

theorem workingDigits_pos : 0 < workingDigits := by
  norm_num [workingDigits]

/-- Numbers of one digit less fit into the working space. -/
theorem working_le :
    10 ^ (workingDigits - 1) ≤ 10 ^ workingDigits :=
  Nat.pow_le_pow_right (by norm_num) (Nat.sub_le _ _)

end Scale

namespace Quantized

/-! ## What is admitted -/

theorem isTooLarge_eq_false_iff_adjusted (number : Numeral) :
    isTooLarge number = false ↔
      number.coefficient = 0 ∨ number.adjusted ≤ Scale.operandPower := by
  rw [isTooLarge, Bool.and_eq_false_iff, decide_eq_false_iff_not,
    decide_eq_false_iff_not, not_not, not_lt]

theorem isTooLarge_eq_false_iff (number : Numeral) :
    isTooLarge number = false ↔
      number.coefficient = 0 ∨
        number.exponent + digitCount number.coefficient ≤ 101 := by
  rw [isTooLarge_eq_false_iff_adjusted]
  refine or_congr_right ?_
  unfold Numeral.adjusted Scale.operandPower
  omega

/-- The guard on the first digit bounds the number of units. -/
theorem roundedAt_lt_of_not_isTooLarge
    {number : Numeral}
    (small : isTooLarge number = false) :
    number.roundedAt .halfEven (-Scale.places) < 10 ^ 120 := by
  by_cases zero : number.coefficient = 0
  · rw [Numeral.roundedAt, zero, Nat.zero_mul,
      Rounding.divide_zero _ (by positivity)]
    positivity
  have short :=
    ((isTooLarge_eq_false_iff number).1 small).resolve_left zero
  have placesEq : (Scale.places : Int) = 18 := rfl
  rcases le_total (-Scale.places : Int) number.exponent with finer | coarser
  · rw [Numeral.roundedAt_of_le _ finer,
      ← digitCount_le_iff (by decide), digitCount_mul_pow zero]
    omega
  · rw [Numeral.roundedAt_of_ge _ coarser]
    generalize dropEq :
      ((-Scale.places : Int) - number.exponent).toNat = dropped
    have whole : number.coefficient / 10 ^ dropped < 10 ^ 119 := by
      rw [Nat.div_lt_iff_lt_mul (by positivity), ← pow_add,
        ← digitCount_le_iff (by omega)]
      omega
    have rounded :=
      Rounding.divide_le .halfEven number.coefficient (10 ^ dropped)
    have larger : (10 : Nat) ^ 119 < 10 ^ 120 := by norm_num
    omega

/-- An operand that is not too large is rounded to its units, without a sign
that the working space is limited. -/
theorem ofNumeral_of_not_isTooLarge
    {number : Numeral}
    (small : isTooLarge number = false) :
    ofNumeral number =
      .ok ⟨number.negative,
        number.roundedAt .halfEven (-Scale.places)⟩ := by
  have bound := roundedAt_lt_of_not_isTooLarge small
  have fits :
      number.roundedAt .halfEven (-Scale.places) <
        10 ^ Scale.workingDigits :=
    bound.trans_le (Nat.pow_le_pow_right (by decide) (by decide))
  rw [ofNumeral, Numeral.quantize_of_lt Scale.workingDigits_pos fits]

theorem ofValue_of_finite
    (operation : NumberOperation)
    {value : Value}
    {number : Numeral}
    (denotes : value.decimal? = some (.finite number))
    (small : isTooLarge number = false) :
    ofValue operation value =
      .ok ⟨number.negative,
        number.roundedAt .halfEven (-Scale.places)⟩ := by
  simp only [ofValue, denotes, small, Bool.false_eq_true, if_false]
  exact ofNumeral_of_not_isTooLarge small

/-- Whatever is admitted has fewer than `10 ^ 120` units. -/
theorem scaled_lt_of_ofValue
    {operation : NumberOperation}
    {value : Value}
    {units : Quantized}
    (admitted : ofValue operation value = .ok units) :
    units.scaled < 10 ^ 120 := by
  unfold ofValue at admitted
  split at admitted
  · cases admitted
  · rename_i number denotes
    split_ifs at admitted with large
    have small : isTooLarge number = false := by simpa using large
    rw [ofNumeral_of_not_isTooLarge small] at admitted
    cases admitted
    exact roundedAt_lt_of_not_isTooLarge small
  · cases admitted

/-! ## Integers and fixed-point numbers as operands -/

/-- An integer is admitted with exactly its units. -/
theorem ofValue_integer
    (operation : NumberOperation)
    {number : Int}
    (bounded : number.natAbs < 10 ^ 101) :
    ofValue operation (.integer number) =
      .ok ⟨decide (number < 0), number.natAbs * Scale.one⟩ := by
  have short : digitCount number.natAbs ≤ 101 :=
    (digitCount_le_iff (by decide)).2 bounded
  have read :=
    Value.decimal?_integer (short.trans (by decide))
  have small :
      isTooLarge ⟨decide (number < 0), number.natAbs, 0⟩ = false :=
    (isTooLarge_eq_false_iff _).2 (Or.inr (by dsimp only; omega))
  have finer : (-Scale.places : Int) ≤ 0 := by decide
  rw [ofValue_of_finite operation read small,
    Numeral.roundedAt_of_le .halfEven finer]
  rfl

@[simp]
theorem roundedAt_toNumeral
    (rounding : Rounding)
    (units : Quantized) :
    units.toNumeral.roundedAt rounding (-Scale.places) = units.scaled := by
  have sameExponent :
      (-Scale.places : Int) ≤ units.toNumeral.exponent := le_rfl
  rw [Numeral.roundedAt_of_le rounding sameExponent]
  simp [toNumeral]

/-- A number of units is admitted as it is. -/
theorem ofValue_toValue
    (operation : NumberOperation)
    {units : Quantized}
    (bounded : units.scaled < 10 ^ 119) :
    ofValue operation units.toValue = .ok units := by
  have short : digitCount units.scaled ≤ 119 :=
    (digitCount_le_iff (by decide)).2 bounded
  have denotes :
      units.toValue.decimal? = some (.finite units.toNumeral) := rfl
  have small : isTooLarge units.toNumeral = false := by
    refine (isTooLarge_eq_false_iff _).2 (Or.inr ?_)
    simp only [toNumeral, Scale.places]
    omega
  rw [ofValue_of_finite operation denotes small, roundedAt_toNumeral]
  rfl

/-! ## The budget -/

theorem fix_of_lt
    {units : Quantized}
    (fits : units.scaled < 2 ^ Scale.decimalBits) :
    units.fix = .ok ⟨units, fits⟩ := by
  rw [fix, dif_pos (Scale.bitLength_le_iff.2 fits)]

theorem fix_of_ge
    {units : Quantized}
    (exceeds : 2 ^ Scale.decimalBits ≤ units.scaled) :
    units.fix =
      .error (.decimalBudget (Scale.bitLength units.scaled)) := by
  rw [fix, dif_neg]
  rw [Scale.bitLength_le_iff]
  exact not_lt.2 exceeds

theorem fix_eq_ok_iff
    {units : Quantized}
    {result : Fixed} :
    units.fix = .ok result ↔ units = result.toQuantized := by
  constructor
  · intro fixed
    by_cases fits : units.scaled < 2 ^ Scale.decimalBits
    · rw [fix_of_lt fits] at fixed
      cases fixed
      rfl
    · rw [fix_of_ge (not_lt.1 fits)] at fixed
      cases fixed
  · rintro rfl
    exact fix_of_lt result.withinBudget

end Quantized

namespace Fixed

theorem eq_of_scaled
    {left right : Fixed}
    (signEq : left.negative = right.negative)
    (scaledEq : left.scaled = right.scaled) :
    left = right := by
  obtain ⟨⟨sign, units⟩, fits⟩ := left
  cases signEq
  cases scaledEq
  rfl

theorem scaled_lt (number : Fixed) : number.scaled < 10 ^ 119 :=
  number.withinBudget.trans (by decide +kernel)

/-- A fixed-point number is admitted as it is. -/
theorem quantized_toValue
    (operation : NumberOperation)
    (number : Fixed) :
    Quantized.ofValue operation number.toValue = .ok number.toQuantized :=
  Quantized.ofValue_toValue operation number.scaled_lt

/-- A fixed-point number is the fixed-point number nearest to itself. -/
theorem ofValue_toValue (number : Fixed) :
    ofValue number.toValue = .ok number := by
  have fixes := Quantized.fix_of_lt number.withinBudget
  rw [ofValue, quantized_toValue]
  exact fixes

/-- Printing a fixed-point number never fails. -/
theorem format_toValue (number : Fixed) :
    format number.toValue = .ok (String.ofList number.text) := by
  rw [format, ofValue_toValue]
  rfl

end Fixed

end Coinage
