import Coinage.Decimal.Budget
import Coinage.Proofs.Failure
import Coinage.Proofs.Numeral.Notation
import Mathlib.Data.Nat.Size

/-!
# What the budget measures

The length of a datum is the binary length of a natural number, the integer part
of its magnitude on the fixed-point scale.  So it depends on the number alone, and
greater numbers are not shorter.  A number that is no whole number of units is
held to the same bound as one that is: an integer part stays below a power of two
exactly if the number does.

All this is about coefficients that can be read as integers.  A number whose
coefficient has too many digits has no length, however small it is, and there
notation does matter: appended zeros count as digits.
-/

namespace Coinage

namespace Scale

/-- The length in bits is that of the library. -/
theorem bitLength_eq_size (number : Nat) :
    bitLength number = number.size := by
  refine eq_of_forall_ge_iff fun bits => ?_
  rw [bitLength_le_iff, Nat.size_le]

end Scale

namespace Decimal

open Coinage.Text

/-! ## The length of a number -/

section Length

variable {number : Numeral}

/-- The length is measured on the integer part of the magnitude. -/
theorem bitLength_of_short
    (short : digitCount number.coefficient ≤ 4300) :
    (finite number).bitLength =
      .ok ⌊|number.value| * 10 ^ 18⌋₊.size := by
  rw [bitLength, readInteger, if_pos (isConvertible_of_le short),
    Failure.ok_bind, Scale.bitLength_eq_size, Numeral.unitsAt_eq_floor,
    Numeral.abs_value]
  rfl

/-- A number with too many digits has no length. -/
theorem bitLength_of_long
    (long : 4300 < digitCount number.coefficient) :
    (finite number).bitLength =
      .error (.longDigits (digitCount number.coefficient)) := by
  rw [bitLength, readInteger, isConvertible_of_gt long,
    if_neg Bool.false_ne_true, Failure.error_bind]

/-- Dropping a fraction moves no number below a bound of the budget. -/
theorem size_floor_le_iff
    {exact : ℚ}
    (nonnegative : 0 ≤ exact)
    (bits : Nat) :
    ⌊exact⌋₊.size ≤ bits ↔ exact < 2 ^ bits := by
  rw [Nat.size_le, Nat.floor_lt nonnegative, Nat.cast_pow, Nat.cast_ofNat]

/-! ## The budget of a number -/

theorem size_le_budget_iff (number : Numeral) :
    ⌊|number.value| * 10 ^ 18⌋₊.size ≤ Scale.decimalBits ↔
      |number.value| * 10 ^ 18 < 2 ^ 315 :=
  size_floor_le_iff (by positivity) 315

/-- A datum is passed on as it is, or refused with its length. -/
theorem checkBudget_of_short
    (short : digitCount number.coefficient ≤ 4300) :
    (finite number).checkBudget =
      if |number.value| * 10 ^ 18 < 2 ^ 315 then .ok (finite number)
      else .error (.decimalBudget ⌊|number.value| * 10 ^ 18⌋₊.size) := by
  rw [checkBudget, bitLength_of_short short, Failure.ok_bind]
  exact if_congr (size_le_budget_iff number) rfl rfl

theorem checkBudget_of_long
    (long : 4300 < digitCount number.coefficient) :
    (finite number).checkBudget =
      .error (.longDigits (digitCount number.coefficient)) := by
  rw [checkBudget, bitLength_of_long long, Failure.error_bind]

end Length

/--
The budget measures a number and not how it is written, as long as the digits of
the coefficient can be read as an integer, which are four thousand and three
hundred at most.  The length of a finite datum, of any sign, coefficient and
exponent, is the binary length of the integer part of its magnitude in units of
`10 ^ (-18)`.  Data of one value, which are the data that compare as equal, have
one length, and the length of a greater magnitude is not less.  A finite datum is
passed on unchanged exactly if its magnitude is below `2 ^ 315` units, and
otherwise refused for its length.  A datum with more digits has no length and is
never passed on.
-/
theorem bitLength_measures (number other : Numeral) :
    (digitCount number.coefficient ≤ 4300 →
      (finite number).bitLength =
          .ok ⌊|number.value| * 10 ^ 18⌋₊.size ∧
        ((finite number).checkBudget = .ok (finite number) ↔
          |number.value| * 10 ^ 18 < 2 ^ 315) ∧
        (2 ^ 315 ≤ |number.value| * 10 ^ 18 →
          ∃ bits,
            (finite number).bitLength = .ok bits ∧
              315 < bits ∧
              (finite number).checkBudget = .error (.decimalBudget bits))) ∧
    (number.sameValue other = true ↔ number.value = other.value) ∧
    (digitCount number.coefficient ≤ 4300 →
      digitCount other.coefficient ≤ 4300 →
      (number.value = other.value →
        (finite number).bitLength = (finite other).bitLength) ∧
      (|number.value| ≤ |other.value| →
        ∃ short long,
          (finite number).bitLength = .ok short ∧
            (finite other).bitLength = .ok long ∧
            short ≤ long)) ∧
    (4300 < digitCount number.coefficient →
      (finite number).bitLength =
          .error (.longDigits (digitCount number.coefficient)) ∧
        (finite number).checkBudget =
          .error (.longDigits (digitCount number.coefficient))) := by
  refine ⟨fun short => ⟨bitLength_of_short short, ?_, fun exceeds => ?_⟩,
    Numeral.sameValue_iff,
    fun short otherShort => ⟨fun sameValue => ?_, fun ordered => ?_⟩,
    fun long => ⟨bitLength_of_long long, checkBudget_of_long long⟩⟩
  · rw [checkBudget_of_short short]
    split_ifs with fits
    · exact iff_of_true rfl fits
    · exact iff_of_false nofun fits
  · refine ⟨_, bitLength_of_short short, ?_, ?_⟩
    · exact not_le.1 ((size_le_budget_iff number).not.2 exceeds.not_gt)
    · rw [checkBudget_of_short short, if_neg exceeds.not_gt]
  · rw [bitLength_of_short short, bitLength_of_short otherShort, sameValue]
  · refine ⟨_, _, bitLength_of_short short, bitLength_of_short otherShort, ?_⟩
    apply Nat.size_le_size
    gcongr

/-- A tenth of a unit below the budget. -/
def belowBudget : Numeral :=
  ⟨true, 2 ^ 315 * 10 - 1, -19⟩

/-- The budget itself. -/
def atBudget : Numeral :=
  ⟨false, 2 ^ 315, -18⟩

/-- A tenth. -/
def tenth : Numeral :=
  ⟨false, 1, -1⟩

/-- A tenth with so many zeros behind it that it is too long to be read. -/
def longTenth : Numeral :=
  ⟨false, 10 ^ longestInteger, -longestInteger - 1⟩

theorem digitCount_longTenth : digitCount longTenth.coefficient = 4301 :=
  digitCount_pow_longestInteger

theorem value_longTenth : longTenth.value = tenth.value := by
  have ten : (10 : ℚ) ≠ 0 := by norm_num
  change
    ((10 ^ longestInteger : Nat) : ℚ) * 10 ^ (-(longestInteger : ℤ) - 1) =
      ((1 : Nat) : ℚ) * 10 ^ (-1 : ℤ)
  rw [Nat.cast_pow, Nat.cast_ofNat, ← zpow_natCast, ← zpow_add₀ ten,
    ← add_sub_assoc, add_neg_cancel, zero_sub, Nat.cast_one, one_mul]

/-- The number below the budget is passed on and as long as the budget allows,
the budget is refused, and a few appended zeros make no number longer.  With too
many of them a number is not passed on, however small it is. -/
theorem bitLength_measures_edge :
    (finite belowBudget).checkBudget = .ok (finite belowBudget) ∧
    (∃ bits,
      (finite atBudget).bitLength = .ok bits ∧
        315 < bits ∧
        (finite atBudget).checkBudget = .error (.decimalBudget bits)) ∧
    (∃ short long,
      (finite belowBudget).bitLength = .ok short ∧
        (finite atBudget).bitLength = .ok long ∧
        short ≤ long) ∧
    (finite ⟨false, 15, -1⟩).bitLength =
      (finite ⟨false, 1500, -3⟩).bitLength ∧
    (finite longTenth).checkBudget = .error (.longDigits 4301) := by
  obtain ⟨below, -, ordered, -⟩ := bitLength_measures belowBudget atBudget
  obtain ⟨edge, -⟩ := bitLength_measures atBudget belowBudget
  obtain ⟨-, -, alike, -⟩ := bitLength_measures ⟨false, 15, -1⟩ ⟨false, 1500, -3⟩
  obtain ⟨-, -, -, long⟩ := bitLength_measures longTenth tenth
  rw [digitCount_longTenth] at long
  have belowShort : digitCount belowBudget.coefficient ≤ 4300 := by
    decide +kernel
  have atShort : digitCount atBudget.coefficient ≤ 4300 := by
    decide +kernel
  have fits : |belowBudget.value| * 10 ^ 18 < 2 ^ 315 := by
    decide +kernel
  have exceeds : 2 ^ 315 ≤ |atBudget.value| * 10 ^ 18 := by
    decide +kernel
  have less : |belowBudget.value| ≤ |atBudget.value| := by
    decide +kernel
  exact ⟨(below belowShort).2.1.2 fits, (edge atShort).2.2 exceeds,
    (ordered belowShort atShort).2 less,
    (alike (by decide) (by decide)).1 (by decide +kernel),
    (long (by decide)).2⟩

/-- A tenth has two notations, well within the budget, of which one has a length
and the other has none. -/
theorem not_bitLength_alike_tenth :
    longTenth.value = tenth.value ∧
      |longTenth.value| * 10 ^ 18 < 2 ^ 315 ∧
      (finite tenth).bitLength = .ok 57 ∧
      (finite longTenth).bitLength = .error (.longDigits 4301) ∧
      (finite longTenth).checkBudget = .error (.longDigits 4301) := by
  have long : 4300 < digitCount longTenth.coefficient := by
    rw [digitCount_longTenth]
    decide
  refine ⟨value_longTenth, ?_, by decide +kernel, ?_, ?_⟩
  · rw [value_longTenth]
    decide +kernel
  · rw [bitLength_of_long long, digitCount_longTenth]
  · rw [checkBudget_of_long long, digitCount_longTenth]

end Decimal

end Coinage
