import Coinage.Proofs.Fixed.Product

/-!
# The nearest fixed-point number

A value that denotes a finite number is fixed exactly if the number, rounded half
to even to units of the last place, is within the budget.  Two checks take part
in this, the guard on the first digit before the rounding and the budget after
it; what the guard refuses the budget would refuse, so one bound says it all.  It is a
failure of the budget, too, except that the guard has no words for an integer with
too many digits.

The fixed number is known from the number that is denoted and from its sign,
which a number that is rounded to zero keeps.  How the number was written leaves
no trace, and fixing a second time changes nothing.
-/

namespace Coinage

/-! ## The budget of units -/

namespace Numeral

variable {number : Numeral}

theorem natAbs_units_lt_iff :
    number.units.natAbs < 2 ^ Scale.decimalBits ↔
      |number.units| < 2 ^ 315 := by
  rw [Int.abs_eq_natAbs, Scale.decimalBits]
  exact_mod_cast Iff.rfl

/-- What the guard refuses, the budget would refuse. -/
theorem IsHuge.budget_le_abs_units (huge : number.IsHuge) :
    2 ^ 315 ≤ |number.units| := by
  have budget : (2 : ℤ) ^ 315 ≤ 10 ^ 119 := by decide +kernel
  exact budget.trans huge.le_abs_units

end Numeral

namespace Quantized

/-- The units nearest to a numeral are its units, under its own sign. -/
theorem nearest_eq_units (number : Numeral) :
    nearest number.negative number.magnitude =
      ⟨number.negative, number.units.natAbs⟩ := by
  apply nearest_eq
  rw [← Numeral.abs_units, Int.abs_eq_natAbs]

theorem signed_units (number : Numeral) :
    (⟨number.negative, number.units.natAbs⟩ : Quantized).signed =
      number.units := by
  rw [← nearest_eq_units, signed_nearest]

end Quantized

namespace Fixed

/-! ## Fixing a finite number -/

section Finite

variable
    {value : Value}
    {number : Numeral}
    (denotes : value.denoted? = some (.finite number))

include denotes

theorem ofValue_of_units_lt
    (fits : number.units.natAbs < 2 ^ Scale.decimalBits) :
    ofValue value = .ok ⟨⟨number.negative, number.units.natAbs⟩, fits⟩ := by
  have short : ¬ number.IsHuge := fun huge =>
    (Numeral.natAbs_units_lt_iff.1 fits).not_ge huge.budget_le_abs_units
  rw [ofValue, Quantized.ofValue_of_not_isHuge denotes .fix short,
    Quantized.nearest_eq_units, Failure.ok_bind]
  exact Quantized.fix_of_lt fits

theorem ofValue_of_isHuge
    (huge : number.IsHuge) :
    ofValue value = .error (value.worded (.magnitude .fix)) := by
  rw [ofValue, Quantized.ofValue_of_isHuge denotes .fix huge,
    Failure.error_bind]

/-- An integer with too many digits is refused for its digits. -/
theorem ofValue_of_isLong
    (long : value.IsLong) :
    ofValue value = .error .longInteger := by
  rw [ofValue_of_isHuge denotes (long.isHuge denotes),
    Value.worded_of_isLong long]

/-- Beyond the budget the guard or the budget refuses, and both refusals are of
one family. -/
theorem ofValue_of_units_ge
    (exceeds : 2 ^ Scale.decimalBits ≤ number.units.natAbs)
    (short : ¬ value.IsLong) :
    ∃ failure,
      ofValue value = .error failure ∧ failure.family = .budget := by
  by_cases huge : number.IsHuge
  · refine ⟨.magnitude .fix value.shown, ?_, rfl⟩
    rw [ofValue_of_isHuge denotes huge,
      Value.worded_of_isWritable (Value.isWritable_of_not_isLong short)]
  · refine ⟨.decimalBudget (Scale.bitLength number.units.natAbs), ?_, rfl⟩
    rw [ofValue, Quantized.ofValue_of_not_isHuge denotes .fix huge,
      Quantized.nearest_eq_units, Failure.ok_bind]
    exact Quantized.fix_of_ge exceeds

theorem exists_error_of_units_ge
    (exceeds : 2 ^ Scale.decimalBits ≤ number.units.natAbs) :
    ∃ failure, ofValue value = .error failure := by
  by_cases long : value.IsLong
  · exact ⟨_, ofValue_of_isLong denotes long⟩
  · obtain ⟨failure, refused, -⟩ := ofValue_of_units_ge denotes exceeds long
    exact ⟨failure, refused⟩

/-- What a finite number is fixed as, if it is fixed at all. -/
theorem toOption_ofValue :
    (ofValue value).toOption =
      if fits : number.units.natAbs < 2 ^ Scale.decimalBits then
        some ⟨⟨number.negative, number.units.natAbs⟩, fits⟩
      else none := by
  split_ifs with fits
  · rw [ofValue_of_units_lt denotes fits]
    rfl
  · obtain ⟨failure, refused⟩ :=
      exists_error_of_units_ge denotes (not_lt.1 fits)
    rw [refused]
    rfl

/-- Values that denote one number under one sign are fixed as one number. -/
theorem toOption_ofValue_eq
    {other : Value}
    {otherNumber : Numeral}
    (otherDenotes : other.denoted? = some (.finite otherNumber))
    (valueEq : number.value = otherNumber.value)
    (signEq : number.negative = otherNumber.negative) :
    (ofValue value).toOption = (ofValue other).toOption := by
  have unitsEq : number.units = otherNumber.units := by
    rw [Numeral.units, Numeral.units, valueEq]
  rw [toOption_ofValue denotes, toOption_ofValue otherDenotes]
  simp only [unitsEq, signEq]

end Finite

/-- A value is fixed as the units of its number, and it is refused exactly if these
are too many: by the budget, or for the digits of an integer. -/
structure Rounds (value : Value) (number : Numeral) : Prop where
  accepted_iff :
    (∃ result, ofValue value = .ok result) ↔ |number.units| < 2 ^ 315
  result :
    ∀ result,
      ofValue value = .ok result →
      result.toDecimal =
          .finite ⟨number.negative, number.units.natAbs, -18⟩ ∧
        result.value = number.units / 10 ^ 18
  refused :
    2 ^ 315 ≤ |number.units| →
    ¬ value.IsLong →
      ∃ failure,
        ofValue value = .error failure ∧ failure.family = .budget
  long :
    value.IsLong →
      2 ^ 315 ≤ |number.units| ∧ ofValue value = .error .longInteger

theorem rounds
    {value : Value}
    {number : Numeral}
    (denotes : value.denoted? = some (.finite number)) :
    Rounds value number where
  accepted_iff := by
    by_cases fits : number.units.natAbs < 2 ^ Scale.decimalBits
    · exact iff_of_true ⟨_, ofValue_of_units_lt denotes fits⟩
        (Numeral.natAbs_units_lt_iff.1 fits)
    · refine iff_of_false ?_ (Numeral.natAbs_units_lt_iff.not.1 fits)
      rintro ⟨result, found⟩
      obtain ⟨failure, refused⟩ :=
        exists_error_of_units_ge denotes (not_lt.1 fits)
      cases refused.symm.trans found
  result result found := by
    have fits : number.units.natAbs < 2 ^ Scale.decimalBits := by
      by_contra exceeds
      obtain ⟨failure, refused⟩ :=
        exists_error_of_units_ge denotes (not_lt.1 exceeds)
      cases refused.symm.trans found
    cases (ofValue_of_units_lt denotes fits).symm.trans found
    exact ⟨rfl, by rw [Quantized.value, Quantized.signed_units]⟩
  refused exceeds short := by
    refine ofValue_of_units_ge denotes (not_lt.1 fun fits => ?_) short
    exact exceeds.not_gt (Numeral.natAbs_units_lt_iff.1 fits)
  long long :=
    ⟨(long.isHuge denotes).budget_le_abs_units,
      ofValue_of_isLong denotes long⟩

/-- Fixing a second time changes nothing, neither a number nor a failure. -/
theorem ofValue_bind_toValue (value : Value) :
    (do
      let result ← ofValue value
      ofValue result.toValue) = ofValue value := by
  cases ofValue value with
  | ok result => exact ofValue_toValue result
  | error failure => rfl

/-- What denotes no finite number is no value of the right kind, whatever its
size. -/
theorem ofValue_of_not_finite
    {value : Value}
    (notFinite : ∀ number, value.decimal? ≠ some (.finite number)) :
    ∃ failure,
      ofValue value = .error failure ∧ failure.family = .value := by
  cases denotes : value.decimal? with
  | none =>
      refine ⟨value.worded (.notNumber .fix), ?_,
        value.family_worded fun _ => rfl⟩
      rw [ofValue, Quantized.ofValue, denotes]
      rfl
  | some datum =>
      cases datum with
      | finite number =>
          exact absurd denotes (notFinite number)
      | infinite | nan =>
          refine ⟨.notFinite .fix value.shown, ?_, rfl⟩
          rw [ofValue, Quantized.ofValue, denotes]
          rfl

/-! ## The range of fixed-point numbers -/

/--
Fixing is rounding half to even, with one bound.  A value that denotes a finite
number, of any coefficient and exponent, is fixed exactly if the nearest number of
units is below the budget in magnitude; then the result is that number of units,
written with eighteen fraction digits and under the sign of the number, also if
it is zero.  Otherwise the failure is one of the budget, except for an integer with
too many digits to be written, and the guard on the first digit only refuses what
is beyond the budget.  Values of one number and sign are fixed alike, and fixing
twice is fixing once.  Every other value is refused by a failure of values, which
is none of the budget.
-/
theorem ofValue_rounds (value other : Value) :
    (∀ number,
      value.denoted? = some (.finite number) →
      Rounding.IsNearestEven (number.value * 10 ^ 18) number.units ∧
        Rounds value number ∧
        (Quantized.isTooLarge number = true → 2 ^ 315 ≤ |number.units|)) ∧
    (∀ first second,
      value.denoted? = some (.finite first) →
      other.denoted? = some (.finite second) →
      first.value = second.value →
      first.negative = second.negative →
      (ofValue value).toOption = (ofValue other).toOption) ∧
    (do
      let result ← ofValue value
      ofValue result.toValue) = ofValue value ∧
    ((∀ number, value.denoted? ≠ some (.finite number)) →
      ∃ failure,
        ofValue value = .error failure ∧ failure.family = .value) := by
  refine ⟨?_, ?_, ofValue_bind_toValue value, ?_⟩
  · intro number denotes
    refine ⟨Rounding.nearestEven_spec _, rounds denotes, fun guarded => ?_⟩
    exact (Numeral.isTooLarge_iff.1 guarded).budget_le_abs_units
  · intro first second denotes otherDenotes valueEq signEq
    exact toOption_ofValue_eq denotes otherDenotes valueEq signEq
  · intro notFinite
    refine ofValue_of_not_finite fun number read => ?_
    exact notFinite number (Value.denoted?_of_decimal? read)

/-- Half a unit below the budget, a tie that is rounded up to it. -/
def edge : Numeral :=
  ⟨false, 2 ^ 315 * 10 - 5, -19⟩

/-- The tie below the budget is refused, half a unit below zero becomes a zero
with its sign, a number may be written in two ways, and an infinity is no
number. -/
theorem ofValue_rounds_edge :
    (∃ failure,
      ofValue (.decimal (.finite edge)) = .error failure ∧
        failure.family = .budget) ∧
    (∃ result,
      ofValue (.text " -5e-1_9 ") = .ok result ∧
        result.toDecimal = .finite ⟨true, 0, -18⟩) ∧
    (ofValue (.float "1.5")).toOption =
      (ofValue (.decimal (.finite ⟨false, 1500, -3⟩))).toOption ∧
    ∃ failure,
      ofValue (.text "-Infinity") = .error failure ∧
        failure.family = .value := by
  obtain ⟨fixedEdge, -⟩ :=
    ofValue_rounds (.decimal (.finite edge)) (.float "1.5")
  obtain ⟨fixedText, -⟩ := ofValue_rounds (.text " -5e-1_9 ") (.float "1.5")
  obtain ⟨-, alike, -⟩ :=
    ofValue_rounds (.float "1.5") (.decimal (.finite ⟨false, 1500, -3⟩))
  obtain ⟨-, -, -, refused⟩ :=
    ofValue_rounds (.text "-Infinity") (.float "1.5")
  obtain ⟨-, atEdge, -⟩ := fixedEdge edge rfl
  have short : ¬ (Value.decimal (.finite edge)).IsLong := by
    rintro ⟨number, ⟨⟩, -⟩
  obtain ⟨-, vanishes, -⟩ :=
    fixedText ⟨true, 5, -19⟩ (by decide +kernel)
  obtain ⟨result, fixed⟩ := vanishes.accepted_iff.2 (by decide +kernel)
  have zero : Numeral.units ⟨true, 5, -19⟩ = 0 := by decide +kernel
  have written := (vanishes.result result fixed).1
  rw [zero] at written
  refine ⟨atEdge.refused (by decide +kernel) short,
    ⟨result, fixed, written⟩,
    alike ⟨false, 15, -1⟩ ⟨false, 1500, -3⟩ (by decide +kernel) rfl
      (by decide +kernel) rfl,
    refused ?_⟩
  intro number denotes
  have infinite :
      (Value.text "-Infinity").denoted? = some (.infinite true) := by
    decide +kernel
  cases infinite.symm.trans denotes

/-- The least integer with too many digits denotes a number beyond the budget, but
fixing it fails for another reason. -/
theorem not_ofValue_rounds_leastLong :
    ∃ number failure,
      Value.leastLong.denoted? = some (.finite number) ∧
        2 ^ 315 ≤ |number.units| ∧
        ofValue Value.leastLong = .error failure ∧
        failure.family = .value ∧
        failure.family ≠ .budget := by
  obtain ⟨number, denotes⟩ :
      ∃ number, Value.leastLong.denoted? = some (.finite number) :=
    ⟨_, rfl⟩
  have long := Value.isLong_leastLong
  exact ⟨number, .longInteger, denotes,
    (long.isHuge denotes).budget_le_abs_units,
    ofValue_of_isLong denotes long, rfl, by decide⟩

end Fixed

end Coinage
