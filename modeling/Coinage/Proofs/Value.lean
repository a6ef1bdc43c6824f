import Coinage.Proofs.Decimal.Reader
import Coinage.Value

/-!
# The numbers that values denote

Every value that denotes a number is read through its text, decimals apart.  So an
integer is read exactly if it can be written, and then as itself: the bound on the
digits of integers is far below the range of decimal data.
-/

namespace Coinage.Value

open Coinage.Text

variable
    {value : Value}
    {datum : Decimal}

/-! ## Values that can be written -/

/-- An integer with too many digits. -/
def IsLong (value : Value) : Prop :=
  ∃ number,
    value = .integer number ∧ longestInteger < digitCount number.natAbs

/-- Only integers with too many digits cannot be written. -/
theorem isWritable_eq_false_iff :
    value.isWritable = false ↔ value.IsLong := by
  unfold IsLong
  cases value with
  | integer number =>
      rw [isWritable, isConvertible, decide_eq_false_iff_not, not_le]
      simp
  | text | float | decimal | boolean | absent | nan => simp [isWritable]

theorem isWritable_integer_of_short
    {number : Int}
    (short : digitCount number.natAbs ≤ longestInteger) :
    (Value.integer number).isWritable = true :=
  isConvertible_of_le short

theorem isWritable_of_not_isLong
    (short : ¬ value.IsLong) :
    value.isWritable = true :=
  Bool.of_not_eq_false (mt isWritable_eq_false_iff.1 short)

theorem worded_of_isLong
    (long : value.IsLong)
    (cause : String → Failure) :
    value.worded cause = .longInteger :=
  if_neg (Bool.eq_false_iff.1 (isWritable_eq_false_iff.2 long))

/-- Too many digits are a failure of values, too. -/
theorem family_worded
    (value : Value)
    {cause : String → Failure}
    (family : ∀ shown, (cause shown).family = .value) :
    (value.worded cause).family = .value := by
  unfold worded
  split_ifs
  · exact family value.shown
  · rfl

/-- The least integer with too many digits. -/
def leastLong : Value :=
  .integer (10 ^ longestInteger : Nat)

theorem isLong_leastLong : leastLong.IsLong := by
  refine ⟨_, rfl, ?_⟩
  rw [Int.natAbs_natCast, digitCount_pow_longestInteger]
  exact Nat.lt_succ_self _

theorem isVacant_leastLong : leastLong.isVacant = false := by
  have nonzero : (Int.ofNat (10 ^ longestInteger)).natAbs ≠ 0 :=
    pow_ne_zero _ (by decide)
  exact beq_false_of_ne nonzero

/-! ## Reading -/

theorem decimal?_text (content : String) :
    (Value.text content).decimal? = Decimal.ofText? content.toList := by
  have writable : (Value.text content).isWritable = true := rfl
  simp only [decimal?, if_pos writable, shown]

theorem decimal?_integer_eq (number : Int) :
    (Value.integer number).decimal? =
      if (Value.integer number).isWritable then
        Decimal.ofText? (Value.integer number).shown.toList
      else none :=
  rfl

/-- An integer that can be written is read as itself. -/
theorem decimal?_integer
    {number : Int}
    (short : digitCount number.natAbs ≤ longestInteger) :
    (Value.integer number).decimal? =
      some (.finite ⟨decide (number < 0), number.natAbs, 0⟩) := by
  have inRange : (Decimal.ofInt number).isInRange = true := by
    refine Decimal.isInRange_ofInt (short.trans ?_)
    decide
  have reads := (Decimal.spells_integerDigits number).ofText?_eq inRange
  rw [decimal?_integer_eq, if_pos (isWritable_integer_of_short short), shown,
    String.toList_ofList]
  exact reads

/-- What cannot be written is not read. -/
theorem decimal?_of_isLong
    (long : value.IsLong) :
    value.decimal? = none := by
  have unwritable := isWritable_eq_false_iff.2 long
  obtain ⟨number, rfl, -⟩ := long
  rw [decimal?_integer_eq, if_neg (Bool.eq_false_iff.1 unwritable)]

theorem isWritable_of_decimal?
    (read : value.decimal? = some datum) :
    value.isWritable = true := by
  refine Bool.of_not_eq_false fun unwritable => ?_
  rw [decimal?_of_isLong (isWritable_eq_false_iff.1 unwritable)] at read
  cases read

theorem toDecimal_eq_ok_iff :
    value.toDecimal = .ok datum ↔ value.decimal? = some datum := by
  unfold toDecimal
  cases value.decimal? with
  | none => simp
  | some found => simp

theorem toDecimal_of_isLong
    (long : value.IsLong) :
    value.toDecimal = .error .longInteger := by
  rw [toDecimal, decimal?_of_isLong long]
  exact congrArg Except.error (worded_of_isLong long _)

/-! ## Denoting -/

/-- The datum that a value denotes, whether or not the value can be written. -/
def denoted? : Value → Option Decimal
  | .integer number => some (.ofInt number)
  | value => value.decimal?

/-- What a value denotes is read off it, unless it is an integer with too many
digits. -/
theorem decimal?_eq_some_or_isLong
    (denotes : value.denoted? = some datum) :
    value.decimal? = some datum ∨ value.IsLong := by
  cases writable : value.isWritable with
  | false => exact .inr (isWritable_eq_false_iff.1 writable)
  | true =>
      refine .inl ?_
      cases value with
      | integer number =>
          cases denotes
          exact decimal?_integer (of_decide_eq_true writable)
      | text | float | decimal | boolean | absent | nan => exact denotes

theorem denoted?_of_decimal?
    (read : value.decimal? = some datum) :
    value.denoted? = some datum := by
  cases value with
  | integer number =>
      have short := of_decide_eq_true (isWritable_of_decimal? read)
      rw [decimal?_integer short] at read
      exact read
  | text | float | decimal | boolean | absent | nan => exact read

end Coinage.Value
