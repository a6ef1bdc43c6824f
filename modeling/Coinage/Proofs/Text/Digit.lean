import Coinage.Text.Digit
import Mathlib.Tactic.IntervalCases
import Mathlib.Tactic.Positivity

/-!
# Laws of decimal digits

The number of digits of a natural number is the least power of ten above it,
so bounds on lengths and bounds on numbers are the same thing, also the bound
beyond which integers are not converted to text.  The digits that
this library writes are ASCII digits.  They lie in front of the letters, and like
all of ASCII they are left alone when the digits of other scripts are rewritten.
-/

namespace Coinage.Text

/-! ## The number of digits -/

theorem digitCount_pos (number : Nat) : 0 < digitCount number :=
  Nat.length_toDigits_pos

/-- A number has at most `count` digits exactly if it is below that power of
ten. -/
theorem digitCount_le_iff
    {number count : Nat}
    (positive : 0 < count) :
    digitCount number ≤ count ↔ number < 10 ^ count :=
  Nat.length_toDigits_le_iff (by decide) positive

theorem lt_pow_digitCount (number : Nat) :
    number < 10 ^ digitCount number :=
  (digitCount_le_iff (digitCount_pos number)).1 le_rfl

/-- A number that is not zero reaches the power of ten of its first digit. -/
theorem pow_digitCount_le
    {number : Nat}
    (nonzero : number ≠ 0) :
    10 ^ (digitCount number - 1) ≤ number := by
  by_cases single : digitCount number = 1
  · rw [single]
    exact Nat.one_le_iff_ne_zero.2 nonzero
  · have positive : 0 < digitCount number - 1 := by
      have := digitCount_pos number
      omega
    refine not_lt.1 fun below => ?_
    have shorter := (digitCount_le_iff positive).2 below
    omega

/-- Appending zeros lengthens a number that is not zero by their count. -/
theorem digitCount_mul_pow
    {number : Nat}
    (nonzero : number ≠ 0)
    (count : Nat) :
    digitCount (number * 10 ^ count) = digitCount number + count := by
  rcases Nat.eq_zero_or_pos count with rfl | positive
  · simp
  apply le_antisymm
  · rw [digitCount_le_iff (by omega), pow_add]
    exact Nat.mul_lt_mul_of_pos_right
      (lt_pow_digitCount number) (by positivity)
  · refine not_lt.1 fun shorter => ?_
    have below :
        number * 10 ^ count < 10 ^ (digitCount number - 1 + count) :=
      (digitCount_le_iff (by omega)).1 (by omega)
    rw [pow_add] at below
    have reached := pow_digitCount_le nonzero
    exact absurd (Nat.lt_of_mul_lt_mul_right below) (not_lt.2 reached)

/-- Dropping digits shortens a number by their count, as long as one is
left. -/
theorem digitCount_div_pow
    {number count : Nat}
    (shorter : count < digitCount number) :
    digitCount (number / 10 ^ count) = digitCount number - count := by
  apply le_antisymm
  · rw [digitCount_le_iff (by omega), Nat.div_lt_iff_lt_mul (by positivity),
      ← pow_add, Nat.sub_add_cancel shorter.le]
    exact lt_pow_digitCount number
  · refine not_lt.1 fun less => ?_
    have positive := digitCount_pos (number / 10 ^ count)
    have below : number / 10 ^ count < 10 ^ (digitCount number - count - 1) :=
      (digitCount_le_iff (by omega)).1 (by omega)
    rw [Nat.div_lt_iff_lt_mul (by positivity), ← pow_add,
      ← digitCount_le_iff (by omega)] at below
    omega

/-- A number is short enough for text exactly if it is below a power of ten. -/
theorem isConvertible_iff {number : Nat} :
    isConvertible number = true ↔ number < 10 ^ longestInteger := by
  rw [isConvertible, decide_eq_true_iff, digitCount_le_iff (by decide)]

theorem isConvertible_of_le
    {number : Nat}
    (short : digitCount number ≤ longestInteger) :
    isConvertible number = true :=
  decide_eq_true short

theorem isConvertible_of_gt
    {number : Nat}
    (long : longestInteger < digitCount number) :
    isConvertible number = false :=
  decide_eq_false long.not_ge

/-- The least number with one digit too many. -/
theorem digitCount_pow_longestInteger :
    digitCount (10 ^ longestInteger) = longestInteger + 1 := by
  have counted :=
    digitCount_mul_pow Nat.one_ne_zero longestInteger
  rw [Nat.one_mul] at counted
  rw [counted, Nat.add_comm]
  rfl

/-! ## ASCII digits -/

theorem digits_ne_nil (number : Nat) : digits number ≠ [] :=
  Nat.toDigits_ne_nil

theorem isDigit_of_mem_digits
    {character : Char}
    {number : Nat}
    (member : character ∈ digits number) :
    character.isDigit = true :=
  Nat.isDigit_of_mem_toDigits (by decide) (by decide) member

theorem toNat_of_isDigit
    {character : Char}
    (digit : character.isDigit = true) :
    48 ≤ character.toNat ∧ character.toNat ≤ 57 := by
  simp only [Char.isDigit, Bool.and_eq_true, decide_eq_true_eq, ge_iff_le,
    UInt32.le_iff_toNat_le] at digit
  exact digit

/-- The letters of ASCII lie behind its digits. -/
theorem toNat_of_isAlpha
    {character : Char}
    (letter : character.isAlpha = true) :
    65 ≤ character.toNat ∧ character.toNat ≤ 122 := by
  change
    (decide ('A'.val ≤ character.val ∧ character.val ≤ 'Z'.val) ||
      (decide ('a'.val ≤ character.val) &&
        decide (character.val ≤ 'z'.val))) = true at letter
  simp only [Bool.or_eq_true, Bool.and_eq_true, decide_eq_true_eq,
    UInt32.le_iff_toNat_le] at letter
  change (65 ≤ character.toNat ∧ character.toNat ≤ 90) ∨
    (97 ≤ character.toNat ∧ character.toNat ≤ 122) at letter
  omega

/-- The ten ASCII digits. -/
def asciiDigits : List Char :=
  ['0', '1', '2', '3', '4', '5', '6', '7', '8', '9']

theorem mem_asciiDigits
    {character : Char}
    (digit : character.isDigit = true) :
    character ∈ asciiDigits := by
  obtain ⟨low, high⟩ := toNat_of_isDigit digit
  have named : Char.ofNat character.toNat = character :=
    Char.ofNat_toNat character
  rw [← named]
  generalize character.toNat = code at low high
  interval_cases code <;> decide

/-- A character of ASCII stands for itself: the other scripts lie behind. -/
theorem toAsciiDigit_of_le
    {character : Char}
    (ascii : character.toNat ≤ 126) :
    toAsciiDigit character = character := by
  have plain :
      ∀ code ≤ 126, toAsciiDigit (Char.ofNat code) = Char.ofNat code := by
    decide +kernel
  simpa using plain character.toNat ascii

end Coinage.Text
