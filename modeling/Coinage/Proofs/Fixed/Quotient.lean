import Coinage.Proofs.Fixed.Exact

/-!
# The accuracy of quotients

A quotient is rounded twice: toward zero at thirty-six places, then half to
even at eighteen.  This is not the same as rounding the exact quotient once.
The two differ exactly for a quotient that lies above the middle between two
units by less than the first rounding keeps, if the lower one of them is even.
A divisor of at most one half leaves no such quotient.
-/

namespace Coinage

namespace Quantized

/-- The exact quotient of two magnitudes, in units of the last place. -/
def exactUnits (dividend divisor : Quantized) : ℚ :=
  dividend.scaled * 10 ^ 18 / divisor.scaled

/-- The quotient of two magnitudes cut at thirty-six places, in units of the
last of these. -/
def cutUnits (dividend divisor : Quantized) : Nat :=
  dividend.scaled * 10 ^ 36 / divisor.scaled

/-- The cut puts a quotient into the middle between two units that lies above
it, and the lower one of them is even. -/
structure LosesTie (dividend divisor : Quantized) : Prop where
  tie : cutUnits dividend divisor % 10 ^ 18 = 5 * 10 ^ 17
  inexact : ¬ divisor.scaled ∣ dividend.scaled * 10 ^ 36
  even : Even (cutUnits dividend divisor / 10 ^ 18)

variable {dividend divisor : Quantized}

/-- What a cut drops in front of a tie is a multiple of half a unit, so the
divisor is larger than that. -/
theorem LosesTie.lt_divisor
    (lost : LosesTie dividend divisor) :
    5 * 10 ^ 17 < divisor.scaled := by
  obtain ⟨tie, inexact, -⟩ := lost
  have split :
      divisor.scaled * cutUnits dividend divisor +
          dividend.scaled * 10 ^ 36 % divisor.scaled =
        dividend.scaled * 10 ^ 36 :=
    Nat.div_add_mod _ _
  have halves : 5 * 10 ^ 17 ∣ cutUnits dividend divisor := by
    omega
  have dropped :
      5 * 10 ^ 17 ∣ dividend.scaled * 10 ^ 36 % divisor.scaled := by
    refine (Nat.dvd_add_right (halves.mul_left divisor.scaled)).1 ?_
    rw [split]
    exact (by norm_num : 5 * 10 ^ 17 ∣ 10 ^ 36).mul_left _
  have some : 0 < dividend.scaled * 10 ^ 36 % divisor.scaled :=
    Nat.pos_of_ne_zero fun none => inexact (Nat.dvd_of_mod_eq_zero none)
  have nonzero : divisor.scaled ≠ 0 := by
    intro zero
    rw [cutUnits, zero, Nat.div_zero] at tie
    norm_num at tie
  calc
    5 * 10 ^ 17 ≤ dividend.scaled * 10 ^ 36 % divisor.scaled :=
      Nat.le_of_dvd some dropped
    _ < divisor.scaled := Nat.mod_lt _ (Nat.pos_of_ne_zero nonzero)

/-! ## Rounding once and rounding twice -/

theorem exactUnits_eq :
    exactUnits dividend divisor =
      (dividend.scaled * 10 ^ 36 : Nat) / divisor.scaled /
        (2 * (5 * 10 ^ 17 : ℤ)) := by
  rw [exactUnits]
  push_cast
  ring

theorem cutUnits_eq_floor :
    (cutUnits dividend divisor : ℤ) =
      ⌊((dividend.scaled * 10 ^ 36 : Nat) : ℚ) / divisor.scaled⌋ := by
  rw [Rat.floor_natCast_div_natCast, cutUnits, Int.natCast_div]

/-- The cut drops less than one unit of the thirty-sixth place. -/
theorem abs_cutUnits_sub_exactUnits :
    |(cutUnits dividend divisor / 10 ^ 18 : ℚ) -
      exactUnits dividend divisor| ≤ 1 / 10 ^ 18 := by
  have low :=
    Int.floor_le (((dividend.scaled * 10 ^ 36 : Nat) : ℚ) / divisor.scaled)
  have high :=
    Int.lt_floor_add_one
      (((dividend.scaled * 10 ^ 36 : Nat) : ℚ) / divisor.scaled)
  rw [← cutUnits_eq_floor, Int.cast_natCast] at low high
  rw [exactUnits_eq, abs_le]
  push_cast at low high ⊢
  constructor <;> linarith

section Nonzero

variable (nonzero : divisor.scaled ≠ 0)

include nonzero

/-- The quotient is an integer of the last places kept exactly if the divisor
divides. -/
theorem cutUnits_eq_iff :
    (cutUnits dividend divisor : ℚ) =
        (dividend.scaled * 10 ^ 36 : Nat) / divisor.scaled ↔
      divisor.scaled ∣ dividend.scaled * 10 ^ 36 := by
  have divisorNonzero : (divisor.scaled : ℚ) ≠ 0 := by exact_mod_cast nonzero
  rw [eq_div_iff divisorNonzero, ← Nat.cast_mul, Nat.cast_inj, cutUnits]
  exact (Nat.dvd_iff_div_mul_eq _ _).symm

/-- What the laws of rounding say of a lost tie. -/
theorem losesTie_iff :
    LosesTie dividend divisor ↔
      (cutUnits dividend divisor : ℤ) % (2 * (5 * 10 ^ 17)) = 5 * 10 ^ 17 ∧
        ((cutUnits dividend divisor : ℤ) : ℚ) ≠
          (dividend.scaled * 10 ^ 36 : Nat) / divisor.scaled ∧
        Even ((cutUnits dividend divisor : ℤ) / (2 * (5 * 10 ^ 17))) := by
  have unit : (2 * (5 * 10 ^ 17) : ℤ) = (10 ^ 18 : Nat) := by norm_num
  rw [Int.cast_natCast, Ne, cutUnits_eq_iff nonzero, unit, ← Int.natCast_mod,
    ← Int.natCast_div, Int.even_coe_nat]
  constructor
  · rintro ⟨tie, inexact, even⟩
    exact ⟨by exact_mod_cast tie, inexact, even⟩
  · rintro ⟨tie, inexact, even⟩
    exact ⟨by exact_mod_cast tie, inexact, even⟩

open Classical in
/-- Rounding the cut quotient gives the rounded quotient, but for a lost tie,
where it gives one unit less. -/
theorem nearestEven_exactUnits :
    Rounding.nearestEven (exactUnits dividend divisor) =
      Rounding.nearestEven (cutUnits dividend divisor / 10 ^ 18) +
        if LosesTie dividend divisor then 1 else 0 := by
  have unit : (10 ^ 18 : ℚ) = 2 * (5 * 10 ^ 17 : ℤ) := by norm_num
  rw [exactUnits_eq, unit,
    Rounding.nearestEven_div_eq_cut _ (by norm_num : (0 : ℤ) < 5 * 10 ^ 17),
    ← cutUnits_eq_floor, Int.cast_natCast]
  congr 1
  exact if_congr (losesTie_iff nonzero).symm rfl rfl

end Nonzero

/-! ## The result and its sign -/

theorem dividedBy_scaled (dividend divisor : Quantized) :
    ((dividend.dividedBy divisor).scaled : ℤ) =
      Rounding.nearestEven (cutUnits dividend divisor / 10 ^ 18) := by
  rw [dividedBy, Rounding.divide_halfEven _ Scale.one_pos, Scale.cast_one]
  rfl

theorem dividedBy_eq_iff
    {result : Quantized} :
    dividend.dividedBy divisor = result ↔
      result.negative = (dividend.negative != divisor.negative) ∧
        result.scaled = (dividend.dividedBy divisor).scaled := by
  constructor
  · rintro rfl
    exact ⟨rfl, rfl⟩
  · obtain ⟨sign, scaled⟩ := result
    rintro ⟨rfl, rfl⟩
    rfl

/-- The magnitude of a quotient, times the sign that both quotients have. -/
theorem abs_dividedBy_value_sub (dividend divisor : Quantized) :
    |(dividend.dividedBy divisor).value - dividend.value / divisor.value| =
      |((dividend.dividedBy divisor).scaled : ℚ) -
        exactUnits dividend divisor| / 10 ^ 18 := by
  have scale : (0 : ℚ) < 10 ^ 18 := by norm_num
  have magnitudes :
      (dividend.scaled : ℚ) / divisor.scaled =
        exactUnits dividend divisor / 10 ^ 18 := by
    rw [exactUnits]
    ring
  have exactEq :
      dividend.value / divisor.value =
        (if dividend.negative != divisor.negative then -1 else 1) *
          (exactUnits dividend divisor / 10 ^ 18) := by
    rw [← magnitudes, value, value, div_div_div_cancel_right₀ scale.ne', signed,
      signed]
    cases dividend.negative <;> cases divisor.negative <;>
      simp [div_neg, neg_div]
  have resultEq :
      (dividend.dividedBy divisor).value =
        (if dividend.negative != divisor.negative then -1 else 1) *
          ((dividend.dividedBy divisor).scaled / 10 ^ 18) := by
    rw [value, signed]
    cases signEq : dividend.negative != divisor.negative <;>
      simp [dividedBy, signEq, neg_div]
  rw [exactEq, resultEq, ← mul_sub, ← sub_div, abs_mul, abs_div,
    abs_of_pos scale]
  split_ifs <;> simp

/-- One half unit from the rounding and one unit of the thirty-sixth place from
the cut. -/
theorem abs_dividedBy_value_sub_le (dividend divisor : Quantized) :
    |(dividend.dividedBy divisor).value - dividend.value / divisor.value| ≤
      1 / (2 * 10 ^ 18) + 1 / 10 ^ 36 := by
  have rounded :=
    (Rounding.nearestEven_spec (cutUnits dividend divisor / 10 ^ 18)).near
  rw [← dividedBy_scaled, Int.cast_natCast, abs_sub_comm] at rounded
  have close :=
    (abs_sub_le _ _ _).trans
      (add_le_add rounded abs_cutUnits_sub_exactUnits)
  rw [abs_dividedBy_value_sub, div_le_iff₀ (by norm_num)]
  linarith

end Quantized

namespace Fixed

/--
How far a quotient is from a correctly rounded one.  Of operands that are
admitted, with a divisor that is not zero, the result is the half-even rounding
of the cut quotient under the product of the signs, and there is a result
whenever this is within the budget.  It differs from the exact quotient by at
most half a unit of the last place and one unit of the thirty-sixth.  It is the
half-even rounding of the exact quotient unless the cut loses a tie, and then
it is one unit closer to zero.  A divisor of at most one half loses none.
-/
theorem quotient_accuracy
    {left right : Value}
    {dividend divisor : Quantized}
    (first : Quantized.ofValue .divide left = .ok dividend)
    (second : Quantized.ofValue .divide right = .ok divisor)
    (nonzero : divisor.scaled ≠ 0) :
    (∀ result,
      quotient left right = .ok result ↔
        result.negative = (dividend.negative != divisor.negative) ∧
          (result.scaled : ℤ) =
            Rounding.nearestEven
              (Quantized.cutUnits dividend divisor / 10 ^ 18)) ∧
    (∀ result,
      quotient left right = .ok result →
      |result.value - dividend.value / divisor.value| ≤
          1 / (2 * 10 ^ 18) + 1 / 10 ^ 36 ∧
        ((result.scaled : ℤ) =
            Rounding.nearestEven (Quantized.exactUnits dividend divisor) ↔
          ¬ Quantized.LosesTie dividend divisor) ∧
        (Quantized.LosesTie dividend divisor →
          (result.scaled : ℤ) + 1 =
            Rounding.nearestEven (Quantized.exactUnits dividend divisor))) ∧
    (divisor.scaled ≤ 5 * 10 ^ 17 →
      ¬ Quantized.LosesTie dividend divisor) := by
  have exactly :
      ∀ result,
        quotient left right = .ok result ↔
          dividend.dividedBy divisor = result.toQuantized := by
    intro result
    rw [quotient_of_ok first second, if_neg nonzero,
      Quantized.fix_eq_ok_iff]
  refine ⟨?_, ?_, fun short lost => lost.lt_divisor.not_ge short⟩
  · intro result
    rw [exactly, ← Quantized.dividedBy_scaled, Int.natCast_inj]
    exact Quantized.dividedBy_eq_iff
  · intro result divided
    have resultEq := (exactly result).1 divided
    have rounded :
        Rounding.nearestEven (Quantized.exactUnits dividend divisor) = _ :=
      Quantized.nearestEven_exactUnits nonzero
    rw [← Quantized.dividedBy_scaled, resultEq] at rounded
    refine ⟨?_, ?_, ?_⟩
    · rw [← resultEq]
      exact Quantized.abs_dividedBy_value_sub_le dividend divisor
    · rw [rounded]
      split_ifs with lost <;> simp [lost]
    · intro lost
      rw [rounded, if_pos lost]

/-- One unit of the last place. -/
def unit : Value :=
  .decimal (.finite ⟨false, 1, -18⟩)

/-- One unit of the last place below two. -/
def belowTwo : Value :=
  .decimal (.finite ⟨false, 2 * 10 ^ 18 - 1, -18⟩)

/-- Dividing one unit by a number just below two gives a little more than half a
unit.  The cut makes it exactly half a unit, so the result is zero and not one
unit. -/
theorem quotient_accuracy_belowTwo :
    quotient unit belowTwo = .ok ⟨⟨false, 0⟩, Nat.two_pow_pos _⟩ ∧
      Quantized.LosesTie ⟨false, 1⟩ ⟨false, 2 * 10 ^ 18 - 1⟩ ∧
      Rounding.nearestEven
          (Quantized.exactUnits ⟨false, 1⟩ ⟨false, 2 * 10 ^ 18 - 1⟩) =
        1 := by
  have first : Quantized.ofValue .divide unit = .ok ⟨false, 1⟩ := by
    decide +kernel
  have second :
      Quantized.ofValue .divide belowTwo =
        .ok ⟨false, 2 * 10 ^ 18 - 1⟩ := by
    decide +kernel
  have divided :
      quotient unit belowTwo = .ok ⟨⟨false, 0⟩, Nat.two_pow_pos _⟩ := by
    decide +kernel
  have lost : Quantized.LosesTie ⟨false, 1⟩ ⟨false, 2 * 10 ^ 18 - 1⟩ :=
    ⟨by decide +kernel, by decide +kernel, by decide +kernel⟩
  obtain ⟨-, accurate, -⟩ :=
    quotient_accuracy first second (by decide +kernel)
  obtain ⟨-, -, oneLess⟩ := accurate _ divided
  exact ⟨divided, lost, (oneLess lost).symm⟩

end Fixed

end Coinage
