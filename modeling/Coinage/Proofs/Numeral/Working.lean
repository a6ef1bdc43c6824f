import Coinage.Numeral.Working
import Coinage.Proofs.Rounding

/-!
# Exactness of the working space

As long as a coefficient stays below the power of ten of the working space,
nothing is rounded but by the caller's own rounding.  A quotient is cut twice,
once to the digits of the working space and once to the places that are asked
for; `quantize_quotientTowardZero` shows that only the second cut is felt.
-/

namespace Coinage.Numeral

open Coinage.Text

variable {limit : Nat}

/-! ## Fitting -/

/-- A numeral that fits into the working space is left alone. -/
theorem fit_of_lt
    (rounding : Rounding)
    {number : Numeral}
    (positive : 0 < limit)
    (fits : number.coefficient < 10 ^ limit) :
    number.fit limit rounding = number := by
  have short := (digitCount_le_iff positive).2 fits
  rw [fit, if_pos (Nat.sub_eq_zero_of_le short)]

/-- Cutting toward zero never carries, so it is one division. -/
theorem fit_towardZero
    (positive : 0 < limit)
    (number : Numeral) :
    number.fit limit .towardZero =
      ⟨number.negative,
        number.coefficient / 10 ^ (digitCount number.coefficient - limit),
        number.exponent +
          (digitCount number.coefficient - limit : Nat)⟩ := by
  unfold fit
  by_cases short : digitCount number.coefficient - limit = 0
  · simp [short]
  · have kept :
        number.coefficient / 10 ^ (digitCount number.coefficient - limit) <
          10 ^ limit := by
      rw [Nat.div_lt_iff_lt_mul (by positivity), ← pow_add]
      have exactLength :
          limit + (digitCount number.coefficient - limit) =
            digitCount number.coefficient := by omega
      rw [exactLength]
      exact lt_pow_digitCount number.coefficient
    have keptDigits := (digitCount_le_iff positive).2 kept
    simp [short, Rounding.dropDigits_eq_divide, not_lt.2 keptDigits]

/-! ## Quantizing -/

/-- The magnitude of a numeral in units of `10 ^ exponent`.  At most one of the
two powers differs from one. -/
def roundedAt
    (rounding : Rounding)
    (exponent : Int)
    (number : Numeral) :
    Nat :=
  rounding.divide
    (number.coefficient * 10 ^ (number.exponent - exponent).toNat)
    (10 ^ (exponent - number.exponent).toNat)

theorem roundedAt_of_le
    (rounding : Rounding)
    {exponent : Int}
    {number : Numeral}
    (finer : exponent ≤ number.exponent) :
    number.roundedAt rounding exponent =
      number.coefficient * 10 ^ (number.exponent - exponent).toNat := by
  have noDrop : (exponent - number.exponent).toNat = 0 := by omega
  rw [roundedAt, noDrop, pow_zero, Rounding.divide_one]

theorem roundedAt_of_ge
    (rounding : Rounding)
    {exponent : Int}
    {number : Numeral}
    (coarser : number.exponent ≤ exponent) :
    number.roundedAt rounding exponent =
      rounding.divide number.coefficient
        (10 ^ (exponent - number.exponent).toNat) := by
  have noZeros : (number.exponent - exponent).toNat = 0 := by omega
  rw [roundedAt, noZeros, pow_zero, Nat.mul_one]

/-- Bringing a numeral to an exponent is exact rounding whenever the result
fits into the working space. -/
theorem quantize_of_lt
    {rounding : Rounding}
    {exponent : Int}
    {number : Numeral}
    (positive : 0 < limit)
    (fits : number.roundedAt rounding exponent < 10 ^ limit) :
    number.quantize limit rounding exponent =
      some ⟨number.negative, number.roundedAt rounding exponent,
        exponent⟩ := by
  unfold quantize
  have short := (digitCount_le_iff positive).2 fits
  split_ifs with zero finer
  · rw [roundedAt, zero, Nat.zero_mul,
      Rounding.divide_zero rounding (by positivity)]
  · rw [roundedAt_of_le rounding finer] at short ⊢
    rw [digitCount_mul_pow zero] at short
    simp only [not_lt.2 short, if_false]
  · rw [roundedAt_of_ge rounding (by omega)] at short ⊢
    simp only [Rounding.dropDigits_eq_divide, not_lt.2 short, if_false]

/-! ## Products, differences and quotients -/

theorem product_of_lt
    (rounding : Rounding)
    {left right : Numeral}
    (positive : 0 < limit)
    (fits : left.coefficient * right.coefficient < 10 ^ limit) :
    product limit rounding left right =
      ⟨left.negative != right.negative,
        left.coefficient * right.coefficient,
        left.exponent + right.exponent⟩ :=
  fit_of_lt rounding positive fits

/-- A quotient with surplus digits may lose them in two cuts. -/
theorem cut_surplus
    (numerator denominator places first second : Nat) :
    numerator * 10 ^ (places + (first + second)) / denominator /
        10 ^ first / 10 ^ second =
      numerator * 10 ^ places / denominator := by
  calc
    numerator * 10 ^ (places + (first + second)) / denominator /
        10 ^ first / 10 ^ second =
      numerator * 10 ^ places * 10 ^ (first + second) /
        (denominator * 10 ^ (first + second)) := by
          rw [Nat.div_div_eq_div_mul, Nat.div_div_eq_div_mul, ← pow_add,
            Nat.mul_assoc numerator, ← pow_add]
    _ = numerator * 10 ^ places / denominator :=
      Nat.mul_div_mul_right _ _ (by positivity)

/-- The numerator is extended far enough for `limit` digits, and by no more
than two digits too many. -/
theorem digitCount_extendedQuotient_le
    {numerator denominator shift : Nat}
    (nonzero : denominator ≠ 0)
    (extended :
      digitCount numerator + shift = limit + 1 + digitCount denominator) :
    digitCount (numerator * 10 ^ shift / denominator) ≤ limit + 2 := by
  rw [digitCount_le_iff (by omega),
    Nat.div_lt_iff_lt_mul (Nat.pos_of_ne_zero nonzero)]
  calc
    numerator * 10 ^ shift < 10 ^ digitCount numerator * 10 ^ shift :=
      Nat.mul_lt_mul_of_pos_right
        (lt_pow_digitCount numerator) (by positivity)
    _ = 10 ^ (limit + 2) * 10 ^ (digitCount denominator - 1) := by
      have := digitCount_pos denominator
      rw [← pow_add, ← pow_add]
      congr 1
      omega
    _ ≤ 10 ^ (limit + 2) * denominator :=
      Nat.mul_le_mul_left _ (pow_digitCount_le nonzero)

/-- The quotient of numerals at one exponent, brought to `places` fraction
digits, is the integer quotient: cutting to the working space first drops at
most two digits, and these lie behind the places that are kept. -/
theorem quantize_quotientTowardZero
    {left right : Numeral}
    (places : Nat)
    (positive : 0 < limit)
    (sameExponent : left.exponent = right.exponent)
    (nonzero : right.coefficient ≠ 0)
    (room : left.coefficient * 10 ^ places < 10 ^ limit) :
    (quotientTowardZero limit left right).quantize limit .towardZero
        (-places) =
      some ⟨left.negative != right.negative,
        left.coefficient * 10 ^ places / right.coefficient, -places⟩ := by
  simp only [quotientTowardZero]
  by_cases zero : left.coefficient = 0
  · simp [zero, fit_of_lt, positive, quantize]
  have leftRoom : digitCount left.coefficient + places ≤ limit := by
    rw [← digitCount_mul_pow zero]
    exact (digitCount_le_iff positive).2 room
  generalize shiftEq :
    limit + 1 + digitCount right.coefficient - digitCount left.coefficient =
      shift
  rw [fit_towardZero positive]
  dsimp only
  have short :
      digitCount (left.coefficient * 10 ^ shift / right.coefficient) ≤
        limit + 2 :=
    digitCount_extendedQuotient_le nonzero (by omega)
  generalize surplusEq :
    digitCount (left.coefficient * 10 ^ shift / right.coefficient) - limit =
      surplus
  -- At most two digits are surplus, and `shift` exceeds `places` by two.
  obtain ⟨behind, rfl⟩ :
      ∃ behind, shift = places + (surplus + behind) := by
    have := digitCount_pos right.coefficient
    exact ⟨shift - places - surplus, by omega⟩
  have rounded :
      roundedAt .towardZero (-places)
          ⟨left.negative != right.negative,
            left.coefficient * 10 ^ (places + (surplus + behind)) /
              right.coefficient / 10 ^ surplus,
            left.exponent - right.exponent -
              (places + (surplus + behind) : Nat) + surplus⟩ =
        left.coefficient * 10 ^ places / right.coefficient := by
    rw [roundedAt_of_ge]
    · have dropped :
          (-(places : Int) -
              (left.exponent - right.exponent -
                (places + (surplus + behind) : Nat) + surplus)).toNat =
            behind := by
        push_cast
        omega
      rw [dropped, Rounding.divide_towardZero, cut_surplus]
    · push_cast
      omega
  rw [quantize_of_lt positive]
  · rw [rounded]
  · rw [rounded]
    exact (Nat.div_le_self _ _).trans_lt room

end Coinage.Numeral
