import Coinage.Numeral

/-!
# Arithmetic with a limited number of digits

Numerals are computed with in a working space of `limit` digits.  A product, a
difference or a quotient that needs more is rounded to fit.  Bringing a numeral
to a given exponent is different: it has no result when the coefficient would
not fit.
-/

namespace Coinage.Numeral

open scoped Coinage.Power

open Coinage.Text

/-- Round a numeral to at most `limit` digits.  A carry may lengthen the
rounded coefficient by one digit, which is then a zero. -/
def fit (limit : Nat) (rounding : Rounding) (number : Numeral) : Numeral :=
  let surplus := digitCount number.coefficient - limit
  if surplus = 0 then number
  else
    let rounded := rounding.dropDigits number.coefficient surplus
    if limit < digitCount rounded then
      ⟨number.negative, rounded / 10, number.exponent + surplus + 1⟩
    else
      ⟨number.negative, rounded, number.exponent + surplus⟩

/-- Bring a numeral to the given exponent, if the coefficient then has at most
`limit` digits.  The length is judged before any power of ten is formed. -/
def quantize (limit : Nat) (rounding : Rounding) (exponent : Int)
    (number : Numeral) : Option Numeral :=
  if number.coefficient = 0 then
    some ⟨number.negative, 0, exponent⟩
  else if exponent ≤ number.exponent then
    let shift := (number.exponent - exponent).toNat
    if limit < digitCount number.coefficient + shift then none
    else some ⟨number.negative, number.coefficient * 10 ^ shift, exponent⟩
  else
    let rounded := rounding.dropDigits number.coefficient
      (exponent - number.exponent).toNat
    if limit < digitCount rounded then none
    else some ⟨number.negative, rounded, exponent⟩

/-- The product, negative if exactly one factor is. -/
def product (limit : Nat) (rounding : Rounding)
    (left right : Numeral) : Numeral :=
  fit limit rounding
    ⟨left.negative != right.negative, left.coefficient * right.coefficient,
      left.exponent + right.exponent⟩

/-- The coefficient with its sign, in units of `10 ^ exponent`. -/
def signedAt (number : Numeral) (exponent : Int) : Int :=
  let magnitude : Int :=
    number.coefficient * 10 ^ (number.exponent - exponent).toNat
  if number.negative then -magnitude else magnitude

/-- The difference, at the smaller exponent.  A difference of zero is negative
only if a negative zero loses a positive one. -/
def difference (limit : Nat) (rounding : Rounding)
    (left right : Numeral) : Numeral :=
  let exponent := min left.exponent right.exponent
  let total := left.signedAt exponent - right.signedAt exponent
  let negative :=
    if total = 0 then left.negative && !right.negative else decide (total < 0)
  fit limit rounding ⟨negative, total.natAbs, exponent⟩

/-- The quotient, cut toward zero after `limit` digits.  The numerator is
first extended by so many zeros that the quotient has at least `limit`
digits. -/
def quotientTowardZero (limit : Nat) (left right : Numeral) : Numeral :=
  let shift :=
    limit + 1 + digitCount right.coefficient - digitCount left.coefficient
  fit limit .towardZero
    ⟨left.negative != right.negative,
      left.coefficient * 10 ^ shift / right.coefficient,
      left.exponent - right.exponent - shift⟩

end Coinage.Numeral
