import Coinage.Rounding

/-!
# Numerals

A numeral is a finite decimal number together with the way it is written: a
sign, which zero has too, a coefficient and a power of ten.  Numerals that
differ may have the same value; `sameValue` says when.
-/

namespace Coinage

open scoped Coinage.Power

open Coinage.Text

/-- The number `±coefficient · 10 ^ exponent`. -/
structure Numeral where
  negative : Bool
  coefficient : Nat
  exponent : Int
  deriving DecidableEq, Repr

namespace Numeral

/-- The power of ten of the first digit. -/
def adjusted (number : Numeral) : Int :=
  number.exponent + digitCount number.coefficient - 1

/-- The magnitude in units of `10 ^ (-places)`, without the fraction of such a
unit. -/
def unitsAt (number : Numeral) (places : Nat) : Nat :=
  let shift := number.exponent + places
  if number.coefficient = 0 then 0
  else if 0 ≤ shift then number.coefficient * 10 ^ shift.toNat
  else Rounding.towardZero.dropDigits number.coefficient (-shift).toNat

/-- The integer next to the number on the way to zero. -/
def integerPart (number : Numeral) : Int :=
  if number.negative then -(number.unitsAt 0 : Int) else number.unitsAt 0

/-- Two numerals have the same value if both are zero, or if they agree in
sign, in the power of the first digit and in the digits after it. -/
def sameValue (left right : Numeral) : Bool :=
  if left.coefficient = 0 || right.coefficient = 0 then
    left.coefficient == right.coefficient
  else
    left.negative == right.negative && left.adjusted == right.adjusted &&
      left.coefficient * 10 ^ (left.exponent - right.exponent).toNat ==
        right.coefficient * 10 ^ (right.exponent - left.exponent).toNat

example : sameValue ⟨false, 150, -2⟩ ⟨false, 15, -1⟩ = true := by decide

example : sameValue ⟨true, 0, 5⟩ ⟨false, 0, -1⟩ = true := by decide

end Numeral

end Coinage
