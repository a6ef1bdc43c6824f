import Coinage.Power
import Coinage.Text.Digit

/-!
# Rounding

The two ways in which this library drops digits: toward zero, and to the
nearest neighbour with a half going to the even one.  A sign plays no part in
either, so both are functions on natural numbers.
-/

namespace Coinage

open scoped Coinage.Power

open Coinage.Text

/-- What happens to the digits that are dropped. -/
inductive Rounding where
  /-- They are cut off. -/
  | towardZero
  /-- The nearest neighbour is taken, and of two the even one. -/
  | halfEven
  deriving DecidableEq, Repr

namespace Rounding

/-- The quotient of two natural numbers, rounded to a natural number. -/
def divide : Rounding → Nat → Nat → Nat
  | .towardZero, numerator, denominator => numerator / denominator
  | .halfEven, numerator, denominator =>
    let quotient := numerator / denominator
    let rest := numerator % denominator
    if 2 * rest < denominator then quotient
    else if denominator < 2 * rest then quotient + 1
    else quotient + quotient % 2

/-- Drop the last `count` digits of a coefficient.  A coefficient with fewer
digits than that is below a tenth of the last place kept, so it rounds to zero
before any power of ten is formed. -/
def dropDigits (rounding : Rounding) (coefficient count : Nat) : Nat :=
  if digitCount coefficient < count then 0
  else rounding.divide coefficient (10 ^ count)

example : halfEven.divide 25 10 = 2 ∧ halfEven.divide 35 10 = 4 := by decide

example : towardZero.divide 29 10 = 2 ∧ halfEven.dropDigits 26 1 = 3 := by
  decide

end Rounding

end Coinage
