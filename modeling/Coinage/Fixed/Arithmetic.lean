import Coinage.Fixed

/-!
# Fixed-point arithmetic

Both operands are quantized, the left one first; only the result has to be
within the budget.  A difference is exact.  A product is rounded half to even
from the exact product.  A quotient is first cut toward zero at thirty-six
fraction digits and then rounded half to even at eighteen, so it may fall on
the other side of a half from the exact quotient.
-/

namespace Coinage.Fixed

/-- Round a result to the nearest unit and check its length. -/
def settle (result : Numeral) : Except Failure Fixed := do
  let rounded ← Quantized.ofNumeral result
  rounded.fix

/-- The difference of two values. -/
def difference (left right : Value) : Except Failure Fixed := do
  let minuend ← Quantized.ofValue .subtract left
  let subtrahend ← Quantized.ofValue .subtract right
  settle (Numeral.difference Scale.workingDigits .halfEven
    minuend.toNumeral subtrahend.toNumeral)

/-- The product of two values. -/
def product (left right : Value) : Except Failure Fixed := do
  let first ← Quantized.ofValue .multiply left
  let second ← Quantized.ofValue .multiply right
  settle (Numeral.product Scale.workingDigits .halfEven
    first.toNumeral second.toNumeral)

/-- Cut a numeral toward zero at thirty-six fraction digits. -/
def cutQuotient (quotient : Numeral) : Except Failure Numeral :=
  match quotient.quantize Scale.workingDigits .towardZero
      (-Scale.quotientPlaces) with
  | some cut => .ok cut
  | none => .error .noWorkingSpace

/-- The quotient of two values. -/
def quotient (left right : Value) : Except Failure Fixed := do
  let dividend ← Quantized.ofValue .divide left
  let divisor ← Quantized.ofValue .divide right
  if divisor.scaled = 0 then .error (.zeroDivisor right.shown)
  else
    let cut ← cutQuotient
      (Numeral.quotientTowardZero Scale.workingDigits
        dividend.toNumeral divisor.toNumeral)
    settle cut

end Coinage.Fixed
