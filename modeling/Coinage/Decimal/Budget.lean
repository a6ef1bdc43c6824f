import Coinage.Decimal
import Coinage.Failure

/-!
# The length of decimal data

The budget of fixed-point numbers measures any finite decimal datum by the
binary length of its magnitude in units of `10 ^ (-18)`, without the fraction
of a unit.  Coefficient and exponent enter only through that magnitude, except
that the coefficient is read as an integer from its digits first, which fails
where there are too many of them.
-/

namespace Coinage.Decimal

open Coinage.Text

/-- Read the digits of a datum as an integer. -/
def readInteger (coefficient : Nat) : Except Failure Nat :=
  if isConvertible coefficient then .ok coefficient
  else .error (.longDigits (digitCount coefficient))

/-- The binary length of a datum on the fixed-point scale.  The digits of an
infinity and of what is no number are read before these are found to be of no
scale. -/
def bitLength : Decimal → Except Failure Nat
  | .finite number => do
    let coefficient ← readInteger number.coefficient
    return Scale.bitLength
      (Numeral.unitsAt ⟨number.negative, coefficient, number.exponent⟩
        Scale.places)
  | .infinite _ => .error .unscalable
  | .nan _ _ payload => do
    let _ ← readInteger payload
    .error .unscalable

/-- A datum as it is, if it is within the budget. -/
def checkBudget (datum : Decimal) : Except Failure Decimal := do
  let bits ← datum.bitLength
  if bits ≤ Scale.decimalBits then .ok datum else .error (.decimalBudget bits)

/-- The integer next to a datum on the way to zero. -/
def integerPart : Decimal → Except Failure Int
  | .finite number => .ok number.integerPart
  | .infinite _ => .error .infiniteInteger
  | .nan _ _ _ => .error .noInteger

end Coinage.Decimal
