import Coinage.Numeral

/-!
# Decimal data

A decimal datum is a numeral, an infinity or a value that is no number.  The
last kind keeps a payload and is quiet or signaling: a signaling one must not
be compared with a number and cannot be the key of a table.
-/

namespace Coinage

/-- A decimal datum. -/
inductive Decimal where
  | finite (number : Numeral)
  | infinite (negative : Bool)
  | nan (negative signaling : Bool) (payload : Nat)
  deriving DecidableEq, Repr

namespace Decimal

/-- The largest power of ten that a first digit may have. -/
def highestPower : Int := 999999999999999999

/-- The smallest exponent that a numeral may have. -/
def lowestExponent : Int := -1999999999999999997

/-- Whether a numeral is within the range of decimal data.  A zero has no first
digit that could be too large, so its exponent is bounded instead. -/
def inRange (number : Numeral) : Bool :=
  lowestExponent ≤ number.exponent &&
    (if number.coefficient = 0 then number.exponent ≤ highestPower
    else number.adjusted ≤ highestPower)

/-- Whether a datum is within the range, which bounds numerals only. -/
def isInRange : Decimal → Bool
  | .finite number => inRange number
  | _ => true

/-- The datum of an integer, with exponent zero. -/
def ofInt (number : Int) : Decimal :=
  .finite ⟨decide (number < 0), number.natAbs, 0⟩

/-- Two data are the same number if they are numerals of one value or the same
infinity.  What is no number differs even from itself. -/
def sameNumber : Decimal → Decimal → Bool
  | .finite left, .finite right => left.sameValue right
  | .infinite left, .infinite right => left == right
  | _, _ => false

/-- Whether this is the value that must not be compared. -/
def isSignaling : Decimal → Bool
  | .nan _ signaling _ => signaling
  | _ => false

/-- Whether this is a zero of any sign and exponent. -/
def isZero : Decimal → Bool
  | .finite number => number.coefficient == 0
  | _ => false

end Decimal

end Coinage
