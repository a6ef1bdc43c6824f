import Coinage.Decimal.Budget
import Coinage.Numeral.Working
import Coinage.Text.Positional
import Coinage.Value

/-!
# Fixed-point numbers

A fixed-point number is a whole number of units of `10 ^ (-18)` with a sign,
which zero has too.  Operands are of any length and are called quantized;
numbers within the budget of three hundred and fifteen bits are called fixed.
Values become either by rounding to the nearest unit, a half going to the even
one.  Quantizing refuses, in this order, what is no number, what is not finite
and what is too large for the working space; fixing also refuses what exceeds
the budget after it is rounded.  A value that cannot be written is not even
refused in words, as it has no text that a number could be read off.
-/

namespace Coinage

open scoped Coinage.Power

open Coinage.Text

/-- A signed number of units of `10 ^ (-18)`. -/
structure Quantized where
  negative : Bool
  scaled : Nat
  deriving DecidableEq, Repr

/-- A quantized number within the budget. -/
structure Fixed extends Quantized where
  withinBudget : scaled < 2 ^ Scale.decimalBits
  deriving DecidableEq, Repr

namespace Quantized

/-- The numeral with eighteen fraction digits. -/
def toNumeral (number : Quantized) : Numeral :=
  ⟨number.negative, number.scaled, -Scale.places⟩

/-- The decimal datum with eighteen fraction digits. -/
def toDecimal (number : Quantized) : Decimal :=
  .finite number.toNumeral

/-- The number as a value. -/
def toValue (number : Quantized) : Value :=
  .decimal number.toDecimal

/-- The integer next to the number on the way to zero. -/
def integerPart (number : Quantized) : Int :=
  if number.negative then -(number.scaled / Scale.one : Nat)
  else (number.scaled / Scale.one : Nat)

/-- Whether the number is below zero; no zero is. -/
def isBelowZero (number : Quantized) : Bool :=
  number.negative && number.scaled ≠ 0

/-- The positional text with all eighteen fraction digits. -/
def text (number : Quantized) : List Char :=
  minusText number.negative ++ positional number.scaled Scale.places

/-- Round a numeral to the nearest unit in the working space. -/
def ofNumeral (number : Numeral) : Except Failure Quantized :=
  match number.quantize Scale.workingDigits .halfEven (-Scale.places) with
  | some rounded => .ok ⟨rounded.negative, rounded.coefficient⟩
  | none => .error .noWorkingSpace

/-- Whether a numeral is too large to be quantized. -/
def isTooLarge (number : Numeral) : Bool :=
  number.coefficient ≠ 0 && Scale.operandPower < number.adjusted

/-- Quantize an operand of the given operation. -/
def ofValue (operation : NumberOperation) (value : Value) :
    Except Failure Quantized :=
  match value.decimal? with
  | none => .error (value.worded (.notNumber operation))
  | some (.finite number) =>
    if isTooLarge number then .error (.magnitude operation value.shown)
    else ofNumeral number
  | some _ => .error (.notFinite operation value.shown)

/-- The number itself, if it is within the budget. -/
def fix (number : Quantized) : Except Failure Fixed :=
  if fits : Scale.bitLength number.scaled ≤ Scale.decimalBits then
    .ok ⟨number, Scale.bitLength_le_iff.1 fits⟩
  else
    .error (.decimalBudget (Scale.bitLength number.scaled))

end Quantized

namespace Fixed

/-- The fixed-point number nearest to a value. -/
def ofValue (value : Value) : Except Failure Fixed := do
  let rounded ← Quantized.ofValue .fix value
  rounded.fix

/-- The positional text of the fixed-point number nearest to a value. -/
def format (value : Value) : Except Failure String := do
  let number ← ofValue value
  return String.ofList number.text

end Fixed

end Coinage
