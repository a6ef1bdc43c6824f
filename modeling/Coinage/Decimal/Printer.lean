import Coinage.Decimal
import Coinage.Text.Positional

/-!
# The text of decimal data

A numeral is written positionally when its exponent is not above zero and its
first digit stands at most six places behind the point.  Every other numeral
is written with one digit in front of the point and a signed power of ten, so
that the text always shows coefficient and exponent.
-/

namespace Coinage

open Coinage.Text

namespace Numeral

/-- Positional notation is used for these numerals. -/
def isPositional (number : Numeral) : Bool :=
  number.exponent ≤ 0 && -6 ≤ number.adjusted

/-- The power of ten behind the mark `E`, always with its sign. -/
def powerText (power : Int) : List Char :=
  'E' :: (if power < 0 then '-' else '+') :: digits power.natAbs

/-- The first digit, the others behind a point if there are any, and the power
of the first one. -/
def scientific (number : Numeral) : List Char :=
  let shown := digits number.coefficient
  let rest := shown.drop 1
  shown.take 1 ++ (if rest = [] then [] else '.' :: rest) ++
    powerText number.adjusted

/-- The text of a numeral. -/
def text (number : Numeral) : List Char :=
  minusText number.negative ++
    if number.isPositional then
      positional number.coefficient (-number.exponent).toNat
    else number.scientific

example : text ⟨false, 1, 5⟩ = "1E+5".toList := by decide

example : text ⟨true, 0, -18⟩ = "-0E-18".toList := by decide

example : text ⟨false, 15, -7⟩ = "0.0000015".toList := by decide

end Numeral

namespace Decimal

/-- The payload of what is no number: nothing for zero. -/
def payloadText (payload : Nat) : List Char :=
  if payload = 0 then [] else digits payload

/-- The text of a decimal datum. -/
def text : Decimal → List Char
  | .finite number => number.text
  | .infinite negative => minusText negative ++ "Infinity".toList
  | .nan negative signaling payload =>
    minusText negative ++ (if signaling then "sNaN".toList else "NaN".toList) ++
      payloadText payload

example : text (.nan true true 7) = "-sNaN7".toList := by decide

end Decimal

end Coinage
