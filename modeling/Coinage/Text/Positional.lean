import Coinage.Text.Digit

/-!
# Positional notation

A coefficient with its last `places` digits behind a point.  There is always a
digit in front of the point, and a point only in front of a digit.
-/

namespace Coinage.Text

/-- A minus for what is negative, and nothing else. -/
def minusText (negative : Bool) : List Char :=
  if negative then ['-'] else []

/-- The decimal text of an integer. -/
def integerDigits (number : Int) : List Char :=
  minusText (decide (number < 0)) ++ digits number.natAbs

/-- The digits of a number, led by as many zeros as make `width` of them. -/
def paddedDigits (width number : Nat) : List Char :=
  List.replicate (width - digitCount number) '0' ++ digits number

/-- Write `coefficient · 10 ^ (-places)` with exactly `places` fraction
digits. -/
def positional (coefficient places : Nat) : List Char :=
  let padded := paddedDigits (places + 1) coefficient
  if places = 0 then padded
  else
    padded.take (padded.length - places) ++
      '.' :: padded.drop (padded.length - places)

example : positional 12345 2 = "123.45".toList := by decide

example : positional 5 3 = "0.005".toList ∧ positional 7 0 = ['7'] := by decide

end Coinage.Text
