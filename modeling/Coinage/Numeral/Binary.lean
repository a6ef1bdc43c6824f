import Coinage.Numeral

/-!
# The nearest binary64 number

A float given by its decimal text stands for the binary64 number nearest to
that text.  Such a number is a whole multiple of a power of two, hence again a
numeral, with a longer coefficient.
-/

namespace Coinage.Numeral

open scoped Coinage.Power

/-- The numeral of `significand · 2 ^ power`. -/
def ofBinary (negative : Bool) (significand : Nat) (power : Int) : Numeral :=
  if 0 ≤ power then ⟨negative, significand * 2 ^ power.toNat, 0⟩
  else ⟨negative, significand * 5 ^ (-power).toNat, power⟩

/-- The numeral with the value of the nearest binary64 number, a half going to
the even significand.  The power of two leaves the significand fifty-three
bits, except that no power is below `-1074`. -/
def nearestBinary (number : Numeral) : Numeral :=
  let numerator := number.coefficient * 10 ^ number.exponent.toNat
  let denominator : Nat := 10 ^ (-number.exponent).toNat
  if numerator = 0 then number
  else
    let estimate : Int := (numerator.log2 : Int) - denominator.log2 - 53
    let scaledBy (power : Int) : Nat × Nat :=
      (numerator * 2 ^ (-power).toNat, denominator * 2 ^ power.toNat)
    let (high, low) := scaledBy estimate
    let normal := if high < 2 ^ (53 : Nat) * low then estimate else estimate + 1
    let power := max normal (-1074)
    let (upper, lower) := scaledBy power
    ofBinary number.negative (Rounding.halfEven.divide upper lower) power

example : sameValue (nearestBinary ⟨false, 5, -1⟩) ⟨false, 5, -1⟩ = true := by
  decide +kernel

example : sameValue (nearestBinary ⟨false, 1, -1⟩) ⟨false, 1, -1⟩ = false := by
  decide +kernel

example :
    nearestBinary ⟨false, 1, -1⟩ =
      ofBinary false 7205759403792794 (-56) := by
  decide +kernel

end Coinage.Numeral
