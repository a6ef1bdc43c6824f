import Coinage.Power

/-!
# The fixed-point scale

Fixed-point numbers count units of `10 ^ (-18)`.  Their scaled integers have at
most three hundred and fifteen bits, the amounts of whole coins at most two
hundred and fifty-six.  Results are formed in a working space of four hundred
digits, which operands enter only if their first digit stands at most at the
hundredth power of ten.
-/

namespace Coinage.Scale

open scoped Coinage.Power

/-- The number of fraction digits of fixed-point numbers. -/
def places : Nat := 18

/-- The number of fraction digits to which a quotient is cut before it is
rounded. -/
def quotientPlaces : Nat := 36

/-- The greatest length in bits of a scaled integer. -/
def decimalBits : Nat := 315

/-- The greatest length in bits of a whole amount. -/
def integerBits : Nat := 256

/-- The number of digits of the working space. -/
def workingDigits : Nat := 400

/-- The highest power of ten at which the first digit of an operand may
stand. -/
def operandPower : Int := 100

/-- The number of scaled units in one. -/
def one : Nat := 10 ^ places

/-- The number of binary digits of a natural number; zero has none. -/
def bitLength (number : Nat) : Nat :=
  if number = 0 then 0 else number.log2 + 1

/-- A number fits into so many bits exactly if it is below that power of
two. -/
theorem bitLength_le_iff {number bits : Nat} :
    bitLength number ≤ bits ↔ number < 2 ^ bits := by
  unfold bitLength
  split
  · subst_vars
    exact iff_of_true (Nat.zero_le _) (Nat.two_pow_pos _)
  · rename_i nonzero
    rw [Nat.add_one_le_iff, Nat.log2_lt nonzero]

end Coinage.Scale
