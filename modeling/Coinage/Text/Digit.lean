/-!
# Decimal digits

A number given as text may be written with the digits of any script.  The
table lists the zeros of the scripts; the nine characters that follow a zero
are the other digits of its script.  Everything else in this library writes
the ten digits of ASCII only, for which core has `Char.isDigit`,
`Nat.toDigits` and `Nat.ofDigitChars`.

Writing an integer, and reading one from its digits, is not done for any number
of digits: beyond four thousand and three hundred of them it fails.  Decimal
data are not bound by this, only integers are.
-/

namespace Coinage.Text

/-- The code points of the zeros of all scripts with decimal digits. -/
def scriptZeros : List Nat :=
  [0x30, 0x660, 0x6F0, 0x7C0, 0x966, 0x9E6, 0xA66, 0xAE6, 0xB66, 0xBE6, 0xC66,
    0xCE6, 0xD66, 0xDE6, 0xE50, 0xED0, 0xF20, 0x1040, 0x1090, 0x17E0, 0x1810,
    0x1946, 0x19D0, 0x1A80, 0x1A90, 0x1B50, 0x1BB0, 0x1C40, 0x1C50, 0xA620,
    0xA8D0, 0xA900, 0xA9D0, 0xA9F0, 0xAA50, 0xABF0, 0xFF10, 0x104A0, 0x10D30,
    0x11066, 0x110F0, 0x11136, 0x111D0, 0x112F0, 0x11450, 0x114D0, 0x11650,
    0x116C0, 0x11730, 0x118E0, 0x11950, 0x11C50, 0x11D50, 0x11DA0, 0x16A60,
    0x16AC0, 0x16B50, 0x1D7CE, 0x1D7D8, 0x1D7E2, 0x1D7EC, 0x1D7F6, 0x1E140,
    0x1E2F0, 0x1E950, 0x1FBF0]

/-- The value of a decimal digit of any script. -/
def digitValue? (character : Char) : Option Nat :=
  (scriptZeros.find? fun first =>
    first ≤ character.toNat && character.toNat < first + 10).map
      (character.toNat - ·)

/-- Write a digit of any script as the ASCII digit of the same value, and keep
every other character. -/
def toAsciiDigit (character : Char) : Char :=
  match digitValue? character with
  | some value => value.digitChar
  | none => character

/-- The decimal digits of a natural number, without leading zeros; zero has
the one digit zero. -/
def digits (number : Nat) : List Char :=
  Nat.toDigits 10 number

/-- The number of decimal digits of a natural number, at least one. -/
def digitCount (number : Nat) : Nat :=
  (digits number).length

/-- The natural number that a list of ASCII digits denotes. -/
def natOfDigits (characters : List Char) : Nat :=
  Nat.ofDigitChars 10 characters 0

/-- The greatest number of digits of an integer that is written or read. -/
def longestInteger : Nat := 4300

/-- Whether a natural number is short enough to be written as an integer, or to
be read as one from its digits. -/
def isConvertible (number : Nat) : Bool :=
  digitCount number ≤ longestInteger

example : toAsciiDigit '٣' = '3' ∧ toAsciiDigit 'x' = 'x' := by decide

@[simp]
theorem natOfDigits_digits (number : Nat) :
    natOfDigits (digits number) = number := by
  simp [natOfDigits, digits]

end Coinage.Text
