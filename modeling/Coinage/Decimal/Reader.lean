import Coinage.Decimal
import Coinage.Text.Blank

/-!
# Reading decimal data

A decimal datum is read from a text with any blanks at its ends, underscores
anywhere and digits of any script.  What is left after these are removed or
made plain is an optional sign followed by a number, with digits on at least
one side of an optional point and an optional power of ten, or by one of the
words `inf`, `infinity`, `nan` and `snan` in capitals or small letters, the
last two with an optional payload.
-/

namespace Coinage

open Coinage.Text

namespace Decimal

/-- Strip the blanks, drop the underscores and make the digits plain. -/
def plainText (source : List Char) : List Char :=
  ((strip source).filter (· ≠ '_')).map toAsciiDigit

/-- Take an optional sign off the front: whether it is a minus, and the
rest. -/
def readSign : List Char → Bool × List Char
  | '-' :: rest => (true, rest)
  | '+' :: rest => (false, rest)
  | rest => (false, rest)

/-- Split the leading digits off a text. -/
def spanDigits (source : List Char) : List Char × List Char :=
  (source.takeWhile Char.isDigit, source.dropWhile Char.isDigit)

/-- The digits behind an optional point, and the rest. -/
def readFraction : List Char → List Char × List Char
  | '.' :: rest => spanDigits rest
  | rest => ([], rest)

/-- A number all of whose characters are digits, with at least one. -/
def readNat? (source : List Char) : Option Nat :=
  if source ≠ [] ∧ source.all Char.isDigit then some (natOfDigits source)
  else none

/-- The optional power of ten at the end of a number. -/
def readPower? : List Char → Option Int
  | [] => some 0
  | mark :: rest =>
    if mark = 'e' ∨ mark = 'E' then
      let (negative, source) := readSign rest
      (readNat? source).map fun power =>
        if negative then -(power : Int) else power
    else none

/-- A number without its sign: coefficient and exponent. -/
def readUnsigned? (negative : Bool) (source : List Char) : Option Numeral :=
  let (whole, afterWhole) := spanDigits source
  let (fraction, afterFraction) := readFraction afterWhole
  if whole = [] ∧ fraction = [] then none
  else
    (readPower? afterFraction).map fun power =>
      ⟨negative, natOfDigits (whole ++ fraction), power - fraction.length⟩

/-- A payload: digits, or nothing for zero. -/
def readPayload? : List Char → Option Nat
  | [] => some 0
  | source => readNat? source

/-- One of the words, in capitals or small letters, without its sign. -/
def readWord? (negative : Bool) (source : List Char) : Option Decimal :=
  match source.map Char.toLower with
  | ['i', 'n', 'f'] => some (.infinite negative)
  | ['i', 'n', 'f', 'i', 'n', 'i', 't', 'y'] => some (.infinite negative)
  | 'n' :: 'a' :: 'n' :: payload =>
    (readPayload? payload).map (.nan negative false)
  | 's' :: 'n' :: 'a' :: 'n' :: payload =>
    (readPayload? payload).map (.nan negative true)
  | _ => none

/-- The decimal datum that a text spells, of any exponent. -/
def spelled? (source : List Char) : Option Decimal :=
  let (negative, unsigned) := readSign (plainText source)
  match readUnsigned? negative unsigned with
  | some number => some (.finite number)
  | none => readWord? negative unsigned

/-- The decimal datum that a text denotes, if any.  A number that is spelled
well but lies beyond the range of decimal data denotes none. -/
def ofText? (source : List Char) : Option Decimal :=
  (spelled? source).filter isInRange

example : ofText? " +1_2.50e3 ".toList = some (.finite ⟨false, 1250, 1⟩) := by
  decide

example : ofText? "-sNaN007".toList = some (.nan true true 7) := by decide

example : ofText? ".".toList = none ∧ ofText? "1e".toList = none := by decide

end Decimal

end Coinage
