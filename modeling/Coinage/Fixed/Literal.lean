import Coinage.Fixed

/-!
# Decimal literals

A literal is an optional sign, at least one ASCII digit and, behind an optional
point, at least one more.  Unlike other texts a literal is never rounded: one
with more than eighteen fraction digits is refused.
-/

namespace Coinage

open Coinage.Text

/-- A literal by its parts.  No fraction digits means that there is no
point. -/
structure Literal where
  sign : Option Bool
  whole : List Char
  fraction : List Char
  deriving DecidableEq, Repr

namespace Literal

/-- The character of a sign; `true` is a minus. -/
def signText : Option Bool → List Char
  | some true => ['-']
  | some false => ['+']
  | none => []

/-- The text of a literal. -/
def text (literal : Literal) : List Char :=
  signText literal.sign ++ literal.whole ++
    (if literal.fraction = [] then [] else '.' :: literal.fraction)

/-- The numeral of a literal, with as many fraction digits as are written. -/
def toNumeral (literal : Literal) : Numeral :=
  ⟨literal.sign == some true,
    natOfDigits (literal.whole ++ literal.fraction),
    -literal.fraction.length⟩

/-- Take an optional sign off the front of a text. -/
def splitSign : List Char → Option Bool × List Char
  | '-' :: rest => (some true, rest)
  | '+' :: rest => (some false, rest)
  | rest => (none, rest)

/-- Take the longest fraction off the front of a text: a point with digits
behind it, or nothing. -/
def splitFraction : List Char → List Char × List Char
  | '.' :: rest =>
    if rest.takeWhile Char.isDigit = [] then ([], '.' :: rest)
    else (rest.takeWhile Char.isDigit, rest.dropWhile Char.isDigit)
  | rest => ([], rest)

/-- Take the longest literal off the front of a text. -/
def split? (source : List Char) : Option (Literal × List Char) :=
  let (sign, unsigned) := splitSign source
  let whole := unsigned.takeWhile Char.isDigit
  let (fraction, rest) := splitFraction (unsigned.dropWhile Char.isDigit)
  if whole = [] then none else some (⟨sign, whole, fraction⟩, rest)

/-- The literal that a whole text is. -/
def ofText? (source : List Char) : Option Literal :=
  match split? source with
  | some (literal, []) => some literal
  | _ => none

/-- The number that a literal denotes, exactly. -/
def toFixed (literal : Literal) : Except Failure Fixed :=
  if Scale.places < literal.fraction.length then
    .error (.surplusPlaces (String.ofList literal.text)
      literal.fraction.length)
  else Fixed.ofValue (.decimal (.finite literal.toNumeral))

example : ofText? "-0.50".toList = some ⟨some true, ['0'], ['5', '0']⟩ := by
  decide

example : ofText? "1.".toList = none ∧ ofText? "".toList = none := by decide

end Literal

/-- The number that a text denotes as a literal. -/
def Fixed.ofLiteral (value : Value) : Except Failure Fixed :=
  match value with
  | .text content =>
    match Literal.ofText? content.toList with
    | some literal => literal.toFixed
    | none => .error (.notLiteral content)
  | other => .error (other.worded .notLiteral)

end Coinage
