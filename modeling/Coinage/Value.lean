import Coinage.Decimal.Printer
import Coinage.Decimal.Reader
import Coinage.Failure
import Coinage.Numeral.Binary

/-!
# Values given by a caller

Names, amounts and unit sizes arrive as values of several kinds.  Each value
has a text, which is how messages show it and how a number is read off it.
An integer with too many digits cannot be written, so neither is it read as a
number nor is a message about it ever finished: `Value.worded` says what fails
instead.

Values also serve as keys of the registry.  There two numbers are the same key
if they are equal as numbers, whatever their kinds; a text is never the same
key as a number.  What is no number equals nothing, and is the same key only
as the very same object.
-/

namespace Coinage

open Coinage.Text

/-- What is no number: a float, or a decimal with its data. -/
inductive NotNumber where
  | float
  | decimal (negative signaling : Bool) (payload : Nat)
  deriving DecidableEq, Repr

/-- A value given by a caller.  A float is given by the shortest decimal text
that reads back as it.  Most values are given by their data alone; what is no
number may also be given as an object, which can be given again. -/
inductive Value where
  | text (content : String)
  | integer (number : Int)
  | float (shortest : String)
  | decimal (datum : Decimal)
  | boolean (flag : Bool)
  | absent
  | nan (object : Nat) (content : NotNumber)
  deriving DecidableEq, Repr

namespace NotNumber

/-- The decimal datum of what is no number. -/
def datum : NotNumber → Decimal
  | .float => .nan false false 0
  | .decimal negative signaling payload => .nan negative signaling payload

/-- The text of what is no number. -/
def shown : NotNumber → String
  | .float => "nan"
  | content => String.ofList content.datum.text

/-- The name of the kind of what is no number. -/
def kind : NotNumber → String
  | .float => "float"
  | .decimal _ _ _ => "Decimal"

end NotNumber

namespace Value

/-- The text of a value, with all digits of an integer. -/
def shown : Value → String
  | .text content => content
  | .integer number => String.ofList (integerDigits number)
  | .float shortest => shortest
  | .decimal datum => String.ofList datum.text
  | .boolean flag => if flag then "True" else "False"
  | .absent => "None"
  | .nan _ content => content.shown

/-- Whether a value can be written: it is no integer with too many digits. -/
def isWritable : Value → Bool
  | .integer number => isConvertible number.natAbs
  | _ => true

/-- The failure that is described with the text of a value.  For a value that
cannot be written this is the failure instead. -/
def worded (value : Value) (cause : String → Failure) : Failure :=
  if value.isWritable then cause value.shown else .longInteger

/-- The name of a value's kind. -/
def kind : Value → String
  | .text _ => "str"
  | .integer _ => "int"
  | .float _ => "float"
  | .decimal _ => "Decimal"
  | .boolean _ => "bool"
  | .absent => "NoneType"
  | .nan _ content => content.kind

/-- The decimal datum of a value, if there is one: a decimal itself, and what
its text denotes for every other value that can be written.  In particular a
float is read in decimal notation, so that no binary noise enters. -/
def decimal? : Value → Option Decimal
  | .decimal datum => some datum
  | .nan _ content => some content.datum
  | value =>
    if value.isWritable then Decimal.ofText? value.shown.toList else none

/-- The decimal datum of a value, which must have one. -/
def toDecimal (value : Value) : Except Failure Decimal :=
  match value.decimal? with
  | some datum => .ok datum
  | none =>
    .error (value.worded fun shown =>
      if (Decimal.spelled? shown.toList).isSome then .beyondRange
      else .noDecimal)

/-- The exact number that a value is, for comparison with others.  Here a float
is the binary number nearest to its text, and the two truth values are zero and
one. -/
def exactNumber? : Value → Option Decimal
  | .integer number => some (.ofInt number)
  | .boolean flag => some (.ofInt (if flag then 1 else 0))
  | .decimal datum => some datum
  | .nan _ content => some content.datum
  | .float shortest =>
    (Decimal.ofText? shortest.toList).map fun
      | .finite number => .finite number.nearestBinary
      | datum => datum
  | .text _ => none
  | .absent => none

/-- Whether two values are equal: as numbers, or else in kind and content. -/
def equals (left right : Value) : Bool :=
  match left.exactNumber?, right.exactNumber? with
  | some leftNumber, some rightNumber => leftNumber.sameNumber rightNumber
  | none, none => left == right
  | _, _ => false

/-- Whether two values are the same key: one object, or equal. -/
def sameKey (left right : Value) : Bool :=
  match left, right with
  | .nan leftObject _, .nan rightObject _ => leftObject == rightObject
  | _, _ => left.equals right

/-- Whether a value can be the key of a table at all. -/
def isKey : Value → Bool
  | .decimal datum => !datum.isSignaling
  | .nan _ content => !content.datum.isSignaling
  | _ => true

/-- Whether a value names nothing: the empty text, a zero of any kind, the
false truth value and the absent value. -/
def isVacant (value : Value) : Bool :=
  match value.exactNumber? with
  | some number => number.isZero
  | none => value == .text "" || value == .absent

theorem worded_of_isWritable {value : Value} (writable : value.isWritable = true)
    (cause : String → Failure) :
    value.worded cause = cause value.shown :=
  if_pos writable

@[simp]
theorem exactNumber?_text (content : String) :
    (Value.text content).exactNumber? = none := rfl

@[simp]
theorem isKey_text (content : String) : isKey (.text content) = true := rfl

@[simp]
theorem isVacant_text (content : String) :
    isVacant (.text content) = (content == "") := by
  simp [isVacant, BEq.beq]

example : sameKey (.nan 0 .float) (.nan 0 .float) = true ∧
    sameKey (.float "nan") (.float "nan") = false := by
  decide

end Value

end Coinage
