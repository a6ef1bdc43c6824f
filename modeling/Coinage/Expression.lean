import Coinage.Coin
import Coinage.Fixed.Literal
import Coinage.Text.Blank

/-!
# Coin expressions

A coin expression is a literal followed at once by the name of a denomination,
between any blanks.  A name in an expression has no blank and no comma, and it
does not begin with a character that could still belong to the amount; beyond
that the rule in use decides.  The name is judged before the amount, and the
sign of the amount comes last.
-/

namespace Coinage

open Coinage.Text

/-- An amount and a name, as they stand in an expression. -/
structure Expression where
  amount : Literal
  denom : List Char
  deriving DecidableEq, Repr

namespace Expression

/-- The characters that end a name. -/
def isBreak (character : Char) : Bool :=
  isBlank character || character == ','

/-- The characters of amounts. -/
def isAmountPart (character : Char) : Bool :=
  character.isDigit || character == '.' || character == '+' || character == '-'

/-- The names that may stand behind an amount. -/
def isPlainName : List Char → Bool
  | [] => false
  | initial :: following =>
    !isAmountPart initial &&
      (initial :: following).all fun character => !isBreak character

/-- The text of an expression. -/
def text (expression : Expression) : List Char :=
  expression.amount.text ++ expression.denom

/-- The expression that a text is, between blanks. -/
def ofText? (source : List Char) : Option Expression :=
  match Literal.split? (strip source) with
  | some (amount, denom) =>
    if isPlainName denom then some ⟨amount, denom⟩ else none
  | none => none

/-- The coin that an expression denotes.  The whole text is for messages. -/
def toCoin (expression : Expression) (rule : DenomRule) (source : String) :
    Except Failure DecimalCoin :=
  let denom := String.ofList expression.denom
  let amount := String.ofList expression.amount.text
  match rule.check (.text denom) with
  | .error _ => .error (.expressionDenom denom source)
  | .ok name =>
    match expression.amount.toFixed with
    | .error _ => .error (.expressionAmount amount source)
    | .ok number =>
      if number.isBelowZero then .error (.expressionSign amount source)
      else DecimalCoin.make rule (.text name.val) number.toValue

/-- The coin that a text denotes. -/
def coinOfText (rule : DenomRule) (source : String) :
    Except Failure DecimalCoin :=
  match ofText? source.toList with
  | some expression => expression.toCoin rule source
  | none => .error (.malformedExpression source)

/-- The coin that a value denotes as an expression. -/
def coin (rule : DenomRule) : Value → Except Failure DecimalCoin
  | .text source => coinOfText rule source
  | other => .error (.expressionKind .single other.kind)

example :
    ofText? " 1.5atom ".toList =
      some ⟨⟨none, ['1'], ['5']⟩, "atom".toList⟩ := by
  decide

example : ofText? "1.atom".toList = none ∧ ofText? "12".toList = none := by
  decide

end Expression

end Coinage
