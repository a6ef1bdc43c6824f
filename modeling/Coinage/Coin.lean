import Coinage.Denom
import Coinage.Fixed.Arithmetic

/-!
# Coins

A coin is a nonnegative amount of one denomination, together with the rule
that accepted the denomination's name.  A whole coin has an integer amount of
at most two hundred and fifty-six bits; a decimal coin has a fixed-point
amount, and its zero carries no sign.  The types hold these bounds, so every
coin that exists is well formed.

A coin is made from values.  The name is judged before the amount.  Two coins
of one kind are equal if their names and amounts are, whatever their rules.
Where a coin of either kind will do, it is called a holding.
-/

namespace Coinage

open scoped Coinage.Power

open Coinage.Text

/-- A whole number of units of one denomination. -/
structure Coin where
  rule : DenomRule
  denom : String
  amount : Nat
  accepted : rule.accepts denom = true
  withinBudget : amount < 2 ^ Scale.integerBits

/-- An amount of one denomination that may have a fraction. -/
structure DecimalCoin where
  rule : DenomRule
  denom : String
  amount : Fixed
  accepted : rule.accepts denom = true
  unsigned : amount.negative = false

namespace Coin

/-- The integer of a value that may be the amount of a whole coin.  A truth
value may not. -/
def integerAmount : Value → Except Failure Int
  | .integer number => .ok number
  | other => .error (.amountKind other.kind)

/-- Make a whole coin. -/
def make (rule : DenomRule) (denom amount : Value) : Except Failure Coin := do
  let name ← rule.check denom
  let number ← integerAmount amount
  if number < 0 then
    .error (amount.worded (.negativeAmount .whole))
  else if fits : Scale.bitLength number.natAbs ≤ Scale.integerBits then
    .ok ⟨rule, name.val, number.natAbs, name.property,
      Scale.bitLength_le_iff.1 fits⟩
  else
    .error (.integerBudget (Scale.bitLength number.natAbs))

/-- The amount followed by the name. -/
def text (coin : Coin) : String :=
  String.ofList (digits coin.amount) ++ coin.denom

/-- The kind, the name and the amount. -/
def description (coin : Coin) : String :=
  CoinKind.whole.label ++ "(" ++ coin.denom ++ ", " ++
    String.ofList (digits coin.amount) ++ ")"

/-- Whether there is none of the denomination. -/
def isZero (coin : Coin) : Bool :=
  coin.amount == 0

/-- Equality of name and amount. -/
def sameAs (left right : Coin) : Bool :=
  left.denom == right.denom && left.amount == right.amount

/-- The magnitude of an integer or a truth value.  Other numbers have one too,
but no length in bits. -/
def magnitude (value : Value) : Except Failure Nat :=
  match value with
  | .integer number => .ok number.natAbs
  | .boolean flag => .ok (if flag then 1 else 0)
  | .float _ => .error (.lacks value.kind "bit_length")
  | .decimal datum =>
    if datum.isSignaling then .error .signalingOperand
    else .error (.lacks "decimal.Decimal" "bit_length")
  | .nan _ .float => .error (.lacks value.kind "bit_length")
  | .nan _ (.decimal _ signaling _) =>
    if signaling then .error .signalingOperand
    else .error (.lacks "decimal.Decimal" "bit_length")
  | .text _ | .absent => .error (.noMagnitude value.kind)

/-- A value as it is, if its magnitude is within the budget of amounts. -/
def checkBudget (value : Value) : Except Failure Value := do
  let number ← magnitude value
  if Scale.bitLength number ≤ Scale.integerBits then .ok value
  else .error (.integerBudget (Scale.bitLength number))

end Coin

namespace DecimalCoin

/-- Make a decimal coin.  An amount that rounds to a negative zero is zero. -/
def make (rule : DenomRule) (denom amount : Value) :
    Except Failure DecimalCoin := do
  let name ← rule.check denom
  let number ← Fixed.ofValue amount
  if number.isBelowZero then
    .error (amount.worded (.negativeAmount .fractional))
  else
    .ok ⟨rule, name.val, ⟨⟨false, number.scaled⟩, number.withinBudget⟩,
      name.property, rfl⟩

/-- The amount with all its fraction digits, followed by the name. -/
def text (coin : DecimalCoin) : String :=
  String.ofList coin.amount.text ++ coin.denom

/-- The kind, the name and the amount. -/
def description (coin : DecimalCoin) : String :=
  CoinKind.fractional.label ++ "(" ++ coin.denom ++ ", " ++
    String.ofList coin.amount.text ++ ")"

/-- Whether there is none of the denomination. -/
def isZero (coin : DecimalCoin) : Bool :=
  coin.amount.scaled == 0

/-- Equality of name and amount. -/
def sameAs (left right : DecimalCoin) : Bool :=
  left.denom == right.denom && left.amount.scaled == right.amount.scaled

/-- Split a decimal coin into the whole coin below it and what is left. -/
def truncate (coin : DecimalCoin) : Except Failure (Coin × DecimalCoin) := do
  let whole := Value.integer coin.amount.integerPart
  let change ← Fixed.difference coin.amount.toValue whole
  let kept ← Coin.make coin.rule (.text coin.denom) whole
  let rest ← make coin.rule (.text coin.denom) change.toValue
  return (kept, rest)

end DecimalCoin

/-- A coin of either kind. -/
inductive Holding where
  | whole (coin : Coin)
  | fractional (coin : DecimalCoin)

namespace Holding

/-- The kind of a coin. -/
def kind : Holding → CoinKind
  | .whole _ => .whole
  | .fractional _ => .fractional

/-- The rule that accepted the name of a coin. -/
def rule : Holding → DenomRule
  | .whole coin => coin.rule
  | .fractional coin => coin.rule

/-- The name of a coin's denomination. -/
def denom : Holding → String
  | .whole coin => coin.denom
  | .fractional coin => coin.denom

/-- The amount of a coin: an integer or a decimal. -/
def amount : Holding → Value
  | .whole coin => .integer coin.amount
  | .fractional coin => coin.amount.toValue

/-- Coins of different kinds are never equal. -/
def sameAs : Holding → Holding → Bool
  | .whole left, .whole right => left.sameAs right
  | .fractional left, .fractional right => left.sameAs right
  | _, _ => false

/-- The decimal coin with the name, the amount and the rule of a coin. -/
def toDecimal (holding : Holding) : Except Failure DecimalCoin :=
  DecimalCoin.make holding.rule (.text holding.denom) holding.amount

/-- Split a coin into the whole coin below it and what is left, which only a
decimal coin provides for. -/
def truncate : Holding → Except Failure (Coin × DecimalCoin)
  | .whole _ => .error (.lacks CoinKind.whole.label "truncate_decimal")
  | .fractional coin => coin.truncate

/-- The whole coin below a coin that can be split. -/
def wholePart (holding : Holding) : Except Failure Coin := do
  let parts ← holding.truncate
  return parts.1

end Holding

end Coinage
