import Coinage.Coin
import Coinage.Registry

/-!
# Exchange between denominations

A coin of either kind is exchanged into another denomination of a registry by
the ratio of the two unit sizes, for a whole coin or for a decimal one.
Between equal sizes the amount is copied; otherwise it is multiplied by the
size of its own unit and divided by the size of the other, and a whole coin
receives only the integer part of the quotient.  The result carries the rule of
the registry.
-/

namespace Coinage.Registry

/-- The two denominations of an exchange: the name to exchange into, and both
unit sizes. -/
structure Rate (rule : DenomRule) where
  target : rule.Name
  source : UnitSize
  destination : UnitSize

/-- The rate at which a denomination is exchanged into another.  The rule
judges the other name first; then both must be registered. -/
def rate (registry : Registry) (denom : String) (target : Value) :
    Except Failure (Rate registry.rule) := do
  let name ← registry.rule.check target
  match registry.unit? (.text denom), registry.unit? (.text name.val) with
  | none, _ => .error (.unknownSource denom)
  | some _, none => .error (.unknownTarget name.val)
  | some source, some destination => .ok ⟨name, source, destination⟩

/-- An amount at a rate between different unit sizes. -/
def Rate.apply {rule : DenomRule} (rate : Rate rule) (amount : Value) :
    Except Failure Fixed := do
  let onScale ← Fixed.product amount rate.source.toValue
  Fixed.quotient onScale.toValue rate.destination.toValue

/-- Exchange a coin for a whole one, cutting the amount toward zero.  Between
equal unit sizes nothing is cut, so only an integer amount can be copied. -/
def exchange (registry : Registry) (holding : Holding) (target : Value) :
    Except Failure Coin := do
  let rate ← registry.rate holding.denom target
  if rate.source.scaled = rate.destination.scaled then
    Coin.make registry.rule (.text rate.target.val) holding.amount
  else do
    let exchanged ← rate.apply holding.amount
    Coin.make registry.rule (.text rate.target.val)
      (.integer exchanged.integerPart)

/-- Exchange a coin for a decimal one, keeping all fraction digits. -/
def exchangeDecimal (registry : Registry) (holding : Holding)
    (target : Value) : Except Failure DecimalCoin := do
  let rate ← registry.rate holding.denom target
  if rate.source.scaled = rate.destination.scaled then
    DecimalCoin.make registry.rule (.text rate.target.val) holding.amount
  else do
    let exchanged ← rate.apply holding.amount
    DecimalCoin.make registry.rule (.text rate.target.val) exchanged.toValue

end Coinage.Registry
