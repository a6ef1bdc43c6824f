import Coinage.Exchange

/-!
# Base form

A coin is brought to its base form by exchanging it into the base denomination
that its own is linked to.  Where this fails for a reason of the domain, or
because the base has a unit of size zero, the coin stays as it is.
-/

namespace Coinage.Registry

/-- The result of an attempt, or what there was before it if the attempt failed
for an absorbed reason. -/
def orKeep {Item : Type} (kept : Item) (attempt : Except Failure Item) :
    Except Failure Item :=
  match attempt with
  | .ok result => .ok result
  | .error failure =>
    if failure.isAbsorbed then .ok kept else .error failure

/-- A coin exchanged for a whole one in its base denomination. -/
def baseForm (registry : Registry) (holding : Holding) :
    Except Failure Holding :=
  orKeep holding do
    let base ← registry.base (.text holding.denom)
    let exchanged ← registry.exchange holding base
    return .whole exchanged

/-- A coin exchanged for a decimal one in its base denomination. -/
def baseFormDecimal (registry : Registry) (holding : Holding) :
    Except Failure Holding :=
  orKeep holding do
    let base ← registry.base (.text holding.denom)
    let exchanged ← registry.exchangeDecimal holding base
    return .fractional exchanged

/-- The whole part of a coin exchanged for a decimal one in its base
denomination. -/
def wholeBaseForm (registry : Registry) (holding : Holding) :
    Except Failure Coin := do
  let based ← registry.baseFormDecimal holding
  based.wholePart

/-- The whole parts of coins in their base denominations, in order.  Coins of
one denomination are not merged. -/
def wholeBaseForms (registry : Registry) (holdings : List Holding) :
    Except Failure (List Coin) :=
  holdings.mapM registry.wholeBaseForm

end Coinage.Registry
