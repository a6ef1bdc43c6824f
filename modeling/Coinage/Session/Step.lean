import Coinage.Expression.Sequence
import Coinage.Registry.Sheet
import Coinage.Registry.Staking

/-!
# Steps of a session

A session is a script of steps on one registry.  A step either registers
something or asks something.  Only registrations change the registry; their
replies report what the registry then holds.  A question may use a coin that
it describes by its parts, or the answer of an earlier step, whatever that is;
a step that failed answered with nothing.
-/

namespace Coinage

/-- Where a step takes a coin from: its parts, or an earlier step. -/
inductive CoinSource where
  | whole (rule : DenomRule) (denom amount : Value)
  | fractional (rule : DenomRule) (denom amount : Value)
  | earlier (step : Nat)

/-- What a step compares: a coin or a plain value. -/
inductive ComparandSource where
  | coin (source : CoinSource)
  | plain (value : Value)

/-- The steps that may change the registry. -/
inductive Registration where
  /-- Register a denomination with its base. -/
  | denom (denom unit base baseUnit : Value)
  /-- Register the staking token. -/
  | staking
  /-- Register the rows of a sheet. -/
  | sheet (sheet : Sheet)
  /-- Register a value that is no sheet. -/
  | noSheet (value : Value)

/-- The steps that leave the registry as it is. -/
inductive Question where
  /-- The constants of the scale and of the staking token. -/
  | constants
  /-- The decimal datum of a value. -/
  | decimal (value : Value)
  /-- The fixed-point number nearest to a value. -/
  | fixed (value : Value)
  /-- The text of the fixed-point number nearest to a value. -/
  | format (value : Value)
  /-- The fixed-point number of a literal. -/
  | literal (value : Value)
  /-- The length of a datum on the fixed-point scale. -/
  | bitLength (value : Value)
  /-- A datum that is within the budget of decimals. -/
  | decimalBudget (value : Value)
  /-- A value that is within the budget of amounts. -/
  | integerBudget (value : Value)
  /-- The integer part of a datum. -/
  | integerPart (value : Value)
  /-- A fixed-point difference. -/
  | difference (left right : Value)
  /-- A fixed-point product. -/
  | product (left right : Value)
  /-- A fixed-point quotient. -/
  | quotient (left right : Value)
  /-- Nothing, if a value is a standard name. -/
  | checkName (denom : Value)
  /-- Whether a value is a name by a rule. -/
  | isName (rule : DenomRule) (denom : Value)
  /-- A coin as it is made, or the answer of an earlier step. -/
  | make (coin : CoinSource)
  /-- The whole part and the change of a decimal coin. -/
  | truncate (coin : CoinSource)
  /-- The decimal coin with the parts of a coin. -/
  | toDecimal (coin : CoinSource)
  /-- Whether two things are equal, and how many different ones they are. -/
  | compare (left right : ComparandSource)
  /-- The coin of an expression. -/
  | readCoin (rule : DenomRule) (source : Value)
  /-- The coins of a list of expressions. -/
  | readCoins (rule : DenomRule) (source : Value)
  /-- What the registry holds. -/
  | report
  /-- The unit size of a denomination, or nothing. -/
  | unit (denom : Value)
  /-- The base of a denomination. -/
  | base (denom : Value)
  /-- Whether a denomination has a unit size. -/
  | isRegistered (denom : Value)
  /-- Whether a value is a text that has a unit size. -/
  | contains (denom : Value)
  /-- A whole coin for a coin, in another denomination. -/
  | exchange (coin : CoinSource) (target : Value)
  /-- A decimal coin for a coin, in another denomination. -/
  | exchangeDecimal (coin : CoinSource) (target : Value)
  /-- A whole coin for a coin, in its base denomination. -/
  | baseForm (coin : CoinSource)
  /-- A decimal coin for a coin, in its base denomination. -/
  | baseFormDecimal (coin : CoinSource)
  /-- The whole base forms of coins, or nothing of nothing. -/
  | wholeBaseForms (coins : Option (List CoinSource))
  /-- The whole base form of an expression. -/
  | readWhole (source : Value)
  /-- The whole base forms of a list of expressions. -/
  | readWholes (source : Value)

/-- A step of a session. -/
inductive Step where
  | registration (registration : Registration)
  | question (question : Question)

/-- What a report says of one name: its text, the unit size if the name is
accepted, and the text of its base if it has a usable one. -/
structure ReportRow where
  name : String
  unit? : Option UnitSize
  base? : Option String

/-- What a registry holds. -/
structure Report where
  rule : DenomRule
  rows : List ReportRow
  size : Nat
  description : String

/-- What a step answers when it does not fail. -/
inductive Answer where
  | nothing
  | constants
  | truth (flag : Bool)
  | count (number : Nat)
  | integer (number : Int)
  | value (value : Value)
  | text (content : String)
  | decimal (datum : Decimal)
  | fixed (number : Fixed)
  | coin (coin : Holding)
  | split (whole : Coin) (change : DecimalCoin)
  | coins (coins : List Holding)
  | comparison (equal : Bool) (distinct : Nat)
  | report (report : Report)

/-- The answer of a step, and the report that follows a registration. -/
structure Reply where
  answer : Except Failure Answer
  report? : Option Report

namespace Answer

/-- The coins in an answer. -/
def holdings : Answer → List Holding
  | .coin holding => [holding]
  | .split kept change => [.whole kept, .fractional change]
  | .coins holdings => holdings
  | _ => []

/-- The plain value that an answer is, if it is one. -/
def plain? : Answer → Option Value
  | .nothing => some .absent
  | .truth flag => some (.boolean flag)
  | .count number => some (.integer number)
  | .integer number => some (.integer number)
  | .value plain => some plain
  | .text content => some (.text content)
  | .decimal datum => some (.decimal datum)
  | .fixed number => some number.toValue
  | _ => none

/-- The name of the kind of thing that an answer is. -/
def kind : Answer → String
  | .coin holding => holding.kind.label
  | .split _ _ => "tuple"
  | .coins _ => "list"
  | .decimal _ | .fixed _ | .value (.decimal _)
  | .value (.nan _ (.decimal _ _ _)) => "decimal.Decimal"
  | answer => (answer.plain?.map Value.kind).getD "dict"

/-- The coin that an answer is.  Anything else lacks the part that was asked
for. -/
def asHolding (part : String) : Answer → Except Failure Holding
  | .coin holding => .ok holding
  | answer => .error (.lacks answer.kind part)

end Answer

namespace Registry

/-- Report what a registry holds, in the order of its names. -/
def report (registry : Registry) : Report where
  rule := registry.rule
  rows := registry.entries.map fun entry =>
    ⟨entry.name.shown,
      if registry.rule.admits entry.name then some entry.unit else none,
      entry.usableBase?.map Value.shown⟩
  size := registry.size
  description := registry.description

end Registry

end Coinage
