import Coinage.Scale
import Coinage.Text.Digit

/-!
# Failures

Everything that can go wrong, as causes with the texts that describe them.
`Failure.message` words a cause, and `Failure.family` says what sort of failure
it is.  Bringing coins to their base denomination absorbs the families that
belong to the domain, and division by zero with them; `isAbsorbed` is that
distinction.
-/

namespace Coinage

open Coinage.Text

/-- The operations on numbers that judge their operands. -/
inductive NumberOperation where
  | fix
  | subtract
  | multiply
  | divide
  deriving DecidableEq, Repr

/-- The name of an operation in messages. -/
def NumberOperation.label : NumberOperation → String
  | .fix => "to_dec"
  | .subtract => "dec_sub"
  | .multiply => "dec_mul"
  | .divide => "dec_quo"

/-- The two kinds of coins. -/
inductive CoinKind where
  | whole
  | fractional
  deriving DecidableEq, Repr

/-- The name of a kind of coins, in messages and in the text of coins. -/
def CoinKind.label : CoinKind → String
  | .whole => "Coin"
  | .fractional => "DecCoin"

/-- The two unit sizes of one registration. -/
inductive UnitRole where
  | own
  | base
  deriving DecidableEq, Repr

/-- The name of a unit size in messages. -/
def UnitRole.label : UnitRole → String
  | .own => "unit"
  | .base => "base_unit"

/-- The two readers of coin expressions. -/
inductive ExpressionReader where
  | single
  | sequence
  deriving DecidableEq, Repr

/-- The name of a reader in messages. -/
def ExpressionReader.label : ExpressionReader → String
  | .single => "parse_dec_coin"
  | .sequence => "parse_dec_coins"

/-- The causes of failure. -/
inductive Failure where
  /-- A denomination rule refused a name, in its own wording. -/
  | refusedDenom (wording : String)
  /-- A denomination can be registered only once. -/
  | alreadyRegistered (denom : String)
  /-- The denomination of the coin to convert has no unit. -/
  | unknownSource (denom : String)
  /-- The denomination to convert into has no unit. -/
  | unknownTarget (denom : String)
  /-- A denomination has no base denomination. -/
  | unlinked (denom : String)
  /-- A coin expression must be a text. -/
  | expressionKind (reader : ExpressionReader) (kind : String)
  /-- A text is not an amount followed by a name. -/
  | malformedExpression (source : String)
  /-- The name in a coin expression is refused. -/
  | expressionDenom (denom source : String)
  /-- The amount in a coin expression does not fit. -/
  | expressionAmount (amount source : String)
  /-- The amount in a coin expression is below zero. -/
  | expressionSign (amount source : String)
  /-- A member of a list of coin expressions is at fault. -/
  | expressionMember (index : Nat) (member source : String)
  /-- A scaled number is too long. -/
  | decimalBudget (bits : Nat)
  /-- An integer is too long. -/
  | integerBudget (bits : Nat)
  /-- An operand is too large to be scaled. -/
  | magnitude (operation : NumberOperation) (shown : String)
  /-- An operand is no number. -/
  | notNumber (operation : NumberOperation) (shown : String)
  /-- An operand is not finite. -/
  | notFinite (operation : NumberOperation) (shown : String)
  /-- A text is no literal. -/
  | notLiteral (shown : String)
  /-- A literal has too many fraction digits. -/
  | surplusPlaces (shown : String) (places : Nat)
  /-- The amount of a whole coin must be an integer. -/
  | amountKind (kind : String)
  /-- An amount is below zero. -/
  | negativeAmount (coin : CoinKind) (shown : String)
  /-- A unit size is below zero. -/
  | negativeUnit (role : UnitRole) (shown : String)
  /-- A sheet was asked for. -/
  | notSheet (kind : String)
  /-- A sheet lacks columns. -/
  | missingColumns (columns : List String)
  /-- A divisor is zero. -/
  | zeroDivisor (shown : String)
  /-- A text spells no decimal datum. -/
  | noDecimal
  /-- A text spells a number beyond the range of decimal data. -/
  | beyondRange
  /-- A result does not fit into the working space. -/
  | noWorkingSpace
  /-- A signaling value was compared or computed with. -/
  | signalingOperand
  /-- A signaling value cannot be a key. -/
  | signalingKey
  /-- What is not finite cannot be scaled. -/
  | unscalable
  /-- What is no number at all has no magnitude. -/
  | noMagnitude (kind : String)
  /-- What is no number has no integer part. -/
  | noInteger
  /-- An infinity has no integer part. -/
  | infiniteInteger
  /-- Things of some kinds cannot be told apart by a key. -/
  | uncountable (kind : String)
  /-- A thing of some kind has no such part. -/
  | lacks (kind part : String)
  /-- An integer has too many digits to be written. -/
  | longInteger
  /-- There are too many digits to be read as an integer. -/
  | longDigits (count : Nat)
  /-- A session has no step of this number yet. -/
  | noStep
  deriving DecidableEq, Repr

namespace Failure

/-- The sorts of failures. -/
inductive Family where
  | refusedDenom
  | alreadyRegistered
  | unknownSource
  | unknownTarget
  | unlinked
  | expression
  | budget
  | value
  | type
  | zeroDivision
  | overflow
  | invalidNumber
  | part
  | session
  deriving DecidableEq, Repr

/-- The sort of a failure. -/
def family : Failure → Family
  | .refusedDenom _ => .refusedDenom
  | .alreadyRegistered _ => .alreadyRegistered
  | .unknownSource _ => .unknownSource
  | .unknownTarget _ => .unknownTarget
  | .unlinked _ => .unlinked
  | .expressionKind _ _ | .malformedExpression _ | .expressionDenom _ _
  | .expressionAmount _ _ | .expressionSign _ _
  | .expressionMember _ _ _ => .expression
  | .decimalBudget _ | .integerBudget _ | .magnitude _ _ => .budget
  | .notNumber _ _ | .notFinite _ _ | .notLiteral _ | .surplusPlaces _ _
  | .negativeAmount _ _ | .negativeUnit _ _ | .notSheet _
  | .missingColumns _ | .longInteger | .longDigits _ | .noInteger => .value
  | .amountKind _ | .signalingKey | .uncountable _ | .unscalable
  | .noMagnitude _ => .type
  | .zeroDivisor _ => .zeroDivision
  | .infiniteInteger => .overflow
  | .noDecimal | .beyondRange | .noWorkingSpace
  | .signalingOperand => .invalidNumber
  | .lacks _ _ => .part
  | .noStep => .session

/-- The families that belong to the domain: names, registration, expressions
and the two budgets. -/
def Family.isDomain : Family → Bool
  | .refusedDenom | .alreadyRegistered | .unknownSource | .unknownTarget
  | .unlinked | .expression | .budget => true
  | .value | .type | .zeroDivision | .overflow | .invalidNumber | .part
  | .session => false

/-- The failures that leave a coin as it is when its base denomination is
sought. -/
def isAbsorbed (failure : Failure) : Bool :=
  failure.family.isDomain || failure.family == .zeroDivision

/-- The text of a count. -/
def countText (count : Nat) : String :=
  String.ofList (digits count)

/-- The common opening of messages about a refused call. -/
def refusal (operation reason : String) : String :=
  "Cannot call `" ++ operation ++ "` because " ++ reason

/-- The words for a number that is too long. -/
def budgetText (subject : String) (bits limit : Nat) : String :=
  subject ++ " value needs " ++ countText bits ++
    " bits, which exceeds the maximum of " ++ countText limit ++ " bits"

/-- The words for too many digits, with what is said of their number. -/
def conversionText (found : String) : String :=
  "Exceeds the limit (" ++ countText longestInteger ++
    " digits) for integer string conversion" ++ found ++
    "; use sys.set_int_max_str_digits() to increase the limit"

/-- The wording of a failure. -/
def message : Failure → String
  | .refusedDenom wording => wording
  | .alreadyRegistered denom =>
    refusal "register_denom" ("denom '" ++ denom ++ "' is already registered")
  | .unknownSource denom => "Source denom not registered: '" ++ denom ++ "'"
  | .unknownTarget denom =>
    "Destination denom not registered: '" ++ denom ++ "'"
  | .unlinked denom =>
    refusal "get_base_denom"
      ("denom '" ++ denom ++ "' has no registered base denom")
  | .expressionKind reader kind =>
    refusal reader.label ("$text is not str (got type '" ++ kind ++ "')")
  | .malformedExpression source =>
    "Invalid decimal coin expression: '" ++ source ++ "'"
  | .expressionDenom denom source =>
    "Invalid denom '" ++ denom ++ "' in decimal coin expression '" ++
      source ++ "'"
  | .expressionAmount amount source =>
    "Invalid amount '" ++ amount ++ "' in decimal coin expression '" ++
      source ++ "'"
  | .expressionSign amount source =>
    "Negative amount '" ++ amount ++ "' in decimal coin expression '" ++
      source ++ "'"
  | .expressionMember index member source =>
    "Invalid coin #" ++ countText index ++ " ('" ++ member ++
      "') in coins expression '" ++ source ++ "'"
  | .decimalBudget bits => budgetText "Decimal" bits Scale.decimalBits
  | .integerBudget bits => budgetText "Integer" bits Scale.integerBits
  | .magnitude operation shown =>
    refusal operation.label
      ("$value (" ++ shown ++ ") exceeds the maximum of " ++
        countText Scale.decimalBits ++ " bits")
  | .notNumber operation shown =>
    refusal operation.label
      ("$value (" ++ shown ++ ") cannot be converted to Decimal")
  | .notFinite operation shown =>
    refusal operation.label ("$value (" ++ shown ++ ") is not a finite number")
  | .notLiteral shown =>
    refusal "dec_from_str" ("$text ('" ++ shown ++ "') is not a decimal literal")
  | .surplusPlaces shown places =>
    refusal "dec_from_str"
      ("$text ('" ++ shown ++ "') has " ++ countText places ++
        " fractional digits, but at most " ++ countText Scale.places ++
        " are allowed")
  | .amountKind kind =>
    refusal "Coin.__init__" ("$amount is not int (got type '" ++ kind ++ "')")
  | .negativeAmount coin shown =>
    refusal (coin.label ++ ".__init__") ("$amount (" ++ shown ++ ") is negative")
  | .negativeUnit role shown =>
    refusal "register_denom"
      ("$" ++ role.label ++ " (" ++ shown ++ ") is negative")
  | .notSheet kind =>
    refusal "register_denoms_from_dataframe"
      ("$df is not a pandas DataFrame (got type '" ++ kind ++ "')")
  | .missingColumns columns =>
    refusal "register_denoms_from_dataframe"
      ("$df is missing required columns: " ++ ", ".intercalate columns)
  | .zeroDivisor shown =>
    refusal "dec_quo" ("divisor $b (" ++ shown ++ ") is zero")
  | .noDecimal => "[<class 'decimal.ConversionSyntax'>]"
  | .beyondRange | .noWorkingSpace | .signalingOperand =>
    "[<class 'decimal.InvalidOperation'>]"
  | .signalingKey => "Cannot hash a signaling NaN value"
  | .unscalable => "can only concatenate str (not \"int\") to str"
  | .noMagnitude kind => "bad operand type for abs(): '" ++ kind ++ "'"
  | .noInteger => "cannot convert NaN to integer"
  | .infiniteInteger => "cannot convert Infinity to integer"
  | .uncountable kind => "unhashable type: '" ++ kind ++ "'"
  | .lacks kind part =>
    "'" ++ kind ++ "' object has no attribute '" ++ part ++ "'"
  | .longInteger => conversionText ""
  | .longDigits count =>
    conversionText (": value has " ++ countText count ++ " digits")
  | .noStep => "There is no such step yet"

end Failure

end Coinage
