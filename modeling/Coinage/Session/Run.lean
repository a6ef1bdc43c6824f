import Coinage.Session.Step

/-!
# Running a session

The steps of a session are performed in order.  A step that fails ends
nothing: its reply is the failure, and the next step finds the registry as the
failed one left it.  A later step that points to the failed one finds nothing
there.
-/

namespace Coinage

namespace CoinSource

/-- Make the coin that a source describes, or find the answer it points to. -/
def take (source : CoinSource) (earlier : List Answer) :
    Except Failure Answer :=
  match source with
  | .whole rule denom amount => do
    let coin ← Coin.make rule denom amount
    return .coin (.whole coin)
  | .fractional rule denom amount => do
    let coin ← DecimalCoin.make rule denom amount
    return .coin (.fractional coin)
  | .earlier step =>
    match earlier[step]? with
    | some answer => .ok answer
    | none => .error .noStep

/-- Take a coin of which a part is asked for. -/
def takeHolding (source : CoinSource) (earlier : List Answer)
    (part : String) : Except Failure Holding := do
  let taken ← source.take earlier
  taken.asHolding part

end CoinSource

namespace ComparandSource

/-- Take what is to be compared. -/
def take (source : ComparandSource) (earlier : List Answer) :
    Except Failure Answer :=
  match source with
  | .coin origin => origin.take earlier
  | .plain value => .ok (.value value)

/-- The earlier step that a source points to. -/
def step? : ComparandSource → Option Nat
  | .coin (.earlier step) => some step
  | _ => none

end ComparandSource

namespace Answer

/-- Whether this is a value that must not be compared with numbers. -/
def isSignaling (answer : Answer) : Bool :=
  match answer.plain? with
  | some plain => !plain.isKey
  | none => false

/-- Whether this is a number of any kind. -/
def isNumber (answer : Answer) : Bool :=
  match answer.plain? with
  | some plain => plain.exactNumber?.isSome
  | none => false

/-- Equality of answers that can be counted.  Coins and splits are equal if
their names and amounts are, and never to a plain value. -/
def sameAs (left right : Answer) : Bool :=
  match left, right with
  | .coin leftCoin, .coin rightCoin => leftCoin.sameAs rightCoin
  | .split leftWhole leftChange, .split rightWhole rightChange =>
    leftWhole.sameAs rightWhole && leftChange.sameAs rightChange
  | _, _ =>
    match left.plain?, right.plain? with
    | some leftValue, some rightValue => leftValue.equals rightValue
    | _, _ => false

/-- Whether two answers are one thing: equal, or one object. -/
def isOneWith (left right : Answer) : Bool :=
  left.sameAs right ||
    match left.plain?, right.plain? with
    | some leftValue, some rightValue => leftValue.sameKey rightValue
    | _, _ => false

/-- Answers that can be counted: not signaling values, and neither lists nor
collections of named parts. -/
def checkCountable (answer : Answer) : Except Failure Unit :=
  match answer with
  | .coins _ | .constants | .comparison _ _ | .report _ =>
    .error (.uncountable answer.kind)
  | _ => if answer.isSignaling then .error .signalingKey else .ok ()

/-- Compare two answers, and count how many different ones they are.  A
signaling value fails against a number when it is compared, and against
anything else when it is counted.  What is no number differs even from itself,
but is still one thing if both answers are one. -/
def compare (left right : Answer) (areOne : Bool) :
    Except Failure Answer := do
  if (left.isSignaling && right.isNumber) ||
      (right.isSignaling && left.isNumber) then
    .error .signalingOperand
  else
    left.checkCountable
    right.checkCountable
    return .comparison (left.sameAs right)
      (if areOne || left.isOneWith right then 1 else 2)

end Answer

namespace Question

/-- The answer to a question, from the registry and the earlier answers. -/
def answer (question : Question) (registry : Registry)
    (earlier : List Answer) : Except Failure Answer :=
  match question with
  | .constants => .ok .constants
  | .decimal value => value.toDecimal.map .decimal
  | .fixed value => (Fixed.ofValue value).map .fixed
  | .format value => (Fixed.format value).map .text
  | .literal value => (Fixed.ofLiteral value).map .fixed
  | .bitLength value => (value.toDecimal.bind Decimal.bitLength).map .count
  | .decimalBudget value =>
    (value.toDecimal.bind Decimal.checkBudget).map .decimal
  | .integerBudget value => (Coin.checkBudget value).map .value
  | .integerPart value => (value.toDecimal.bind Decimal.integerPart).map .integer
  | .difference left right => (Fixed.difference left right).map .fixed
  | .product left right => (Fixed.product left right).map .fixed
  | .quotient left right => (Fixed.quotient left right).map .fixed
  | .checkName denom => (DenomRule.standard.check denom).map fun _ => .nothing
  | .isName rule denom => (rule.judge denom).map .truth
  | .make coin => coin.take earlier
  | .truncate coin => do
    let holding ← coin.takeHolding earlier "truncate_decimal"
    let parts ← holding.truncate
    return .split parts.1 parts.2
  | .toDecimal coin => do
    let holding ← coin.takeHolding earlier "denom"
    let made ← holding.toDecimal
    return .coin (.fractional made)
  | .compare left right => do
    let first ← left.take earlier
    let second ← right.take earlier
    first.compare second (left.step?.isSome && left.step? == right.step?)
  | .readCoin rule source => do
    let coin ← Expression.coin rule source
    return .coin (.fractional coin)
  | .readCoins rule source => do
    let coins ← Expression.coins rule source
    return .coins (coins.map .fractional)
  | .report => .ok (.report registry.report)
  | .unit denom => do
    match ← registry.lookUp denom with
    | some size => return .fixed size.toFixed
    | none => return .nothing
  | .base denom => (registry.base denom).map .value
  | .isRegistered denom => do
    let found ← registry.lookUp denom
    return .truth found.isSome
  | .contains denom => .ok (.truth (registry.isRegistered denom))
  | .exchange coin target => do
    let holding ← coin.takeHolding earlier "denom"
    let exchanged ← registry.exchange holding target
    return .coin (.whole exchanged)
  | .exchangeDecimal coin target => do
    let holding ← coin.takeHolding earlier "denom"
    let exchanged ← registry.exchangeDecimal holding target
    return .coin (.fractional exchanged)
  | .baseForm coin => do
    let holding ← coin.takeHolding earlier "denom"
    let based ← registry.baseForm holding
    return .coin based
  | .baseFormDecimal coin => do
    let holding ← coin.takeHolding earlier "denom"
    let based ← registry.baseFormDecimal holding
    return .coin based
  | .wholeBaseForms none => .ok .nothing
  | .wholeBaseForms (some coins) => do
    let taken ← coins.mapM fun coin => coin.take earlier
    let based ← taken.mapM fun answer => do
      let holding ← answer.asHolding "denom"
      registry.wholeBaseForm holding
    return .coins (based.map .whole)
  | .readWhole source => do
    let coin ← registry.readWhole source
    return .coin (.whole coin)
  | .readWholes source => do
    let coins ← registry.readWholes source
    return .coins (coins.map .whole)

end Question

namespace Registration

/-- Perform a registration. -/
def perform (registration : Registration) (registry : Registry) :
    Registry.Outcome Answer :=
  match registration with
  | .denom name unit base baseUnit =>
    let outcome := registry.register name unit base baseUnit
    ⟨outcome.answer.map fun _ => .nothing, outcome.registry⟩
  | .staking =>
    let outcome := registry.registerStaking
    ⟨outcome.answer.map fun _ => .nothing, outcome.registry⟩
  | .sheet table =>
    let outcome := registry.registerSheet table
    ⟨outcome.answer.map .count, outcome.registry⟩
  | .noSheet value =>
    let outcome := registry.registerNoSheet value
    ⟨outcome.answer.map .count, outcome.registry⟩

end Registration

/-- A session: the registry and the replies so far. -/
structure Session where
  registry : Registry
  replies : List Reply

namespace Session

/-- A session before its first step. -/
def start (rule : DenomRule) : Session :=
  ⟨.empty rule, []⟩

/-- The answers so far; a step that failed answered with nothing. -/
def answers (session : Session) : List Answer :=
  session.replies.map fun reply =>
    match reply.answer with
    | .ok answer => answer
    | .error _ => .nothing

/-- Perform one step. -/
def advance (session : Session) : Step → Session
  | .registration registration =>
    let outcome := registration.perform session.registry
    ⟨outcome.registry,
      session.replies ++ [⟨outcome.answer, some outcome.registry.report⟩]⟩
  | .question question =>
    ⟨session.registry,
      session.replies ++
        [⟨question.answer session.registry session.answers, none⟩]⟩

/-- Perform steps in order, from an empty registry. -/
def run (rule : DenomRule) (steps : List Step) : Session :=
  steps.foldl advance (start rule)

end Session

end Coinage
