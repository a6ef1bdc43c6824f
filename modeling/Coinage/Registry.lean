import Coinage.Denom
import Coinage.Fixed

/-!
# Registries of denominations

A registry keeps, in the order in which names are first mentioned, the unit
size of every denomination on one common scale and the base denomination that
it is linked to.  A base is linked to itself.

One registration names a denomination and its base with both unit sizes.  The
denomination must be new, must be accepted by the rule of the registry, and
neither size may be below zero.  The base may be known: its size and link are
then overwritten.  The name of the base is not judged, so it may be a value of
any kind.  Two kinds of values are found unfit too late: a signaling value
cannot be a key, which shows after the denomination has been entered with its
size, and a value that cannot be written cannot be reported, which shows after
everything has been entered.
-/

namespace Coinage

/-- The size of a denomination's unit on the common scale. -/
structure UnitSize extends Fixed where
  notBelowZero : toFixed.isBelowZero = false
  deriving DecidableEq, Repr

/-- The unit size that a value is, unless it is below zero. -/
def UnitSize.ofValue (role : UnitRole) (value : Value) :
    Except Failure UnitSize := do
  let number ← Fixed.ofValue value
  if notBelowZero : number.isBelowZero = false then .ok ⟨number, notBelowZero⟩
  else .error (value.worded (.negativeUnit role))

/-- What a registry knows of one name. -/
structure Entry where
  name : Value
  unit : UnitSize
  base? : Option Value
  deriving DecidableEq, Repr

namespace Entry

/-- Replace what is known of a name, keeping its place and the name as it was
first given, or add it at the end. -/
def put (entry : Entry) : List Entry → List Entry
  | [] => [entry]
  | first :: rest =>
    if first.name.sameKey entry.name then
      { entry with name := first.name } :: rest
    else first :: entry.put rest

/-- The base of an entry, if there is one that names something. -/
def usableBase? (entry : Entry) : Option Value :=
  entry.base?.filter fun base => !base.isVacant

end Entry

/-- A registry of denominations. -/
structure Registry where
  rule : DenomRule
  entries : List Entry

/-- What an operation on a registry answers, and the registry that it
leaves. -/
structure Registry.Outcome (Answer : Type) where
  answer : Except Failure Answer
  registry : Registry

namespace Registry

/-- The registry that knows no name. -/
def empty (rule : DenomRule) : Registry :=
  ⟨rule, []⟩

/-- What is known of a name. -/
def find? (registry : Registry) (name : Value) : Option Entry :=
  registry.entries.find? fun entry => entry.name.sameKey name

/-- Enter what is known of a name. -/
def enter (registry : Registry) (entry : Entry) : Registry :=
  { registry with entries := entry.put registry.entries }

/-- Judge a registration before anything is entered: the name, both sizes and
that the name is new, in this order. -/
def admission (registry : Registry) (denom unit baseUnit : Value) :
    Except Failure (String × UnitSize × UnitSize) := do
  let name ← registry.rule.check denom
  let own ← UnitSize.ofValue .own unit
  let shared ← UnitSize.ofValue .base baseUnit
  if (registry.find? denom).isSome then
    .error (.alreadyRegistered name.val)
  else
    .ok (name.val, own, shared)

/-- Report a base that has been entered, which is done in words. -/
def reportBase (base : Value) : Except Failure Unit :=
  if base.isWritable then .ok () else .error .longInteger

/-- Register a denomination together with its base. -/
def register (registry : Registry) (denom unit base baseUnit : Value) :
    Outcome Unit :=
  match registry.admission denom unit baseUnit with
  | .error failure => ⟨.error failure, registry⟩
  | .ok (name, own, shared) =>
    if base.isKey then
      ⟨reportBase base,
        (registry.enter ⟨.text name, own, some base⟩).enter
          ⟨base, shared, some base⟩⟩
    else
      ⟨.error .signalingKey, registry.enter ⟨.text name, own, none⟩⟩

/-- The unit size of a denomination.  A value that the rule refuses has
none. -/
def unit? (registry : Registry) (denom : Value) : Option UnitSize :=
  if registry.rule.admits denom then (registry.find? denom).map Entry.unit
  else none

/-- Look up the unit size of a denomination, which its rule judges first. -/
def lookUp (registry : Registry) (denom : Value) :
    Except Failure (Option UnitSize) := do
  let _ ← registry.rule.judge denom
  return registry.unit? denom

/-- The base denomination that a denomination is linked to. -/
def base (registry : Registry) (denom : Value) : Except Failure Value :=
  if denom.isKey then
    match (registry.find? denom).bind Entry.usableBase? with
    | some base => .ok base
    | none => .error (denom.worded .unlinked)
  else .error .signalingKey

/-- Whether a value is a denomination with a unit size. -/
def isRegistered (registry : Registry) (denom : Value) : Bool :=
  (registry.unit? denom).isSome

/-- The names with a unit size, in the order in which they were first
mentioned. -/
def names (registry : Registry) : List Value :=
  registry.entries.map Entry.name

/-- The number of names. -/
def size (registry : Registry) : Nat :=
  registry.entries.length

/-- The number of names, in words. -/
def description (registry : Registry) : String :=
  "DenomRegistry(" ++ Failure.countText registry.size ++ " denoms)"

end Registry

end Coinage
