import Coinage.Failure
import Coinage.Value

/-!
# Denomination rules

A denomination rule decides which texts are names of denominations and words
the refusal of the others.  Registries and coins each carry a rule, so all
statements about them hold for every rule.  A rule is made for texts.  Other
values are never names, but each rule fails on them in its own way: a strict
rule refuses them in the words that it has for texts, unless the value cannot
even be written, and a careless rule may fail for any reason.

The standard rule is strict.  It asks for a letter followed by two to one
hundred and twenty-seven letters, digits or characters of `/:._-`, all of ASCII.
-/

namespace Coinage

/-- What counts as the name of a denomination, how another text is refused,
and how judging a value that is no text fails. -/
structure DenomRule where
  accepts : String → Bool
  refusal : String → String
  misuse : Value → Failure

namespace DenomRule

/-- A name that a rule accepts. -/
def Name (rule : DenomRule) : Type :=
  { name : String // rule.accepts name = true }

/-- The name that a value is, unless judging it fails.  Only texts are
names. -/
def check (rule : DenomRule) (value : Value) : Except Failure rule.Name :=
  match value with
  | .text name =>
    if accepted : rule.accepts name = true then .ok ⟨name, accepted⟩
    else .error (.refusedDenom (rule.refusal name))
  | other => .error (rule.misuse other)

/-- Whether a value is a name. -/
def admits (rule : DenomRule) : Value → Bool
  | .text name => rule.accepts name
  | _ => false

/-- Judge whether a value is a name.  A refusal is a judgement, any other
failure is passed on. -/
def judge (rule : DenomRule) (value : Value) : Except Failure Bool :=
  match rule.check value with
  | .ok _ => .ok true
  | .error failure =>
    if failure.family = .refusedDenom then .ok false else .error failure

/-- The rule that refuses whatever is no name in the same words. -/
def strict (accepts : String → Bool) (refusal : String → String) :
    DenomRule where
  accepts := accepts
  refusal := refusal
  misuse value := value.worded fun shown => .refusedDenom (refusal shown)

/-- The ASCII letters, which may begin a name. -/
def isInitial (character : Char) : Bool :=
  character.isAlpha

/-- The characters that may follow in a name. -/
def isFollowing (character : Char) : Bool :=
  character.isAlphanum || "/:._-".toList.contains character

/-- The shape of standard names. -/
def isStandardName : List Char → Bool
  | [] => false
  | initial :: following =>
    isInitial initial && following.all isFollowing &&
      2 ≤ following.length && following.length ≤ 127

/-- The rule that holds where no other is given. -/
def standard : DenomRule :=
  strict (fun name => isStandardName name.toList) fun shown =>
    "Invalid denom: '" ++ shown ++
      "'. Expected a letter followed by 2 to 127 letters, digits or '/:._-'"

/-- Every text is a name. -/
def anyText : DenomRule :=
  strict (fun _ => true) fun shown => "Invalid denom: '" ++ shown ++ "'"

@[simp]
theorem check_text_of_accepts {rule : DenomRule} {name : String}
    (accepted : rule.accepts name = true) :
    rule.check (.text name) = .ok ⟨name, accepted⟩ := by
  simp [check, accepted]

@[simp]
theorem admits_text (rule : DenomRule) (name : String) :
    rule.admits (.text name) = rule.accepts name := rfl

example : standard.accepts "uatom" = true ∧ standard.accepts "ab" = false := by
  decide

end DenomRule

end Coinage
