import Coinage.BaseForm
import Coinage.Expression

/-!
# Lists of coin expressions

The members of a list are separated by one comma with any blanks around it, or
by blanks alone.  So two commas in a row leave an empty member between them,
and a comma at either end an empty member there.  A blank text is the empty
list.  The first member that denotes no coin decides the failure.
-/

namespace Coinage

open Coinage.Text

namespace Expression

/-- Take one separator off the front of a text: blanks, at most one comma, and
the blanks behind it. -/
def dropSeparator (source : List Char) : List Char :=
  match source.dropWhile isBlank with
  | ',' :: rest => rest.dropWhile isBlank
  | rest => rest

theorem length_dropSeparator_le (source : List Char) :
    (dropSeparator source).length ≤ source.length := by
  have blanks := (List.dropWhile_sublist isBlank (l := source)).length_le
  unfold dropSeparator
  split
  · rename_i rest dropped
    have behind := (List.dropWhile_sublist isBlank (l := rest)).length_le
    rw [dropped, List.length_cons] at blanks
    omega
  · exact blanks

/-- A separator takes at least the character that ends a member. -/
theorem length_dropSeparator_lt (character : Char) (rest : List Char)
    (ends : isBreak character = true) :
    (dropSeparator (character :: rest)).length < (character :: rest).length := by
  cases blank : isBlank character with
  | true =>
    have shorter := length_dropSeparator_le rest
    have same : dropSeparator (character :: rest) = dropSeparator rest := by
      simp [dropSeparator, blank]
    rw [same, List.length_cons]
    omega
  | false =>
    have comma : character = ',' := by simpa [isBreak, blank] using ends
    subst comma
    have behind := (List.dropWhile_sublist isBlank (l := rest)).length_le
    simp only [dropSeparator, List.dropWhile_cons, blank, List.length_cons]
    simp only [Bool.false_eq_true, if_false]
    omega

/-- The members of a text, between its separators.  A text without separators
is its only member. -/
def members (source : List Char) : List (List Char) :=
  let member := source.takeWhile fun character => !isBreak character
  match _found : source.dropWhile fun character => !isBreak character with
  | [] => [member]
  | character :: rest => member :: members (dropSeparator (character :: rest))
termination_by source.length
decreasing_by
  have ends : isBreak character = true := by
    have failing := List.head?_dropWhile_not
      (fun character => !isBreak character) source
    rw [_found] at failing
    simpa using failing
  have whole := (List.dropWhile_sublist
    (fun character => !isBreak character) (l := source)).length_le
  rw [_found] at whole
  have shorter := length_dropSeparator_lt character rest ends
  omega

/-- The coins that members denote, counted from `index`.  The whole list is for
messages. -/
def coinsOfMembers (rule : DenomRule) (source : String) (index : Nat) :
    List (List Char) → Except Failure (List DecimalCoin)
  | [] => .ok []
  | member :: rest =>
    match coinOfText rule (String.ofList member) with
    | .error _ =>
      .error (.expressionMember index (String.ofList member) source)
    | .ok coin => do
      let others ← coinsOfMembers rule source (index + 1) rest
      return coin :: others

/-- The coins that a text denotes as a list. -/
def coinsOfText (rule : DenomRule) (source : String) :
    Except Failure (List DecimalCoin) :=
  let stripped := strip source.toList
  if stripped = [] then .ok []
  else
    coinsOfMembers rule (String.ofList stripped) 0 (members stripped)

/-- The coins that a value denotes as a list of expressions. -/
def coins (rule : DenomRule) : Value → Except Failure (List DecimalCoin)
  | .text source => coinsOfText rule source
  | other => .error (.expressionKind .sequence other.kind)

end Expression

namespace Registry

/-- Read an expression by the rule of a registry, and bring the coin to its
base form without a fraction. -/
def readWhole (registry : Registry) (source : Value) : Except Failure Coin := do
  let coin ← Expression.coin registry.rule source
  registry.wholeBaseForm (.fractional coin)

/-- Read a list of expressions by the rule of a registry, and bring the coins
to their base forms without fractions. -/
def readWholes (registry : Registry) (source : Value) :
    Except Failure (List Coin) := do
  let coins ← Expression.coins registry.rule source
  registry.wholeBaseForms (coins.map .fractional)

end Registry

end Coinage
