import Coinage.Denom
import Coinage.Proofs.Failure

/-!
# Names

Only texts are names, so a check that succeeds leaves exactly one possibility for
the value that was checked.  A text that is no name is refused.  Whether a value of
another kind is refused, too, depends on the rule; a strict rule refuses whatever
can be written.
-/

namespace Coinage.DenomRule

variable {rule : DenomRule}

/-- An accepted text as a name. -/
def named
    {denom : String}
    (accepted : rule.accepts denom = true) :
    rule.Name :=
  ⟨denom, accepted⟩

@[simp]
theorem named_val
    {denom : String}
    (accepted : rule.accepts denom = true) :
    (named accepted).val = denom :=
  rfl

theorem check_of_accepts
    {denom : String}
    (accepted : rule.accepts denom = true) :
    rule.check (.text denom) = .ok (named accepted) :=
  check_text_of_accepts accepted

/-- A check succeeds exactly for the text of the name that it returns. -/
theorem check_eq_ok_iff
    {value : Value}
    {name : rule.Name} :
    rule.check value = .ok name ↔ value = .text name.val := by
  constructor
  · intro checked
    cases value with
    | text denom =>
        by_cases accepted : rule.accepts denom = true
        · rw [check_of_accepts accepted] at checked
          cases checked
          rfl
        · simp [check, accepted] at checked
    | integer | float | decimal | boolean | absent | nan => cases checked
  · rintro rfl
    exact check_of_accepts name.property

/-- A rule copes with a value if it accepts it or refuses it for a reason of the
domain.  What becomes of coins absorbs such a reason, and no other. -/
def CopesWith
    (rule : DenomRule)
    (value : Value) :
    Prop :=
  ∀ failure,
    rule.check value = .error failure →
    failure.isAbsorbed = true

/-- Every rule copes with texts. -/
theorem copesWith_text
    (rule : DenomRule)
    (content : String) :
    rule.CopesWith (.text content) := by
  intro failure refused
  rw [check] at refused
  split at refused
  · cases refused
  · cases refused
    rfl

/-- A rule that does not cope with a value fails on it for another reason. -/
theorem not_copesWith_iff
    {value : Value} :
    ¬ rule.CopesWith value ↔
      ∃ failure,
        rule.check value = .error failure ∧ failure.isAbsorbed = false := by
  simp [CopesWith]

section Strict

variable
    {accepts : String → Bool}
    {refusal : String → String}
    {value : Value}

/-- A strict rule has no words for what cannot be written. -/
theorem check_strict_of_unwritable
    (unwritable : value.isWritable = false) :
    (strict accepts refusal).check value = .error .longInteger := by
  cases value with
  | integer number =>
      exact congrArg Except.error (if_neg (Bool.eq_false_iff.1 unwritable))
  | text | float | decimal | boolean | absent | nan => cases unwritable

/-- A strict rule copes exactly with what can be written. -/
theorem copesWith_strict_iff :
    (strict accepts refusal).CopesWith value ↔ value.isWritable = true := by
  constructor
  · intro copes
    refine Bool.of_not_eq_false fun unwritable => ?_
    cases copes _ (check_strict_of_unwritable unwritable)
  · intro writable
    cases value with
    | text content =>
        exact copesWith_text _ content
    | integer number =>
        have refused :
            (strict accepts refusal).check (.integer number) =
              .error (.refusedDenom
                (refusal (Value.integer number).shown)) :=
          congrArg Except.error
            (Value.worded_of_isWritable writable fun shown =>
              .refusedDenom (refusal shown))
        intro failure failed
        rw [refused] at failed
        cases failed
        rfl
    | float | decimal | boolean | absent | nan =>
        rintro _ ⟨⟩
        rfl

end Strict

end Coinage.DenomRule
