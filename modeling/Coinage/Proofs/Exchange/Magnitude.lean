import Coinage.BaseForm
import Coinage.Proofs.Exchange.Decimal
import Coinage.Proofs.Exchange.Whole
import Coinage.Proofs.Registry.Entries

/-!
# Sizes of one magnitude

A unit size of zero may have a sign.  An exchange computes with magnitudes, so
with another sign it ends alike: a result drops the sign of zero, and only a
failure to divide by zero shows which zero it was.  `EndsAlike` relates two
attempts up to this text, which no base form depends on.
-/

namespace Coinage

/-! ## Attempts that end alike -/

/-- Two attempts have one outcome, except that each shows the size by which it
cannot divide. -/
inductive EndsAlike
    (left right : UnitSize)
    {Result : Type} :
    Except Failure Result →
    Except Failure Result →
    Prop where
  | same (attempt : Except Failure Result) :
      EndsAlike left right attempt attempt
  | zeroDivisor :
      EndsAlike left right
        (.error (.zeroDivisor left.toValue.shown))
        (.error (.zeroDivisor right.toValue.shown))

namespace EndsAlike

variable
    {left right size : UnitSize}
    {Result : Type}
    {first second : Except Failure Result}

theorem of_eq
    (outcomeEq : first = second) :
    EndsAlike left right first second := by
  rw [outcomeEq]
  exact .same second

/-- With one size there is one outcome. -/
theorem eq
    (alike : EndsAlike size size first second) :
    first = second := by
  cases alike with
  | same =>
      rfl
  | zeroDivisor =>
      rfl

theorem bind
    {Further : Type}
    (alike : EndsAlike left right first second)
    (further : Result → Except Failure Further) :
    EndsAlike left right (first >>= further) (second >>= further) := by
  cases alike with
  | same =>
      exact .same _
  | zeroDivisor =>
      exact .zeroDivisor

/-- A failure to divide by zero is absorbed, whatever it shows. -/
theorem orKeep_eq
    (alike : EndsAlike left right first second)
    (kept : Result) :
    Registry.orKeep kept first = Registry.orKeep kept second := by
  cases alike with
  | same =>
      rfl
  | zeroDivisor =>
      rfl

end EndsAlike

/-! ## Magnitudes -/

/-- The amount of a coin is an operand without a sign. -/
theorem Holding.exists_operand
    (holding : Holding)
    (operation : NumberOperation) :
    ∃ units,
      Quantized.ofValue operation holding.amount = .ok units ∧
        units.negative = false := by
  cases holding with
  | whole coin =>
      exact ⟨_, coin.quantized_amount operation, rfl⟩
  | fractional coin =>
      exact ⟨_, Fixed.quantized_toValue operation coin.amount, coin.unsigned⟩

/-- Numbers of one magnitude that are not below zero have one integer part. -/
theorem Quantized.integerPart_eq
    {first second : Quantized}
    (firstUnsigned : first.isBelowZero = false)
    (secondUnsigned : second.isBelowZero = false)
    (scaledEq : first.scaled = second.scaled) :
    first.integerPart = second.integerPart := by
  rw [integerPart_of_not_isBelowZero firstUnsigned,
    integerPart_of_not_isBelowZero secondUnsigned, scaledEq]

namespace Registry

/-- Two rates whose unit sizes have one magnitude. -/
structure Rate.SameMagnitudes
    {leftRule rightRule : DenomRule}
    (left : Rate leftRule)
    (right : Rate rightRule) :
    Prop where
  source_eq : right.source.scaled = left.source.scaled
  destination_eq : right.destination.scaled = left.destination.scaled

namespace Rate.SameMagnitudes

variable
    {leftRule rightRule : DenomRule}
    {left : Rate leftRule}
    {right : Rate rightRule}
    (same : left.SameMagnitudes right)

include same

theorem onScale_eq (scaled : Nat) :
    right.onScale scaled = left.onScale scaled := by
  rw [onScale, onScale, same.source_eq]

theorem exchanged_eq (scaled : Nat) :
    right.exchanged scaled = left.exchanged scaled := by
  rw [exchanged, exchanged, same.onScale_eq, same.destination_eq]

/-- What is computed at both rates ends alike, if what follows depends on the
magnitude of a result that is not below zero. -/
theorem apply_bind
    {Result : Type}
    {amount : Value}
    {units : Quantized}
    {further : Fixed → Except Failure Result}
    (admitted : Quantized.ofValue .multiply amount = .ok units)
    (unsigned : units.negative = false)
    (depends :
      ∀ first second : Fixed,
        first.isBelowZero = false →
        second.isBelowZero = false →
        first.scaled = second.scaled →
        further first = further second) :
    EndsAlike left.destination right.destination
      (left.apply amount >>= further)
      (right.apply amount >>= further) := by
  have onScaleEq := same.onScale_eq units.scaled
  have exchangedEq := same.exchanged_eq units.scaled
  rcases le_or_gt (2 ^ Scale.decimalBits) (left.onScale units.scaled) with
    exceeds | fits
  · rw [apply_of_onScale_ge admitted exceeds,
      apply_of_onScale_ge admitted (exceeds.trans_eq onScaleEq.symm),
      onScaleEq]
    exact .same _
  have rightFits := onScaleEq.trans_lt fits
  by_cases zero : left.destination.scaled = 0
  · rw [apply_of_destination_zero admitted fits zero,
      apply_of_destination_zero admitted rightFits
        (same.destination_eq.trans zero)]
    exact .zeroDivisor
  have rightNonzero := same.destination_eq ▸ zero
  rcases le_or_gt (2 ^ Scale.decimalBits) (left.exchanged units.scaled) with
    exceeds | resultFits
  · rw [apply_of_exchanged_ge admitted fits zero exceeds,
      apply_of_exchanged_ge admitted rightFits rightNonzero
        (exceeds.trans_eq exchangedEq.symm),
      exchangedEq]
    exact .same _
  · obtain ⟨first, leftApplied, leftScaled, leftUnsigned⟩ :=
      apply_of_exchanged_lt admitted unsigned fits zero resultFits
    obtain ⟨second, rightApplied, rightScaled, rightUnsigned⟩ :=
      apply_of_exchanged_lt admitted unsigned rightFits rightNonzero
        (exchangedEq.trans_lt resultFits)
    have scaledEq : first.scaled = second.scaled := by
      rw [leftScaled, rightScaled, exchangedEq]
    rw [leftApplied, rightApplied, Failure.ok_bind, Failure.ok_bind]
    exact .of_eq (depends first second leftUnsigned rightUnsigned scaledEq)

/-- What is made of an amount at both rates, copied or computed, ends alike. -/
theorem convert
    {Result : Type}
    (make : Value → Except Failure Result)
    (value : Fixed → Value)
    (depends :
      ∀ first second : Fixed,
        first.isBelowZero = false →
        second.isBelowZero = false →
        first.scaled = second.scaled →
        make (value first) = make (value second))
    (holding : Holding) :
    EndsAlike left.destination right.destination
      (if left.source.scaled = left.destination.scaled then
        make holding.amount
      else left.apply holding.amount >>= fun number => make (value number))
      (if right.source.scaled = right.destination.scaled then
        make holding.amount
      else
        right.apply holding.amount >>= fun number => make (value number)) := by
  obtain ⟨units, admitted, unsigned⟩ := holding.exists_operand .multiply
  rw [same.source_eq, same.destination_eq]
  split_ifs with copied
  · exact .same _
  · exact same.apply_bind admitted unsigned depends

end Rate.SameMagnitudes

/-! ## Rates between known names -/

theorem rate_of_not_accepts
    {registry : Registry}
    {denom target : String}
    (refused : ¬ registry.rule.accepts target = true) :
    registry.rate denom (.text target) =
      .error (.refusedDenom (registry.rule.refusal target)) := by
  rw [rate, DenomRule.check, dif_neg refused, Failure.error_bind]

theorem rate_of_source_none
    {registry : Registry}
    {denom target : String}
    (accepted : registry.rule.accepts target = true)
    (absent : registry.unit? (.text denom) = none) :
    registry.rate denom (.text target) = .error (.unknownSource denom) := by
  rw [rate, DenomRule.check_of_accepts accepted, Failure.ok_bind, absent]

/-- Two registries know a text, with sizes of one magnitude. -/
structure KnowAlike
    (left right : Registry)
    (name : String)
    (first second : Entry) :
    Prop where
  leftFound : left.find? (.text name) = some first
  rightFound : right.find? (.text name) = some second
  scaled_eq : second.unit.scaled = first.unit.scaled

section Known

variable
    {left right : Registry}
    {target : String}
    {source laterSource destination laterDestination : Entry}
    (ruleEq : right.rule = left.rule)
    (targetKnown :
      left.KnowAlike right target destination laterDestination)

include ruleEq targetKnown

/-- Registries with one rule refuse alike, or both find a rate. -/
theorem rate_cases_of_knowAlike
    {denom : String}
    (denomKnown : left.KnowAlike right denom source laterSource) :
    (∃ failure,
      left.rate denom (.text target) = .error failure ∧
        right.rate denom (.text target) = .error failure) ∨
    ∃ leftName rightName,
      left.rate denom (.text target) =
          .ok ⟨leftName, source.unit, destination.unit⟩ ∧
        right.rate denom (.text target) =
          .ok ⟨rightName, laterSource.unit, laterDestination.unit⟩ ∧
        rightName.val = leftName.val := by
  have leftSource := unit?_of_find? denomKnown.leftFound
  have rightSource := unit?_of_find? denomKnown.rightFound
  have leftDestination := unit?_of_find? targetKnown.leftFound
  have rightDestination := unit?_of_find? targetKnown.rightFound
  rw [ruleEq] at rightSource rightDestination
  by_cases accepted : left.rule.accepts target = true
  · have rightAccepted : right.rule.accepts target = true :=
      ruleEq ▸ accepted
    rw [if_pos accepted] at leftDestination rightDestination
    by_cases own : left.rule.accepts denom = true
    · rw [if_pos own] at leftSource rightSource
      exact .inr ⟨_, _,
        rate_of_found accepted leftSource leftDestination,
        rate_of_found rightAccepted rightSource rightDestination, rfl⟩
    · rw [if_neg own] at leftSource rightSource
      exact .inl ⟨_, rate_of_source_none accepted leftSource,
        rate_of_source_none rightAccepted rightSource⟩
  · have rightRefused : ¬ right.rule.accepts target = true :=
      ruleEq ▸ accepted
    refine .inl ⟨_, rate_of_not_accepts accepted, ?_⟩
    rw [rate_of_not_accepts rightRefused, ruleEq]

/-! ## Exchanges between known names -/

variable
    {holding : Holding}
    (denomKnown : left.KnowAlike right holding.denom source laterSource)

include denomKnown

theorem exchange_endsAlike :
    EndsAlike destination.unit laterDestination.unit
      (left.exchange holding (.text target))
      (right.exchange holding (.text target)) := by
  rcases rate_cases_of_knowAlike ruleEq targetKnown denomKnown with
    ⟨failure, leftFailed, rightFailed⟩ |
      ⟨leftName, rightName, leftFound, rightFound, nameEq⟩
  · rw [exchange_of_rate_error leftFailed, exchange_of_rate_error rightFailed]
    exact .same _
  have same :
      (Rate.mk leftName source.unit destination.unit).SameMagnitudes
        (Rate.mk rightName laterSource.unit laterDestination.unit) :=
    ⟨denomKnown.scaled_eq, targetKnown.scaled_eq⟩
  have makeEq : Coin.make right.rule = Coin.make left.rule :=
    congrArg Coin.make ruleEq
  rw [exchange_of_rate leftFound, exchange_of_rate rightFound, makeEq, nameEq]
  refine same.convert (Coin.make left.rule (.text leftName.val))
    (fun number => .integer number.integerPart) ?_ holding
  intro first second firstUnsigned secondUnsigned scaledEq
  rw [Quantized.integerPart_eq firstUnsigned secondUnsigned scaledEq]

theorem exchangeDecimal_endsAlike :
    EndsAlike destination.unit laterDestination.unit
      (left.exchangeDecimal holding (.text target))
      (right.exchangeDecimal holding (.text target)) := by
  rcases rate_cases_of_knowAlike ruleEq targetKnown denomKnown with
    ⟨failure, leftFailed, rightFailed⟩ |
      ⟨leftName, rightName, leftFound, rightFound, nameEq⟩
  · rw [exchangeDecimal_of_rate_error leftFailed,
      exchangeDecimal_of_rate_error rightFailed]
    exact .same _
  have same :
      (Rate.mk leftName source.unit destination.unit).SameMagnitudes
        (Rate.mk rightName laterSource.unit laterDestination.unit) :=
    ⟨denomKnown.scaled_eq, targetKnown.scaled_eq⟩
  have makeEq : DecimalCoin.make right.rule = DecimalCoin.make left.rule :=
    congrArg DecimalCoin.make ruleEq
  rw [exchangeDecimal_of_rate leftFound, exchangeDecimal_of_rate rightFound,
    makeEq, nameEq]
  refine same.convert (DecimalCoin.make left.rule (.text leftName.val))
    (fun number => number.toValue) ?_ holding
  intro first second firstUnsigned secondUnsigned scaledEq
  have accepted := leftName.property
  have firstMade := DecimalCoin.makes_toValue accepted firstUnsigned
  have secondMade := DecimalCoin.makes_toValue accepted secondUnsigned
  rw [← scaledEq] at secondMade
  exact firstMade.attempt_eq secondMade

end Known

/-! ## Base forms -/

section Linked

variable
    {left right : Registry}
    {holding : Holding}
    {base : Value}
    {first second : UnitSize}
    (leftLinked : left.base (.text holding.denom) = .ok base)
    (rightLinked : right.base (.text holding.denom) = .ok base)

include leftLinked rightLinked

/-- Exchanges into one base that end alike give one base form. -/
theorem baseForm_eq_of_endsAlike
    (alike :
      EndsAlike first second
        (left.exchange holding base) (right.exchange holding base)) :
    right.baseForm holding = left.baseForm holding := by
  rw [baseForm, baseForm, leftLinked, rightLinked, Failure.ok_bind]
  exact ((alike.bind fun coin => pure (Holding.whole coin)).orKeep_eq _).symm

theorem baseFormDecimal_eq_of_endsAlike
    (alike :
      EndsAlike first second
        (left.exchangeDecimal holding base)
        (right.exchangeDecimal holding base)) :
    right.baseFormDecimal holding = left.baseFormDecimal holding := by
  rw [baseFormDecimal, baseFormDecimal, leftLinked, rightLinked,
    Failure.ok_bind]
  exact
    ((alike.bind fun coin => pure (Holding.fractional coin)).orKeep_eq _).symm

end Linked

end Registry

end Coinage
