import Coinage.BaseForm
import Coinage.Proofs.Exchange.Decimal
import Coinage.Proofs.Exchange.Whole

/-!
# Exchanges within one kind

A coin of either kind can be exchanged for one of its own kind.  For both kinds
the exchange succeeds exactly if there is a rate and it serves for the units of
the coin.  What prevents it otherwise is absorbed, as long as the rule copes with
the name of the other denomination.
-/

namespace Coinage

/-- The amount of a coin in units of the last place. -/
def Holding.units : Holding → Nat
  | .whole coin => coin.amount * Scale.one
  | .fractional coin => coin.amount.scaled

namespace Registry

/-- There is a rate into another denomination, and it serves for so many
units. -/
def HasRate
    (registry : Registry)
    (denom : String)
    (units : Nat)
    (target : Value) :
    Prop :=
  ∃ rate, registry.rate denom target = .ok rate ∧ rate.Serves units

/-- A coin exchanged for one of its own kind. -/
def exchangeOwn
    (registry : Registry)
    (holding : Holding)
    (target : Value) :
    Except Failure Holding :=
  match holding with
  | .whole _ => do
    let exchanged ← registry.exchange holding target
    return .whole exchanged
  | .fractional _ => do
    let exchanged ← registry.exchangeDecimal holding target
    return .fractional exchanged

/-! ## Settling -/

/-- An attempt succeeds if a condition holds, and otherwise fails for an
absorbed reason. -/
inductive Settles
    {Result : Type}
    (condition : Prop) :
    Except Failure Result →
    Prop where
  | success {result : Result} :
      condition → Settles condition (.ok result)
  | failure {reason : Failure} :
      ¬ condition → reason.isAbsorbed = true →
      Settles condition (.error reason)

namespace Settles

variable
    {Result : Type}
    {condition other : Prop}
    {attempt : Except Failure Result}

theorem congr
    (settles : Settles condition attempt)
    (same : condition ↔ other) :
    Settles other attempt := by
  rwa [← propext same]

theorem exists_result
    (settles : Settles condition attempt)
    (holds : condition) :
    ∃ result, attempt = .ok result := by
  cases settles with
  | success _ => exact ⟨_, rfl⟩
  | failure fails _ => exact absurd holds fails

theorem orKeep_eq
    {kept : Result}
    (settles : Settles condition attempt)
    (fails : ¬ condition) :
    orKeep kept attempt = .ok kept := by
  cases settles with
  | success holds => exact absurd holds fails
  | failure _ absorbed => rw [orKeep, if_pos absorbed]

theorem isAbsorbed
    {failure : Failure}
    (settles : Settles condition attempt)
    (failed : attempt = .error failure) :
    failure.isAbsorbed = true := by
  cases settles with
  | success _ => cases failed
  | failure _ absorbed =>
      cases failed
      exact absorbed

end Settles

/-! ## Exchanges that settle -/

variable
    {registry : Registry}
    {holding : Holding}
    {target : Value}

theorem hasRate_iff
    {denom : String}
    {units : Nat}
    {rate : Rate registry.rule}
    (found : registry.rate denom target = .ok rate) :
    registry.HasRate denom units target ↔ rate.Serves units := by
  constructor
  · rintro ⟨other, otherFound, serves⟩
    rw [found] at otherFound
    cases otherFound
    exact serves
  · exact fun serves => ⟨rate, found, serves⟩

theorem exchangeOwn_of_rate_error
    {failure : Failure}
    (failed : registry.rate holding.denom target = .error failure) :
    registry.exchangeOwn holding target = .error failure := by
  cases holding with
  | whole coin =>
      rw [exchangeOwn, exchange_of_rate_error failed, Failure.error_bind]
  | fractional coin =>
      rw [exchangeOwn, exchangeDecimal_of_rate_error failed,
        Failure.error_bind]

/-- Once the rate is known, the coin is exchanged exactly if it serves. -/
theorem settles_of_rate
    {rate : Rate registry.rule}
    (found : registry.rate holding.denom target = .ok rate) :
    Settles (rate.Serves holding.units)
      (registry.exchangeOwn holding target) := by
  cases holding with
  | whole coin =>
      rw [exchangeOwn]
      rcases exchange_whole_cases found with
        ⟨same, _, made, -⟩ | ⟨-, applies, _, made, -⟩ |
          ⟨fails, _, failed⟩ | ⟨fails, _, failed⟩
      · rw [made]
        exact .success (.inl same)
      · rw [made]
        exact .success (.inr applies)
      · rw [failed]
        exact .failure fails rfl
      · rw [failed]
        exact .failure fails rfl
  | fractional coin =>
      rw [exchangeOwn]
      rcases exchangeDecimal_cases found with
        ⟨same, _, made, -⟩ | ⟨-, applies, _, made, -⟩ |
          ⟨fails, _, absorbed, failed⟩
      · rw [made]
        exact .success (.inl same)
      · rw [made]
        exact .success (.inr applies)
      · rw [failed]
        exact .failure fails absorbed

theorem settles_exchangeOwn
    (holding : Holding)
    (copes : registry.rule.CopesWith target) :
    Settles (registry.HasRate holding.denom holding.units target)
      (registry.exchangeOwn holding target) := by
  cases found : registry.rate holding.denom target with
  | error failure =>
      rw [exchangeOwn_of_rate_error found]
      refine .failure ?_ (isAbsorbed_of_rate_error copes found)
      rintro ⟨rate, other, -⟩
      rw [found] at other
      cases other
  | ok rate =>
      exact (settles_of_rate found).congr (hasRate_iff found).symm

/-! ## What is received -/

/-- A whole coin is received for a whole one, and a decimal coin for a decimal
one. -/
theorem exchangeOwn_cases
    {result : Holding}
    (exchanged : registry.exchangeOwn holding target = .ok result) :
    (∃ coin received,
      holding = .whole coin ∧
        result = .whole received ∧
        registry.exchange (.whole coin) target = .ok received) ∨
    (∃ coin received,
      holding = .fractional coin ∧
        result = .fractional received ∧
        registry.exchangeDecimal (.fractional coin) target =
          .ok received) := by
  cases holding with
  | whole coin =>
      obtain ⟨received, made, wrapped⟩ := Failure.bind_eq_ok_iff.1 exchanged
      cases wrapped
      exact .inl ⟨coin, received, rfl, rfl, made⟩
  | fractional coin =>
      obtain ⟨received, made, wrapped⟩ := Failure.bind_eq_ok_iff.1 exchanged
      cases wrapped
      exact .inr ⟨coin, received, rfl, rfl, made⟩

theorem kind_of_exchangeOwn
    {result : Holding}
    (exchanged : registry.exchangeOwn holding target = .ok result) :
    result.kind = holding.kind := by
  rcases exchangeOwn_cases exchanged with
    ⟨_, _, rfl, rfl, -⟩ | ⟨_, _, rfl, rfl, -⟩
  · rfl
  · rfl

/-- A coin received has the name that was asked for and the rule of the
registry. -/
theorem named_of_exchangeOwn
    {result : Holding}
    (exchanged : registry.exchangeOwn holding target = .ok result) :
    target = .text result.denom ∧ result.rule = registry.rule := by
  rcases exchangeOwn_cases exchanged with
    ⟨_, _, -, rfl, made⟩ | ⟨_, _, -, rfl, made⟩
  · exact named_of_exchange made
  · exact named_of_exchangeDecimal made

theorem exchangeOwn_whole_iff
    {coin received : Coin} :
    registry.exchangeOwn (.whole coin) target = .ok (.whole received) ↔
      registry.exchange (.whole coin) target = .ok received :=
  Failure.bind_pure_eq_ok_iff fun _ _ => Holding.whole.inj

theorem exchangeOwn_fractional_iff
    {coin received : DecimalCoin} :
    registry.exchangeOwn (.fractional coin) target =
        .ok (.fractional received) ↔
      registry.exchangeDecimal (.fractional coin) target = .ok received :=
  Failure.bind_pure_eq_ok_iff fun _ _ => Holding.fractional.inj

end Registry

end Coinage
