import Coinage.Proofs.BaseForm.Outcome
import Coinage.Proofs.Exchange.Detour
import Coinage.Proofs.Registry.History

/-!
# Base forms of base forms

A base that is a text is entered with a link to itself, and a denomination that
is known is never linked anew except as a base.  So every link of a registry
whose bases are all texts ends in a name that is linked to itself, whatever role
a name had before.  A coin of such a name is exchanged into its own
denomination, which copies it.  Hence bringing a coin to its base form twice is
bringing it there once.
-/

namespace Coinage.Registry

variable {registry : Registry}

/-! ## Links end in themselves -/

/-- Every base that a text is linked to is a text that is linked to itself. -/
def SelfLinked (registry : Registry) : Prop :=
  ∀ name base,
    registry.Linked name base →
      ∃ content, base = .text content ∧ registry.Linked content base

namespace SelfLinked

theorem empty (rule : DenomRule) :
    (Registry.empty rule).SelfLinked := by
  rintro name base ⟨entry, found, -⟩
  cases found

/-- What is entered last links to the base itself.  An older link still ends in
a name that is linked to itself, since only an unknown denomination is linked
elsewhere. -/
theorem enterBoth
    {name base : String}
    {own shared : UnitSize}
    (selfLinked : registry.SelfLinked)
    (fresh : registry.find? (.text name) = none) :
    (registry.enterBoth name own (.text base) shared).SelfLinked := by
  have found :=
    registry.find?_enterBoth name own (.text base) shared
  have entered :
      (Value.text base).isVacant = false →
        (registry.enterBoth name own (.text base) shared).Linked base
          (.text base) := by
    intro usable
    exact ⟨_, by rw [found, if_pos rfl], rfl, usable⟩
  rintro other link ⟨entry, otherFound, linkEq, usable⟩
  rw [found] at otherFound
  split_ifs at otherFound with isBase isName
  · cases otherFound
    cases linkEq
    exact ⟨base, rfl, entered usable⟩
  · cases otherFound
    cases linkEq
    exact ⟨base, rfl, entered usable⟩
  · obtain ⟨content, rfl, last, lastFound, lastLink, -⟩ :=
      selfLinked other link ⟨entry, otherFound, linkEq, usable⟩
    refine ⟨content, rfl, ?_⟩
    by_cases overwritten : base = content
    · subst overwritten
      exact entered usable
    · have baseNe : Value.text base ≠ .text content := by
        intro same
        exact overwritten (Value.text.inj same)
      have nameNe : name ≠ content := by
        rintro rfl
        rw [fresh] at lastFound
        cases lastFound
      refine ⟨last, ?_, lastLink, usable⟩
      rw [found, if_neg baseNe, if_neg nameNe, lastFound]

/-- Every call keeps the links, whether it is granted or refused. -/
theorem serve
    (selfLinked : registry.SelfLinked)
    (call : Call) :
    (call.serve registry).registry.SelfLinked := by
  rcases registry.admission_cases call.denom call.unit call.baseUnit with
    ⟨name, own, shared, admitted⟩ | ⟨failure, refused⟩
  · rw [Call.serve, register_of_text admitted _]
    exact selfLinked.enterBoth (admitted.named ▸ admitted.fresh)
  · rw [Call.serve, register_of_refused refused]
    exact selfLinked

theorem ofCalls
    (rule : DenomRule)
    (calls : List Call) :
    (History.ofCalls rule calls).registry.SelfLinked := by
  have run :
      ∀ history : History, history.registry.SelfLinked →
        (calls.foldl History.extend history).registry.SelfLinked := by
    induction calls with
    | nil =>
        exact fun history selfLinked => selfLinked
    | cons call calls served =>
        exact fun history selfLinked => served _ (selfLinked.serve call)
  exact run _ (empty rule)

/-- A rule copes with texts, and so with every base. -/
theorem copesWithBase
    (selfLinked : registry.SelfLinked)
    (denom : String) :
    registry.CopesWithBase denom := by
  intro base linked
  obtain ⟨content, rfl, -⟩ := selfLinked denom base linked
  exact registry.rule.copesWith_text content

end SelfLinked

/-! ## Coins of a base -/

/-- What was exchanged has the name of a registered denomination. -/
theorem unit?_of_exchangeOwn
    {holding result : Holding}
    {target : Value}
    (exchanged : registry.exchangeOwn holding target = .ok result) :
    ∃ unit, registry.unit? (.text result.denom) = some unit := by
  rw [← (named_of_exchangeOwn exchanged).1]
  cases found : registry.rate holding.denom target with
  | error failure =>
      rw [exchangeOwn_of_rate_error found] at exchanged
      cases exchanged
  | ok rate =>
      exact ⟨rate.destination, (rate_eq_ok_iff.1 found).2.2⟩

/-- A coin with the rule of the registry is its own exchange into its
denomination. -/
theorem exchangeOwn_self
    {holding : Holding}
    {unit : UnitSize}
    (ruleEq : holding.rule = registry.rule)
    (found : registry.unit? (.text holding.denom) = some unit) :
    registry.exchangeOwn holding (.text holding.denom) = .ok holding := by
  have own := rate_of_found (accepts_of_unit? found) found found
  cases holding with
  | whole coin =>
      have copied := exchange_whole_of_same_size own rfl
      exact exchangeOwn_whole_iff.2
        (copied.attempt_eq ⟨coin, rfl, ruleEq, rfl, rfl⟩)
  | fractional coin =>
      have copied := exchangeDecimal_of_same_size own rfl
      exact exchangeOwn_fractional_iff.2
        (copied.attempt_eq ⟨coin, rfl, ruleEq, rfl, rfl⟩)

/-! ## Twice is once -/

section Twice

variable (selfLinked : registry.SelfLinked)

include selfLinked

/-- A coin of a linked base that has the rule of the registry is its own base
form. -/
theorem baseFormOwn_of_linked
    {denom : String}
    {holding : Holding}
    {unit : UnitSize}
    (linked : registry.Linked denom (.text holding.denom))
    (ruleEq : holding.rule = registry.rule)
    (found : registry.unit? (.text holding.denom) = some unit) :
    registry.baseFormOwn holding = .ok holding := by
  obtain ⟨content, named, own⟩ := selfLinked denom _ linked
  cases named
  exact baseFormOwn_of_exchangeOwn own (exchangeOwn_self ruleEq found)

theorem baseFormOwn_of_becomes
    {holding result : Holding}
    (becomes : registry.Becomes holding result) :
    registry.baseFormOwn result = .ok result := by
  cases becomes with
  | kept stays =>
      exact baseFormOwn_of_stays (selfLinked.copesWithBase _) stays
  | exchanged _ linked exchanged baseEq ruleEq =>
      obtain ⟨unit, found⟩ := unit?_of_exchangeOwn exchanged
      exact baseFormOwn_of_linked selfLinked (baseEq ▸ linked) ruleEq found

/-- The whole base form of a decimal coin that was exchanged into its base is
its own base form. -/
theorem baseForm_wholeCoin_based
    {coin : DecimalCoin}
    {base : Value}
    {converted : DecimalCoin}
    (linked : registry.base (.text coin.denom) = .ok base)
    (exchanged :
      registry.exchangeDecimal (.fractional coin) base = .ok converted) :
    registry.baseForm (.whole (registry.based coin).wholeCoin) =
      .ok (.whole (registry.based coin).wholeCoin) := by
  obtain ⟨baseEq, ruleEq⟩ := named_of_exchangeDecimal exchanged
  obtain ⟨unit, found⟩ :=
    unit?_of_exchangeOwn (exchangeOwn_fractional_iff.2 exchanged)
  rw [based_of_exchangeDecimal linked exchanged]
  rw [base_eq_ok_iff, baseEq] at linked
  have linkedWhole :
      registry.Linked coin.denom
        (.text (Holding.whole converted.wholeCoin).denom) :=
    linked
  exact baseFormOwn_of_linked selfLinked linkedWhole ruleEq found

end Twice

/-- Base forms are their own base forms: those of whole coins, those of decimal
coins, and the whole base forms of decimal coins that are exchanged into their
bases. -/
structure SettlesOnce (registry : Registry) : Prop where
  whole :
    ∀ coin : Coin,
      ∃ based,
        registry.baseForm (.whole coin) = .ok (.whole based) ∧
          registry.baseForm (.whole based) = .ok (.whole based)
  fractional :
    ∀ coin : DecimalCoin,
      ∃ based,
        registry.baseFormDecimal (.fractional coin) =
            .ok (.fractional based) ∧
          registry.baseFormDecimal (.fractional based) =
            .ok (.fractional based)
  listed :
    ∀ coins : List DecimalCoin,
      ∃ results,
        registry.wholeBaseForms (coins.map .fractional) = .ok results ∧
          List.Forall₂
            (fun coin result =>
              (∃ base converted,
                registry.base (.text coin.denom) = .ok base ∧
                  registry.exchangeDecimal (.fractional coin) base =
                    .ok converted) →
              registry.baseForm (.whole result) = .ok (.whole result))
            coins results

/-- Where links end in themselves, base forms are their own base forms. -/
theorem SelfLinked.settlesOnce
    (selfLinked : registry.SelfLinked) :
    registry.SettlesOnce where
  whole coin := by
    obtain ⟨based, reached, becomes⟩ :=
      exists_becomes_whole (selfLinked.copesWithBase coin.denom)
    exact ⟨based, reached, baseFormOwn_of_becomes selfLinked becomes⟩
  fractional coin := by
    obtain ⟨based, reached, becomes⟩ :=
      exists_becomes_fractional (selfLinked.copesWithBase coin.denom)
    exact ⟨based, reached, baseFormOwn_of_becomes selfLinked becomes⟩
  listed coins := by
    have cope :
        ∀ coin ∈ coins, registry.CopesWithBase coin.denom :=
      fun coin _ => selfLinked.copesWithBase coin.denom
    refine ⟨_, wholeBaseForms_fractional cope, ?_⟩
    rw [List.forall₂_map_right_iff, List.forall₂_same]
    rintro coin - ⟨base, converted, linked, exchanged⟩
    exact baseForm_wholeCoin_based selfLinked linked exchanged

/--
After any calls whose bases are texts, granted or refused, bringing a coin to its
base form twice is bringing it there once, for coins of both kinds and with their
names, amounts and rules.
-/
theorem baseForm_idempotent
    (rule : DenomRule)
    (calls : List Call) :
    (History.ofCalls rule calls).registry.SettlesOnce :=
  (SelfLinked.ofCalls rule calls).settlesOnce

/-- The call that fills the registry of a triple and a single. -/
def tripleCall : Call :=
  ⟨.text "triple", .text "0.000000000000000003", "single",
    .text "0.000000000000000001"⟩

/-- Six tenths of a triple are lifted to two singles, and stay two. -/
theorem baseForm_idempotent_sixTenths :
    ∃ result,
      tripleAndSingle.wholeBaseForms [.fractional sixTenths] =
          .ok [result] ∧
        result.amount = 2 ∧
        tripleAndSingle.baseForm (.whole result) = .ok (.whole result) := by
  have filled :
      (History.ofCalls .standard [tripleCall]).registry = tripleAndSingle :=
    rfl
  have settles := baseForm_idempotent .standard [tripleCall]
  rw [filled] at settles
  obtain ⟨results, reached, each⟩ := settles.listed [sixTenths]
  cases each with
  | cons kept rest =>
      cases rest
      have cope :
          ∀ coin ∈ [sixTenths], tripleAndSingle.CopesWithBase coin.denom :=
        filled ▸ fun coin _ =>
          (SelfLinked.ofCalls .standard [tripleCall]).copesWithBase coin.denom
      have listed := wholeBaseForms_fractional cope
      rw [reached, List.map_singleton, Except.ok.injEq, List.singleton_inj]
        at listed
      subst listed
      refine ⟨_, reached, by decide +kernel, kept ⟨.text "single", ?_⟩⟩
      obtain ⟨converted, exchanged⟩ := exists_exchangeDecimal_sixTenths
      exact ⟨converted, by decide +kernel, exchanged⟩

end Coinage.Registry
