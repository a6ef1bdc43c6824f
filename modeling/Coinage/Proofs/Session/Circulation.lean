import Coinage.Proofs.Coin.Remake
import Coinage.Proofs.Expression.Sequence
import Coinage.Proofs.Session.Isolation

/-!
# Coins in circulation

A session answers each step once, and the answer to a step depends on what came
before it only.  The coins in an answer are coins of earlier answers, coins that
the step describes, or coins that are made from these.  A coin brings its rule
along, and so a session can hold coins of several rules: that of its registry,
and those that its steps name.  An exchange leaves none of the others; its
results carry the rule of the registry, whatever the rule of the coin that was
exchanged.
-/

namespace Coinage

/-! ## The rules of coins that are made from coins -/

namespace Holding

theorem rule_of_toDecimal
    {holding : Holding}
    {result : DecimalCoin}
    (made : holding.toDecimal = .ok result) :
    result.rule = holding.rule :=
  (DecimalCoin.named_of_make made).2

/-- Both parts of a coin carry its rule. -/
theorem rule_of_truncate
    {holding : Holding}
    {kept : Coin}
    {rest : DecimalCoin}
    (split : holding.truncate = .ok (kept, rest)) :
    kept.rule = holding.rule ∧ rest.rule = holding.rule := by
  cases holding with
  | whole coin =>
      cases split
  | fractional coin =>
      cases coin.truncate_eq.symm.trans split
      exact ⟨rfl, rfl⟩

end Holding

/-- A coin that is read carries the rule that it is read by. -/
theorem Expression.rule_of_coin
    {rule : DenomRule}
    {source : Value}
    {result : DecimalCoin}
    (read : coin rule source = .ok result) :
    result.rule = rule := by
  cases source with
  | text content => exact (plainName_of_coinOfText read).2
  | integer | float | decimal | boolean | absent | nan => cases read

namespace Registry

variable
    {registry : Registry}
    {holding : Holding}

/-- What is not kept comes from the attempt. -/
theorem orKeep_eq_ok
    {Item : Type}
    {kept result : Item}
    {attempt : Except Failure Item}
    (succeeded : orKeep kept attempt = .ok result) :
    result = kept ∨ attempt = .ok result := by
  cases attempt with
  | ok item =>
      exact .inr succeeded
  | error failure =>
      rw [orKeep] at succeeded
      split_ifs at succeeded
      cases succeeded
      exact .inl rfl

/-- A coin is kept, or it has what each coin has that an attempt makes. -/
theorem eq_or_of_orKeep
    {Item : Type}
    {base : Except Failure Value}
    {attempt : Value → Except Failure Item}
    {wrap : Item → Holding}
    {result : Holding}
    {motive : Holding → Prop}
    (succeeded :
      orKeep holding (do
        let target ← base
        let item ← attempt target
        return wrap item) = .ok result)
    (made : ∀ target item, attempt target = .ok item → motive (wrap item)) :
    result = holding ∨ motive result := by
  refine (orKeep_eq_ok succeeded).imp_right fun attempted => ?_
  obtain ⟨target, -, attempted⟩ := Failure.bind_eq_ok_iff.1 attempted
  obtain ⟨item, exchanged, attempted⟩ := Failure.bind_eq_ok_iff.1 attempted
  cases attempted
  exact made target item exchanged

/-- A base form is the coin itself, or it carries the rule of the registry. -/
theorem eq_or_rule_eq_of_baseForm
    {result : Holding}
    (based : registry.baseForm holding = .ok result) :
    result = holding ∨ result.rule = registry.rule :=
  eq_or_of_orKeep
    (motive := fun result => result.rule = registry.rule)
    based fun _ _ exchanged => (named_of_exchange exchanged).2

theorem eq_or_rule_eq_of_baseFormDecimal
    {result : Holding}
    (based : registry.baseFormDecimal holding = .ok result) :
    result = holding ∨ result.rule = registry.rule :=
  eq_or_of_orKeep
    (motive := fun result => result.rule = registry.rule)
    based fun _ _ exchanged => (named_of_exchangeDecimal exchanged).2

theorem rule_of_wholeBaseForm
    {result : Coin}
    (based : registry.wholeBaseForm holding = .ok result) :
    result.rule = holding.rule ∨ result.rule = registry.rule := by
  obtain ⟨middle, found, cut⟩ := Failure.bind_eq_ok_iff.1 based
  obtain ⟨⟨kept, rest⟩, split, cut⟩ := Failure.bind_eq_ok_iff.1 cut
  cases cut
  have ruleEq := (Holding.rule_of_truncate split).1
  rcases eq_or_rule_eq_of_baseFormDecimal found with rfl | middleRule
  · exact .inl ruleEq
  · exact .inr (ruleEq.trans middleRule)

/-- What is read into whole base forms carries the rule of the registry, kept or
exchanged. -/
theorem rule_of_readWhole
    {source : Value}
    {result : Coin}
    (read : registry.readWhole source = .ok result) :
    result.rule = registry.rule := by
  obtain ⟨coin, denoted, based⟩ := Failure.bind_eq_ok_iff.1 read
  rcases rule_of_wholeBaseForm based with ruleEq | ruleEq
  · exact ruleEq.trans (Expression.rule_of_coin denoted)
  · exact ruleEq

theorem rule_of_readWholes
    {source : Value}
    {results : List Coin}
    (read : registry.readWholes source = .ok results)
    {result : Coin}
    (member : result ∈ results) :
    result.rule = registry.rule := by
  obtain ⟨coins, denoted, based⟩ := Failure.bind_eq_ok_iff.1 read
  obtain ⟨holding, listed, made⟩ := Failure.exists_of_mem_mapM based member
  obtain ⟨coin, among, rfl⟩ := List.mem_map.1 listed
  rcases rule_of_wholeBaseForm made with ruleEq | ruleEq
  · exact ruleEq.trans (Expression.plainName_of_coins denoted coin among).2
  · exact ruleEq

end Registry

/-! ## The rules that are named -/

/-- The rule that a source names. -/
def CoinSource.rules : CoinSource → List DenomRule
  | .whole rule _ _ | .fractional rule _ _ => [rule]
  | .earlier _ => []

/-- The rules that a question names, for coins that may be in its answer. -/
def Question.rules : Question → List DenomRule
  | .make coin | .truncate coin | .toDecimal coin | .baseForm coin
  | .baseFormDecimal coin => coin.rules
  | .wholeBaseForms (some coins) => coins.flatMap CoinSource.rules
  | .readCoin rule _ | .readCoins rule _ => [rule]
  | _ => []

/-- The rules that a step names, for coins that may be in its answer. -/
def Step.rules : Step → List DenomRule
  | .registration _ => []
  | .question asked => asked.rules

/-- The coins of an answer carry no rules but the allowed ones. -/
def Answer.Carries
    (allowed : DenomRule → Prop)
    (answer : Answer) :
    Prop :=
  ∀ holding ∈ answer.holdings, allowed holding.rule

section Carries

variable {allowed : DenomRule → Prop}

namespace Answer

theorem carries_of_holdings_eq_nil
    {answer : Answer}
    (none : answer.holdings = []) :
    answer.Carries allowed := by
  intro holding member
  rw [none] at member
  cases member

theorem carries_coin
    {holding : Holding}
    (ruleAllowed : allowed holding.rule) :
    (Answer.coin holding).Carries allowed := by
  intro other member
  obtain rfl := List.mem_singleton.1 member
  exact ruleAllowed

theorem carries_split
    {kept : Coin}
    {rest : DecimalCoin}
    (keptAllowed : allowed kept.rule)
    (restAllowed : allowed rest.rule) :
    (split kept rest).Carries allowed :=
  List.forall_mem_cons.2
    ⟨keptAllowed, List.forall_mem_singleton.2 restAllowed⟩

/-- An answer that is the coin of an attempt. -/
theorem carries_of_bind_coin
    {Item : Type}
    {attempt : Except Failure Item}
    {wrap : Item → Holding}
    {answer : Answer}
    (answered :
      (do
        let item ← attempt
        return Answer.coin (wrap item)) = .ok answer)
    (made : ∀ item, attempt = .ok item → allowed (wrap item).rule) :
    answer.Carries allowed := by
  obtain ⟨item, succeeded, answered⟩ := Failure.bind_eq_ok_iff.1 answered
  cases answered
  exact carries_coin (made item succeeded)

/-- An answer that is the list of coins of an attempt. -/
theorem carries_of_bind_coins
    {Item : Type}
    {attempt : Except Failure (List Item)}
    {wrap : Item → Holding}
    {answer : Answer}
    (answered :
      (do
        let items ← attempt
        return Answer.coins (items.map wrap)) = .ok answer)
    (made :
      ∀ items,
        attempt = .ok items →
        ∀ item ∈ items, allowed (wrap item).rule) :
    answer.Carries allowed := by
  obtain ⟨items, succeeded, answered⟩ := Failure.bind_eq_ok_iff.1 answered
  cases answered
  exact List.forall_mem_map.2 (made items succeeded)

/-- An answer that is only wrapped up, without a coin. -/
theorem carries_of_map
    {Item : Type}
    {attempt : Except Failure Item}
    {wrap : Item → Answer}
    {answer : Answer}
    (answered : attempt.map wrap = .ok answer)
    (coinless : ∀ item, (wrap item).holdings = []) :
    answer.Carries allowed := by
  cases attempt with
  | ok item =>
      cases answered
      exact carries_of_holdings_eq_nil (coinless item)
  | error failure =>
      cases answered

/-- Comparing gives no coin. -/
theorem carries_of_compare
    {left right answer : Answer}
    {areOne : Bool}
    (answered : left.compare right areOne = .ok answer) :
    answer.Carries allowed := by
  rw [compare] at answered
  split_ifs at answered
  all_goals
    obtain ⟨-, -, answered⟩ := Failure.bind_eq_ok_iff.1 answered
    obtain ⟨-, -, answered⟩ := Failure.bind_eq_ok_iff.1 answered
    cases answered
    exact carries_of_holdings_eq_nil rfl

theorem asHolding_eq_ok_iff
    {part : String}
    {answer : Answer}
    {holding : Holding} :
    answer.asHolding part = .ok holding ↔ answer = .coin holding := by
  cases answer <;> simp [asHolding]

end Answer

namespace CoinSource

variable
    {source : CoinSource}
    {earlier : List Answer}
    (before : ∀ answer ∈ earlier, answer.Carries allowed)
    (named : ∀ rule ∈ source.rules, allowed rule)

include before named in
/-- What a source gives is of its own rule, or an earlier answer. -/
theorem carries_of_take
    {answer : Answer}
    (taken : source.take earlier = .ok answer) :
    answer.Carries allowed := by
  cases source with
  | whole rule denom amount =>
      refine Answer.carries_of_bind_coin taken fun coin made => ?_
      rw [Holding.rule, (Coin.named_of_make made).2]
      exact named rule List.mem_cons_self
  | fractional rule denom amount =>
      refine Answer.carries_of_bind_coin taken fun coin made => ?_
      rw [Holding.rule, (DecimalCoin.named_of_make made).2]
      exact named rule List.mem_cons_self
  | earlier step =>
      rw [take] at taken
      split at taken
      · rename_i found
        cases taken
        exact before _ (List.mem_of_getElem? found)
      · cases taken

include before named in
theorem allowed_of_takeHolding
    {part : String}
    {holding : Holding}
    (taken : source.takeHolding earlier part = .ok holding) :
    allowed holding.rule := by
  obtain ⟨answer, found, isCoin⟩ := Failure.bind_eq_ok_iff.1 taken
  obtain rfl := Answer.asHolding_eq_ok_iff.1 isCoin
  exact carries_of_take before named found holding List.mem_cons_self

/-- What holds of each coin that is made from the one that a source gives, holds
of each coin in the answer. -/
theorem forall_holdings_of_bind
    {source : CoinSource}
    {earlier : List Answer}
    {Item : Type}
    {part : String}
    {attempt : Holding → Except Failure Item}
    {wrap : Item → Holding}
    {answer : Answer}
    {motive : Holding → Prop}
    (answered :
      (do
        let holding ← source.takeHolding earlier part
        let result ← attempt holding
        return Answer.coin (wrap result)) = .ok answer)
    (made :
      ∀ holding result,
        source.takeHolding earlier part = .ok holding →
        attempt holding = .ok result →
        motive (wrap result)) :
    ∀ holding ∈ answer.holdings, motive holding := by
  obtain ⟨holding, taken, answered⟩ := Failure.bind_eq_ok_iff.1 answered
  obtain ⟨result, succeeded, answered⟩ := Failure.bind_eq_ok_iff.1 answered
  cases answered
  exact List.forall_mem_singleton.2 (made holding result taken succeeded)

end CoinSource

/-! ## One step -/

/-- The whole base forms of coins that sources give. -/
theorem CoinSource.allowed_of_wholeBaseForms
    {registry : Registry}
    {earlier taken : List Answer}
    {sources : List CoinSource}
    {results : List Coin}
    (before : ∀ answer ∈ earlier, answer.Carries allowed)
    (own : allowed registry.rule)
    (named : ∀ rule ∈ sources.flatMap CoinSource.rules, allowed rule)
    (found :
      (sources.mapM fun source => source.take earlier) = .ok taken)
    (based :
      (taken.mapM fun answer => do
        let holding ← answer.asHolding "denom"
        registry.wholeBaseForm holding) = .ok results)
    {result : Coin}
    (member : result ∈ results) :
    allowed result.rule := by
  obtain ⟨answer, among, attempted⟩ :=
    Failure.exists_of_mem_mapM based member
  obtain ⟨source, listed, given⟩ := Failure.exists_of_mem_mapM found among
  obtain ⟨holding, isCoin, made⟩ := Failure.bind_eq_ok_iff.1 attempted
  obtain rfl := Answer.asHolding_eq_ok_iff.1 isCoin
  have sourceNamed : ∀ rule ∈ source.rules, allowed rule :=
    fun rule ofSource =>
      named rule (List.mem_flatMap.2 ⟨source, listed, ofSource⟩)
  have carried := source.carries_of_take before sourceNamed given
  rcases Registry.rule_of_wholeBaseForm made with ruleEq | ruleEq
  · exact ruleEq ▸ carried holding List.mem_cons_self
  · exact ruleEq ▸ own

namespace Question

section Converting

variable
    {registry : Registry}
    {earlier : List Answer}
    {source : CoinSource}
    {target : Value}
    {answer : Answer}

/-- What is exchanged carries the rule of the registry. -/
theorem carries_of_exchange
    (answered :
      (exchange source target).answer registry earlier = .ok answer) :
    answer.Carries (· = registry.rule) := by
  refine CoinSource.forall_holdings_of_bind answered ?_
  intro holding result _ exchanged
  exact (Registry.named_of_exchange exchanged).2

theorem carries_of_exchangeDecimal
    (answered :
      (exchangeDecimal source target).answer registry earlier =
        .ok answer) :
    answer.Carries (· = registry.rule) := by
  refine CoinSource.forall_holdings_of_bind answered ?_
  intro holding result _ exchanged
  exact (Registry.named_of_exchangeDecimal exchanged).2

/-- What is brought to its base form is what was given, or it carries the rule
of the registry. -/
theorem taken_or_rule_eq_of_baseForm
    (answered : (baseForm source).answer registry earlier = .ok answer) :
    ∀ holding ∈ answer.holdings,
      source.takeHolding earlier "denom" = .ok holding ∨
        holding.rule = registry.rule := by
  refine CoinSource.forall_holdings_of_bind answered ?_
  intro holding result taken based
  refine (Registry.eq_or_rule_eq_of_baseForm based).imp_left ?_
  rintro rfl
  exact taken

theorem taken_or_rule_eq_of_baseFormDecimal
    (answered :
      (baseFormDecimal source).answer registry earlier = .ok answer) :
    ∀ holding ∈ answer.holdings,
      source.takeHolding earlier "denom" = .ok holding ∨
        holding.rule = registry.rule := by
  refine CoinSource.forall_holdings_of_bind answered ?_
  intro holding result taken based
  refine (Registry.eq_or_rule_eq_of_baseFormDecimal based).imp_left ?_
  rintro rfl
  exact taken

end Converting

/-- If the rule of a registry is allowed, and those that a question names and
those of earlier answers are, then so are those of the answer. -/
theorem carries_of_answer
    {question : Question}
    {registry : Registry}
    {earlier : List Answer}
    {answer : Answer}
    (before : ∀ answer ∈ earlier, answer.Carries allowed)
    (own : allowed registry.rule)
    (named : ∀ rule ∈ question.rules, allowed rule)
    (answered : question.answer registry earlier = .ok answer) :
    answer.Carries allowed := by
  cases question with
  | constants | report | contains =>
      cases answered
      exact Answer.carries_of_holdings_eq_nil rfl
  | decimal | fixed | format | literal | bitLength | decimalBudget
  | integerBudget | integerPart | difference | product | quotient
  | checkName | isName | base =>
      exact Answer.carries_of_map answered fun _ => rfl
  | unit denom =>
      obtain ⟨size?, -, answered⟩ := Failure.bind_eq_ok_iff.1 answered
      cases size? with
      | none =>
          cases answered
          exact Answer.carries_of_holdings_eq_nil rfl
      | some size =>
          cases answered
          exact Answer.carries_of_holdings_eq_nil rfl
  | isRegistered denom =>
      obtain ⟨size?, -, answered⟩ := Failure.bind_eq_ok_iff.1 answered
      cases answered
      exact Answer.carries_of_holdings_eq_nil rfl
  | compare left right =>
      obtain ⟨first, -, answered⟩ := Failure.bind_eq_ok_iff.1 answered
      obtain ⟨second, -, answered⟩ := Failure.bind_eq_ok_iff.1 answered
      exact Answer.carries_of_compare answered
  | make coin =>
      exact coin.carries_of_take before named answered
  | truncate coin =>
      obtain ⟨holding, taken, answered⟩ := Failure.bind_eq_ok_iff.1 answered
      obtain ⟨⟨kept, rest⟩, split, answered⟩ :=
        Failure.bind_eq_ok_iff.1 answered
      cases answered
      have ruleAllowed := coin.allowed_of_takeHolding before named taken
      obtain ⟨keptRule, restRule⟩ := Holding.rule_of_truncate split
      exact Answer.carries_split (keptRule ▸ ruleAllowed)
        (restRule ▸ ruleAllowed)
  | toDecimal coin =>
      refine CoinSource.forall_holdings_of_bind answered ?_
      intro holding result taken made
      rw [Holding.rule, Holding.rule_of_toDecimal made]
      exact coin.allowed_of_takeHolding before named taken
  | readCoin rule source =>
      refine Answer.carries_of_bind_coin answered fun coin read => ?_
      rw [Holding.rule, Expression.rule_of_coin read]
      exact named rule List.mem_cons_self
  | readCoins rule source =>
      refine Answer.carries_of_bind_coins answered ?_
      intro coins read coin member
      rw [Holding.rule, (Expression.plainName_of_coins read coin member).2]
      exact named rule List.mem_cons_self
  | exchange coin target =>
      intro holding member
      exact carries_of_exchange answered holding member ▸ own
  | exchangeDecimal coin target =>
      intro holding member
      exact carries_of_exchangeDecimal answered holding member ▸ own
  | baseForm coin =>
      intro holding member
      rcases taken_or_rule_eq_of_baseForm answered holding member with
        taken | ruleEq
      · exact coin.allowed_of_takeHolding before named taken
      · exact ruleEq ▸ own
  | baseFormDecimal coin =>
      intro holding member
      rcases taken_or_rule_eq_of_baseFormDecimal answered holding member with
        taken | ruleEq
      · exact coin.allowed_of_takeHolding before named taken
      · exact ruleEq ▸ own
  | wholeBaseForms coins? =>
      cases coins? with
      | none =>
          cases answered
          exact Answer.carries_of_holdings_eq_nil rfl
      | some sources =>
          obtain ⟨taken, found, answered⟩ := Failure.bind_eq_ok_iff.1 answered
          refine Answer.carries_of_bind_coins answered ?_
          intro results based result member
          exact CoinSource.allowed_of_wholeBaseForms before own named found
            based member
  | readWhole source =>
      refine Answer.carries_of_bind_coin answered fun coin read => ?_
      rw [Holding.rule, Registry.rule_of_readWhole read]
      exact own
  | readWholes source =>
      refine Answer.carries_of_bind_coins answered ?_
      intro coins read coin member
      rw [Holding.rule, Registry.rule_of_readWholes read member]
      exact own

end Question

/-- Registering answers with no coin. -/
theorem Registration.carries_of_perform
    {registration : Registration}
    {registry : Registry}
    {answer : Answer}
    (answered : (registration.perform registry).answer = .ok answer) :
    answer.Carries allowed := by
  cases registration with
  | denom | staking | sheet =>
      exact Answer.carries_of_map answered fun _ => rfl
  | noSheet =>
      cases answered

namespace Session

/-- The reply to a step. -/
def reply
    (session : Session)
    (step : Step) :
    Reply :=
  match step with
  | .registration request =>
    let outcome := request.perform session.registry
    ⟨outcome.answer, some outcome.registry.report⟩
  | .question asked =>
    ⟨asked.answer session.registry session.answers, none⟩

theorem replies_advance
    (session : Session)
    (step : Step) :
    (session.advance step).replies =
      session.replies ++ [session.reply step] := by
  cases step <;> rfl

/-- What is allowed before a step is allowed in its answer. -/
theorem carries_of_reply
    {session : Session}
    {step : Step}
    {answer : Answer}
    (before : ∀ earlier ∈ session.answers, earlier.Carries allowed)
    (own : allowed session.registry.rule)
    (named : ∀ rule ∈ step.rules, allowed rule)
    (answered : (session.reply step).answer = .ok answer) :
    answer.Carries allowed := by
  cases step with
  | registration registration =>
      exact Registration.carries_of_perform answered
  | question question =>
      exact Question.carries_of_answer before own named answered

/-- So it is allowed in all answers after the step. -/
theorem carries_advance
    {session : Session}
    {step : Step}
    (before : ∀ earlier ∈ session.answers, earlier.Carries allowed)
    (own : allowed session.registry.rule)
    (named : ∀ rule ∈ step.rules, allowed rule) :
    ∀ answer ∈ (session.advance step).answers, answer.Carries allowed := by
  rw [answers, replies_advance, List.map_append]
  intro answer member
  rcases List.mem_append.1 member with earlier | last
  · exact before answer earlier
  · obtain rfl := List.mem_singleton.1 last
    dsimp only
    split
    · rename_i found
      exact carries_of_reply before own named found
    · exact Answer.carries_of_holdings_eq_nil rfl

end Session

end Carries

/-! ## All steps -/

namespace Session

theorem run_concat
    (rule : DenomRule)
    (steps : List Step)
    (step : Step) :
    run rule (steps ++ [step]) = (run rule steps).advance step :=
  List.foldl_concat ..

/-- A session keeps the rule that it began with. -/
theorem rule_run
    (rule : DenomRule)
    (steps : List Step) :
    (run rule steps).registry.rule = rule :=
  rule_after (start rule) steps

theorem length_replies_run
    (rule : DenomRule)
    (steps : List Step) :
    (run rule steps).replies.length = steps.length := by
  induction steps using List.reverseRecOn with
  | nil =>
      rfl
  | append_singleton steps step lengthEq =>
      rw [run_concat, replies_advance, List.length_append, lengthEq,
        List.length_append]
      rfl

/-- Each step is answered once, by what came before it. -/
theorem getElem?_replies_run
    (rule : DenomRule)
    (steps : List Step)
    (index : Nat) :
    (run rule steps).replies[index]? =
      steps[index]?.map (run rule (steps.take index)).reply := by
  induction steps using List.reverseRecOn with
  | nil =>
      rfl
  | append_singleton steps step repliesEq =>
      have lengthEq := length_replies_run rule steps
      rw [run_concat, replies_advance]
      rcases lt_trichotomy index steps.length with before | rfl | beyond
      · rw [List.getElem?_append_left (lengthEq ▸ before),
          List.getElem?_append_left before, repliesEq,
          List.take_append_of_le_length before.le]
      · rw [List.getElem?_append_right lengthEq.le, lengthEq,
          List.getElem?_append_right le_rfl, List.take_left]
        simp
      · have outside : (steps ++ [step]).length ≤ index := by
          rw [List.length_append]
          exact beyond
        have repliesOutside :
            ((run rule steps).replies ++
              [(run rule steps).reply step]).length ≤ index := by
          rw [List.length_append, lengthEq]
          exact beyond
        rw [List.getElem?_eq_none outside,
          List.getElem?_eq_none repliesOutside]
        rfl

/-- If the rule of a session and those that its steps name are allowed, so are
those of all coins. -/
theorem carries_run
    {allowed : DenomRule → Prop}
    {rule : DenomRule}
    {steps : List Step}
    (own : allowed rule)
    (named : ∀ step ∈ steps, ∀ other ∈ step.rules, allowed other) :
    ∀ answer ∈ (run rule steps).answers, answer.Carries allowed := by
  induction steps using List.reverseRecOn with
  | nil =>
      intro answer member
      cases member
  | append_singleton steps step carried =>
      rw [run_concat]
      apply carries_advance
      · exact carried fun earlier member =>
          named earlier (List.mem_append_left _ member)
      · rw [rule_run]
        exact own
      · exact named step (List.mem_append_right _ List.mem_cons_self)

/-- A rule is that of a session, or one of its steps names it. -/
def IsNamed
    (rule : DenomRule)
    (steps : List Step)
    (carried : DenomRule) :
    Prop :=
  carried = rule ∨ ∃ step ∈ steps, carried ∈ step.rules

/-- A step exchanges a coin. -/
inductive Exchanges : Step → Prop where
  | whole (source : CoinSource) (target : Value) :
      Exchanges (.question (.exchange source target))
  | fractional (source : CoinSource) (target : Value) :
      Exchanges (.question (.exchangeDecimal source target))

/-- A step brings the coin of a source to its base form. -/
inductive BringsToBase : Step → CoinSource → Prop where
  | whole (source : CoinSource) :
      BringsToBase (.question (.baseForm source)) source
  | fractional (source : CoinSource) :
      BringsToBase (.question (.baseFormDecimal source)) source

section Answered

variable
    {session : Session}
    {step : Step}
    {answer : Answer}
    {holding : Holding}
    (answered : (session.reply step).answer = .ok answer)
    (returned : holding ∈ answer.holdings)

include answered returned

theorem rule_of_exchanges (exchanges : Exchanges step) :
    holding.rule = session.registry.rule := by
  cases exchanges with
  | whole source target =>
      exact Question.carries_of_exchange answered holding returned
  | fractional source target =>
      exact Question.carries_of_exchangeDecimal answered holding returned

theorem taken_or_rule_of_bringsToBase
    {source : CoinSource}
    (brings : BringsToBase step source) :
    source.takeHolding session.answers "denom" = .ok holding ∨
      holding.rule = session.registry.rule := by
  cases brings with
  | whole =>
      exact Question.taken_or_rule_eq_of_baseForm answered holding returned
  | fractional =>
      exact Question.taken_or_rule_eq_of_baseFormDecimal answered holding
        returned

end Answered

/--
In a session of any length, each coin in each answer is well formed: its own rule
accepts its name, its amount is one of its kind and within the budget, it prints
without failing and without a sign, and it is made by its own parts and by all
that is read as these.  Its rule is that of the session or one that the step, or
one before it, names.  Where a step exchanges a coin, the result carries the rule
of the session, whatever the rule of the coin; where a step brings a coin to its
base form, the result is the coin as it was given or carries the rule of the
session.
-/
theorem coins_wellFormed
    (rule : DenomRule)
    (steps : List Step)
    (index : Nat)
    (reply : Reply)
    (answer : Answer)
    (holding : Holding)
    (replied : (run rule steps).replies[index]? = some reply)
    (answered : reply.answer = .ok answer)
    (returned : holding ∈ answer.holdings) :
    holding.IsWellFormed ∧
    IsNamed rule (steps.take (index + 1)) holding.rule ∧
    ∃ step,
      steps[index]? = some step ∧
        (Exchanges step → holding.rule = rule) ∧
        ∀ source,
          BringsToBase step source →
          source.takeHolding (run rule (steps.take index)).answers "denom" =
              .ok holding ∨
            holding.rule = rule := by
  rw [getElem?_replies_run] at replied
  obtain ⟨step, performed, rfl⟩ := Option.map_eq_some_iff.1 replied
  have upTo : steps.take (index + 1) = steps.take index ++ [step] := by
    rw [List.take_add_one, performed]
    rfl
  have ruleEq := rule_run rule (steps.take index)
  refine ⟨holding.isWellFormed, ?_, step, performed, ?_, ?_⟩
  · -- The rules that are named up to this step are those to be allowed.
    rw [upTo]
    have own : IsNamed rule (steps.take index ++ [step]) rule := .inl rfl
    have before :
        ∀ earlier ∈ (run rule (steps.take index)).answers,
          earlier.Carries (IsNamed rule (steps.take index ++ [step])) :=
      carries_run own fun earlier member other named =>
        .inr ⟨earlier, List.mem_append_left _ member, named⟩
    have ownNow :
        IsNamed rule (steps.take index ++ [step])
          (run rule (steps.take index)).registry.rule :=
      .inl ruleEq
    refine carries_of_reply before ownNow ?_ answered holding returned
    intro other named
    exact .inr ⟨step, List.mem_append_right _ List.mem_cons_self, named⟩
  · intro exchanges
    exact (rule_of_exchanges answered returned exchanges).trans ruleEq
  · intro source brings
    have origin := taken_or_rule_of_bringsToBase answered returned brings
    rwa [ruleEq] at origin

/-- A session that exchanges a coin of another rule, which vanishes in rounding
and had been below zero. -/
def vanishingSteps : List Step :=
  [.registration .staking,
    .question (.exchangeDecimal
      (.fractional .anyText (.text "uatom") (.text "-1e-19"))
      (.text "atom"))]

/-- The exchange gives a well-formed zero without a sign, by the rule of the
session. -/
theorem coins_wellFormed_vanishing :
    ∃ reply answer holding,
      (run .standard vanishingSteps).replies[1]? = some reply ∧
        reply.answer = .ok answer ∧
        holding ∈ answer.holdings ∧
        holding.text = "0.000000000000000000atom" ∧
        holding.IsWellFormed ∧
        holding.rule = .standard := by
  have shown :
      ((run .standard vanishingSteps).replies[1]?.map fun reply =>
        reply.answer.toOption.map fun answer =>
          answer.holdings.map Holding.text) =
        some (some ["0.000000000000000000atom"]) := by
    decide +kernel
  obtain ⟨reply, replied, shown⟩ := Option.map_eq_some_iff.1 shown
  obtain ⟨answer, succeeded, shown⟩ := Option.map_eq_some_iff.1 shown
  obtain ⟨holding, holdingsEq, text⟩ := List.map_eq_singleton_iff.1 shown
  have answered : reply.answer = .ok answer := by
    cases outcome : reply.answer with
    | ok found =>
        rw [outcome] at succeeded
        cases succeeded
        rfl
    | error failure =>
        rw [outcome] at succeeded
        cases succeeded
  have returned : holding ∈ answer.holdings := by
    rw [holdingsEq]
    exact List.mem_cons_self
  obtain ⟨wellFormed, -, step, performed, exchanged, -⟩ :=
    coins_wellFormed .standard vanishingSteps 1 reply answer holding replied
      answered returned
  cases performed
  exact ⟨reply, answer, holding, replied, answered, returned, text,
    wellFormed, exchanged (.fractional _ _)⟩

end Session

end Coinage
