import Coinage.Proofs.BaseForm.Outcome

/-!
# The routes to a base form

A whole coin can be brought to its base form as it is, as a decimal coin of as
many units, or through its text, alone or as a list.  The exchanges on these
routes differ: one cuts the exchanged units to an integer at once, the other
keeps them and cuts later.  But both follow the same rate, and a coin stays on
one route exactly if it stays on the others, so all routes end in the same name
and amount.
-/

namespace Coinage

namespace Coin

theorem sameAs_iff {left right : Coin} :
    left.sameAs right = true ↔
      left.denom = right.denom ∧ left.amount = right.amount := by
  rw [sameAs, Bool.and_eq_true, beq_iff_eq, beq_iff_eq]

end Coin

namespace Registry

open Expression

section Routes

variable
    {registry : Registry}
    {coin : Coin}
    {rule : DenomRule}
    (accepted : rule.accepts coin.denom = true)
    (fits : coin.amount * Scale.one < 2 ^ Scale.decimalBits)

/-! ## Exchanging a whole coin and its units -/

/-- The whole coin received is the whole part of the decimal coin received. -/
theorem amount_exchange_eq
    {target : Value}
    {result : Coin}
    {decimal : DecimalCoin}
    (exchanged : registry.exchange (.whole coin) target = .ok result)
    (decimalExchanged :
      registry.exchangeDecimal (.fractional (coin.inUnits accepted fits))
        target = .ok decimal) :
    result.amount = decimal.wholeCoin.amount := by
  obtain ⟨rate, (found : registry.rate coin.denom target = .ok rate), -⟩ :=
    Failure.bind_eq_ok_iff.1 exchanged
  have decimalFound :
      registry.rate (coin.inUnits accepted fits).denom target =
        .ok rate := found
  change result.amount = decimal.amount.scaled / Scale.one
  rcases amount_cases_of_exchange found exchanged with
      ⟨same, amountEq⟩ | ⟨different, amountEq⟩ <;>
    rcases scaled_cases_of_exchangeDecimal decimalFound decimalExchanged with
      ⟨decimalSame, scaledEq⟩ | ⟨decimalDifferent, scaledEq⟩
  · rw [amountEq, scaledEq]
    exact (Nat.mul_div_cancel _ Scale.one_pos).symm
  · exact absurd same decimalDifferent
  · exact absurd decimalSame different
  · have floored := rate.floor_exchanged (coin.amount * Scale.one)
    rw [rate.onScale_whole, Nat.cast_mul, ← amountEq] at floored
    rw [scaledEq]
    exact (Int.ofNat_inj.1 floored).symm

/-! ## One base form -/

/-- What becomes of a whole coin has the name and the amount of what becomes of
its units. -/
theorem sameAs_of_becomes
    {whole : Coin}
    {decimal : DecimalCoin}
    (becomes : registry.Becomes (.whole coin) (.whole whole))
    (becomesDecimal :
      registry.Becomes (.fractional (coin.inUnits accepted fits))
        (.fractional decimal)) :
    decimal.wholeCoin.sameAs whole = true := by
  rw [Coin.sameAs_iff]
  cases becomes with
  | kept stays =>
      cases becomesDecimal with
      | kept _ =>
          exact ⟨rfl, Nat.mul_div_cancel _ Scale.one_pos⟩
      | exchanged leaves => exact absurd stays leaves
  | exchanged leaves linked exchanged baseEq =>
      cases becomesDecimal with
      | kept stays => exact absurd stays leaves
      | exchanged _ otherLinked otherExchanged otherBaseEq =>
          cases linked.unique otherLinked
          rw [baseEq] at otherBaseEq
          rw [exchangeOwn_whole_iff] at exchanged
          rw [exchangeOwn_fractional_iff] at otherExchanged
          exact ⟨(Value.text.inj otherBaseEq).symm,
            (amount_exchange_eq accepted fits exchanged
              otherExchanged).symm⟩

/-- The base form of a whole coin has the name and the amount of the whole base
form of its units. -/
theorem sameAs_based
    {whole : Coin}
    (copes : registry.CopesWithBase coin.denom)
    (reached : registry.baseForm (.whole coin) = .ok (.whole whole)) :
    (registry.based (coin.inUnits accepted fits)).wholeCoin.sameAs whole =
      true := by
  have copesDecimal :
      registry.CopesWithBase (coin.inUnits accepted fits).denom :=
    copes
  obtain ⟨_, wholeReached, becomes⟩ := exists_becomes_whole copes
  rw [reached] at wholeReached
  cases wholeReached
  obtain ⟨_, decimalReached, becomesDecimal⟩ :=
    exists_becomes_fractional copesDecimal
  rw [baseFormDecimal_fractional copesDecimal] at decimalReached
  cases decimalReached
  exact sameAs_of_becomes accepted fits becomes becomesDecimal

end Routes

/-! ## All routes -/

section Text

variable
    {registry : Registry}
    {coin : Coin}
    (fits : coin.amount * Scale.one < 2 ^ Scale.decimalBits)
    (accepted : registry.rule.accepts coin.denom = true)
    (plain : PlainName coin.denom.toList)

include plain

theorem coin_text :
    Expression.coin registry.rule (.text coin.text) =
      .ok (coin.inUnits accepted fits) :=
  coinOfText_text_whole plain accepted fits

theorem coins_text :
    Expression.coins registry.rule (.text coin.text) =
      .ok [coin.inUnits accepted fits] :=
  coins_of_isMember (isMember_text_whole plain)
    (coinOfText_text_whole plain accepted fits)

end Text

/-- Where the rule copes with the base, all routes succeed. -/
theorem routes_of_copes
    {registry : Registry}
    {coin : Coin}
    (copes : registry.CopesWithBase coin.denom)
    (fits : coin.amount * Scale.one < 2 ^ Scale.decimalBits)
    (accepted : registry.rule.accepts coin.denom = true)
    (plain : PlainName coin.denom.toList) :
    ∃ whole listed read,
      registry.baseForm (.whole coin) = .ok (.whole whole) ∧
        registry.wholeBaseForms
            [.fractional (coin.inUnits coin.accepted fits)] =
          .ok [listed] ∧
        registry.readWhole (.text coin.text) = .ok read ∧
        registry.readWholes (.text coin.text) = .ok [read] ∧
        listed.sameAs whole = true ∧
        read.sameAs whole = true := by
  have copesAll :
      ∀ {rule : DenomRule} (accepted : rule.accepts coin.denom = true),
        ∀ other ∈ [coin.inUnits accepted fits],
          registry.CopesWithBase other.denom := by
    intro rule accepted other member
    rw [List.mem_singleton.1 member]
    exact copes
  obtain ⟨whole, reached, -⟩ := exists_becomes_whole copes
  refine ⟨whole, _, _, reached,
    wholeBaseForms_fractional (copesAll coin.accepted), ?_, ?_,
    sameAs_based coin.accepted fits copes reached,
    sameAs_based accepted fits copes reached⟩
  · rw [readWhole, coin_text fits accepted plain, Failure.ok_bind,
      wholeBaseForm_fractional copes]
  · rw [readWholes, coins_text fits accepted plain, Failure.ok_bind,
      wholeBaseForms_fractional (copesAll accepted)]
    rfl

/-- Where the rule fails on the base, all routes fail as it does. -/
theorem routes_of_failsOnBase
    {registry : Registry}
    {coin : Coin}
    {failure : Failure}
    (fails : registry.FailsOnBase coin.denom failure)
    (fits : coin.amount * Scale.one < 2 ^ Scale.decimalBits)
    (accepted : registry.rule.accepts coin.denom = true)
    (plain : PlainName coin.denom.toList) :
    registry.baseForm (.whole coin) = .error failure ∧
      registry.wholeBaseForms
          [.fractional (coin.inUnits coin.accepted fits)] =
        .error failure ∧
      registry.readWhole (.text coin.text) = .error failure ∧
      registry.readWholes (.text coin.text) = .error failure := by
  have first :
      ∀ {rule : DenomRule} (accepted : rule.accepts coin.denom = true),
        registry.FirstFails [coin.inUnits accepted fits] failure := by
    intro rule accepted
    exact ⟨[], _, [], rfl, List.forall_mem_nil _, fails⟩
  refine ⟨baseFormOwn_of_failsOnBase (.whole coin) fails, ?_, ?_, ?_⟩
  · exact wholeBaseForms_eq_error_iff.2 (first coin.accepted)
  · exact readWhole_eq_error_iff.2
      (.inr ⟨_, coin_text fits accepted plain, fails⟩)
  · exact readWholes_eq_error_iff.2
      (.inr ⟨_, coins_text fits accepted plain, first accepted⟩)

/--
All routes to the base form of a whole coin agree.  Let the units of the coin be
within the budget, and let its name be plain and accepted by the rule of the
registry.  Then the decimal coin with its parts exists.  If the rule copes with the
base that the name is linked to, the coin itself, that decimal coin, and its text,
read alone or as a list, all have a whole base form, and all of these have the same
name and the same amount, whether the coin is exchanged or kept.  If the rule fails
on the base, all routes fail with that failure.
-/
theorem baseForm_routes
    (registry : Registry)
    (coin : Coin)
    (fits : coin.amount * 10 ^ 18 < 2 ^ 315)
    (accepted : registry.rule.accepts coin.denom = true)
    (plain : PlainName coin.denom.toList) :
    ∃ decimal,
      (Holding.whole coin).toDecimal = .ok decimal ∧
        (registry.CopesWithBase coin.denom →
          ∃ whole listed read,
            registry.baseForm (.whole coin) = .ok (.whole whole) ∧
              registry.wholeBaseForms [.fractional decimal] = .ok [listed] ∧
              registry.readWhole (.text coin.text) = .ok read ∧
              registry.readWholes (.text coin.text) = .ok [read] ∧
              listed.sameAs whole = true ∧
              read.sameAs whole = true) ∧
        ∀ failure,
          registry.FailsOnBase coin.denom failure →
          registry.baseForm (.whole coin) = .error failure ∧
            registry.wholeBaseForms [.fractional decimal] =
              .error failure ∧
            registry.readWhole (.text coin.text) = .error failure ∧
            registry.readWholes (.text coin.text) = .error failure := by
  have unitsFit : coin.amount * Scale.one < 2 ^ Scale.decimalBits := by
    rw [Scale.decimalBits]
    exact fits
  refine ⟨coin.inUnits coin.accepted unitsFit, Coin.toDecimal_whole unitsFit,
    fun copes => ?_, fun failure fails => ?_⟩
  · exact routes_of_copes copes unitsFit accepted plain
  · exact routes_of_failsOnBase fails unitsFit accepted plain

/-- A coin that is lifted to one of its base is so on all routes. -/
theorem baseForm_routes_almostCoarse :
    ∃ decimal whole listed read,
      (Holding.whole almostCoarse).toDecimal = .ok decimal ∧
        fineAndCoarse.baseForm (.whole almostCoarse) = .ok (.whole whole) ∧
        fineAndCoarse.wholeBaseForms [.fractional decimal] = .ok [listed] ∧
        fineAndCoarse.readWhole (.text "3999999999999999999fine") =
          .ok read ∧
        fineAndCoarse.readWholes (.text "3999999999999999999fine") =
          .ok [read] ∧
        listed.sameAs whole = true ∧
        read.sameAs whole = true ∧
        whole.amount = 1 := by
  have textEq : almostCoarse.text = "3999999999999999999fine" := by decide
  have linked : fineAndCoarse.Linked "fine" (.text "coarse") :=
    base_eq_ok_iff.1 (by decide +kernel)
  obtain ⟨decimal, made, succeed, -⟩ :=
    baseForm_routes fineAndCoarse almostCoarse (by decide +kernel) (by decide)
      (plainName_of_standard almostCoarse.accepted)
  obtain ⟨whole, listed, read, reached, routes⟩ :=
    succeed (copesWithBase_of_text linked)
  rw [textEq] at routes
  obtain ⟨ofList, ofText, ofTexts, listedSame, readSame⟩ := routes
  have amountEq :
      (fineAndCoarse.baseForm (.whole almostCoarse) >>=
        fun holding => Except.ok holding.amount) =
        .ok (.integer 1) := by
    decide +kernel
  rw [reached, Failure.ok_bind] at amountEq
  exact ⟨decimal, whole, listed, read, made, reached, ofList, ofText, ofTexts,
    listedSame, readSame,
    Int.ofNat_inj.1 (Value.integer.inj (Except.ok.inj amountEq))⟩

/-- With a base that cannot be written, every route fails. -/
theorem not_baseForm_routes_oneAtom :
    ∃ decimal failure,
      (Holding.whole oneAtom).toDecimal = .ok decimal ∧
        longBased.baseForm (.whole oneAtom) = .error failure ∧
        longBased.wholeBaseForms [.fractional decimal] = .error failure ∧
        longBased.readWhole (.text "1atom") = .error failure ∧
        longBased.readWholes (.text "1atom") = .error failure := by
  have unitsFit :
      oneAtom.amount * Scale.one < 2 ^ Scale.decimalBits := by
    decide +kernel
  have accepted : longBased.rule.accepts oneAtom.denom = true := by
    rw [longBased, register_leastLong]
    exact oneAtom.accepted
  have textEq : oneAtom.text = "1atom" := by decide
  rw [← textEq]
  exact ⟨oneAtom.inUnits oneAtom.accepted unitsFit, .longInteger,
    Coin.toDecimal_whole unitsFit,
    routes_of_failsOnBase failsOnBase_longBased unitsFit accepted
      (plainName_of_standard oneAtom.accepted)⟩

end Registry

end Coinage
