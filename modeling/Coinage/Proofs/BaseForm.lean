import Coinage.Expression.Sequence
import Coinage.Proofs.Exchange.Settling

/-!
# Whole base forms of decimal coins

Whatever keeps a coin from being exchanged into its base denomination is absorbed,
except where the rule does not cope with the base that the denomination is linked
to: then the rule is asked to judge the base, and its failure is the outcome.  All
other decimal coins have a whole base form.  Where the exchange succeeds, the whole
base form is the whole part of the exact value, or one more.
-/

namespace Coinage.Registry

variable {registry : Registry}

/-! ## Links -/

/-- The base that a denomination is linked to, if the link names something. -/
def Linked
    (registry : Registry)
    (denom : String)
    (base : Value) :
    Prop :=
  ∃ entry,
    registry.find? (.text denom) = some entry ∧
      entry.base? = some base ∧
      base.isVacant = false

theorem base_eq_ok_iff
    {denom : String}
    {base : Value} :
    registry.base (.text denom) = .ok base ↔ registry.Linked denom base := by
  have usable :
      registry.base (.text denom) = .ok base ↔
        (registry.find? (.text denom)).bind Entry.usableBase? =
          some base := by
    rw [Registry.base, if_pos (Value.isKey_text denom)]
    cases (registry.find? (.text denom)).bind Entry.usableBase? with
    | none => simp
    | some linked => simp
  rw [usable, Option.bind_eq_some_iff]
  refine exists_congr fun entry => and_congr_right fun _ => ?_
  rw [Entry.usableBase?, Option.filter_eq_some_iff, Bool.not_eq_true']

/-- A denomination has one base. -/
theorem Linked.unique
    {denom : String}
    {first second : Value}
    (firstLinked : registry.Linked denom first)
    (secondLinked : registry.Linked denom second) :
    first = second := by
  have found := base_eq_ok_iff.2 firstLinked
  rw [base_eq_ok_iff.2 secondLinked] at found
  cases found
  rfl

theorem isAbsorbed_of_base_error
    {denom : String}
    {failure : Failure}
    (failed : registry.base (.text denom) = .error failure) :
    failure.isAbsorbed = true := by
  rw [base, if_pos (Value.isKey_text denom)] at failed
  split at failed
  · cases failed
  · cases failed
    rfl

/-! ## Bases that a rule does not cope with -/

/-- The rule fails on the base that a denomination is linked to, for a reason
that is not absorbed. -/
def FailsOnBase
    (registry : Registry)
    (denom : String)
    (failure : Failure) :
    Prop :=
  ∃ base,
    registry.Linked denom base ∧
      registry.rule.check base = .error failure ∧
      failure.isAbsorbed = false

/-- The rule copes with the base that a denomination is linked to, if there is
one. -/
def CopesWithBase
    (registry : Registry)
    (denom : String) :
    Prop :=
  ∀ base, registry.Linked denom base → registry.rule.CopesWith base

theorem copesWithBase_or_failsOnBase
    (registry : Registry)
    (denom : String) :
    registry.CopesWithBase denom ∨
      ∃ failure, registry.FailsOnBase denom failure := by
  refine or_iff_not_imp_left.2 fun helpless => ?_
  obtain ⟨base, failing⟩ := not_forall.1 helpless
  obtain ⟨linked, failing⟩ := Classical.not_imp.1 failing
  obtain ⟨failure, failed, passed⟩ := DenomRule.not_copesWith_iff.1 failing
  exact ⟨failure, base, linked, failed, passed⟩

theorem copesWithBase_of_text
    {denom content : String}
    (linked : registry.Linked denom (.text content)) :
    registry.CopesWithBase denom := by
  intro base otherLinked
  rw [otherLinked.unique linked]
  exact registry.rule.copesWith_text content

/-- Where an exchange into the linked base succeeds, the rule copes with it. -/
theorem copesWithBase_of_exchangeOwn
    {holding result : Holding}
    {base : Value}
    (linked : registry.Linked holding.denom base)
    (exchanged : registry.exchangeOwn holding base = .ok result) :
    registry.CopesWithBase holding.denom := by
  rw [(named_of_exchangeOwn exchanged).1] at linked
  exact copesWithBase_of_text linked

/-! ## Base forms of either kind -/

/-- A coin brought to the base form of its own kind. -/
def baseFormOwn
    (registry : Registry)
    (holding : Holding) :
    Except Failure Holding :=
  match holding with
  | .whole _ => registry.baseForm holding
  | .fractional _ => registry.baseFormDecimal holding

theorem baseFormOwn_eq
    (registry : Registry)
    (holding : Holding) :
    registry.baseFormOwn holding =
      orKeep holding
        (registry.base (.text holding.denom) >>=
          registry.exchangeOwn holding) := by
  cases holding with
  | whole _ => rfl
  | fractional _ => rfl

theorem baseFormOwn_of_exchangeOwn
    {holding result : Holding}
    {base : Value}
    (linked : registry.Linked holding.denom base)
    (exchanged : registry.exchangeOwn holding base = .ok result) :
    registry.baseFormOwn holding = .ok result := by
  rw [baseFormOwn_eq, base_eq_ok_iff.2 linked, Failure.ok_bind, exchanged,
    orKeep]

/-- What the rule fails with is passed on. -/
theorem baseFormOwn_of_failsOnBase
    (holding : Holding)
    {failure : Failure}
    (fails : registry.FailsOnBase holding.denom failure) :
    registry.baseFormOwn holding = .error failure := by
  obtain ⟨base, linked, failed, passed⟩ := fails
  have unrated := rate_of_check_error holding.denom failed
  rw [baseFormOwn_eq, base_eq_ok_iff.2 linked, Failure.ok_bind,
    exchangeOwn_of_rate_error unrated, orKeep,
    if_neg (Bool.eq_false_iff.1 passed)]

/-! ## Decimal coins -/

/-- What keeps a decimal coin from being exchanged into its base is absorbed, if
the rule copes with the base. -/
theorem isAbsorbed_of_linked_error
    (holding : Holding)
    {failure : Failure}
    (copes : registry.CopesWithBase holding.denom)
    (failed :
      registry.base (.text holding.denom) >>=
          registry.exchangeOwn holding =
        .error failure) :
    failure.isAbsorbed = true := by
  rcases Failure.bind_eq_error_iff.1 failed with
    unlinked | ⟨base, linked, failed⟩
  · exact isAbsorbed_of_base_error unlinked
  · have settles :=
      settles_exchangeOwn holding (copes base (base_eq_ok_iff.1 linked))
    exact settles.isAbsorbed failed

/-- A decimal coin in its base denomination, or as it is if it cannot be
exchanged. -/
def based
    (registry : Registry)
    (coin : DecimalCoin) :
    DecimalCoin :=
  match registry.base (.text coin.denom) >>=
      registry.exchangeDecimal (.fractional coin) with
  | .ok exchanged => exchanged
  | .error _ => coin

theorem based_of_exchangeDecimal
    {coin exchanged : DecimalCoin}
    {base : Value}
    (linked : registry.base (.text coin.denom) = .ok base)
    (converted :
      registry.exchangeDecimal (.fractional coin) base = .ok exchanged) :
    registry.based coin = exchanged := by
  rw [based, linked, Failure.ok_bind, converted]

theorem baseFormDecimal_fractional
    {coin : DecimalCoin}
    (copes : registry.CopesWithBase coin.denom) :
    registry.baseFormDecimal (.fractional coin) =
      .ok (.fractional (registry.based coin)) := by
  have chained :
      registry.base (.text coin.denom) >>=
          registry.exchangeOwn (.fractional coin) =
        (registry.base (.text coin.denom) >>=
          registry.exchangeDecimal (.fractional coin)) >>=
            fun exchanged => pure (.fractional exchanged) :=
    (bind_assoc _ _ _).symm
  change registry.baseFormOwn (.fractional coin) = _
  rw [baseFormOwn_eq, based]
  change orKeep _ (registry.base (.text coin.denom) >>= _) = _
  rw [chained]
  cases converted :
      registry.base (.text coin.denom) >>=
        registry.exchangeDecimal (.fractional coin) with
  | error failure =>
      rw [converted, Failure.error_bind] at chained
      rw [Failure.error_bind, orKeep,
        if_pos (isAbsorbed_of_linked_error (.fractional coin) copes chained)]
  | ok exchanged =>
      rfl

/-- A decimal coin has a whole base form if the rule copes with its base. -/
theorem wholeBaseForm_fractional
    {coin : DecimalCoin}
    (copes : registry.CopesWithBase coin.denom) :
    registry.wholeBaseForm (.fractional coin) =
      .ok (registry.based coin).wholeCoin := by
  rw [wholeBaseForm, baseFormDecimal_fractional copes, Failure.ok_bind,
    Holding.wholePart, Holding.truncate, DecimalCoin.truncate_eq,
    Failure.ok_bind]
  rfl

theorem wholeBaseForm_of_failsOnBase
    {coin : DecimalCoin}
    {failure : Failure}
    (fails : registry.FailsOnBase coin.denom failure) :
    registry.wholeBaseForm (.fractional coin) = .error failure := by
  have failed :
      registry.baseFormDecimal (.fractional coin) = .error failure :=
    baseFormOwn_of_failsOnBase (.fractional coin) fails
  rw [wholeBaseForm, failed, Failure.error_bind]

theorem wholeBaseForm_eq_error_iff
    {coin : DecimalCoin}
    {failure : Failure} :
    registry.wholeBaseForm (.fractional coin) = .error failure ↔
      registry.FailsOnBase coin.denom failure := by
  refine ⟨fun failed => ?_, wholeBaseForm_of_failsOnBase⟩
  rcases registry.copesWithBase_or_failsOnBase coin.denom with
    copes | ⟨other, fails⟩
  · rw [wholeBaseForm_fractional copes] at failed
    cases failed
  · rw [wholeBaseForm_of_failsOnBase fails] at failed
    cases failed
    exact fails

theorem exists_wholeBaseForm_iff
    {coin : DecimalCoin} :
    (∃ whole, registry.wholeBaseForm (.fractional coin) = .ok whole) ↔
      registry.CopesWithBase coin.denom := by
  refine ⟨?_, fun copes => ⟨_, wholeBaseForm_fractional copes⟩⟩
  rintro ⟨whole, reached⟩
  refine (registry.copesWithBase_or_failsOnBase coin.denom).resolve_right ?_
  rintro ⟨failure, fails⟩
  rw [wholeBaseForm_of_failsOnBase fails] at reached
  cases reached

/-! ## Lists -/

theorem wholeBaseForms_fractional
    {coins : List DecimalCoin}
    (cope : ∀ coin ∈ coins, registry.CopesWithBase coin.denom) :
    registry.wholeBaseForms (coins.map .fractional) =
      .ok (coins.map fun coin => (registry.based coin).wholeCoin) := by
  rw [wholeBaseForms, List.mapM_map]
  induction coins with
  | nil => rfl
  | cons first rest rest_eq =>
      obtain ⟨firstCopes, restCope⟩ := List.forall_mem_cons.1 cope
      rw [List.mapM_cons, Function.comp_apply,
        wholeBaseForm_fractional firstCopes, rest_eq restCope]
      rfl

/-- Each coin of a list has its whole base form at its own place. -/
theorem wholeBaseForms_at
    {holdings : List Holding}
    {results : List Coin}
    (answered : registry.wholeBaseForms holdings = .ok results)
    {index : Nat}
    {holding : Holding}
    (found : holdings[index]? = some holding) :
    ∃ result,
      results[index]? = some result ∧
        registry.wholeBaseForm holding = .ok result := by
  rw [wholeBaseForms] at answered
  induction holdings generalizing results index with
  | nil =>
      cases found
  | cons first rest rest_at =>
      rw [List.mapM_cons] at answered
      obtain ⟨result, whole, answered⟩ := Failure.bind_eq_ok_iff.1 answered
      obtain ⟨others, wholes, answered⟩ := Failure.bind_eq_ok_iff.1 answered
      cases answered
      cases index with
      | zero =>
          cases found
          exact ⟨result, rfl, whole⟩
      | succ index =>
          exact rest_at wholes found

/-- All ways to a whole base form, given the coin itself or its text, alone or
among others that have whole base forms, too. -/
structure WholeForm
    (registry : Registry)
    (coin : DecimalCoin)
    (result : Coin) :
    Prop where
  ofList :
    ∀ holdings results,
      registry.wholeBaseForms holdings = .ok results →
      ∀ index : Nat,
        holdings[index]? = some (.fractional coin) →
        results[index]? = some result
  ofCoins :
    ∀ earlier later : List DecimalCoin,
      (∀ other ∈ earlier ++ later,
        ∃ whole,
          registry.wholeBaseForm (.fractional other) = .ok whole) →
      ∃ before after,
        before.length = earlier.length ∧
          registry.wholeBaseForms
              ((earlier ++ coin :: later).map .fractional) =
            .ok (before ++ result :: after)
  ofText :
    ∀ source,
      Expression.coin registry.rule source = .ok coin →
      registry.readWhole source = .ok result
  ofTexts :
    ∀ source coins,
      Expression.coins registry.rule source = .ok coins →
      (∀ other ∈ coins,
        ∃ whole,
          registry.wholeBaseForm (.fractional other) = .ok whole) →
      ∃ results,
        registry.readWholes source = .ok results ∧
          ∀ index : Nat,
            coins[index]? = some coin →
            results[index]? = some result

theorem wholeForm_based
    {coin : DecimalCoin}
    (copes : registry.CopesWithBase coin.denom) :
    registry.WholeForm coin (registry.based coin).wholeCoin where
  ofList holdings results answered index found := by
    obtain ⟨result, at_index, whole⟩ := wholeBaseForms_at answered found
    rw [wholeBaseForm_fractional copes] at whole
    cases whole
    exact at_index
  ofCoins earlier later others := by
    have cope :
        ∀ other ∈ earlier ++ coin :: later,
          registry.CopesWithBase other.denom := by
      intro other member
      rcases List.mem_append.1 member with before | after
      · exact exists_wholeBaseForm_iff.1
          (others other (List.mem_append_left _ before))
      · rcases List.mem_cons.1 after with rfl | after
        · exact copes
        · exact exists_wholeBaseForm_iff.1
            (others other (List.mem_append_right _ after))
    refine ⟨earlier.map fun other => (registry.based other).wholeCoin,
      later.map fun other => (registry.based other).wholeCoin,
      List.length_map _, ?_⟩
    rw [wholeBaseForms_fractional cope, List.map_append, List.map_cons]
  ofText source read := by
    rw [readWhole, read, Failure.ok_bind, wholeBaseForm_fractional copes]
  ofTexts source coins read others := by
    have cope :
        ∀ other ∈ coins, registry.CopesWithBase other.denom :=
      fun other member => exists_wholeBaseForm_iff.1 (others other member)
    refine ⟨coins.map fun other => (registry.based other).wholeCoin, ?_, ?_⟩
    · rw [readWholes, read, Failure.ok_bind, wholeBaseForms_fractional cope]
    · intro index found
      rw [List.getElem?_map, found, Option.map_some]

/-! ## Amounts -/

/-- The exact value of a decimal coin, counted in units of another size. -/
def exactValue
    (coin : DecimalCoin)
    (source destination : UnitSize) :
    ℚ :=
  coin.amount.scaled * source.scaled / (10 ^ 18 * destination.scaled)

/-- A decimal coin on the common scale. -/
def roundedProduct
    (coin : DecimalCoin)
    (source : UnitSize) :
    ℤ :=
  Rounding.nearestEven (coin.amount.scaled * source.scaled / 10 ^ 18)

theorem onScale_eq_roundedProduct
    {rule : DenomRule}
    (rate : Rate rule)
    (coin : DecimalCoin) :
    (rate.onScale coin.amount.scaled : ℤ) =
      roundedProduct coin rate.source :=
  rate.onScale_eq_nearestEven coin.amount.scaled

/-- Between equal sizes the whole part of the value is that of the amount. -/
theorem floor_exactValue_of_same_size
    {coin : DecimalCoin}
    {source destination : UnitSize}
    (same : source.scaled = destination.scaled)
    (positive : 0 < destination.scaled) :
    ⌊exactValue coin source destination⌋ =
      (coin.amount.scaled / Scale.one : Nat) := by
  have scale : (destination.scaled : ℚ) ≠ 0 := by
    exact_mod_cast positive.ne'
  rw [exactValue, same, mul_div_mul_right _ _ scale, Int.natCast_div,
    ← Rat.floor_natCast_div_natCast]
  norm_num [Scale.one, Scale.places]

/-- The possible amounts of a whole base form. -/
theorem amount_of_exchangeDecimal
    {coin exchanged : DecimalCoin}
    {base : Value}
    {source destination : UnitSize}
    (converted :
      registry.exchangeDecimal (.fractional coin) base = .ok exchanged)
    (sourceFound : registry.unit? (.text coin.denom) = some source)
    (destinationFound : registry.unit? base = some destination)
    (positive : 0 < destination.scaled) :
    base = .text exchanged.denom ∧
      ((source.scaled = destination.scaled ∧
        (exchanged.wholeCoin.amount : ℤ) =
          ⌊exactValue coin source destination⌋) ∨
      (source.scaled ≠ destination.scaled ∧
        (exchanged.wholeCoin.amount : ℤ) =
          ⌊(roundedProduct coin source : ℚ) / destination.scaled +
            1 / (2 * 10 ^ 18)⌋)) := by
  obtain ⟨rate, (found : registry.rate coin.denom base = .ok rate), -⟩ :=
    Failure.bind_eq_ok_iff.1 converted
  obtain ⟨-, sourceEq, destinationEq⟩ := rate_eq_ok_iff.1 found
  rw [sourceFound] at sourceEq
  rw [destinationFound] at destinationEq
  cases sourceEq
  cases destinationEq
  refine ⟨(named_of_exchangeDecimal converted).1, ?_⟩
  rcases scaled_cases_of_exchangeDecimal found converted with
    ⟨same, scaledEq⟩ | ⟨different, scaledEq⟩
  · refine .inl ⟨same, ?_⟩
    rw [floor_exactValue_of_same_size same positive, ← scaledEq]
    rfl
  · refine .inr ⟨different, ?_⟩
    have floored := rate.floor_exchanged coin.amount.scaled
    rw [← scaledEq] at floored
    rw [← onScale_eq_roundedProduct rate, Int.cast_natCast, ← floored]
    rfl

/-- Where an amount lies that is the whole part of a value or one more.
Between different sizes it is one more exactly if the product, rounded to the
common scale, comes within the half unit of the last place that is added to its
quotient. -/
structure IsLiftedFloor
    (coin : DecimalCoin)
    (source destination : UnitSize)
    (amount : ℤ) :
    Prop where
  floor_le :
    ⌊exactValue coin source destination⌋ ≤ amount
  le_succ :
    amount ≤ ⌊exactValue coin source destination⌋ + 1
  le_exact :
    (amount : ℚ) ≤
      exactValue coin source destination +
        1 / (2 * destination.scaled) + 1 / (2 * 10 ^ 18)
  eq_succ_iff :
    amount = ⌊exactValue coin source destination⌋ + 1 ↔
      source.scaled ≠ destination.scaled ∧
        (⌊exactValue coin source destination⌋ + 1 : ℚ) *
            destination.scaled ≤
          roundedProduct coin source + destination.scaled / (2 * 10 ^ 18)
  eq_succ_iff_of_small :
    destination.scaled < 2 * 10 ^ 18 →
      (amount = ⌊exactValue coin source destination⌋ + 1 ↔
        source.scaled ≠ destination.scaled ∧
          roundedProduct coin source =
            (⌊exactValue coin source destination⌋ + 1) * destination.scaled)
  eq_floor_of_dvd :
    destination.scaled < 2 * 10 ^ 18 →
      10 ^ 18 ∣ coin.amount.scaled * source.scaled →
      amount = ⌊exactValue coin source destination⌋

section Lifted

variable
    {coin : DecimalCoin}
    {source destination : UnitSize}

theorem exactValue_eq_onScale_div :
    exactValue coin source destination =
      (coin.amount.scaled * source.scaled / 10 ^ 18 : ℚ) /
        destination.scaled := by
  rw [exactValue, div_div]

/-- A product without a remainder is not rounded. -/
theorem roundedProduct_of_dvd
    (exact : 10 ^ 18 ∣ coin.amount.scaled * source.scaled) :
    (roundedProduct coin source : ℚ) =
      coin.amount.scaled * source.scaled / 10 ^ 18 := by
  obtain ⟨product, productEq⟩ := exact
  have cast :
      (coin.amount.scaled * source.scaled / 10 ^ 18 : ℚ) =
        ((product : ℤ) : ℚ) := by
    rw [div_eq_iff (by norm_num), mul_comm _ ((10 : ℚ) ^ 18)]
    exact_mod_cast productEq
  rw [roundedProduct, cast, Rounding.nearestEven_intCast]

variable (positive : 0 < destination.scaled)

include positive

theorem isLiftedFloor_of_same_size
    (same : source.scaled = destination.scaled) :
    IsLiftedFloor coin source destination
      ⌊exactValue coin source destination⌋ where
  floor_le := le_rfl
  le_succ := by omega
  le_exact := by
    have floored := Int.floor_le (exactValue coin source destination)
    have raise :
        (0 : ℚ) ≤ 1 / (2 * destination.scaled) + 1 / (2 * 10 ^ 18) := by
      positivity
    linarith
  eq_succ_iff :=
    ⟨fun lifted => by omega, fun lifted => absurd same lifted.1⟩
  eq_succ_iff_of_small _ :=
    ⟨fun lifted => by omega, fun lifted => absurd same lifted.1⟩
  eq_floor_of_dvd _ _ := rfl

theorem isLiftedFloor_of_different_size
    (different : source.scaled ≠ destination.scaled) :
    IsLiftedFloor coin source destination
      ⌊(roundedProduct coin source : ℚ) / destination.scaled +
        1 / (2 * 10 ^ 18)⌋ := by
  -- The rounded product is a natural number, as the lemmas on lifting ask.
  obtain ⟨onScale, onScaleEq⟩ :
      ∃ onScale : Nat, (onScale : ℤ) = roundedProduct coin source :=
    ⟨_, onScale_eq_roundedProduct
      ⟨DenomRule.named coin.accepted, source,
        destination⟩ coin⟩
  have rounds := Rounding.nearestEven_spec
    (coin.amount.scaled * source.scaled / 10 ^ 18 : ℚ)
  rw [← roundedProduct, ← onScaleEq] at rounds
  have small_iff := floor_raised_eq_succ_iff_of_small rounds positive
  rw [← exactValue_eq_onScale_div] at small_iff
  constructor
  · rw [exactValue_eq_onScale_div, ← onScaleEq]
    exact floor_le_floor_raised rounds positive
  · rw [exactValue_eq_onScale_div, ← onScaleEq]
    exact floor_raised_le_succ rounds positive
  · rw [exactValue_eq_onScale_div, ← onScaleEq]
    exact floor_raised_le_exact rounds positive
  · rw [exactValue_eq_onScale_div, ← onScaleEq, and_iff_right different]
    exact floor_raised_eq_succ_iff rounds positive
  · intro small
    rw [← onScaleEq, and_iff_right different]
    exact small_iff small
  · intro small exact
    have unraised := Rate.floor_raised onScale positive small
    rw [← onScaleEq, Int.cast_natCast, unraised, exactValue_eq_onScale_div,
      ← roundedProduct_of_dvd exact, ← onScaleEq, Int.cast_natCast]

end Lifted

/--
The whole base form of a decimal coin that can be exchanged into its base
denomination.  The coin and its text have the same one.  Its amount is the
whole part of the exact value, or one more.
-/
theorem wholeForm_of_converted
    (registry : Registry)
    (coin exchanged : DecimalCoin)
    (base : Value)
    (source destination : UnitSize)
    (linked : registry.base (.text coin.denom) = .ok base)
    (converted :
      registry.exchangeDecimal (.fractional coin) base = .ok exchanged)
    (sourceFound : registry.unit? (.text coin.denom) = some source)
    (destinationFound : registry.unit? base = some destination)
    (positive : 0 < destination.scaled) :
    ∃ result,
      registry.WholeForm coin result ∧
        base = .text result.denom ∧
        IsLiftedFloor coin source destination result.amount := by
  have copes : registry.CopesWithBase coin.denom :=
    copesWithBase_of_exchangeOwn (base_eq_ok_iff.1 linked)
      (exchangeOwn_fractional_iff.2 converted)
  have wholeForm := wholeForm_based copes
  rw [based_of_exchangeDecimal linked converted] at wholeForm
  obtain ⟨baseEq, ⟨same, amountEq⟩ | ⟨different, amountEq⟩⟩ :=
    amount_of_exchangeDecimal converted sourceFound destinationFound positive
  · refine ⟨exchanged.wholeCoin, wholeForm, baseEq, ?_⟩
    rw [amountEq]
    exact isLiftedFloor_of_same_size positive same
  · refine ⟨exchanged.wholeCoin, wholeForm, baseEq, ?_⟩
    rw [amountEq]
    exact isLiftedFloor_of_different_size positive different

/-! ## A lifted amount -/

/-- Three units of the last place. -/
def tripleSize : UnitSize :=
  ⟨⟨⟨false, 3⟩, by decide +kernel⟩, rfl⟩

/-- A registry whose two units are of the order of the last place. -/
def tripleAndSingle : Registry :=
  ((empty .standard).register
    (.text "triple") (.text "0.000000000000000003")
    (.text "single") (.text "0.000000000000000001")).registry

/-- Six tenths of three units are worth less than two. -/
def sixTenths : DecimalCoin :=
  ⟨.standard, "triple", ⟨⟨false, 6 * 10 ^ 17⟩, by decide +kernel⟩,
    by decide, rfl⟩

theorem exists_exchangeDecimal_sixTenths :
    ∃ exchanged,
      tripleAndSingle.exchangeDecimal (.fractional sixTenths)
        (.text "single") = .ok exchanged := by
  have succeeds :
      (tripleAndSingle.exchangeDecimal (.fractional sixTenths)
        (.text "single")).isOk = true := by
    decide +kernel
  cases converted :
      tripleAndSingle.exchangeDecimal (.fractional sixTenths)
        (.text "single") with
  | ok exchanged =>
      exact ⟨exchanged, rfl⟩
  | error failure =>
      rw [converted] at succeeds
      cases succeeds

theorem wholeForm_sixTenths :
    ∃ result,
      tripleAndSingle.WholeForm sixTenths result ∧
        Value.text "single" = .text result.denom ∧
        IsLiftedFloor sixTenths tripleSize singleSize result.amount := by
  obtain ⟨exchanged, converted⟩ := exists_exchangeDecimal_sixTenths
  exact wholeForm_of_converted tripleAndSingle sixTenths exchanged
    (.text "single") tripleSize singleSize (by decide +kernel) converted
    (by decide +kernel) (by decide +kernel) (by decide)

/-- Six tenths of three units are one unit and eight tenths, and they become
two. -/
theorem amount_sixTenths_exceeds_value :
    tripleAndSingle.base (.text sixTenths.denom) = .ok (.text "single") ∧
      (∃ exchanged,
        tripleAndSingle.exchangeDecimal (.fractional sixTenths)
          (.text "single") = .ok exchanged) ∧
      tripleAndSingle.unit? (.text sixTenths.denom) = some tripleSize ∧
      tripleAndSingle.unit? (.text "single") = some singleSize ∧
      0 < singleSize.scaled ∧
      ∃ result,
        tripleAndSingle.WholeForm sixTenths result ∧
          (result.amount : ℤ) ≠
            ⌊exactValue sixTenths tripleSize singleSize⌋ ∧
          exactValue sixTenths tripleSize singleSize <
            (result.amount : ℚ) := by
  refine ⟨by decide +kernel, exists_exchangeDecimal_sixTenths,
    by decide +kernel, by decide +kernel, by decide, ?_⟩
  have copes : tripleAndSingle.CopesWithBase sixTenths.denom :=
    copesWithBase_of_text
      (base_eq_ok_iff.1 (by decide +kernel :
        tripleAndSingle.base (.text "triple") = .ok (.text "single")))
  have amountEq :
      (tripleAndSingle.based sixTenths).wholeCoin.amount = 2 := by
    decide +kernel
  have valueEq :
      exactValue sixTenths tripleSize singleSize = 9 / 5 := by
    decide +kernel
  refine ⟨_, wholeForm_based copes, ?_, ?_⟩
  · rw [amountEq, valueEq]
    decide +kernel
  · rw [amountEq, valueEq]
    norm_num

end Coinage.Registry
