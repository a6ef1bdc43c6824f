import Coinage.Proofs.BaseForm
import Coinage.Proofs.Expression.Sequence
import Coinage.Proofs.Registry.Registration

/-!
# What becomes of a coin in its base denomination

`Stays` lists, without running an exchange, everything that keeps a coin as it
is: there is no base, a name is refused or unknown, the base has no size, or a
number exceeds the budget.  It speaks of denominations and units only, and so do
the rates, which coins of both kinds follow.  `stays_iff` compares the two, so that
a coin leaves exactly if there is a rate into its base and the rate serves.

All this is about coins whose base the rule copes with.  The others have no base
form at all, and neither has a list from the first of them on.
-/

namespace Coinage.Registry

/-! ## Why a coin stays -/

/-- An amount on the common scale, rounded half to even. -/
def scaledProduct
    (units : Nat)
    (source : UnitSize) :
    Nat :=
  (Rounding.nearestEven (units * source.scaled / 10 ^ 18)).toNat

/-- The different sizes of a denomination and of its base. -/
structure Sizes
    (registry : Registry)
    (denom : String)
    (source destination : UnitSize) :
    Prop where
  exists_base :
    ∃ base,
      registry.Linked denom base ∧
        registry.unit? base = some destination
  source_found : registry.unit? (.text denom) = some source
  different : source.scaled ≠ destination.scaled

/-- What keeps so many units of a denomination from being exchanged into its
base. -/
inductive Stays
    (registry : Registry)
    (denom : String)
    (units : Nat) :
    Prop where
  /-- No base is linked, or one that names nothing. -/
  | unlinked :
      (∀ base, ¬ registry.Linked denom base) →
      Stays registry denom units
  /-- The rule refuses the name of the base. -/
  | baseRefused {base : Value} :
      registry.Linked denom base →
      registry.rule.admits base = false →
      Stays registry denom units
  /-- The rule refuses the name of the denomination. -/
  | denomRefused :
      registry.rule.accepts denom = false →
      Stays registry denom units
  /-- The base has no unit size. -/
  | baseUnknown {base : Value} :
      registry.Linked denom base →
      registry.find? base = none →
      Stays registry denom units
  /-- The denomination has no unit size. -/
  | denomUnknown :
      registry.find? (.text denom) = none →
      Stays registry denom units
  /-- The unit of the base has the size zero. -/
  | baseZero {source destination : UnitSize} :
      registry.Sizes denom source destination →
      destination.scaled = 0 →
      Stays registry denom units
  /-- The product with the unit size exceeds the budget. -/
  | product {source destination : UnitSize} :
      registry.Sizes denom source destination →
      2 ^ 315 ≤ scaledProduct units source →
      Stays registry denom units
  /-- The quotient by the size of the base exceeds the budget. -/
  | quotient {source destination : UnitSize} :
      registry.Sizes denom source destination →
      2 ^ 315 ≤
        roundedQuotient (scaledProduct units source) destination.scaled →
      Stays registry denom units

variable
    {registry : Registry}
    {denom : String}

/-! ## Sizes -/

/-- A value has a unit size if it is a known name. -/
theorem exists_unit?
    {name : Value}
    (admitted : registry.rule.admits name = true)
    (known : registry.find? name ≠ none) :
    ∃ unit, registry.unit? name = some unit := by
  obtain ⟨entry, found⟩ := Option.ne_none_iff_exists'.1 known
  refine ⟨entry.unit, ?_⟩
  rw [unit?, if_pos admitted, found]
  rfl

theorem known_of_unit?
    {name : Value}
    {unit : UnitSize}
    (found : registry.unit? name = some unit) :
    registry.find? name ≠ none := by
  intro absent
  rw [unit?, absent, Option.map_none, ite_self] at found
  cases found

theorem exists_text_of_admits
    {rule : DenomRule}
    {name : Value}
    (admitted : rule.admits name = true) :
    ∃ content, name = .text content := by
  cases name with
  | text content =>
      exact ⟨content, rfl⟩
  | integer | float | decimal | boolean | absent | nan => cases admitted

/-! ## Rates -/

theorem cast_budget :
    ((2 ^ Scale.decimalBits : Nat) : ℤ) = 2 ^ 315 := by
  rw [Scale.decimalBits, Nat.cast_pow, Nat.cast_ofNat]

section Rates

variable
    {rule : DenomRule}
    (rate : Rate rule)

theorem Rate.onScale_eq_scaledProduct (units : Nat) :
    rate.onScale units = scaledProduct units rate.source := by
  rw [scaledProduct, ← rate.onScale_eq_nearestEven, Int.toNat_natCast]

theorem Rate.exchanged_eq_quotient (units : Nat) :
    (rate.exchanged units : ℤ) =
      roundedQuotient (scaledProduct units rate.source)
        rate.destination.scaled := by
  rw [exchanged_eq_roundedQuotient, rate.onScale_eq_scaledProduct]

end Rates

section Staying

variable
    {base : Value}
    {units : Nat}

/-- Different sizes of a denomination and of its base are those of the rate
between them, which applies if it serves. -/
theorem Sizes.applies
    {source destination : UnitSize}
    {rate : Rate registry.rule}
    (sizes : registry.Sizes denom source destination)
    (linked : registry.Linked denom base)
    (found : registry.rate denom base = .ok rate)
    (serves : rate.Serves units) :
    rate.source = source ∧
      rate.destination = destination ∧
      rate.Applies units := by
  obtain ⟨-, sourceFound, destinationFound⟩ := rate_eq_ok_iff.1 found
  obtain ⟨⟨other, otherLinked, known⟩, own, different⟩ := sizes
  rw [otherLinked.unique linked, destinationFound] at known
  rw [sourceFound] at own
  cases known
  cases own
  exact ⟨rfl, rfl, serves.resolve_left different⟩

/-- Each reason to stay excludes a rate that serves. -/
theorem Stays.not_hasRate
    (stays : registry.Stays denom units)
    (linked : registry.Linked denom base) :
    ¬ registry.HasRate denom units base := by
  rintro ⟨rate, found, serves⟩
  obtain ⟨baseEq, sourceFound, destinationFound⟩ := rate_eq_ok_iff.1 found
  cases stays with
  | unlinked unlinked =>
      exact unlinked base linked
  | baseRefused otherLinked refused =>
      rw [otherLinked.unique linked, baseEq, DenomRule.admits_text,
        rate.target.property] at refused
      cases refused
  | denomRefused refused =>
      rw [accepts_of_unit? sourceFound] at refused
      cases refused
  | baseUnknown otherLinked absent =>
      rw [otherLinked.unique linked] at absent
      exact known_of_unit? destinationFound absent
  | denomUnknown absent =>
      exact known_of_unit? sourceFound absent
  | baseZero sizes zero =>
      obtain ⟨-, rfl, applies⟩ := sizes.applies linked found serves
      exact applies.destination_ne_zero zero
  | product sizes exceeds =>
      obtain ⟨rfl, -, applies⟩ := sizes.applies linked found serves
      have fits := applies.onScale_lt
      rw [rate.onScale_eq_scaledProduct, Scale.decimalBits] at fits
      exact exceeds.not_gt fits
  | quotient sizes exceeds =>
      obtain ⟨rfl, rfl, applies⟩ := sizes.applies linked found serves
      have fits := Int.ofNat_lt.2 applies.exchanged_lt
      rw [cast_budget, rate.exchanged_eq_quotient] at fits
      exact exceeds.not_gt fits

/-- Without a reason to stay there are a base, both sizes, and a rate that
serves. -/
theorem exists_hasRate_of_not_stays
    (leaves : ¬ registry.Stays denom units) :
    ∃ base,
      registry.Linked denom base ∧ registry.HasRate denom units base := by
  obtain ⟨base, linked⟩ : ∃ base, registry.Linked denom base := by
    by_contra unlinked
    exact leaves (.unlinked (not_exists.1 unlinked))
  have admitted : registry.rule.admits base = true :=
    Bool.of_not_eq_false fun refused => leaves (.baseRefused linked refused)
  have accepted : registry.rule.admits (.text denom) = true :=
    Bool.of_not_eq_false fun refused => leaves (.denomRefused refused)
  obtain ⟨destination, destinationFound⟩ :=
    exists_unit? admitted fun absent => leaves (.baseUnknown linked absent)
  obtain ⟨source, sourceFound⟩ :=
    exists_unit? accepted fun absent => leaves (.denomUnknown absent)
  obtain ⟨target, rfl⟩ := exists_text_of_admits admitted
  have found := rate_of_found admitted sourceFound destinationFound
  refine ⟨.text target, linked, _, found, ?_⟩
  by_cases same : source.scaled = destination.scaled
  · exact .inl same
  have sizes : registry.Sizes denom source destination :=
    ⟨⟨_, linked, destinationFound⟩, sourceFound, same⟩
  refine .inr ⟨?_, fun zero => leaves (.baseZero sizes zero), ?_⟩
  · refine not_le.1 fun exceeds => leaves (.product sizes ?_)
    rwa [Rate.onScale_eq_scaledProduct, Scale.decimalBits] at exceeds
  · refine not_le.1 fun exceeds => leaves (.quotient sizes ?_)
    have exceedsCast := Int.ofNat_le.2 exceeds
    rwa [cast_budget, Rate.exchanged_eq_quotient] at exceedsCast

/-- A coin stays exactly if no rate into a linked base serves for it. -/
theorem stays_iff :
    registry.Stays denom units ↔
      ¬ ∃ base,
        registry.Linked denom base ∧ registry.HasRate denom units base := by
  constructor
  · rintro stays ⟨base, linked, rated⟩
    exact stays.not_hasRate linked rated
  · intro unserved
    by_contra leaves
    exact unserved (exists_hasRate_of_not_stays leaves)

end Staying

/-! ## Base forms -/

/-- What can be done to a coin in its linked base is done exactly if the coin
does not stay, provided that the rule copes with the base. -/
theorem settles_linked
    {holding : Holding}
    (copes : registry.CopesWithBase holding.denom) :
    Settles (¬ registry.Stays holding.denom holding.units)
      (registry.base (.text holding.denom) >>=
        registry.exchangeOwn holding) := by
  rw [stays_iff, not_not]
  cases found : registry.base (.text holding.denom) with
  | error failure =>
      refine .failure ?_ (isAbsorbed_of_base_error found)
      rintro ⟨base, linked, -⟩
      rw [base_eq_ok_iff.2 linked] at found
      cases found
  | ok base =>
      have linked := base_eq_ok_iff.1 found
      have settles := settles_exchangeOwn holding (copes base linked)
      refine settles.congr ⟨fun rated => ⟨base, linked, rated⟩, ?_⟩
      rintro ⟨other, otherLinked, rated⟩
      rwa [linked.unique otherLinked]

theorem baseFormOwn_of_stays
    {holding : Holding}
    (copes : registry.CopesWithBase holding.denom)
    (stays : registry.Stays holding.denom holding.units) :
    registry.baseFormOwn holding = .ok holding := by
  rw [baseFormOwn_eq]
  exact (settles_linked copes).orKeep_eq (not_not_intro stays)

/-- A coin is kept, or exchanged into the base that it is linked to. -/
inductive Becomes
    (registry : Registry)
    (holding : Holding) :
    Holding →
    Prop where
  | kept :
      registry.Stays holding.denom holding.units →
      Becomes registry holding holding
  | exchanged {base : Value} {result : Holding} :
      ¬ registry.Stays holding.denom holding.units →
      registry.Linked holding.denom base →
      registry.exchangeOwn holding base = .ok result →
      base = .text result.denom →
      result.rule = registry.rule →
      Becomes registry holding result

theorem Becomes.kind_eq
    {holding result : Holding}
    (becomes : registry.Becomes holding result) :
    result.kind = holding.kind := by
  cases becomes with
  | kept _ => rfl
  | exchanged _ _ exchanged _ _ => exact kind_of_exchangeOwn exchanged

theorem exists_becomes
    {holding : Holding}
    (copes : registry.CopesWithBase holding.denom) :
    ∃ result,
      registry.baseFormOwn holding = .ok result ∧
        registry.Becomes holding result := by
  by_cases stays : registry.Stays holding.denom holding.units
  · exact ⟨holding, baseFormOwn_of_stays copes stays, .kept stays⟩
  · obtain ⟨base, linked, rated⟩ := exists_hasRate_of_not_stays stays
    have settles := settles_exchangeOwn holding (copes base linked)
    obtain ⟨result, exchanged⟩ := settles.exists_result rated
    obtain ⟨baseEq, ruleEq⟩ := named_of_exchangeOwn exchanged
    exact ⟨result, baseFormOwn_of_exchangeOwn linked exchanged,
      .exchanged stays linked exchanged baseEq ruleEq⟩

theorem exists_becomes_whole
    {coin : Coin}
    (copes : registry.CopesWithBase coin.denom) :
    ∃ result,
      registry.baseForm (.whole coin) = .ok (.whole result) ∧
        registry.Becomes (.whole coin) (.whole result) := by
  have copesOwn : registry.CopesWithBase (Holding.whole coin).denom := copes
  obtain ⟨result, reached, becomes⟩ := exists_becomes copesOwn
  cases result with
  | whole result => exact ⟨result, reached, becomes⟩
  | fractional => cases becomes.kind_eq

theorem exists_becomes_fractional
    {coin : DecimalCoin}
    (copes : registry.CopesWithBase coin.denom) :
    ∃ result,
      registry.baseFormDecimal (.fractional coin) =
          .ok (.fractional result) ∧
        registry.Becomes (.fractional coin) (.fractional result) := by
  have copesOwn : registry.CopesWithBase (Holding.fractional coin).denom :=
    copes
  obtain ⟨result, reached, becomes⟩ := exists_becomes copesOwn
  cases result with
  | whole => cases becomes.kind_eq
  | fractional result => exact ⟨result, reached, becomes⟩

/-- A coin has no base form exactly if the rule fails on its base. -/
theorem baseFormOwn_eq_error_iff
    {holding : Holding}
    {failure : Failure} :
    registry.baseFormOwn holding = .error failure ↔
      registry.FailsOnBase holding.denom failure := by
  refine ⟨fun failed => ?_, baseFormOwn_of_failsOnBase holding⟩
  rcases registry.copesWithBase_or_failsOnBase holding.denom with
    copes | ⟨other, fails⟩
  · obtain ⟨result, reached, -⟩ := exists_becomes copes
    rw [failed] at reached
    cases reached
  · rw [baseFormOwn_of_failsOnBase holding fails] at failed
    cases failed
    exact fails

/-! ## Lists and texts -/

/-- The whole part of the base form of a decimal coin. -/
def IsWholeBaseForm
    (registry : Registry)
    (coin : DecimalCoin)
    (result : Coin) :
    Prop :=
  ∃ based rest,
    registry.baseFormDecimal (.fractional coin) = .ok (.fractional based) ∧
      based.truncate = .ok (result, rest)

theorem isWholeBaseForm_based
    {coin : DecimalCoin}
    (copes : registry.CopesWithBase coin.denom) :
    registry.IsWholeBaseForm coin (registry.based coin).wholeCoin :=
  ⟨_, _, baseFormDecimal_fractional copes, DecimalCoin.truncate_eq _⟩

/-- Lists have whole base forms member by member. -/
theorem exists_wholeBaseForms
    {coins : List DecimalCoin}
    (cope : ∀ coin ∈ coins, registry.CopesWithBase coin.denom) :
    ∃ results,
      registry.wholeBaseForms (coins.map .fractional) = .ok results ∧
        List.Forall₂ registry.IsWholeBaseForm coins results := by
  refine ⟨_, wholeBaseForms_fractional cope, ?_⟩
  rw [List.forall₂_map_right_iff, List.forall₂_same]
  exact fun coin member => isWholeBaseForm_based (cope coin member)

/-- The rule fails on the base of a coin in a list, and copes with the bases of
those before it. -/
def FirstFails
    (registry : Registry)
    (coins : List DecimalCoin)
    (failure : Failure) :
    Prop :=
  ∃ earlier coin later,
    coins = earlier ++ coin :: later ∧
      (∀ other ∈ earlier, registry.CopesWithBase other.denom) ∧
      registry.FailsOnBase coin.denom failure

theorem wholeBaseForms_eq_error_iff
    {coins : List DecimalCoin}
    {failure : Failure} :
    registry.wholeBaseForms (coins.map .fractional) = .error failure ↔
      registry.FirstFails coins failure := by
  rw [wholeBaseForms, List.mapM_map, Failure.mapM_eq_error_iff]
  refine exists_congr fun earlier => exists_congr fun coin =>
    exists_congr fun later => and_congr_right fun _ => ?_
  simp only [Function.comp_apply, exists_wholeBaseForm_iff,
    wholeBaseForm_eq_error_iff]

/-- Reading into a whole base form fails where reading fails, or else where the
rule fails on the base. -/
theorem readWhole_eq_error_iff
    {source : Value}
    {failure : Failure} :
    registry.readWhole source = .error failure ↔
      Expression.coin registry.rule source = .error failure ∨
        ∃ coin,
          Expression.coin registry.rule source = .ok coin ∧
            registry.FailsOnBase coin.denom failure := by
  rw [readWhole, Failure.bind_eq_error_iff]
  simp only [wholeBaseForm_eq_error_iff]

theorem readWholes_eq_error_iff
    {source : Value}
    {failure : Failure} :
    registry.readWholes source = .error failure ↔
      Expression.coins registry.rule source = .error failure ∨
        ∃ coins,
          Expression.coins registry.rule source = .ok coins ∧
            registry.FirstFails coins failure := by
  rw [readWholes, Failure.bind_eq_error_iff]
  simp only [wholeBaseForms_eq_error_iff]

/-- A strict rule fails on a base exactly if this has too many digits to be
written. -/
theorem failsOnBase_strict_iff
    {failure : Failure}
    (strict :
      ∃ accepts refusal, registry.rule = .strict accepts refusal) :
    registry.FailsOnBase denom failure ↔
      failure = .longInteger ∧
        ∃ base, registry.Linked denom base ∧ base.IsLong := by
  obtain ⟨accepts, refusal, strict⟩ := strict
  constructor
  · rintro ⟨base, linked, failed, passed⟩
    rw [strict] at failed
    cases writable : base.isWritable with
    | true =>
        have copes :=
          DenomRule.copesWith_strict_iff.2 writable failure failed
        rw [copes] at passed
        cases passed
    | false =>
        rw [DenomRule.check_strict_of_unwritable writable] at failed
        cases failed
        exact ⟨rfl, base, linked, Value.isWritable_eq_false_iff.1 writable⟩
  · rintro ⟨rfl, base, linked, long⟩
    refine ⟨base, linked, ?_, rfl⟩
    rw [strict]
    exact DenomRule.check_strict_of_unwritable
      (Value.isWritable_eq_false_iff.2 long)

/--
What becomes of a coin, and of lists and texts.  A coin has no base form exactly if
the rule fails on the base that its denomination is linked to, and then this is the
failure.  Otherwise its base form is the coin itself if the coin stays, and else
what an exchange into the linked base gives, with the name of that base and the
rule of the registry.  Printing a coin that is kept never fails.  A list of decimal
coins fails at the first of them that does, and otherwise has as many whole base
forms, in the same order.  Reading into whole base forms fails where reading fails,
with the same failure, which is one of expressions, or else where the rule fails on
a base.
-/
theorem baseForm_outcome
    (registry : Registry) :
    (∀ holding : Holding,
      (∀ failure,
        registry.baseFormOwn holding = .error failure ↔
          registry.FailsOnBase holding.denom failure) ∧
      (registry.CopesWithBase holding.denom →
        ∃ result,
          registry.baseFormOwn holding = .ok result ∧
            registry.Becomes holding result)) ∧
    ((∀ coin : Coin, (Value.integer coin.amount).isWritable = true) ∧
      ∀ coin : DecimalCoin,
        Fixed.format coin.amount.toValue =
          .ok (String.ofList coin.amount.text)) ∧
    (∀ coins : List DecimalCoin,
      (∀ failure,
        registry.wholeBaseForms (coins.map .fractional) = .error failure ↔
          registry.FirstFails coins failure) ∧
      ((∀ coin ∈ coins, registry.CopesWithBase coin.denom) →
        ∃ results,
          registry.wholeBaseForms (coins.map .fractional) = .ok results ∧
            List.Forall₂ registry.IsWholeBaseForm coins results)) ∧
    ∀ (source : Value) (failure : Failure),
      (registry.readWhole source = .error failure ↔
        Expression.coin registry.rule source = .error failure ∨
          ∃ coin,
            Expression.coin registry.rule source = .ok coin ∧
              registry.FailsOnBase coin.denom failure) ∧
      (registry.readWholes source = .error failure ↔
        Expression.coins registry.rule source = .error failure ∨
          ∃ coins,
            Expression.coins registry.rule source = .ok coins ∧
              registry.FirstFails coins failure) ∧
      (Expression.coin registry.rule source = .error failure →
        failure.family = .expression) ∧
      (Expression.coins registry.rule source = .error failure →
        failure.family = .expression) := by
  refine ⟨fun holding => ⟨fun failure => baseFormOwn_eq_error_iff,
    exists_becomes⟩, ⟨Coin.isWritable_amount, fun coin => ?_⟩,
    fun coins => ⟨fun failure => wholeBaseForms_eq_error_iff,
      exists_wholeBaseForms⟩, fun source failure => ?_⟩
  · exact coin.amount.format_toValue
  · exact ⟨readWhole_eq_error_iff, readWholes_eq_error_iff,
      Expression.family_of_coin_error, Expression.family_of_coins_error⟩

/-! ## Odd bases -/

/-- One whole atom. -/
def oneAtom : Coin :=
  ⟨.standard, "atom", 1, Expression.threeHalves.accepted, by decide +kernel⟩

/-- A registry with a base that is no name. -/
def oddBased : Registry :=
  ((empty .standard).register
    (.text "atom") (.text "1") (.integer 5) (.text "1")).registry

/-- An amount without a name has no base form, a coin with a base that is no name
is kept, and six tenths of a triple are exchanged. -/
theorem baseForm_outcome_samples :
    (tripleAndSingle.readWhole (.text "15") =
        .error (.malformedExpression "15") ∧
      (Failure.malformedExpression "15").family = .expression) ∧
    (∃ result,
      oddBased.baseFormOwn (.whole oneAtom) = .ok result ∧
        result.denom = "atom" ∧
        oddBased.Becomes (.whole oneAtom) result) ∧
    ∃ result,
      tripleAndSingle.baseFormOwn (.fractional sixTenths) = .ok result ∧
        result.denom = "single" ∧
        tripleAndSingle.Becomes (.fractional sixTenths) result := by
  refine ⟨?_, ?_, ?_⟩
  · have failed :
        Expression.coin .standard (.text "15") =
          .error (.malformedExpression "15") := rfl
    obtain ⟨-, -, -, reading⟩ := baseForm_outcome tripleAndSingle
    obtain ⟨readWhole, -, family, -⟩ := reading (.text "15") _
    exact ⟨readWhole.2 (.inl failed), family failed⟩
  · have linked : oddBased.Linked "atom" (.integer 5) :=
      base_eq_ok_iff.1 (by decide +kernel)
    have copes : oddBased.CopesWithBase "atom" := by
      intro base otherLinked
      rw [otherLinked.unique linked]
      exact DenomRule.copesWith_strict_iff.2 rfl
    have named :
        (oddBased.baseFormOwn (.whole oneAtom)).map Holding.denom =
          .ok "atom" := by
      decide +kernel
    obtain ⟨result, reached, becomes⟩ :=
      ((baseForm_outcome oddBased).1 (.whole oneAtom)).2 copes
    rw [reached] at named
    exact ⟨result, reached, Except.ok.inj named, becomes⟩
  · have linked : tripleAndSingle.Linked "triple" (.text "single") :=
      base_eq_ok_iff.1 (by decide +kernel)
    have named :
        (tripleAndSingle.baseFormOwn (.fractional sixTenths)).map
            Holding.denom =
          .ok "single" := by
      decide +kernel
    obtain ⟨result, reached, becomes⟩ :=
      ((baseForm_outcome tripleAndSingle).1 (.fractional sixTenths)).2
        (copesWithBase_of_text linked)
    rw [reached] at named
    exact ⟨result, reached, Except.ok.inj named, becomes⟩

/-- A registry with a base that cannot be written. -/
def longBased : Registry :=
  ((empty .standard).register
    (.text "atom") (.text "1") Value.leastLong (.text "1")).registry

/-- The units of one whole. -/
def wholeSize : UnitSize :=
  ⟨⟨⟨false, Scale.one⟩, by decide +kernel⟩, rfl⟩

theorem register_leastLong :
    (empty .standard).register
        (.text "atom") (.text "1") Value.leastLong (.text "1") =
      ⟨.error .longInteger,
        (empty .standard).enterBoth "atom" wholeSize Value.leastLong
          wholeSize⟩ := by
  have admitted :
      (empty .standard).Admits (.text "atom") (.text "1") (.text "1") "atom"
        wholeSize wholeSize :=
    admission_eq_ok_iff.1 (by decide +kernel)
  exact register_of_isLong admitted Value.isLong_leastLong

theorem failsOnBase_longBased :
    longBased.FailsOnBase "atom" .longInteger := by
  have entered :
      longBased =
        (empty .standard).enterBoth "atom" wholeSize Value.leastLong
          wholeSize :=
    congrArg Outcome.registry register_leastLong
  have strict :
      ∃ accepts refusal, longBased.rule = .strict accepts refusal := by
    rw [entered]
    exact ⟨_, _, rfl⟩
  rw [failsOnBase_strict_iff strict]
  refine ⟨rfl, Value.leastLong, ?_, Value.isLong_leastLong⟩
  rw [entered]
  refine ⟨⟨.text "atom", wholeSize, some Value.leastLong⟩, ?_, rfl, ?_⟩
  · rw [find?_enterBoth, if_neg (by nofun), if_pos rfl]
  · exact Value.isVacant_leastLong

/-- The registration of a base that cannot be written fails after it has entered
everything.  From then on there is no base form of its coins, and no expression
of them is read into one. -/
theorem not_baseForm_oneAtom :
    ((empty .standard).register
        (.text "atom") (.text "1") Value.leastLong (.text "1")).answer =
      .error .longInteger ∧
    (¬ ∃ result, longBased.baseForm (.whole oneAtom) = .ok result) ∧
    ∃ failure,
      longBased.readWhole (.text oneAtom.text) = .error failure ∧
        failure.family ≠ .expression := by
  have failed :
      longBased.baseForm (.whole oneAtom) = .error .longInteger :=
    baseFormOwn_of_failsOnBase (.whole oneAtom) failsOnBase_longBased
  have denoted :=
    Expression.coinOfText_text_whole
      (Expression.plainName_of_standard oneAtom.accepted) oneAtom.accepted
      (by decide +kernel)
  refine ⟨?_, ?_, .longInteger, ?_, by decide⟩
  · rw [register_leastLong]
  · rintro ⟨result, reached⟩
    rw [failed] at reached
    cases reached
  · exact readWhole_eq_error_iff.2
      (.inr ⟨_, denoted, failsOnBase_longBased⟩)

end Coinage.Registry
