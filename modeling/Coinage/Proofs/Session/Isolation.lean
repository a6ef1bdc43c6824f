import Coinage.Proofs.BaseForm.Outcome
import Coinage.Proofs.Exchange.Magnitude
import Coinage.Proofs.Exchange.Return
import Coinage.Proofs.Registry.Sheet
import Coinage.Session.Run

/-!
# What later steps leave alone

To a registry, the steps of a session are the records that they attempt.  An
attempt can touch one known name, its base, and that keeps its size if the record
repeats it, and its link if it is its own base.  So whatever steps follow,
granted, refused or stopped halfway, an exchange between two names whose sizes
are only repeated ends as before.
-/

namespace Coinage

/-! ## Steps as attempted records -/

/-- The record of the staking token. -/
def Registry.stakingRecord : Sheet.Record :=
  ⟨.text stakingDenom, .decimal stakingUnit, .text stakingBase,
    .decimal stakingBaseUnit⟩

/-- The records that a registration attempts. -/
def Registration.attempts
    (registration : Registration)
    (registry : Registry) :
    List Sheet.Record :=
  match registration with
  | .denom name unit base baseUnit => [⟨name, unit, base, baseUnit⟩]
  | .staking => [Registry.stakingRecord]
  | .sheet table =>
    if Sheet.reader.missingColumns table = [] then
      registry.attempts table.records
    else []
  | .noSheet _ => []

/-- A registration leaves what its attempts leave. -/
theorem Registration.registry_perform
    (registration : Registration)
    (registry : Registry) :
    (registration.perform registry).registry =
      registry.serveAll (registration.attempts registry) := by
  cases registration with
  | denom | staking | noSheet =>
      rfl
  | sheet table =>
      change (registry.registerTable Sheet.reader table).registry = _
      rw [Registry.registerTable, attempts, Registry.records_reader]
      by_cases complete : Sheet.reader.missingColumns table = []
      · rw [if_pos complete, if_pos complete]
        exact registry.registry_registerRecords 0 table.records
      · rw [if_neg complete, if_neg complete]
        rfl

/-- The records that a step attempts.  A question attempts none. -/
def Step.attempts
    (step : Step)
    (registry : Registry) :
    List Sheet.Record :=
  match step with
  | .registration request => request.attempts registry
  | .question _ => []

namespace Session

/-- A session after further steps. -/
def after
    (session : Session)
    (steps : List Step) :
    Session :=
  steps.foldl advance session

/-- The records that further steps attempt, one step after the other. -/
def attempts
    (session : Session) :
    List Step →
    List Sheet.Record
  | [] => []
  | step :: rest =>
    step.attempts session.registry ++ (session.advance step).attempts rest

theorem registry_advance
    (session : Session)
    (step : Step) :
    (session.advance step).registry =
      session.registry.serveAll (step.attempts session.registry) := by
  cases step with
  | registration registration =>
      exact registration.registry_perform session.registry
  | question question =>
      rfl

/-- Steps leave what their attempts leave. -/
theorem registry_after
    (session : Session)
    (steps : List Step) :
    (session.after steps).registry =
      session.registry.serveAll (session.attempts steps) := by
  induction steps generalizing session with
  | nil =>
      rfl
  | cons step rest performed =>
      change ((session.advance step).after rest).registry = _
      rw [performed, registry_advance, attempts, Registry.serveAll_append]

end Session

/-! ## Repeated sizes -/

/-- If a record names a text as its base, it gives it a size that is equal to a
given one as a number. -/
def Sheet.Record.Repeats
    (record : Record)
    (name : String)
    (size : UnitSize) :
    Prop :=
  record.base = .text name →
    ∀ number,
      Fixed.ofValue record.baseUnit = .ok number →
      number.signed = size.signed

/-- If a record names a text as its base, it gives it the given size, with the
sign that a zero may have. -/
def Sheet.Record.RepeatsExactly
    (record : Record)
    (name : String)
    (size : UnitSize) :
    Prop :=
  record.base = .text name →
    ∀ number,
      Fixed.ofValue record.baseUnit = .ok number →
      number = size.toFixed

theorem Quantized.scaled_eq_of_signed_eq
    {left right : Quantized}
    (signedEq : left.signed = right.signed) :
    left.scaled = right.scaled := by
  unfold signed at signedEq
  split_ifs at signedEq <;> omega

namespace Session

variable
    {session : Session}
    {steps : List Step}

theorem rule_after
    (session : Session)
    (steps : List Step) :
    (session.after steps).registry.rule = session.registry.rule := by
  rw [registry_after, Registry.rule_serveAll]

section Known

variable
    {name : String}
    {entry : Entry}
    (found : session.registry.find? (.text name) = some entry)

include found

/-- What holds of a name's entry before, and of each one that an attempt may
write over it, holds of its entry afterwards. -/
theorem of_find?_after
    {motive : Entry → Prop}
    {later : Entry}
    (initial : motive entry)
    (laterFound :
      (session.after steps).registry.find? (.text name) = some later)
    (rewritten :
      ∀ record ∈ session.attempts steps,
        record.base = .text name →
        ∀ shared : UnitSize,
          Fixed.ofValue record.baseUnit = .ok shared.toFixed →
          motive ⟨.text name, shared, some (.text name)⟩) :
    motive later := by
  obtain ⟨last, lastFound, holds⟩ :=
    Registry.exists_find?_serveAll found initial rewritten
  rw [registry_after, lastFound] at laterFound
  cases laterFound
  exact holds

/-- A name whose size is only repeated is known alike afterwards. -/
theorem exists_knowAlike_after
    (repeated :
      ∀ record ∈ session.attempts steps, record.Repeats name entry.unit) :
    ∃ later,
      session.registry.KnowAlike (session.after steps).registry name entry
        later := by
  have rewritten :
      ∀ record ∈ session.attempts steps,
        record.base = .text name →
        ∀ shared : UnitSize,
          Fixed.ofValue record.baseUnit = .ok shared.toFixed →
          shared.scaled = entry.unit.scaled := by
    intro record member named shared read
    exact Quantized.scaled_eq_of_signed_eq
      (repeated record member named _ read)
  obtain ⟨later, laterFound, scaledEq⟩ :=
    Registry.exists_find?_serveAll
      (motive := fun later => later.unit.scaled = entry.unit.scaled)
      found rfl rewritten
  refine ⟨later, found, ?_, scaledEq⟩
  rw [registry_after, laterFound]

/-- A name whose size is repeated exactly keeps it. -/
theorem unit_eq_after
    {later : Entry}
    (repeated :
      ∀ record ∈ session.attempts steps,
        record.RepeatsExactly name entry.unit)
    (laterFound :
      (session.after steps).registry.find? (.text name) = some later) :
    later.unit = entry.unit := by
  refine of_find?_after
    (motive := fun later => later.unit = entry.unit)
    found rfl laterFound ?_
  intro record member named shared read
  have fixedEq := repeated record member named _ read
  cases shared
  cases fixedEq
  rfl

/-- A name that is no base of any attempt keeps its link, and so does one that
is its own base. -/
theorem base?_eq_after
    {later : Entry}
    (linked :
      entry.base? = some (.text name) ∨
        ∀ record ∈ session.attempts steps, record.base ≠ .text name)
    (laterFound :
      (session.after steps).registry.find? (.text name) = some later) :
    later.base? = entry.base? := by
  refine of_find?_after
    (motive := fun later => later.base? = entry.base?)
    found rfl laterFound ?_
  intro record member named shared read
  cases linked with
  | inl own =>
      exact own.symm
  | inr absent =>
      exact absurd named (absent record member)

/-- So a base that is known to the registry stays the base. -/
theorem base_eq_after
    {target : String}
    {later : Entry}
    (base : session.registry.base (.text name) = .ok (.text target))
    (unlinked :
      name = target ∨
        ∀ record ∈ session.attempts steps, record.base ≠ .text name)
    (laterFound :
      (session.after steps).registry.find? (.text name) = some later) :
    (session.after steps).registry.base (.text name) =
      .ok (.text target) := by
  obtain ⟨_, entryFound, linkEq, usable⟩ := Registry.base_eq_ok_iff.1 base
  rw [found] at entryFound
  cases entryFound
  have linked :
      entry.base? = some (.text name) ∨
        ∀ record ∈ session.attempts steps, record.base ≠ .text name := by
    refine unlinked.imp_left fun same => ?_
    rw [linkEq, same]
  have kept := base?_eq_after found linked laterFound
  exact Registry.base_eq_ok_iff.2
    ⟨later, laterFound, kept.trans linkEq, usable⟩

end Known

/--
Let a registry know the denomination of a coin and another name, and let any
steps follow.  If each record that these attempt with one of the two names as
its base repeats the size of that name, then exchanges of the coin into the
other name end alike before and after the steps.  A failure to divide by zero
may show another sign, but not if the sign of the other name's size is repeated,
too.  If the other name is the base of the denomination, and no record names the
denomination as a base unless it is its own, then the base forms of the coin
also stay the same.
-/
theorem exchange_undisturbed
    (session : Session)
    (steps : List Step)
    (holding : Holding)
    (target : String)
    (own other : Entry)
    (ownFound :
      session.registry.find? (.text holding.denom) = some own)
    (otherFound : session.registry.find? (.text target) = some other)
    (ownRepeated :
      ∀ record ∈ session.attempts steps,
        record.Repeats holding.denom own.unit)
    (otherRepeated :
      ∀ record ∈ session.attempts steps,
        record.Repeats target other.unit) :
    (∃ later,
      (session.after steps).registry.find? (.text target) = some later ∧
        EndsAlike other.unit later.unit
          (session.registry.exchange holding (.text target))
          ((session.after steps).registry.exchange holding
            (.text target)) ∧
        EndsAlike other.unit later.unit
          (session.registry.exchangeDecimal holding (.text target))
          ((session.after steps).registry.exchangeDecimal holding
            (.text target))) ∧
    ((∀ record ∈ session.attempts steps,
        record.RepeatsExactly target other.unit) →
      (session.after steps).registry.exchange holding (.text target) =
          session.registry.exchange holding (.text target) ∧
        (session.after steps).registry.exchangeDecimal holding
            (.text target) =
          session.registry.exchangeDecimal holding (.text target)) ∧
    (session.registry.base (.text holding.denom) = .ok (.text target) →
      (holding.denom = target ∨
        ∀ record ∈ session.attempts steps,
          record.base ≠ .text holding.denom) →
      (session.after steps).registry.baseForm holding =
          session.registry.baseForm holding ∧
        (session.after steps).registry.baseFormDecimal holding =
          session.registry.baseFormDecimal holding) := by
  have ruleEq := session.rule_after steps
  obtain ⟨laterOwn, ownKnown⟩ := exists_knowAlike_after ownFound ownRepeated
  obtain ⟨laterOther, otherKnown⟩ :=
    exists_knowAlike_after otherFound otherRepeated
  have whole :=
    Registry.exchange_endsAlike ruleEq otherKnown ownKnown
  have decimal :=
    Registry.exchangeDecimal_endsAlike ruleEq otherKnown ownKnown
  refine ⟨⟨laterOther, otherKnown.rightFound, whole, decimal⟩, ?_, ?_⟩
  · intro exactly
    have unitEq := unit_eq_after otherFound exactly otherKnown.rightFound
    rw [unitEq] at whole decimal
    exact ⟨whole.eq.symm, decimal.eq.symm⟩
  · intro base unlinked
    have laterBase :=
      base_eq_after ownFound base unlinked ownKnown.rightFound
    exact ⟨Registry.baseForm_eq_of_endsAlike base laterBase whole,
      Registry.baseFormDecimal_eq_of_endsAlike base laterBase decimal⟩

/-- A session that knows the fine and the coarse unit. -/
def fineSession : Session :=
  ⟨Registry.fineAndCoarse, []⟩

/-- A question, a refused duplicate, a new denomination of the coarse unit, a
registration that stops halfway, and a sheet that ends at its second row. -/
def busySteps : List Step :=
  [.question .report,
    .registration
      (.denom (.text "fine") (.text "9") (.text "other") (.text "1")),
    .registration
      (.denom (.text "middle") (.text "2") (.text "coarse") (.text "4.0")),
    .registration
      (.denom (.text "loose") (.text "1") (.decimal (.nan false true 0))
        (.text "1")),
    .registration (.sheet ⟨["denom", "unit", "base_denom", "base_unit"],
      [[.text "large", .text "8", .text "coarse", .text "4.0"],
        [.text "large", .text "8", .text "coarse", .text "4.0"],
        [.text "never", .text "8", .text "coarse", .text "5"]]⟩)]

/-- What is one fine unit short of a coarse one is exchanged and brought to its
base form as before. -/
theorem exchange_undisturbed_almostCoarse :
    (fineSession.after busySteps).registry.exchange
        (.whole Registry.almostCoarse) (.text "coarse") =
      Registry.fineAndCoarse.exchange (.whole Registry.almostCoarse)
        (.text "coarse") ∧
    (fineSession.after busySteps).registry.baseForm
        (.whole Registry.almostCoarse) =
      Registry.fineAndCoarse.baseForm (.whole Registry.almostCoarse) := by
  have attemptsEq :
      fineSession.attempts busySteps =
        [⟨.text "fine", .text "9", .text "other", .text "1"⟩,
          ⟨.text "middle", .text "2", .text "coarse", .text "4.0"⟩,
          ⟨.text "loose", .text "1", .decimal (.nan false true 0),
            .text "1"⟩,
          ⟨.text "large", .text "8", .text "coarse", .text "4.0"⟩,
          ⟨.text "large", .text "8", .text "coarse", .text "4.0"⟩] := by
    decide +kernel
  have read :
      Fixed.ofValue (.text "4.0") = .ok Registry.coarseSize.toFixed := by
    decide +kernel
  have unlinked :
      ∀ record ∈ fineSession.attempts busySteps,
        record.base ≠ .text "fine" := by
    rw [attemptsEq]
    decide
  have exactly :
      ∀ record ∈ fineSession.attempts busySteps,
        record.RepeatsExactly "coarse" Registry.coarseSize := by
    rw [attemptsEq]
    simp [Sheet.Record.RepeatsExactly, read, eq_comm]
  have undisturbed :=
    exchange_undisturbed fineSession busySteps
      (.whole Registry.almostCoarse) "coarse"
      ⟨.text "fine", Registry.singleSize, some (.text "coarse")⟩
      ⟨.text "coarse", Registry.coarseSize, some (.text "coarse")⟩
      (by decide +kernel) (by decide +kernel)
      (fun record member named => absurd named (unlinked record member))
      (fun record member named number numberRead =>
        congrArg Quantized.signed (congrArg Fixed.toQuantized
          (exactly record member named number numberRead)))
  exact ⟨(undisturbed.2.1 exactly).1,
    (undisturbed.2.2 (by decide +kernel) (.inr unlinked)).1⟩

end Session

end Coinage
