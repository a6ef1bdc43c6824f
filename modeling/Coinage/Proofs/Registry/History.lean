import Coinage.Proofs.Registry.Registration

/-!
# Registries and their histories

A registry whose bases are all texts is a function of the registrations that it
has granted.  The last one that names a text as its base decides on its unit
size and links it to itself; if there is none, the only one that names it as its
denomination does.  `Consistent` is the invariant that carries this over a run,
and `Consistent.extend` is its step.
-/

namespace Coinage.Registry

/-! ## Runs -/

/-- A call for a registration whose base is a text. -/
structure Call where
  denom : Value
  unit : Value
  base : String
  baseUnit : Value

namespace Call

/-- Perform the registration. -/
def serve
    (call : Call)
    (registry : Registry) :
    Outcome Unit :=
  registry.register call.denom call.unit (.text call.base) call.baseUnit

/-- The two names of a call, in the order in which they are entered. -/
def mentions (call : Call) : List Value :=
  [call.denom, .text call.base]

end Call

/-- A registry, and the calls that it has granted so far. -/
structure History where
  registry : Registry
  granted : List Call

namespace History

/-- Nothing has been granted yet. -/
def start (rule : DenomRule) : History :=
  ⟨empty rule, []⟩

/-- Serve one more call.  It joins the granted ones if it succeeds. -/
def extend
    (history : History)
    (call : Call) :
    History where
  registry := (call.serve history.registry).registry
  granted :=
    match (call.serve history.registry).answer with
    | .ok _ => history.granted ++ [call]
    | .error _ => history.granted

/-- Serve calls one after the other. -/
def ofCalls
    (rule : DenomRule)
    (calls : List Call) :
    History :=
  calls.foldl extend (start rule)

end History

/-! ## What a history says -/

/-- A call is granted if all its arguments are in order and its denomination has
not been mentioned. -/
structure Grantable
    (rule : DenomRule)
    (granted : List Call)
    (call : Call) :
    Prop where
  accepted :
    ∃ name, call.denom = .text name ∧ rule.accepts name = true
  unitRead :
    ∃ number, Fixed.ofValue call.unit = .ok number ∧
      number.isBelowZero = false
  baseUnitRead :
    ∃ number, Fixed.ofValue call.baseUnit = .ok number ∧
      number.isBelowZero = false
  fresh :
    ∀ earlier ∈ granted, call.denom ∉ earlier.mentions

/-- A text with a unit size and a link, and how lookups answer for it.  The unit
size is told only for an accepted name, and the empty text is no link. -/
structure Stores
    (registry : Registry)
    (name : String)
    (size : UnitSize)
    (link : String) :
    Prop where
  found :
    registry.find? (.text name) =
      some ⟨.text name, size, some (.text link)⟩
  unit :
    registry.unit? (.text name) =
      if registry.rule.accepts name then some size else none
  base :
    registry.base (.text name) =
      if link = "" then .error (.unlinked name) else .ok (.text link)

/-- A text without a unit size and without a link. -/
structure Lacks
    (registry : Registry)
    (name : String) :
    Prop where
  absent : registry.find? (.text name) = none
  unit : registry.unit? (.text name) = none
  base : registry.base (.text name) = .error (.unlinked name)

/-- A text is stored as the granted calls say: by the last that names it as its
base, else by the only one that names it as its denomination, else not at
all. -/
structure Settled
    (registry : Registry)
    (granted : List Call)
    (name : String) :
    Prop where
  ofBase :
    ∀ earlier call later,
      granted = earlier ++ call :: later →
      call.base = name →
      (∀ other ∈ later, other.base ≠ name) →
      ∃ size : UnitSize,
        Fixed.ofValue call.baseUnit = .ok size.toFixed ∧
          registry.Stores name size name
  ofDenom :
    ∀ earlier call later,
      granted = earlier ++ call :: later →
      call.denom = .text name →
      (∀ other ∈ granted, other.base ≠ name) →
      (∀ other ∈ earlier ++ later, other.denom ≠ .text name) ∧
        ∃ size : UnitSize,
          Fixed.ofValue call.unit = .ok size.toFixed ∧
            registry.Stores name size call.base
  ofUnmentioned :
    (∀ call ∈ granted, Value.text name ∉ call.mentions) →
    registry.Lacks name

variable {registry : Registry}

theorem stores_of_find?
    {name link : String}
    {size : UnitSize}
    (found :
      registry.find? (.text name) =
        some ⟨.text name, size, some (.text link)⟩) :
    registry.Stores name size link :=
  ⟨found, unit?_of_find? found, base_of_find? found rfl⟩

theorem lacks_of_find?
    {name : String}
    (absent : registry.find? (.text name) = none) :
    registry.Lacks name :=
  ⟨absent, unit?_of_find?_eq_none absent, base_of_find?_eq_none absent⟩

/-! ## One more call -/

/-- A call in a longer list is the last one, or it was in the list before. -/
theorem split_concat
    {calls earlier later : List Call}
    {last call : Call}
    (split : calls ++ [last] = earlier ++ call :: later) :
    (later = [] ∧ call = last) ∨
      ∃ before,
        later = before ++ [last] ∧ calls = earlier ++ call :: before := by
  rcases later.eq_nil_or_concat with rfl | ⟨before, final, rfl⟩
  · obtain ⟨-, callEq⟩ := List.append_inj' split rfl
    exact .inl ⟨rfl, (List.singleton_inj.1 callEq).symm⟩
  · rw [List.concat_eq_append] at split ⊢
    rw [← List.cons_append, ← List.append_assoc] at split
    obtain ⟨callsEq, finalEq⟩ := List.append_inj' split rfl
    rw [List.singleton_inj] at finalEq
    exact .inr ⟨before, by rw [finalEq], callsEq⟩

section Step

variable
    {granted : List Call}
    {call : Call}
    {own shared : UnitSize}
    {name : String}

/-- The base of the call. -/
theorem settled_base
    (sharedRead : Fixed.ofValue call.baseUnit = .ok shared.toFixed)
    (baseEq : call.base = name)
    (found :
      registry.find? (.text name) =
        some ⟨.text name, shared, some (.text name)⟩) :
    registry.Settled (granted ++ [call]) name where
  ofBase earlier other later split otherBase last := by
    rcases split_concat split with ⟨-, rfl⟩ | ⟨before, rfl, -⟩
    · exact ⟨shared, sharedRead, stores_of_find? found⟩
    · exact absurd baseEq (last call List.mem_concat_self)
  ofDenom earlier other later split otherDenom noBase :=
    absurd baseEq (noBase call List.mem_concat_self)
  ofUnmentioned unmentioned := by
    refine absurd ?_ (unmentioned call List.mem_concat_self)
    rw [Call.mentions, baseEq]
    exact List.mem_cons_of_mem _ (List.mem_singleton_self _)

/-- The denomination of the call, where it is not the base. -/
theorem settled_denom
    (fresh : ∀ earlier ∈ granted, call.denom ∉ earlier.mentions)
    (ownRead : Fixed.ofValue call.unit = .ok own.toFixed)
    (denomEq : call.denom = .text name)
    (baseNe : call.base ≠ name)
    (found :
      registry.find? (.text name) =
        some ⟨.text name, own, some (.text call.base)⟩) :
    registry.Settled (granted ++ [call]) name where
  ofBase earlier other later split otherBase last := by
    rcases split_concat split with ⟨-, rfl⟩ | ⟨before, -, rfl⟩
    · exact absurd otherBase baseNe
    · have unmentioned :=
        fresh other (List.mem_append_right _ List.mem_cons_self)
      rw [denomEq, ← otherBase] at unmentioned
      exact absurd
        (List.mem_cons_of_mem _ (List.mem_singleton_self _)) unmentioned
  ofDenom earlier other later split otherDenom noBase := by
    rcases split_concat split with ⟨rfl, rfl⟩ | ⟨before, -, rfl⟩
    · obtain ⟨rfl, -⟩ := List.append_inj' split rfl
      refine ⟨?_, own, ownRead, stores_of_find? found⟩
      intro earlierCall member sameDenom
      rw [List.append_nil] at member
      rw [denomEq, ← sameDenom] at fresh
      exact fresh earlierCall member List.mem_cons_self
    · have unmentioned :=
        fresh other (List.mem_append_right _ List.mem_cons_self)
      rw [denomEq, ← otherDenom] at unmentioned
      exact absurd List.mem_cons_self unmentioned
  ofUnmentioned unmentioned := by
    refine absurd ?_ (unmentioned call List.mem_concat_self)
    rw [Call.mentions, denomEq]
    exact List.mem_cons_self

/-- A text that the call does not mention. -/
theorem settled_other
    {before : Registry}
    (settled : before.Settled granted name)
    (denomNe : call.denom ≠ .text name)
    (baseNe : call.base ≠ name)
    (unchanged :
      registry.find? (.text name) = before.find? (.text name)) :
    registry.Settled (granted ++ [call]) name where
  ofBase earlier other later split otherBase last := by
    rcases split_concat split with ⟨-, rfl⟩ | ⟨middle, rfl, grantedEq⟩
    · exact absurd otherBase baseNe
    · obtain ⟨size, read, stored⟩ :=
        settled.ofBase earlier other middle grantedEq otherBase
          fun between member => last between (List.mem_append_left _ member)
      exact ⟨size, read, stores_of_find? (unchanged.trans stored.found)⟩
  ofDenom earlier other later split otherDenom noBase := by
    rcases split_concat split with ⟨-, rfl⟩ | ⟨middle, rfl, grantedEq⟩
    · exact absurd otherDenom denomNe
    · obtain ⟨only, size, read, stored⟩ :=
        settled.ofDenom earlier other middle grantedEq otherDenom
          fun between member => noBase between (List.mem_append_left _ member)
      refine ⟨?_, size, read,
        stores_of_find? (unchanged.trans stored.found)⟩
      intro another member
      rw [← List.append_assoc, List.mem_append, List.mem_singleton] at member
      rcases member with known | rfl
      · exact only another known
      · exact denomNe
  ofUnmentioned unmentioned :=
    lacks_of_find? (unchanged.trans
      (settled.ofUnmentioned fun known member =>
        unmentioned known (List.mem_append_left _ member)).absent)

end Step

/-! ## The invariant -/

theorem eraseDups_concat
    (values : List Value)
    (last : Value) :
    (values ++ [last]).eraseDups =
      if last ∈ values.eraseDups then values.eraseDups
      else values.eraseDups ++ [last] := by
  rw [List.eraseDups_append]
  by_cases member : last ∈ values
  · simp [List.removeAll, member]
  · simp [List.removeAll, member, List.eraseDups_cons]

/-- A text is added to a list without repetitions. -/
theorem nodup_names_enter
    {entry : Entry}
    {content : String}
    (named : entry.name = .text content)
    (distinct : registry.names.Nodup) :
    (registry.enter entry).names.Nodup := by
  rw [names_enter named]
  split_ifs with known
  · exact distinct
  · exact List.nodup_append.2 ⟨distinct, List.pairwise_singleton _ _, by
      intro other member last lastMember same
      rw [List.mem_singleton] at lastMember
      rw [same, lastMember] at member
      exact known member⟩

/-- Each of the two names joins the names and the mentions, or neither. -/
theorem names_enterBoth
    {mentioned : List Value}
    (namesEq : registry.names = mentioned.eraseDups)
    (name base : String)
    (own shared : UnitSize) :
    (registry.enterBoth name own (.text base) shared).names =
      (mentioned ++ [Value.text name, .text base]).eraseDups := by
  have split :
      mentioned ++ [Value.text name, .text base] =
        mentioned ++ [.text name] ++ [.text base] := by
    rw [List.append_assoc]
    rfl
  rw [split, eraseDups_concat, eraseDups_concat, ← namesEq, enterBoth,
    names_enter rfl, names_enter rfl]

/-- The registry of a history is the one that its granted calls describe. -/
structure Consistent
    (rule : DenomRule)
    (history : History) :
    Prop where
  rule_eq : history.registry.rule = rule
  names_eq :
    history.registry.names =
      (history.granted.flatMap Call.mentions).eraseDups
  distinct : history.registry.names.Nodup
  settled : ∀ name, history.registry.Settled history.granted name

namespace Consistent

variable
    {rule : DenomRule}
    {history : History}
    {call : Call}

theorem start (rule : DenomRule) :
    Consistent rule (.start rule) where
  rule_eq := rfl
  names_eq := rfl
  distinct := List.nodup_nil
  settled name :=
    ⟨fun earlier other later split => by simp [History.start] at split,
      fun earlier other later split => by simp [History.start] at split,
      fun _ => lacks_of_find? rfl⟩

/-- A text is new to the registry if no granted call mentions it. -/
theorem find?_eq_none_iff
    (consistent : Consistent rule history)
    {name : String} :
    history.registry.find? (.text name) = none ↔
      ∀ earlier ∈ history.granted, Value.text name ∉ earlier.mentions := by
  rw [find?_text_eq_none_iff, consistent.names_eq, List.mem_eraseDups,
    List.mem_flatMap]
  simp only [not_exists, not_and]

/-- The checks ask of a call what makes it grantable. -/
theorem exists_admits_iff
    (consistent : Consistent rule history) :
    (∃ name own shared,
      history.registry.Admits call.denom call.unit call.baseUnit
        name own shared) ↔
      Grantable rule history.granted call := by
  constructor
  · rintro ⟨name, own, shared, admitted⟩
    have fresh := admitted.fresh
    rw [admitted.named, consistent.find?_eq_none_iff, ← admitted.named]
      at fresh
    have accepted := admitted.accepted
    rw [consistent.rule_eq] at accepted
    exact ⟨⟨name, admitted.named, accepted⟩,
      ⟨own.toFixed, admitted.ownRead, own.notBelowZero⟩,
      ⟨shared.toFixed, admitted.sharedRead, shared.notBelowZero⟩, fresh⟩
  · rintro ⟨⟨name, named, accepted⟩, ⟨own, ownRead, ownUnsigned⟩,
      ⟨shared, sharedRead, sharedUnsigned⟩, fresh⟩
    refine ⟨name, ⟨own, ownUnsigned⟩, ⟨shared, sharedUnsigned⟩, named,
      ?_, ownRead, sharedRead, ?_⟩
    · rw [consistent.rule_eq]
      exact accepted
    · rw [named] at fresh ⊢
      exact consistent.find?_eq_none_iff.2 fresh

/-- The texts of a granted call are stored as it says, the others as before. -/
theorem settled_enterBoth
    {denom : String}
    {own shared : UnitSize}
    (consistent : Consistent rule history)
    (admitted :
      history.registry.Admits call.denom call.unit call.baseUnit
        denom own shared)
    (name : String) :
    (history.registry.enterBoth denom own (.text call.base) shared).Settled
      (history.granted ++ [call]) name := by
  have found :=
    find?_enterBoth history.registry denom own (.text call.base) shared name
  by_cases baseEq : call.base = name
  · refine settled_base admitted.sharedRead baseEq ?_
    rw [found, baseEq, if_pos rfl]
  have baseNe : Value.text call.base ≠ .text name := by
    intro same
    exact baseEq (Value.text.inj same)
  rw [if_neg baseNe] at found
  by_cases denomEq : denom = name
  · have fresh :=
      (consistent.exists_admits_iff.1 ⟨denom, own, shared, admitted⟩).fresh
    rw [if_pos denomEq] at found
    subst denomEq
    exact settled_denom fresh admitted.ownRead admitted.named baseEq found
  · rw [if_neg denomEq] at found
    refine settled_other (consistent.settled name) ?_ baseEq found
    rw [admitted.named]
    intro same
    exact denomEq (Value.text.inj same)

/-- One more call keeps the invariant. -/
theorem extend
    (consistent : Consistent rule history)
    (call : Call) :
    Consistent rule (history.extend call) := by
  rcases history.registry.admission_cases call.denom call.unit call.baseUnit
    with ⟨denom, own, shared, admitted⟩ | ⟨failure, refused⟩
  · have extended :
        history.extend call =
          ⟨history.registry.enterBoth denom own (.text call.base) shared,
            history.granted ++ [call]⟩ := by
      rw [History.extend, Call.serve, register_of_text admitted _]
    rw [extended]
    constructor
    · exact consistent.rule_eq
    · rw [List.flatMap_append, List.flatMap_singleton, Call.mentions,
        admitted.named]
      exact names_enterBoth consistent.names_eq denom call.base own shared
    · exact nodup_names_enter rfl
        (nodup_names_enter rfl consistent.distinct)
    · exact consistent.settled_enterBoth admitted
  · have unchanged : history.extend call = history := by
      rw [History.extend, Call.serve, register_of_refused refused]
    rw [unchanged]
    exact consistent

theorem ofCalls
    (rule : DenomRule)
    (calls : List Call) :
    Consistent rule (.ofCalls rule calls) := by
  have run :
      ∀ history, Consistent rule history →
        Consistent rule (calls.foldl History.extend history) := by
    induction calls with
    | nil =>
        exact fun history consistent => consistent
    | cons call calls served =>
        exact fun history consistent => served _ (consistent.extend call)
  exact run _ (start rule)

end Consistent

/--
After any run of calls from the empty registry, the granted ones decide on
everything: on which call would be granted next, on what is stored of a text and
how lookups answer for it, and on the names and their order.
-/
theorem registry_of_history
    (rule : DenomRule)
    (calls : List Call) :
    (∀ call,
      (call.serve (History.ofCalls rule calls).registry).answer = .ok () ↔
        Grantable rule (History.ofCalls rule calls).granted call) ∧
    (∀ name,
      (History.ofCalls rule calls).registry.Settled
        (History.ofCalls rule calls).granted name) ∧
    (History.ofCalls rule calls).registry.rule = rule ∧
    (History.ofCalls rule calls).registry.names =
      ((History.ofCalls rule calls).granted.flatMap
        Call.mentions).eraseDups ∧
    (History.ofCalls rule calls).registry.names.Nodup ∧
    (History.ofCalls rule calls).registry.size =
      (History.ofCalls rule calls).registry.names.length := by
  have consistent := Consistent.ofCalls rule calls
  refine ⟨fun call => ?_, consistent.settled, consistent.rule_eq,
    consistent.names_eq, consistent.distinct,
    (List.length_map Entry.name).symm⟩
  rw [← consistent.exists_admits_iff]
  constructor
  · intro answered
    rcases Registry.admission_cases _ call.denom call.unit call.baseUnit with
      admitted | ⟨failure, refused⟩
    · exact admitted
    · rw [Call.serve, register_of_refused refused] at answered
      cases answered
  · rintro ⟨name, own, shared, admitted⟩
    rw [Call.serve, register_of_text admitted _]

end Coinage.Registry
