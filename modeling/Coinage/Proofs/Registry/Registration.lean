import Coinage.Proofs.Denom
import Coinage.Proofs.Registry.Entries
import Coinage.Proofs.Value

/-!
# Registering a denomination

All checks of a registration come before anything is entered, so a refused one
leaves the registry as it was.  Only the base is used as a key, and reported in
words afterwards, without a check.  A signaling value there stops the registration
halfway: the denomination stays behind with its unit size and without a base.  An
integer with too many digits lets it fail at the end, when all has been entered.
-/

namespace Coinage

/-- A signaling value, given by its data or as an object. -/
def Value.IsSignaling (value : Value) : Prop :=
  ∃ negative payload,
    value = .decimal (.nan negative true payload) ∨
      ∃ object, value = .nan object (.decimal negative true payload)

/-- Only signaling values cannot be keys. -/
theorem Value.isKey_eq_false_iff
    {value : Value} :
    value.isKey = false ↔ value.IsSignaling := by
  constructor
  · intro noKey
    cases value with
    | decimal datum =>
        cases datum with
        | nan negative signaling payload =>
            cases signaling with
            | true =>
                exact ⟨negative, payload, .inl rfl⟩
            | false =>
                cases noKey
        | finite | infinite => cases noKey
    | nan object content =>
        cases content with
        | decimal negative signaling payload =>
            cases signaling with
            | true =>
                exact ⟨negative, payload, .inr ⟨object, rfl⟩⟩
            | false =>
                cases noKey
        | float => cases noKey
    | text | integer | float | boolean | absent => cases noKey
  · rintro ⟨negative, payload, rfl | ⟨object, rfl⟩⟩
    · rfl
    · rfl

/-- The role only matters for a refusal. -/
theorem UnitSize.ofValue_eq_ok_iff
    {role : UnitRole}
    {value : Value}
    {unit : UnitSize} :
    UnitSize.ofValue role value = .ok unit ↔
      Fixed.ofValue value = .ok unit.toFixed := by
  rw [UnitSize.ofValue, Failure.bind_eq_ok_iff]
  constructor
  · rintro ⟨number, read, sized⟩
    split_ifs at sized
    cases sized
    exact read
  · intro read
    exact ⟨unit.toFixed, read, dif_pos unit.notBelowZero⟩

namespace Registry

/-! ## The checks -/

/-- What the checks of a registration ask for, and what they find: the name of
the denomination and both unit sizes. -/
structure Admits
    (registry : Registry)
    (denom unit baseUnit : Value)
    (name : String)
    (own shared : UnitSize) :
    Prop where
  named : denom = .text name
  accepted : registry.rule.accepts name = true
  ownRead : Fixed.ofValue unit = .ok own.toFixed
  sharedRead : Fixed.ofValue baseUnit = .ok shared.toFixed
  fresh : registry.find? denom = none

variable
    {registry : Registry}
    {denom unit base baseUnit : Value}

theorem admission_eq_ok_iff
    {name : String}
    {own shared : UnitSize} :
    registry.admission denom unit baseUnit = .ok (name, own, shared) ↔
      registry.Admits denom unit baseUnit name own shared := by
  simp only [admission, Failure.bind_eq_ok_iff, DenomRule.check_eq_ok_iff,
    UnitSize.ofValue_eq_ok_iff]
  constructor
  · rintro ⟨accepted, named, own', ownRead, shared', sharedRead, judged⟩
    split_ifs at judged with known
    cases judged
    exact ⟨named, accepted.property, ownRead, sharedRead,
      Option.not_isSome_iff_eq_none.1 known⟩
  · intro admitted
    refine ⟨DenomRule.named admitted.accepted, admitted.named, own,
      admitted.ownRead, shared, admitted.sharedRead, ?_⟩
    rw [if_neg (Option.not_isSome_iff_eq_none.2 admitted.fresh)]
    rfl

/-- The checks give one answer. -/
theorem admission_cases
    (registry : Registry)
    (denom unit baseUnit : Value) :
    (∃ name own shared,
      registry.Admits denom unit baseUnit name own shared) ∨
    ∃ failure, registry.admission denom unit baseUnit = .error failure := by
  cases judged : registry.admission denom unit baseUnit with
  | ok found =>
      obtain ⟨name, own, shared⟩ := found
      exact .inl ⟨name, own, shared, admission_eq_ok_iff.1 judged⟩
  | error failure =>
      exact .inr ⟨failure, rfl⟩

/-! ## The ways of a registration -/

/-- The registry with a denomination and its base entered. -/
def enterBoth
    (registry : Registry)
    (name : String)
    (own : UnitSize)
    (base : Value)
    (shared : UnitSize) :
    Registry :=
  (registry.enter ⟨.text name, own, some base⟩).enter
    ⟨base, shared, some base⟩

/-- What is known of a text afterwards.  The base is entered last. -/
theorem find?_enterBoth
    (registry : Registry)
    (name : String)
    (own : UnitSize)
    (base : Value)
    (shared : UnitSize)
    (content : String) :
    (registry.enterBoth name own base shared).find? (.text content) =
      if base = .text content then some ⟨base, shared, some base⟩
      else if name = content then some ⟨.text name, own, some base⟩
      else registry.find? (.text content) := by
  rw [enterBoth, find?_enter, find?_enter]
  by_cases named : name = content
  · rw [if_pos named, if_pos (congrArg Value.text named)]
  · have different : Value.text name ≠ .text content := by
      intro same
      exact named (Value.text.inj same)
    rw [if_neg named, if_neg different]

/-- A refused registration changes nothing. -/
theorem register_of_refused
    {failure : Failure}
    (refused : registry.admission denom unit baseUnit = .error failure) :
    registry.register denom unit base baseUnit =
      ⟨.error failure, registry⟩ := by
  rw [register, refused]

section Admitted

variable
    {name : String}
    {own shared : UnitSize}
    (admitted : registry.Admits denom unit baseUnit name own shared)

include admitted

/-- A base that can be a key is entered, and then reported. -/
theorem register_of_isKey
    (key : base.isKey = true) :
    registry.register denom unit base baseUnit =
      ⟨reportBase base, registry.enterBoth name own base shared⟩ := by
  rw [register, admission_eq_ok_iff.2 admitted]
  exact if_pos key

theorem register_of_text
    (content : String) :
    registry.register denom unit (.text content) baseUnit =
      ⟨.ok (), registry.enterBoth name own (.text content) shared⟩ :=
  register_of_isKey admitted rfl

/-- A base that cannot be a key leaves half of the registration behind. -/
theorem register_of_not_isKey
    (noKey : base.isKey = false) :
    registry.register denom unit base baseUnit =
      ⟨.error .signalingKey,
        ⟨registry.rule,
          registry.entries ++ [⟨.text name, own, none⟩]⟩⟩ := by
  have fresh :
      registry.find? (⟨.text name, own, none⟩ : Entry).name = none := by
    rw [← admitted.fresh, admitted.named]
  rw [register, admission_eq_ok_iff.2 admitted, ← enter_of_find?_eq_none fresh]
  exact if_neg (by rw [noKey]; decide)

end Admitted

theorem reportBase_of_isLong
    (long : base.IsLong) :
    reportBase base = .error .longInteger :=
  if_neg (Bool.eq_false_iff.1 (Value.isWritable_eq_false_iff.2 long))

theorem reportBase_of_not_isLong
    (short : ¬ base.IsLong) :
    reportBase base = .ok () := by
  refine if_pos (Bool.of_not_eq_false fun unwritable => short ?_)
  exact Value.isWritable_eq_false_iff.1 unwritable

/-- A registration is entered as a whole, whether or not its base can be reported,
or up to its base, or not at all. -/
theorem register_cases
    (registry : Registry)
    (denom unit base baseUnit : Value) :
    (∃ name own shared,
      registry.Admits denom unit baseUnit name own shared ∧
        registry.register denom unit base baseUnit =
          ⟨reportBase base, registry.enterBoth name own base shared⟩) ∨
    (∃ name own shared,
      registry.Admits denom unit baseUnit name own shared ∧
        registry.register denom unit base baseUnit =
          ⟨.error .signalingKey,
            ⟨registry.rule,
              registry.entries ++ [⟨.text name, own, none⟩]⟩⟩) ∨
    ∃ failure,
      registry.register denom unit base baseUnit =
        ⟨.error failure, registry⟩ := by
  rcases registry.admission_cases denom unit baseUnit with
    ⟨name, own, shared, admitted⟩ | ⟨failure, refused⟩
  · cases key : base.isKey with
    | true =>
        exact .inl ⟨name, own, shared, admitted,
          register_of_isKey admitted key⟩
    | false =>
        exact .inr (.inl ⟨name, own, shared, admitted,
          register_of_not_isKey admitted key⟩)
  · exact .inr (.inr ⟨failure, register_of_refused refused⟩)

/-! ## All or nothing -/

/-- Both names are entered with their unit sizes, and both are linked to the
base.  Under one name the size of the base counts.  A base that is not the same
key as itself is entered too, but it is not found again. -/
structure Records
    (registry : Registry)
    (name : String)
    (own : UnitSize)
    (base : Value)
    (shared : UnitSize) :
    Prop where
  denomFound :
    registry.find? (.text name) =
      some ⟨.text name, if base = .text name then shared else own, some base⟩
  baseEntered :
    ∃ entered,
      (entered = base ∨ entered.sameKey base = true) ∧
        ⟨entered, shared, some base⟩ ∈ registry.entries
  baseFound :
    base.sameKey base = true →
    ∃ entered, registry.find? base = some ⟨entered, shared, some base⟩

theorem records_enterBoth
    (registry : Registry)
    (name : String)
    (own : UnitSize)
    (base : Value)
    (shared : UnitSize) :
    (registry.enterBoth name own base shared).Records
      name own base shared where
  denomFound := by
    rw [find?_enterBoth, if_pos (rfl : name = name)]
    by_cases own_base : base = .text name
    · rw [if_pos own_base, if_pos own_base, own_base]
    · rw [if_neg own_base, if_neg own_base]
  baseEntered :=
    Entry.mem_put ⟨base, shared, some base⟩
      (registry.enter ⟨.text name, own, some base⟩).entries
  baseFound reflexive :=
    Entry.find?_put_self ⟨base, shared, some base⟩
      (registry.enter ⟨.text name, own, some base⟩).entries reflexive

/-- A registration passes all checks and is entered as a whole, or it fails and
leaves the registry as it was. -/
def AllOrNothing
    (registry : Registry)
    (denom unit base baseUnit : Value) :
    Prop :=
  (∃ name own shared,
    registry.Admits denom unit baseUnit name own shared ∧
      (registry.register denom unit base baseUnit).answer = .ok () ∧
      (registry.register denom unit base baseUnit).registry.Records
        name own base shared) ∨
  ∃ failure,
    registry.register denom unit base baseUnit = ⟨.error failure, registry⟩

theorem allOrNothing_of_refused
    {failure : Failure}
    (refused : registry.admission denom unit baseUnit = .error failure) :
    registry.AllOrNothing denom unit base baseUnit :=
  .inr ⟨failure, register_of_refused refused⟩

section Admitted

variable
    {name : String}
    {own shared : UnitSize}
    (admitted : registry.Admits denom unit baseUnit name own shared)

include admitted

theorem allOrNothing_of_admits
    (key : base.isKey = true)
    (short : ¬ base.IsLong) :
    registry.AllOrNothing denom unit base baseUnit := by
  have entered := register_of_isKey admitted key
  rw [reportBase_of_not_isLong short] at entered
  refine .inl ⟨name, own, shared, admitted, ?_, ?_⟩
  · rw [entered]
  · rw [entered]
    exact registry.records_enterBoth name own base shared

/-- A registration that fails and leaves something new is neither. -/
theorem not_allOrNothing_of_error
    {failure : Failure}
    {after : Registry}
    (registered :
      registry.register denom unit base baseUnit = ⟨.error failure, after⟩)
    (entered : after.find? (.text name) ≠ none) :
    ¬ registry.AllOrNothing denom unit base baseUnit := by
  rintro (⟨-, -, -, -, answered, -⟩ | ⟨other, unchanged⟩)
  · rw [registered] at answered
    cases answered
  · rw [registered] at unchanged
    cases unchanged
    exact entered (admitted.named ▸ admitted.fresh)

theorem not_allOrNothing_of_isSignaling
    (signaling : base.IsSignaling) :
    ¬ registry.AllOrNothing denom unit base baseUnit := by
  have noKey := Value.isKey_eq_false_iff.2 signaling
  refine not_allOrNothing_of_error admitted
    (register_of_not_isKey admitted noKey) ?_
  rw [Option.ne_none_iff_isSome, find?, List.find?_isSome]
  exact ⟨_, List.mem_append_right _ List.mem_cons_self,
    Value.sameKey_text_iff.2 rfl⟩

/-- A long integer can be a key, but it cannot be reported. -/
theorem register_of_isLong
    (long : base.IsLong) :
    registry.register denom unit base baseUnit =
      ⟨.error .longInteger, registry.enterBoth name own base shared⟩ := by
  have key : base.isKey = true := by
    obtain ⟨number, rfl, -⟩ := long
    rfl
  rw [register_of_isKey admitted key, reportBase_of_isLong long]

theorem not_allOrNothing_of_isLong
    (long : base.IsLong) :
    ¬ registry.AllOrNothing denom unit base baseUnit := by
  refine not_allOrNothing_of_error admitted
    (register_of_isLong admitted long) ?_
  rw [(registry.records_enterBoth name own base shared).denomFound]
  exact Option.some_ne_none _

end Admitted

/--
A registration is all or nothing exactly if its base is neither a signaling value
nor an integer with too many digits, or its checks refuse it.  Otherwise it fails
too late: for a signaling base the denomination has been entered with its unit
size, and for a long integer all has been entered.
-/
theorem register_allOrNothing_iff
    (registry : Registry)
    (denom unit base baseUnit : Value) :
    (registry.AllOrNothing denom unit base baseUnit ↔
      ¬ (base.IsSignaling ∨ base.IsLong) ∨
      ¬ ∃ name own shared,
        registry.Admits denom unit baseUnit name own shared) ∧
    ∀ name own shared,
      registry.Admits denom unit baseUnit name own shared →
      (base.IsSignaling →
        registry.register denom unit base baseUnit =
          ⟨.error .signalingKey,
            ⟨registry.rule,
              registry.entries ++ [⟨.text name, own, none⟩]⟩⟩) ∧
      (base.IsLong →
        ∃ after,
          registry.register denom unit base baseUnit =
              ⟨.error .longInteger, after⟩ ∧
            after.Records name own base shared) := by
  constructor
  · rcases registry.admission_cases denom unit baseUnit with
      ⟨name, own, shared, admitted⟩ | ⟨failure, refused⟩
    · by_cases unfit : base.IsSignaling ∨ base.IsLong
      · have broken :
            ¬ registry.AllOrNothing denom unit base baseUnit := by
          rcases unfit with signaling | long
          · exact not_allOrNothing_of_isSignaling admitted signaling
          · exact not_allOrNothing_of_isLong admitted long
        refine iff_of_false broken ?_
        rintro (fit | refused)
        · exact fit unfit
        · exact refused ⟨name, own, shared, admitted⟩
      · obtain ⟨unsignaling, short⟩ := not_or.1 unfit
        have key : base.isKey = true :=
          Bool.of_not_eq_false
            (mt Value.isKey_eq_false_iff.1 unsignaling)
        exact iff_of_true (allOrNothing_of_admits admitted key short)
          (.inl unfit)
    · refine iff_of_true (allOrNothing_of_refused refused) (.inr ?_)
      rintro ⟨name, own, shared, admitted⟩
      rw [admission_eq_ok_iff.2 admitted] at refused
      cases refused
  · intro name own shared admitted
    refine ⟨fun signaling => ?_, fun long => ?_⟩
    · exact register_of_not_isKey admitted
        (Value.isKey_eq_false_iff.2 signaling)
    · exact ⟨_, register_of_isLong admitted long,
        registry.records_enterBoth name own base shared⟩

/-- A signaling base breaks the first registration of all. -/
theorem not_allOrNothing_signaling :
    ¬ (empty .standard).AllOrNothing (.text "atom") (.text "1")
      (.decimal (.nan false true 0)) (.text "1") := by
  have failed :
      ((empty .standard).register (.text "atom") (.text "1")
        (.decimal (.nan false true 0)) (.text "1")).answer =
        .error .signalingKey := by
    rfl
  have entered :
      ((empty .standard).register (.text "atom") (.text "1")
        (.decimal (.nan false true 0)) (.text "1")).registry.size = 1 := by
    decide +kernel
  rintro (⟨-, -, -, -, answered, -⟩ | ⟨failure, unchanged⟩)
  · rw [failed] at answered
    cases answered
  · rw [unchanged] at entered
    cases entered

end Registry

end Coinage
