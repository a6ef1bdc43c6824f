import Coinage.Proofs.Registry.Registration
import Coinage.Registry.Sheet

/-!
# Registering records one after the other

The records of a sheet are attempted in order until one is refused.  What the
sheet leaves is what these attempts leave, and the sheet is loaded exactly if
each of its records is granted; `Loads` follows such a run record by record.

Of the names that are known already, an attempt can touch only one, its base.
`exists_find?_serveAll` carries whatever holds of a name's entry through a run,
if it holds of each entry that an attempt may write over it.
-/

namespace Coinage

namespace Sheet.Record

/-- Perform the registration that a record asks for. -/
def serve
    (record : Record)
    (registry : Registry) :
    Registry.Outcome Unit :=
  registry.register record.denom record.unit record.base record.baseUnit

end Sheet.Record

namespace Registry

/-- The records that a reader of sheets finds. -/
theorem records_reader (sheet : Sheet) :
    Sheet.reader.records sheet = sheet.records :=
  List.map_map

/-! ## Attempts -/

/-- The registry that records leave, granted or refused. -/
def serveAll
    (registry : Registry)
    (records : List Sheet.Record) :
    Registry :=
  records.foldl (fun current record => (record.serve current).registry)
    registry

/-- The records that are attempted: all up to the first that is refused. -/
def attempts
    (registry : Registry) :
    List Sheet.Record →
    List Sheet.Record
  | [] => []
  | record :: rest =>
    match (record.serve registry).answer with
    | .ok _ => record :: (record.serve registry).registry.attempts rest
    | .error _ => [record]

theorem serveAll_append
    (registry : Registry)
    (earlier later : List Sheet.Record) :
    registry.serveAll (earlier ++ later) =
      (registry.serveAll earlier).serveAll later :=
  List.foldl_append

theorem registerRecords_cons
    (registry : Registry)
    (count : Nat)
    (record : Sheet.Record)
    (rest : List Sheet.Record) :
    registry.registerRecords count (record :: rest) =
      match (record.serve registry).answer with
      | .ok _ =>
        (record.serve registry).registry.registerRecords (count + 1) rest
      | .error failure =>
        ⟨.error failure, (record.serve registry).registry⟩ := by
  rw [registerRecords]
  rfl

/-- Records that are registered until one is refused leave what their attempts
leave. -/
theorem registry_registerRecords
    (registry : Registry)
    (count : Nat)
    (records : List Sheet.Record) :
    (registry.registerRecords count records).registry =
      registry.serveAll (registry.attempts records) := by
  induction records generalizing registry count with
  | nil =>
      rfl
  | cons record rest registered =>
      rw [registerRecords_cons, attempts]
      cases (record.serve registry).answer with
      | ok _ =>
          exact registered _ _
      | error _ =>
          rfl

/-! ## Loading -/

/-- Each record is granted in its turn. -/
inductive Loads : Registry → List Sheet.Record → Registry → Prop where
  | nil (registry : Registry) :
      Loads registry [] registry
  | cons
      {registry next final : Registry}
      {record : Sheet.Record}
      {rest : List Sheet.Record} :
      record.serve registry = ⟨.ok (), next⟩ →
      Loads next rest final →
      Loads registry (record :: rest) final

/-- Records are registered without a refusal exactly if they load, and then they
are counted. -/
theorem registerRecords_eq_ok_iff
    {registry final : Registry}
    {count total : Nat}
    {records : List Sheet.Record} :
    registry.registerRecords count records = ⟨.ok total, final⟩ ↔
      registry.Loads records final ∧ total = count + records.length := by
  induction records generalizing registry count with
  | nil =>
      rw [registerRecords]
      constructor
      · intro answered
        cases answered
        exact ⟨.nil _, rfl⟩
      · rintro ⟨loads, rfl⟩
        cases loads
        rfl
  | cons record rest registered =>
      rw [registerRecords_cons]
      rcases served : record.serve registry with ⟨answer, next⟩
      constructor
      · intro answered
        cases answer with
        | ok _ =>
            obtain ⟨loads, rfl⟩ := registered.1 answered
            refine ⟨.cons served loads, ?_⟩
            rw [List.length_cons]
            omega
        | error _ =>
            cases answered
      · rintro ⟨loads, rfl⟩
        cases loads with
        | cons granted loads =>
            rw [served] at granted
            cases granted
            refine registered.2 ⟨loads, ?_⟩
            rw [List.length_cons]
            omega

/-! ## What an attempt leaves of a known name -/

variable
    {registry : Registry}
    {name : String}
    {entry : Entry}

/-- An attempt leaves the entry of a known name as it is, unless it names it as
its base: then the entry may be written anew. -/
theorem find?_serve
    (record : Sheet.Record)
    (found : registry.find? (.text name) = some entry) :
    (record.serve registry).registry.find? (.text name) = some entry ∨
    ∃ shared : UnitSize,
      record.base = .text name ∧
        Fixed.ofValue record.baseUnit = .ok shared.toFixed ∧
        (record.serve registry).registry.find? (.text name) =
          some ⟨.text name, shared, some (.text name)⟩ := by
  rw [Sheet.Record.serve]
  rcases registry.register_cases record.denom record.unit record.base
    record.baseUnit with
    ⟨denom, own, shared, admitted, entered⟩ |
      ⟨denom, own, shared, -, halfway⟩ | ⟨failure, refused⟩
  · have different : denom ≠ name := by
      rintro rfl
      have fresh := admitted.fresh
      rw [admitted.named, found] at fresh
      cases fresh
    rw [entered, find?_enterBoth, if_neg different]
    by_cases named : record.base = .text name
    · rw [if_pos named, named]
      exact .inr ⟨shared, rfl, admitted.sharedRead, rfl⟩
    · rw [if_neg named]
      exact .inl found
  · rw [halfway, find?, List.find?_append]
    refine .inl ?_
    change (registry.find? (.text name)).or _ = _
    rw [found, Option.some_or]
  · rw [refused]
    exact .inl found

/-- What holds of the entry of a known name, and of each one that an attempt may
write over it, holds of the entry in the end. -/
theorem exists_find?_serveAll
    {motive : Entry → Prop}
    {records : List Sheet.Record}
    (found : registry.find? (.text name) = some entry)
    (initial : motive entry)
    (rewritten :
      ∀ record ∈ records,
        record.base = .text name →
        ∀ shared : UnitSize,
          Fixed.ofValue record.baseUnit = .ok shared.toFixed →
          motive ⟨.text name, shared, some (.text name)⟩) :
    ∃ later,
      (registry.serveAll records).find? (.text name) = some later ∧
        motive later := by
  induction records generalizing registry entry with
  | nil =>
      exact ⟨entry, found, initial⟩
  | cons record rest served =>
      rw [List.forall_mem_cons] at rewritten
      rcases find?_serve record found with
        kept | ⟨shared, baseEq, read, written⟩
      · exact served kept initial rewritten.2
      · exact served written (rewritten.1 baseEq shared read) rewritten.2

/-- An attempt leaves the rule as it is. -/
theorem rule_serve
    (record : Sheet.Record)
    (registry : Registry) :
    (record.serve registry).registry.rule = registry.rule := by
  rw [Sheet.Record.serve]
  rcases registry.register_cases record.denom record.unit record.base
    record.baseUnit with
    ⟨_, _, _, -, entered⟩ | ⟨_, _, _, -, halfway⟩ | ⟨_, refused⟩
  · rw [entered]
    rfl
  · rw [halfway]
  · rw [refused]

theorem rule_serveAll
    (registry : Registry)
    (records : List Sheet.Record) :
    (registry.serveAll records).rule = registry.rule := by
  induction records generalizing registry with
  | nil =>
      rfl
  | cons record rest served =>
      exact (served _).trans (rule_serve record registry)

end Registry

end Coinage
