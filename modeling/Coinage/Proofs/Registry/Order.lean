import Coinage.Proofs.Registry.Sheet
import Mathlib.Data.List.Perm.Basic

/-!
# Records in any order

Records are compatible if no one names as its denomination what the other names
as its base, and if they give a common base one unit size.  Two neighbours of
this kind can change places: each is granted in either order, and afterwards
every lookup answers alike.  Only the order of the names may differ.  From
neighbours this extends to every order of the rows of a sheet.
-/

namespace Coinage

/-- Two records that may change places. -/
structure Sheet.Record.Compatible (first second : Sheet.Record) : Prop where
  denom_ne_base : first.denom ≠ second.base
  base_ne_denom : second.denom ≠ first.base
  baseUnit_eq :
    first.base = second.base →
      Fixed.ofValue first.baseUnit = Fixed.ofValue second.baseUnit

theorem Sheet.Record.Compatible.symm
    {first second : Sheet.Record}
    (compatible : first.Compatible second) :
    second.Compatible first :=
  ⟨compatible.base_ne_denom, compatible.denom_ne_base,
    fun same => (compatible.baseUnit_eq same.symm).symm⟩

namespace Registry

/-! ## Registries that answer alike -/

/-- Two registries that differ at most in the order of their names. -/
structure Alike (left right : Registry) : Prop where
  rule_eq : right.rule = left.rule
  find?_eq : ∀ name, right.find? name = left.find? name
  names_perm : right.names.Perm left.names

namespace Alike

theorem refl (registry : Registry) :
    Alike registry registry :=
  ⟨rfl, fun _ => rfl, List.Perm.refl _⟩

variable
    {left right : Registry}
    (alike : Alike left right)

include alike

theorem trans
    {further : Registry}
    (onward : Alike right further) :
    Alike left further :=
  ⟨onward.rule_eq.trans alike.rule_eq,
    fun name => (onward.find?_eq name).trans (alike.find?_eq name),
    onward.names_perm.trans alike.names_perm⟩

theorem unit?_eq (name : Value) :
    right.unit? name = left.unit? name := by
  rw [unit?, unit?, alike.rule_eq, alike.find?_eq]

theorem base_eq (name : Value) :
    right.base name = left.base name := by
  rw [base, base, alike.find?_eq]

theorem isRegistered_eq (name : Value) :
    right.isRegistered name = left.isRegistered name := by
  rw [isRegistered, isRegistered, alike.unit?_eq]

theorem size_eq : right.size = left.size := by
  have lengths := alike.names_perm.length_eq
  rwa [names, names, List.length_map, List.length_map] at lengths

theorem admits
    {denom unit baseUnit : Value}
    {name : String}
    {own shared : UnitSize}
    (admitted : left.Admits denom unit baseUnit name own shared) :
    right.Admits denom unit baseUnit name own shared where
  named := admitted.named
  accepted := alike.rule_eq ▸ admitted.accepted
  ownRead := admitted.ownRead
  sharedRead := admitted.sharedRead
  fresh := (alike.find?_eq denom).trans admitted.fresh

end Alike

/-! ## Entering a denomination and its base -/

variable {registry : Registry}

/-- What is known of any value after a registration whose base is a text. -/
theorem find?_enterBoth_of_text
    (registry : Registry)
    (name base : String)
    (own shared : UnitSize)
    (value : Value) :
    (registry.enterBoth name own (.text base) shared).find? value =
      if value = .text base then
        some ⟨.text base, shared, some (.text base)⟩
      else if value = .text name then
        some ⟨.text name, own, some (.text base)⟩
      else registry.find? value := by
  rw [enterBoth, find?_enter_of_text rfl, find?_enter_of_text rfl]

/-- Up to order, a text is inserted into the names. -/
theorem names_enter_perm
    {entry : Entry}
    {content : String}
    (named : entry.name = .text content) :
    (registry.enter entry).names.Perm
      (registry.names.insert (.text content)) := by
  rw [names_enter named, ← named]
  by_cases known : entry.name ∈ registry.names
  · rw [if_pos known, List.insert_of_mem known]
  · rw [if_neg known, List.insert_of_not_mem known]
    exact List.perm_append_singleton _ _

theorem names_enterBoth_perm
    (registry : Registry)
    (name base : String)
    (own shared : UnitSize) :
    (registry.enterBoth name own (.text base) shared).names.Perm
      ((registry.names.insert (.text name)).insert (.text base)) :=
  (names_enter_perm rfl).trans ((names_enter_perm rfl).insert _)

theorem Alike.enterBoth
    {left right : Registry}
    (alike : Alike left right)
    (name base : String)
    (own shared : UnitSize) :
    Alike (left.enterBoth name own (.text base) shared)
      (right.enterBoth name own (.text base) shared) where
  rule_eq := alike.rule_eq
  find?_eq value := by
    rw [find?_enterBoth_of_text, find?_enterBoth_of_text, alike.find?_eq]
  names_perm := by
    have inserted :=
      (alike.names_perm.insert (.text name)).insert (.text base)
    exact (names_enterBoth_perm right name base own shared).trans
      (inserted.trans (names_enterBoth_perm left name base own shared).symm)

/-- Two pairs can be inserted in either order. -/
theorem perm_insert_pairs
    (values : List Value)
    (first second third fourth : Value) :
    ((((values.insert first).insert second).insert third).insert
        fourth).Perm
      ((((values.insert third).insert fourth).insert first).insert
        second) := by
  have inner :
      ((((values.insert first).insert second).insert third).insert
          fourth).Perm
        ((((values.insert third).insert first).insert second).insert
          fourth) :=
    ((List.perm_insert_swap _ _ _).trans
      ((List.perm_insert_swap _ _ _).insert _)).insert _
  have outer :
      ((((values.insert third).insert first).insert second).insert
          fourth).Perm
        ((((values.insert third).insert fourth).insert first).insert
          second) :=
    (List.perm_insert_swap _ _ _).trans
      ((List.perm_insert_swap _ _ _).insert _)
  exact inner.trans outer

/-- Two denominations with their bases can be entered in either order. -/
theorem alike_enterBoth_swap
    {firstName firstBase secondName secondBase : String}
    {firstOwn firstShared secondOwn secondShared : UnitSize}
    (distinct : firstName ≠ secondName)
    (firstFree : firstName ≠ secondBase)
    (secondFree : secondName ≠ firstBase)
    (sharedEq : firstBase = secondBase → firstShared = secondShared) :
    Alike
      ((registry.enterBoth firstName firstOwn (.text firstBase)
        firstShared).enterBoth secondName secondOwn (.text secondBase)
          secondShared)
      ((registry.enterBoth secondName secondOwn (.text secondBase)
        secondShared).enterBoth firstName firstOwn (.text firstBase)
          firstShared) where
  rule_eq := rfl
  find?_eq value := by
    simp only [find?_enterBoth_of_text]
    -- Of the four names only the bases can be one, and then with one size.
    split_ifs <;> simp_all
  names_perm := by
    have left :=
      ((registry.names_enterBoth_perm firstName firstBase firstOwn
        firstShared).insert (.text secondName)).insert (.text secondBase)
    have right :=
      ((registry.names_enterBoth_perm secondName secondBase secondOwn
        secondShared).insert (.text firstName)).insert (.text firstBase)
    exact (names_enterBoth_perm _ _ _ _ _).trans
      (right.trans ((perm_insert_pairs _ _ _ _ _).trans
        (left.symm.trans (names_enterBoth_perm _ _ _ _ _).symm)))

/-! ## Records in their turn -/

/-- A record whose base is a text is granted exactly if it is admitted. -/
theorem serve_eq_ok_iff
    {next : Registry}
    {record : Sheet.Record}
    {base : String}
    (baseEq : record.base = .text base) :
    record.serve registry = ⟨.ok (), next⟩ ↔
      ∃ name own shared,
        registry.Admits record.denom record.unit record.baseUnit
            name own shared ∧
          next = registry.enterBoth name own (.text base) shared := by
  rw [Sheet.Record.serve, baseEq]
  constructor
  · intro granted
    rcases registry.admission_cases record.denom record.unit record.baseUnit
      with ⟨name, own, shared, admitted⟩ | ⟨failure, refused⟩
    · rw [register_of_text admitted _] at granted
      cases granted
      exact ⟨name, own, shared, admitted, rfl⟩
    · rw [register_of_refused refused] at granted
      cases granted
  · rintro ⟨name, own, shared, admitted, rfl⟩
    exact register_of_text admitted _

/-- A registry that answers alike grants the same records. -/
theorem Loads.congr
    {left right final : Registry}
    {records : List Sheet.Record}
    (textBases : ∀ record ∈ records, ∃ base, record.base = .text base)
    (loads : left.Loads records final)
    (alike : Alike left right) :
    ∃ other, right.Loads records other ∧ Alike final other := by
  induction loads generalizing right with
  | nil registry =>
      exact ⟨right, .nil right, alike⟩
  | cons granted rest loaded =>
      obtain ⟨base, baseEq⟩ := textBases _ List.mem_cons_self
      obtain ⟨name, own, shared, admitted, rfl⟩ :=
        (serve_eq_ok_iff baseEq).1 granted
      have next :=
        (serve_eq_ok_iff baseEq).2
          ⟨name, own, shared, alike.admits admitted, rfl⟩
      obtain ⟨other, loads, alike⟩ :=
        loaded
          (fun record member =>
            textBases record (List.mem_cons_of_mem _ member))
          (alike.enterBoth name base own shared)
      exact ⟨other, .cons next loads, alike⟩

/-- Two compatible records that are granted one after the other are granted in
the other order, too. -/
theorem exists_swap
    {next final : Registry}
    {first second : Sheet.Record}
    (firstText : ∃ base, first.base = .text base)
    (secondText : ∃ base, second.base = .text base)
    (compatible : first.Compatible second)
    (firstGranted : first.serve registry = ⟨.ok (), next⟩)
    (secondGranted : second.serve next = ⟨.ok (), final⟩) :
    ∃ between other,
      second.serve registry = ⟨.ok (), between⟩ ∧
        first.serve between = ⟨.ok (), other⟩ ∧
        Alike final other := by
  obtain ⟨firstBase, firstBaseEq⟩ := firstText
  obtain ⟨secondBase, secondBaseEq⟩ := secondText
  obtain ⟨firstName, firstOwn, firstShared, firstAdmitted, rfl⟩ :=
    (serve_eq_ok_iff firstBaseEq).1 firstGranted
  obtain ⟨secondName, secondOwn, secondShared, secondAdmitted, rfl⟩ :=
    (serve_eq_ok_iff secondBaseEq).1 secondGranted
  have fresh := secondAdmitted.fresh
  rw [secondAdmitted.named, find?_enterBoth_of_text] at fresh
  split_ifs at fresh with isBase isName
  have distinct : firstName ≠ secondName := by
    rintro rfl
    exact isName rfl
  have secondFree : secondName ≠ firstBase := by
    rintro rfl
    exact isBase rfl
  have firstFree : firstName ≠ secondBase := by
    rintro rfl
    exact compatible.denom_ne_base
      (firstAdmitted.named.trans secondBaseEq.symm)
  have sharedEq : firstBase = secondBase → firstShared = secondShared := by
    rintro rfl
    have unitEq :=
      compatible.baseUnit_eq (firstBaseEq.trans secondBaseEq.symm)
    have firstRead :
        UnitSize.ofValue .base first.baseUnit = .ok firstShared :=
      UnitSize.ofValue_eq_ok_iff.2 firstAdmitted.sharedRead
    have secondRead :
        UnitSize.ofValue .base first.baseUnit = .ok secondShared :=
      UnitSize.ofValue_eq_ok_iff.2 (unitEq.trans secondAdmitted.sharedRead)
    rw [firstRead] at secondRead
    exact Except.ok.inj secondRead
  have secondFirst :
      registry.Admits second.denom second.unit second.baseUnit secondName
        secondOwn secondShared :=
    { secondAdmitted with fresh := secondAdmitted.named ▸ fresh }
  have firstStill :
      (registry.enterBoth secondName secondOwn (.text secondBase)
          secondShared).find? (.text firstName) =
        none := by
    rw [find?_enterBoth_of_text, if_neg, if_neg, ← firstAdmitted.named]
    · exact firstAdmitted.fresh
    · exact fun same => distinct (Value.text.inj same)
    · exact fun same => firstFree (Value.text.inj same)
  have firstLast :
      (registry.enterBoth secondName secondOwn (.text secondBase)
          secondShared).Admits first.denom first.unit first.baseUnit
            firstName firstOwn firstShared :=
    { firstAdmitted with fresh := firstAdmitted.named ▸ firstStill }
  exact ⟨_, _,
    (serve_eq_ok_iff secondBaseEq).2 ⟨_, _, _, secondFirst, rfl⟩,
    (serve_eq_ok_iff firstBaseEq).2 ⟨_, _, _, firstLast, rfl⟩,
    alike_enterBoth_swap distinct firstFree secondFree sharedEq⟩

/-- Compatible records that load in one order load in every order. -/
theorem Loads.perm
    {records shuffled : List Sheet.Record}
    {final : Registry}
    (permuted : records.Perm shuffled)
    (textBases : ∀ record ∈ records, ∃ base, record.base = .text base)
    (compatible : records.Pairwise Sheet.Record.Compatible)
    (loads : registry.Loads records final) :
    ∃ other, registry.Loads shuffled other ∧ Alike final other := by
  induction permuted generalizing registry final with
  | nil =>
      exact ⟨final, loads, .refl final⟩
  | cons record _ reordered =>
      rw [List.forall_mem_cons] at textBases
      cases loads with
      | cons granted loads =>
          obtain ⟨other, loads, alike⟩ :=
            reordered textBases.2 compatible.of_cons loads
          exact ⟨other, .cons granted loads, alike⟩
  | swap second first rest =>
      rw [List.forall_mem_cons, List.forall_mem_cons] at textBases
      obtain ⟨firstText, secondText, textBases⟩ := textBases
      cases loads with
      | cons firstGranted loads =>
          cases loads with
          | cons secondGranted loads =>
              obtain ⟨between, last, secondFirst, firstLast, swapped⟩ :=
                exists_swap firstText secondText
                  (List.rel_of_pairwise_cons compatible List.mem_cons_self)
                  firstGranted secondGranted
              obtain ⟨other, loads, alike⟩ := loads.congr textBases swapped
              exact ⟨other, .cons secondFirst (.cons firstLast loads), alike⟩
  | trans permuted _ reordered further =>
      obtain ⟨middle, loads, alike⟩ := reordered textBases compatible loads
      obtain ⟨other, loads, onward⟩ :=
        further
          (fun record member => textBases record (permuted.mem_iff.2 member))
          (permuted.pairwise compatible Sheet.Record.Compatible.symm) loads
      exact ⟨other, loads, alike.trans onward⟩

/-! ## The rows of a sheet -/

theorem records_perm
    {sheet shuffled : Sheet}
    (columnsEq : shuffled.columns = sheet.columns)
    (permuted : sheet.rows.Perm shuffled.rows) :
    sheet.records.Perm shuffled.records := by
  have cellEq : shuffled.cell = sheet.cell := by
    unfold Sheet.cell
    rw [columnsEq]
  rw [Sheet.records, Sheet.records, cellEq]
  exact permuted.map _

/-- A sheet is loaded if it lacks no column and its records load. -/
theorem registerSheet_eq_ok_iff
    {sheet : Sheet}
    {count : Nat}
    {final : Registry} :
    registry.registerSheet sheet = ⟨.ok count, final⟩ ↔
      Sheet.reader.missingColumns sheet = [] ∧
        registry.Loads sheet.records final ∧
        count = sheet.records.length := by
  rw [registerSheet, registerTable, records_reader]
  split_ifs with complete
  · rw [registerRecords_eq_ok_iff, Nat.zero_add]
    simp [complete]
  · simp [complete]

/--
Let a sheet load whose bases are texts.  Let no row name as its denomination
what another row names as its base, and let rows with one base give it one unit
size, sign included.  Then the rows load in every order, with the same count.
Afterwards all lookups answer alike for every name, and there are the same names,
though perhaps in another order.
-/
theorem registerSheet_perm
    (registry : Registry)
    (sheet shuffled : Sheet)
    (count : Nat)
    (columnsEq : shuffled.columns = sheet.columns)
    (permuted : sheet.rows.Perm shuffled.rows)
    (textBases : ∀ record ∈ sheet.records, ∃ base, record.base = .text base)
    (compatible : sheet.records.Pairwise Sheet.Record.Compatible)
    (loaded : (registry.registerSheet sheet).answer = .ok count) :
    (registry.registerSheet shuffled).answer = .ok count ∧
    (∀ name,
      (registry.registerSheet shuffled).registry.unit? name =
        (registry.registerSheet sheet).registry.unit? name) ∧
    (∀ name,
      (registry.registerSheet shuffled).registry.base name =
        (registry.registerSheet sheet).registry.base name) ∧
    (∀ name,
      (registry.registerSheet shuffled).registry.isRegistered name =
        (registry.registerSheet sheet).registry.isRegistered name) ∧
    (registry.registerSheet shuffled).registry.size =
      (registry.registerSheet sheet).registry.size ∧
    (registry.registerSheet shuffled).registry.names.Perm
      (registry.registerSheet sheet).registry.names := by
  rcases outcome : registry.registerSheet sheet with ⟨answer, final⟩
  rw [outcome] at loaded
  cases loaded
  obtain ⟨complete, loads, rfl⟩ := registerSheet_eq_ok_iff.1 outcome
  have recordsPerm := records_perm columnsEq permuted
  obtain ⟨other, loads, alike⟩ := loads.perm recordsPerm textBases compatible
  have shuffledOutcome :
      registry.registerSheet shuffled =
        ⟨.ok sheet.records.length, other⟩ := by
    refine registerSheet_eq_ok_iff.2 ⟨?_, loads, recordsPerm.length_eq⟩
    change (Sheet.requiredColumns.filter fun column =>
      !shuffled.columns.contains column) = []
    rw [columnsEq]
    exact complete
  rw [shuffledOutcome]
  exact ⟨rfl, alike.unit?_eq, alike.base_eq, alike.isRegistered_eq,
    alike.size_eq, alike.names_perm⟩

/-- Two denominations with one base, whose unit is written in two ways, and one
that is its own base. -/
def sharedBaseSheet : Sheet where
  columns := ["base_unit", "denom", "unit", "base_denom"]
  rows :=
    [[.text "0.000001", .text "atom", .text "1", .text "uatom"],
      [.text "1e-6", .text "milliatom", .text "0.001", .text "uatom"],
      [.text "2", .text "point", .text "1", .text "point"]]

/-- The rows with the shared base load backwards, too, and the denomination that
is its own base has the size of its base. -/
theorem registerSheet_perm_sharedBase :
    ((empty .standard).registerSheet
        { sharedBaseSheet with
          rows := sharedBaseSheet.rows.reverse }).answer = .ok 3 ∧
      ((empty .standard).registerSheet
        { sharedBaseSheet with
          rows := sharedBaseSheet.rows.reverse }).registry.unit?
            (.text "point") =
        ((empty .standard).registerSheet sharedBaseSheet).registry.unit?
          (.text "point") := by
  have recordsEq :
      sharedBaseSheet.records =
        [⟨.text "atom", .text "1", .text "uatom", .text "0.000001"⟩,
          ⟨.text "milliatom", .text "0.001", .text "uatom", .text "1e-6"⟩,
          ⟨.text "point", .text "1", .text "point", .text "2"⟩] := by
    decide +kernel
  have compatible :
      sharedBaseSheet.records.Pairwise Sheet.Record.Compatible := by
    rw [recordsEq]
    refine .cons ?_ (.cons ?_ (List.pairwise_singleton _ _))
    · rw [List.forall_mem_cons, List.forall_mem_singleton]
      exact ⟨⟨by decide, by decide, fun _ => by decide +kernel⟩,
        ⟨by decide, by decide, by decide⟩⟩
    · rw [List.forall_mem_singleton]
      exact ⟨by decide, by decide, by decide⟩
  have reordered :=
    registerSheet_perm (empty .standard) sharedBaseSheet
      { sharedBaseSheet with rows := sharedBaseSheet.rows.reverse } 3 rfl
      (List.reverse_perm _).symm (by rw [recordsEq]; simp) compatible
      (by decide +kernel)
  exact ⟨reordered.1, reordered.2.1 _⟩

end Registry

end Coinage
