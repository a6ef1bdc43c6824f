import Coinage.Proofs.Registry.Sheet
import Mathlib.Data.List.Forall2

/-!
# The columns and the refused row of a table

A table is read by the names of its columns: each required value of a row stands
in the first column of its name, wherever that is and whatever stands beside it.
`TableReader.Reads` says this of a reader, in terms of the content that its tables
show, and everything here holds for all readers of which it is true.  So a table
comes down to the records that its rows ask for, and two tables that ask for the
same records are loaded alike.

The records are registered in order until one is refused.  With texts as bases a
refused registration changes nothing, so what is left is exactly what the records
before it leave.
-/

namespace Coinage

namespace Sheet

/-! ## Where a column stands -/

/-- The first column of a name stands at a position. -/
structure StandsAt
    (sheet : Sheet)
    (column : String)
    (position : Nat) :
    Prop where
  named : sheet.columns[position]? = some column
  first : ∀ earlier < position, sheet.columns[earlier]? ≠ some column

/-- A row shows a value in the first column of a name.  A short row shows the
absent value behind its end. -/
def Shows
    (sheet : Sheet)
    (row : List Value)
    (column : String)
    (value : Value) :
    Prop :=
  ∃ position,
    sheet.StandsAt column position ∧
      (row[position]?).getD .absent = value

/-- A row asks for a record by the values that it shows. -/
structure AsksFor
    (sheet : Sheet)
    (row : List Value)
    (record : Record) :
    Prop where
  denom : sheet.Shows row "denom" record.denom
  unit : sheet.Shows row "unit" record.unit
  base : sheet.Shows row "base_denom" record.base
  baseUnit : sheet.Shows row "base_unit" record.baseUnit

/-- No required column is missing. -/
def IsComplete (sheet : Sheet) : Prop :=
  ∀ column ∈ requiredColumns, column ∈ sheet.columns

variable {sheet : Sheet}

theorem standsAt_iff
    {column : String}
    {position : Nat} :
    sheet.StandsAt column position ↔
      column ∈ sheet.columns ∧ sheet.columns.idxOf column = position := by
  constructor
  · rintro ⟨named, first⟩
    obtain ⟨inside, columnEq⟩ := List.getElem?_eq_some_iff.1 named
    refine ⟨columnEq ▸ List.getElem_mem inside, ?_⟩
    rw [List.idxOf, List.findIdx_eq inside]
    refine ⟨beq_iff_eq.2 columnEq, fun earlier before => ?_⟩
    rw [beq_eq_false_iff_ne]
    intro same
    exact first earlier before
      (List.getElem?_eq_some_iff.2 ⟨Nat.lt_trans before inside, same⟩)
  · rintro ⟨member, rfl⟩
    have inside := List.idxOf_lt_length_of_mem member
    refine ⟨?_, fun earlier before same => ?_⟩
    · rw [List.getElem?_eq_getElem inside, List.getElem_idxOf inside]
    · obtain ⟨earlierInside, columnEq⟩ := List.getElem?_eq_some_iff.1 same
      have different := List.not_of_lt_findIdx before
      simp [columnEq] at different

/-- What a row shows in a column that is there is the value of its cell. -/
theorem shows_iff
    {row : List Value}
    {column : String}
    {value : Value}
    (member : column ∈ sheet.columns) :
    sheet.Shows row column value ↔ sheet.cell row column = value := by
  simp only [Shows, standsAt_iff, member, true_and, exists_eq_left', cell]

/-- A row shows one value in a column. -/
theorem Shows.unique
    {row : List Value}
    {column : String}
    {first second : Value}
    (firstShown : sheet.Shows row column first)
    (secondShown : sheet.Shows row column second) :
    first = second := by
  obtain ⟨position, stands, rfl⟩ := firstShown
  obtain ⟨other, otherStands, rfl⟩ := secondShown
  rw [← (standsAt_iff.1 stands).2, ← (standsAt_iff.1 otherStands).2]

/-- A row asks for one record. -/
theorem AsksFor.unique
    {row : List Value}
    {first second : Record}
    (firstAsked : sheet.AsksFor row first)
    (secondAsked : sheet.AsksFor row second) :
    first = second := by
  cases first
  cases second
  obtain ⟨denom, unit, base, baseUnit⟩ := firstAsked
  rw [Record.mk.injEq]
  exact ⟨denom.unique secondAsked.denom, unit.unique secondAsked.unit,
    base.unique secondAsked.base, baseUnit.unique secondAsked.baseUnit⟩

/-- A row asks for the record of the values that it shows. -/
theorem asksFor_ofRow
    {row : List Value}
    {shown : String → Value}
    (shows :
      ∀ column ∈ requiredColumns, sheet.Shows row column (shown column)) :
    sheet.AsksFor row (.ofRow shown) where
  denom := shows "denom" (by decide)
  unit := shows "unit" (by decide)
  base := shows "base_denom" (by decide)
  baseUnit := shows "base_unit" (by decide)

end Sheet

/-! ## Readers -/

namespace TableReader

variable
    {Table : Type}
    {reader : TableReader Table}
    {content : Table → Sheet}
    {table : Table}

/-- What registering relies on: a reader knows the columns of its tables, and
gives their rows in order, each with the values that it shows in the columns that
were chosen. -/
structure Reads
    (reader : TableReader Table)
    (content : Table → Sheet) :
    Prop where
  hasColumn :
    ∀ table column,
      reader.hasColumn table column = true ↔
        column ∈ (content table).columns
  select :
    ∀ table columns,
      (∀ column ∈ columns, column ∈ (content table).columns) →
      List.Forall₂
        (fun row shown =>
          ∀ column ∈ columns,
            (content table).Shows row column (shown column))
        (content table).rows
        (reader.select table columns)

/-- The records of a complete table are those that its rows ask for. -/
theorem Reads.forall₂_asksFor_iff
    (reads : reader.Reads content)
    (complete : (content table).IsComplete)
    {records : List Sheet.Record} :
    List.Forall₂ (content table).AsksFor (content table).rows records ↔
      reader.records table = records := by
  have asked :
      List.Forall₂ (content table).AsksFor (content table).rows
        (reader.records table) := by
    rw [TableReader.records, List.forall₂_map_right_iff]
    exact (reads.select table _ complete).imp
      fun _ _ => Sheet.asksFor_ofRow
  constructor
  · have unique : Relator.RightUnique (content table).AsksFor :=
      fun _ _ _ => Sheet.AsksFor.unique
    exact List.right_unique_forall₂' unique asked
  · rintro rfl
    exact asked

theorem Reads.missingColumns_eq_nil_iff
    (reads : reader.Reads content) :
    reader.missingColumns table = [] ↔ (content table).IsComplete := by
  simp only [missingColumns, List.filter_eq_nil_iff, Bool.not_eq_true',
    Bool.not_eq_false, reads.hasColumn, Sheet.IsComplete]

end TableReader

/-- Sheets are read as they are. -/
theorem Sheet.reads_reader : Sheet.reader.Reads id where
  hasColumn _ _ := List.contains_iff_mem
  select sheet columns present := by
    change List.Forall₂ _ sheet.rows (sheet.rows.map sheet.cell)
    rw [List.forall₂_map_right_iff, List.forall₂_same]
    intro row _ column chosen
    exact (shows_iff (present column chosen)).2 rfl

namespace Registry

variable
    {registry : Registry}
    {failure : Failure}

/-! ## The refused record -/

/-- Records are refused exactly if one of them is refused after those before it
have been granted. -/
theorem registerRecords_eq_error_iff
    {count : Nat}
    {records : List Sheet.Record}
    {final : Registry} :
    registry.registerRecords count records = ⟨.error failure, final⟩ ↔
      ∃ granted refused later before,
        records = granted ++ refused :: later ∧
          registry.Loads granted before ∧
          refused.serve before = ⟨.error failure, final⟩ := by
  induction records generalizing registry count with
  | nil =>
      rw [registerRecords]
      constructor
      · rintro ⟨⟩
      · rintro ⟨granted, refused, later, before, split, -⟩
        simp at split
  | cons record rest registered =>
      rw [registerRecords_cons]
      rcases served : record.serve registry with ⟨answer, next⟩
      cases answer with
      | ok _ =>
          dsimp only
          rw [registered]
          constructor
          · rintro ⟨granted, refused, later, before, rfl, loads, failed⟩
            exact ⟨record :: granted, refused, later, before, rfl,
              .cons served loads, failed⟩
          · rintro ⟨granted, refused, later, before, split, loads, failed⟩
            cases loads with
            | nil =>
                obtain ⟨rfl, rfl⟩ := List.cons.inj split
                rw [served] at failed
                cases failed
            | cons first loads =>
                obtain ⟨rfl, rfl⟩ := List.cons.inj split
                rw [served] at first
                cases first
                exact ⟨_, refused, later, before, rfl, loads, failed⟩
      | error found =>
          dsimp only
          constructor
          · rintro ⟨⟩
            exact ⟨[], record, rest, registry, rfl, .nil _, served⟩
          · rintro ⟨granted, refused, later, before, split, loads, failed⟩
            cases loads with
            | nil =>
                obtain ⟨rfl, rfl⟩ := List.cons.inj split
                cases served.symm.trans failed
                rfl
            | cons first loads =>
                obtain ⟨rfl, rfl⟩ := List.cons.inj split
                rw [served] at first
                cases first

/-- With a text as its base a refused record changes nothing. -/
theorem serve_eq_error_iff
    {record : Sheet.Record}
    {final : Registry}
    (textBase : ∃ base, record.base = .text base) :
    record.serve registry = ⟨.error failure, final⟩ ↔
      (record.serve registry).answer = .error failure ∧ final = registry := by
  obtain ⟨base, baseEq⟩ := textBase
  rw [Sheet.Record.serve, baseEq]
  rcases registry.admission_cases record.denom record.unit record.baseUnit with
    ⟨name, own, shared, admitted⟩ | ⟨found, refused⟩
  · rw [register_of_text admitted]
    simp
  · rw [register_of_refused refused]
    simp [eq_comm]

section Tables

variable
    {Table : Type}
    {reader : TableReader Table}
    {content : Table → Sheet}
    (reads : reader.Reads content)
    (registry : Registry)
    {table : Table}

include reads

theorem registerTable_of_isComplete
    (complete : (content table).IsComplete) :
    registry.registerTable reader table =
      registry.registerRecords 0 (reader.records table) := by
  rw [registerTable, if_pos (reads.missingColumns_eq_nil_iff.2 complete)]

/-- A table that lacks a required column is refused as a whole. -/
theorem registerTable_of_missing
    {column : String}
    (required : column ∈ Sheet.requiredColumns)
    (missing : column ∉ (content table).columns) :
    ∃ failure,
      registry.registerTable reader table = ⟨.error failure, registry⟩ ∧
        failure.family = .value := by
  have some : reader.missingColumns table ≠ [] := fun none =>
    missing (reads.missingColumns_eq_nil_iff.1 none column required)
  rw [registerTable, if_neg some]
  exact ⟨_, rfl, rfl⟩

end Tables

/-! ## Row by row -/

/--
Registering a table is registering its rows one after the other, with every reader
that reads the content of its tables.  A table with the required columns in any
order, beside others and perhaps more than once, asks for one record in each row.
If the bases are texts, the table is counted and leaves a registry exactly if the
records are granted in order and leave it; it fails and leaves a registry exactly
if some record is refused with that failure where the records before it leave that
registry.  Tables that ask for the same records are registered alike.  A table
without a required column, or a value that is no table, is refused by a failure of
values and leaves the registry as it was.
-/
theorem registerTable_rowByRow
    {Table : Type}
    (reader : TableReader Table)
    (content : Table → Sheet)
    (reads : reader.Reads content)
    (registry : Registry) :
    (∀ table : Table,
      (content table).IsComplete →
      ∃ records,
        List.Forall₂ (content table).AsksFor (content table).rows records ∧
          ((∀ record ∈ records, ∃ base, record.base = .text base) →
            (∀ count final,
              registry.registerTable reader table = ⟨.ok count, final⟩ ↔
                registry.Loads records final ∧
                  count = (content table).rows.length) ∧
            ∀ failure final,
              registry.registerTable reader table =
                  ⟨.error failure, final⟩ ↔
                ∃ granted refused later,
                  records = granted ++ refused :: later ∧
                    registry.Loads granted final ∧
                    (refused.serve final).answer = .error failure)) ∧
    (∀ (table other : Table) (records : List Sheet.Record),
      (content table).IsComplete →
      (content other).IsComplete →
      List.Forall₂ (content table).AsksFor (content table).rows records →
      List.Forall₂ (content other).AsksFor (content other).rows records →
      registry.registerTable reader other =
        registry.registerTable reader table) ∧
    (∀ (table : Table) (column : String),
      column ∈ Sheet.requiredColumns →
      column ∉ (content table).columns →
      ∃ failure,
        registry.registerTable reader table = ⟨.error failure, registry⟩ ∧
          failure.family = .value) ∧
    ∀ value : Value,
      ∃ failure,
        registry.registerNoSheet value = ⟨.error failure, registry⟩ ∧
          failure.family = .value := by
  refine ⟨?_, ?_, ?_, fun value => ⟨_, rfl, rfl⟩⟩
  · intro table complete
    have asked := (reads.forall₂_asksFor_iff complete).2 rfl
    refine ⟨reader.records table, asked, fun textBases => ?_⟩
    rw [registerTable_of_isComplete reads registry complete,
      asked.length_eq]
    constructor
    · intro count final
      rw [registerRecords_eq_ok_iff, Nat.zero_add]
    · intro failure final
      rw [registerRecords_eq_error_iff]
      constructor
      · rintro ⟨granted, refused, later, before, split, loads, failed⟩
        have textBase := textBases refused (by simp [split])
        obtain ⟨answered, rfl⟩ := (serve_eq_error_iff textBase).1 failed
        exact ⟨granted, refused, later, split, loads, answered⟩
      · rintro ⟨granted, refused, later, split, loads, answered⟩
        have textBase := textBases refused (by simp [split])
        exact ⟨granted, refused, later, final, split, loads,
          (serve_eq_error_iff textBase).2 ⟨answered, rfl⟩⟩
  · intro table other records complete otherComplete asked otherAsked
    rw [registerTable_of_isComplete reads registry complete,
      registerTable_of_isComplete reads registry otherComplete,
      (reads.forall₂_asksFor_iff complete).1 asked,
      (reads.forall₂_asksFor_iff otherComplete).1 otherAsked]
  · intro table column required missing
    exact registerTable_of_missing reads registry required missing

/-- Columns out of order, one beside them and two of one name.  The second row
repeats the denomination of the first, and the third is in order again. -/
def scrambledSheet : Sheet where
  columns := ["unit", "note", "denom", "denom", "base_unit", "base_denom"]
  rows :=
    [[.text "1", .absent, .text "atom", .text "x", .text "1e-6",
        .text "uatom"],
      [.integer 2, .absent, .text "atom", .text "y", .text "1e-6",
        .text "uatom"],
      [.text "1", .absent, .text "point", .text "z", .text "1",
        .text "point"]]

/-- The first row of the scrambled sheet as a record. -/
def scrambledRecord : Sheet.Record :=
  ⟨.text "atom", .text "1", .text "uatom", .text "1e-6"⟩

/-- The records of the scrambled sheet in columns that are in order. -/
def orderedSheet : Sheet where
  columns := ["denom", "unit", "base_denom", "base_unit"]
  rows :=
    [[.text "atom", .text "1", .text "uatom", .text "1e-6"],
      [.text "atom", .integer 2, .text "uatom", .text "1e-6"],
      [.text "point", .text "1", .text "point", .text "1"]]

/-- The sheet stops at its second row and leaves what its first row leaves; the
same records from columns in order end alike.  Without its unit the sheet leaves
nothing, and neither does a text. -/
theorem registerTable_rowByRow_scrambled :
    Sheet.reader.Reads id ∧
      (empty .standard).registerTable Sheet.reader scrambledSheet =
        ⟨.error (.alreadyRegistered "atom"),
          (scrambledRecord.serve (empty .standard)).registry⟩ ∧
      (empty .standard).registerTable Sheet.reader orderedSheet =
        (empty .standard).registerTable Sheet.reader scrambledSheet ∧
      (∃ failure,
        (empty .standard).registerTable Sheet.reader ⟨["denom"], []⟩ =
            ⟨.error failure, empty .standard⟩ ∧
          failure.family = .value) ∧
      ∃ failure,
        (empty .standard).registerNoSheet (.text "sheet") =
            ⟨.error failure, empty .standard⟩ ∧
          failure.family = .value := by
  obtain ⟨rowByRow, alike, missing, noSheet⟩ :=
    registerTable_rowByRow Sheet.reader id Sheet.reads_reader
      (empty .standard)
  have complete : (id scrambledSheet).IsComplete := by
    unfold Sheet.IsComplete
    decide
  have ordered : (id orderedSheet).IsComplete := by
    unfold Sheet.IsComplete
    decide
  obtain ⟨records, asked, runs⟩ := rowByRow scrambledSheet complete
  have recordsEq :=
    (Sheet.reads_reader.forall₂_asksFor_iff complete).1 asked
  have shown :
      Sheet.reader.records scrambledSheet =
        [scrambledRecord] ++
          ⟨.text "atom", .integer 2, .text "uatom", .text "1e-6"⟩ ::
            [⟨.text "point", .text "1", .text "point", .text "1"⟩] := by
    decide
  have split := recordsEq.symm.trans shown
  have granted :
      scrambledRecord.serve (empty .standard) =
        ⟨.ok (), (scrambledRecord.serve (empty .standard)).registry⟩ := by
    have answered :
        (scrambledRecord.serve (empty .standard)).answer = .ok () := by
      decide +kernel
    rw [← answered]
  have refused :=
    ((runs (by rw [split]; simp [scrambledRecord])).2
      (.alreadyRegistered "atom") _).2
        ⟨[scrambledRecord], _, _, split, .cons granted (.nil _),
          by decide +kernel⟩
  have orderedAsked :
      List.Forall₂ (id orderedSheet).AsksFor (id orderedSheet).rows
        records :=
    (Sheet.reads_reader.forall₂_asksFor_iff ordered).2
      (by rw [split]; decide)
  exact ⟨Sheet.reads_reader, refused,
    alike scrambledSheet orderedSheet records complete ordered asked
      orderedAsked,
    missing ⟨["denom"], []⟩ "unit" (by decide) (by decide), noSheet _⟩

end Registry

end Coinage
