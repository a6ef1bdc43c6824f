import Coinage.Registry

/-!
# Registering a table

A table has named columns and rows of values.  Four columns are required; their
rows are registered one by one, and the first that is refused ends the work: the
rows before it stay registered.

Tables are kept by a library of their own.  All that registering asks of it is
whether a table has a column, and the rows of the columns with given names; this
is a `TableReader`, and registering works with any.  What is asked of a reader
beyond that is stated where it is needed, in terms of the content that a table
shows: a `Sheet` of column names and rows of cells.  A sheet is itself a table,
with a reader of its own.
-/

namespace Coinage

/-- The content of a table: names of columns, and rows of values by place. -/
structure Sheet where
  columns : List String
  rows : List (List Value)
  deriving DecidableEq, Repr

/-- What a library of tables answers about a table: whether it has a column of
some name, and its rows, in order, for columns chosen by their names.  A row gives
the value that it has under a name. -/
structure TableReader (Table : Type) where
  hasColumn : Table → String → Bool
  select : Table → List String → List (String → Value)

namespace Sheet

/-- The names of the required columns, in alphabetic order. -/
def requiredColumns : List String :=
  ["base_denom", "base_unit", "denom", "unit"]

/-- The value of a row in the first column of the given name. -/
def cell (sheet : Sheet) (row : List Value) (column : String) : Value :=
  (row[sheet.columns.idxOf column]?).getD .absent

/-- Sheets as tables: of columns with one name the first counts, and a short row
is filled up with absent values. -/
def reader : TableReader Sheet where
  hasColumn sheet column := sheet.columns.contains column
  select sheet _ := sheet.rows.map sheet.cell

/-- The four values that one registration takes. -/
structure Record where
  denom : Value
  unit : Value
  base : Value
  baseUnit : Value
  deriving DecidableEq, Repr

/-- The record of a row, by the names of the required columns. -/
def Record.ofRow (row : String → Value) : Record :=
  ⟨row "denom", row "unit", row "base_denom", row "base_unit"⟩

/-- The registrations that a sheet asks for. -/
def records (sheet : Sheet) : List Record :=
  sheet.rows.map fun row => .ofRow (sheet.cell row)

end Sheet

namespace TableReader

variable {Table : Type} (reader : TableReader Table) (table : Table)

/-- The required columns that a table lacks. -/
def missingColumns : List String :=
  Sheet.requiredColumns.filter fun column => !reader.hasColumn table column

/-- The registrations that a table asks for. -/
def records : List Sheet.Record :=
  (reader.select table Sheet.requiredColumns).map .ofRow

end TableReader

namespace Registry

/-- Register records one by one until one is refused.  The answer is the number
of records, counted on from `count`. -/
def registerRecords (registry : Registry) (count : Nat) :
    List Sheet.Record → Outcome Nat
  | [] => ⟨.ok count, registry⟩
  | record :: rest =>
    let outcome :=
      registry.register record.denom record.unit record.base record.baseUnit
    match outcome.answer with
    | .ok _ => outcome.registry.registerRecords (count + 1) rest
    | .error failure => ⟨.error failure, outcome.registry⟩

/-- Register all rows of a table. -/
def registerTable {Table : Type} (registry : Registry)
    (reader : TableReader Table) (table : Table) : Outcome Nat :=
  if reader.missingColumns table = [] then
    registry.registerRecords 0 (reader.records table)
  else ⟨.error (.missingColumns (reader.missingColumns table)), registry⟩

/-- Register all rows of a sheet. -/
def registerSheet (registry : Registry) (sheet : Sheet) : Outcome Nat :=
  registry.registerTable Sheet.reader sheet

/-- A value in place of a table is refused. -/
def registerNoSheet (registry : Registry) (value : Value) : Outcome Nat :=
  ⟨.error (.notSheet value.kind), registry⟩

end Registry

end Coinage
