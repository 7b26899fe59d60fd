import SqlMapper.Dialect.Basic
import SqlMapper.Statement.Basic

/-!
# Inserting

Statements that add rows.

Every cell gets a placeholder of its own, counted through all rows, so nothing a
caller supplies can collide. The shape is checked before anything is written:
there are columns and rows, every row has a value for each column, and an insert
that overwrites names the columns to overwrite.

## Main definitions

* `InsertQuery`: Rows to add.
* `InsertQuery.withColumn`, `InsertQuery.withRecord`: Building one row.
* `InsertQuery.compile`: The statement.
-/

namespace SqlMapper

/-- Rows to add to a table. -/
structure InsertQuery where
  /-- The table. -/
  table : String
  /-- What happens about rows that are already there. -/
  mode : InsertMode := .normal
  /-- The columns. -/
  keys : List String := []
  /-- The rows, each with a value for every column. -/
  rows : List (List Value) := []
  /-- The columns to overwrite. -/
  updateColumns : List String := []
  deriving DecidableEq

/-- The placeholder of a cell. -/
def cellPlaceholder (n : Nat) : String :=
  ":_INSERT_" ++ toString n

/-- The placeholders of so many cells, counted on from an index. -/
def cellPlaceholders (start count : Nat) : List String :=
  (List.range count).map fun i => cellPlaceholder (start + i)

/-- The refusal of a row that has too few or too many values. -/
def unevenRow (values keys : Nat) : Error :=
  .field "values" ("value group has " ++ toString values ++ " values for " ++ toString keys
    ++ " keys")

/-- The groups of placeholders of rows of one width, counted on from an index. -/
def rowGroups (width : Nat) (start : Nat) : List (List Value) → List String
  | [] => []
  | _ :: rest =>
    ("(" ++ ", ".intercalate (cellPlaceholders start width) ++ ")")
      :: rowGroups width (start + width) rest

namespace InsertQuery

/-- Overwrites the columns of rows that are already there. -/
def overwriting (q : InsertQuery) (columns : List String) : InsertQuery :=
  { q with mode := .update, updateColumns := columns }

/-- One more row. -/
def withRow (q : InsertQuery) (row : List Value) : InsertQuery :=
  { q with rows := q.rows ++ [row] }

/-- One more column of the first row. -/
def withColumn (q : InsertQuery) (key : String) (value : Value) : InsertQuery :=
  { q with
    keys := q.keys ++ [key]
    rows :=
      match q.rows with
      | [] => [[value]]
      | row :: rest => (row ++ [value]) :: rest }

/-- One row in place of all others, its columns with it. -/
def withRecord (q : InsertQuery) (record : List (String × Value)) : InsertQuery :=
  { q with keys := record.map (·.1), rows := [record.map (·.2)] }

/-- The statement, in a dialect. -/
def compile (d : Dialect) (q : InsertQuery) : Except Error Statement := do
  if q.mode = .update ∧ q.updateColumns.isEmpty then
    throw (.field "update_columns" "on-duplicate-update insert needs at least one update column")
  let table ← quoteTable q.table
  if q.keys.isEmpty then
    throw (.field "keys" "insert needs at least one column")
  if q.rows.isEmpty then
    throw (.field "values" "insert needs at least one value group")
  (q.keys ++ q.updateColumns).forM checkIdentifier
  let width := q.keys.length
  -- A row of another width would shift the placeholders of all rows behind it.
  match q.rows.find? fun row => row.length != width with
  | some row => throw (unevenRow row.length width)
  | none =>
    let cells := q.rows.flatten
    let upsert := if q.mode = .update then d.upsert q.updateColumns else ""
    return {
      sql := d.insertPhrase q.mode ++ " " ++ table ++ " ("
        ++ ",".intercalate (q.keys.map quotePath) ++ ") VALUES "
        ++ ", ".intercalate (rowGroups width 0 q.rows) ++ upsert ++ ";"
      binds := OrderedMap.ofList ((cellPlaceholders 0 cells.length).zip cells)
      tables := [q.table]
      readonly := false }

end InsertQuery

end SqlMapper
