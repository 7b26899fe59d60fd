import SqlMapper.Dialect.Basic
import SqlMapper.Engine.Execute

/-!
# Looking After Tables

Whether a table is there, and emptying or dropping it.

A probe expects that it may fail, so its failure is no error. Emptying and
dropping are writes, and drop the cached reads of the table like any other;
dropping takes the record of its schema with it.

## Main definitions

* `Database.probe`: Whether a table can be read.
* `Database.truncate`: Emptying a table.
* `Database.dropTable`: Dropping a table.
-/

namespace SqlMapper

/-- The statement that finds out whether a table can be read. -/
def probeStatement (table : String) : String :=
  "SELECT count(*) FROM " ++ quotePath table ++ " LIMIT 1;"

/-- The statement that drops a table. -/
def dropStatement (table : String) : String :=
  "DROP TABLE IF EXISTS " ++ quotePath table ++ ";"

namespace Database

variable {η σ : Type}

/-- Whether a table can be read. -/
def probe (db : Database η σ) (table : String) : Action η σ Bool := do
  if isIdentifier table then
    match ← db.sendRetrying (probeStatement table) ∅ true with
    | .ok _ => return true
    | .error failure =>
      report {
        level := .debug
        message := "table probe failed"
        fields := [("table", table), ("error", failure.text)] }
      return false
  else
    return false

/-- Empties a table, and yields how many rows it had. -/
def truncate (db : Database η σ) (table : String) : Attempt η σ UInt64 := do
  Attempt.check (checkIdentifier table)
  let emptied ← (db.executeDirect (db.dialect.truncate table) ∅ false).thereafter (invalidate table)
  return emptied.count

/-- Drops a table, and the record of its schema. -/
def dropTable (db : Database η σ) (table : String) : Attempt η σ Unit := do
  Attempt.check (checkIdentifier table)
  let _ ← (db.executeDirect (dropStatement table) ∅ false).thereafter do
    invalidate table
    around (Surroundings.forget (versionKey table))

end Database

end SqlMapper
