import SqlMapper.Engine.Reading
import SqlMapper.Schema.Record
import SqlMapper.Statement.Insert
import SqlMapper.Statement.Select
import SqlMapper.Statement.Update

/-!
# Running Queries

Queries compiled and run in one go.

A query that cannot be compiled is refused before anything is sent. Rows come
back as they are or as records of an entity; a page comes with the number of all
rows, which is asked for afresh each time, while the page itself may come from
the cache.

## Main definitions

* `Selection`: A query to run, and the page of it that was asked for.
* `Refinement`, `Selection.build`: A query put together call by call.
* `Database.rows`, `Database.records`: What a query returns.
* `Database.page`, `Database.recordPage`: One page of it.
* `Database.count`, `Database.sum`: Its rows counted or summed.
* `Database.insert`, `Database.update`, `Database.delete`: Writes.
-/

namespace SqlMapper

/-- A query to run, and the page of it that was asked for. -/
structure Selection where
  /-- The query. -/
  query : SelectQuery
  /-- The number and the size of the page. -/
  page : Option (UInt64 × UInt64) := none
  deriving DecidableEq

namespace Selection

/-- A selection whose query is changed. -/
def modify (s : Selection) (f : SelectQuery → SelectQuery) : Selection :=
  { s with query := f s.query }

/-- One page of a selection, in place of any limit. -/
def paged (s : Selection) (page size : UInt64) : Selection where
  query := s.query.page page size
  page := some (page, size)

end Selection

/-- A call that refines a selection. -/
inductive Refinement where
  /-- One more table. -/
  | andFrom (table : String)
  /-- Only some fields. -/
  | fields (names : List String)
  /-- Equal rows once. -/
  | distinct
  /-- Only rows that meet conditions. -/
  | filter (conditions : Conditions)
  /-- Sorted by one more field. -/
  | orderBy (field : String) (order : Order)
  /-- Grouped by one more field. -/
  | groupBy (field : String)
  /-- Only so many rows. -/
  | limit (limit : Limit)
  /-- One page. -/
  | page (number size : UInt64)
  deriving DecidableEq

namespace Selection

/-- A selection refined by a call. Tables, order and grouping add up; of the other calls the last
    one counts, and a page counts as a limit. -/
def refine (s : Selection) : Refinement → Selection
  | .andFrom table => s.modify fun q => { q with tables := q.tables ++ [table] }
  | .fields names => s.modify fun q => { q with projection := .fields names }
  | .distinct => s.modify fun q => { q with distinct := true }
  | .filter conditions => s.modify fun q => { q with conditions := some conditions }
  | .orderBy field order => s.modify fun q => { q with orderBy := q.orderBy ++ [(field, order)] }
  | .groupBy field => s.modify fun q => { q with groupBy := q.groupBy ++ [field] }
  | .limit limit => s.modify fun q => { q with limit := some limit }
  | .page number size => s.paged number size

/-- The selection that calls make of a table. -/
def build (table : String) (calls : List Refinement) : Selection :=
  calls.foldl refine { query := { tables := [table] } }

end Selection

/-- The number of rows that an answer to a counting query shows. Of a grouped query it is the
    number of groups; nothing counts as zero, and so does a negative number. -/
def countedRows (q : SelectQuery) (rows : List Row) : Except Error UInt64 :=
  if q.groupBy.isEmpty then
    match rows with
    | [] => .ok 0
    | row :: _ => do
      let total ← row.int "total"
      return UInt64.ofNat total.toInt.toNat
  else
    .ok (UInt64.ofNat rows.length)

/-- The sum that an answer to a summing query shows; zero if there is none. -/
def summedRows (rows : List Row) : Except Error Float :=
  match rows with
  | [] => .ok 0
  | row :: _ =>
    match row.get? "total" with
    | none | some .null => .ok 0
    | some _ => row.float "total"

namespace Database

variable {η σ : Type}

/-- The rows of a query. -/
def rows (db : Database η σ) (q : SelectQuery) : Attempt η σ (List Row) := do
  let statement ← Attempt.check q.compile
  return (← db.run statement).rowList

/-- The rows of a query as records of an entity. -/
def records (db : Database η σ) (entity : Entity) (q : SelectQuery) :
    Attempt η σ (List (List (String × FieldValue))) := do
  let found ← db.rows q
  Attempt.check (found.mapM entity.record)

/-- The number of rows behind a query, past the cache. -/
def total (db : Database η σ) (q : SelectQuery) : Attempt η σ UInt64 := do
  let counting := q.aggregate .count
  let statement ← Attempt.check counting.compile
  let outcome ← db.execute statement.sql statement.binds true
  Attempt.check (countedRows counting outcome.rowList)

/-- One page of a selection. All rows are counted first. -/
def page (db : Database η σ) (s : Selection) : Attempt η σ (Page Row) := do
  match s.page with
  | none => Attempt.raise (.field "page" "commit_paginated requires page()")
  | some (number, size) =>
    -- The total is asked for past the cache, so that it is never older than the page.
    let total ← db.total s.query
    let items ← db.rows s.query
    return { items := items, total := total, page := number, size := size }

/-- One page of a selection as records of an entity. -/
def recordPage (db : Database η σ) (entity : Entity) (s : Selection) :
    Attempt η σ (Page (List (String × FieldValue))) := do
  let p ← db.page s
  let items ← Attempt.check (p.items.mapM entity.record)
  return { items := items, total := p.total, page := p.page, size := p.size }

/-- The number of rows of a query, or of its groups. -/
def count (db : Database η σ) (q : SelectQuery) : Attempt η σ UInt64 := do
  let counting := q.aggregate .count
  let found ← db.rows counting
  Attempt.check (countedRows counting found)

/-- The sum of a field over the rows of a query. -/
def sum (db : Database η σ) (q : SelectQuery) (field : String) : Attempt η σ Float := do
  let found ← db.rows (q.aggregate (.sum field))
  Attempt.check (summedRows found)

/-- Adds rows, and yields the generated key. -/
def insert (db : Database η σ) (q : InsertQuery) : Attempt η σ (Option Int64) := do
  let statement ← Attempt.check (q.compile db.dialect)
  db.runInsert statement

/-- Changes rows, and yields their number. -/
def update (db : Database η σ) (q : UpdateQuery) : Attempt η σ UInt64 := do
  let statement ← Attempt.check q.compile
  return (← db.run statement).count

/-- Removes rows, and yields their number. -/
def delete (db : Database η σ) (q : DeleteQuery) : Attempt η σ UInt64 := do
  let statement ← Attempt.check q.compile
  return (← db.run statement).count

end Database

end SqlMapper
