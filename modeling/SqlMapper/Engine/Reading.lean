import SqlMapper.Engine.Execute
import SqlMapper.Statement.Basic

/-!
# Running Compiled Statements

Reads through the cache, and writes that keep it true.

A read of a single table is looked up in the cache first, and what the database
answers is put there. The answer is only put there if nobody wrote to the table
since before it was asked for: each write counts up the generation of its table,
and a read that finds another generation than it started with was overtaken.
Inside a transaction the cache is left alone, since what a transaction sees may
never become true for anybody else.

## Main definitions

* `Database.storeIfCurrent`: Storing an answer that was not overtaken.
* `Database.readCached`: A read through the cache.
* `Database.run`: Running a compiled statement.
* `Database.runInsert`: Running an insert for the key it generates.
-/

namespace SqlMapper

namespace Database

variable {η σ : Type}

/-- The key of a read that may go through the cache, and how long its answer lives. Reads of
    several tables, or of none, do not go through it. -/
def cacheSlot? (db : Database η σ) (s : Statement) : Option (String × UInt64) :=
  match db.options.cacheTtl, s.tables with
  | some ttl, [table] => some (table, ttl)
  | _, _ => none

/-- Stores an answer, unless its table was written to after a generation. -/
def storeIfCurrent (table : String) (started : Nat) (key : String) (value : CacheValue)
    (ttl : UInt64) : Attempt η σ Unit := do
  let current ← Attempt.always (generation table)
  if current = started then
    store key value (some ttl)
  else
    Attempt.always (report {
      level := .debug
      message := "table written during read, result not cached"
      fields := [("table", table)] })

/-- A read whose answer is stored under a key if it was not overtaken. -/
def readThrough (db : Database η σ) (s : Statement) (table : String) (ttl : UInt64)
    (key : String) : Attempt η σ Outcome := do
  -- The generation is taken before the statement is sent: a write may come in between.
  let started ← Attempt.always (generation table)
  let outcome ← db.executeDirect s.sql s.binds true
  storeIfCurrent table started key outcome.cached ttl
  return outcome

/-- A read through the cache, outside transactions; past it otherwise. -/
def readCached (db : Database η σ) (s : Statement) : Attempt η σ Outcome := do
  let transactional ← Attempt.always inTransaction
  match db.cacheSlot? s, transactional with
  | some (table, ttl), false =>
    let key := queryKey table s.sql s.binds
    -- Only rows answer a read; anything else under the key counts as a miss.
    match ← Attempt.always (around (Surroundings.lookup key)) with
    | some (.rows rows) =>
      Attempt.always (report {
        level := .debug
        message := "cache hit"
        fields := [("table", table)] })
      return .rows rows
    | _ => db.readThrough s table ttl key
  | _, _ => db.executeDirect s.sql s.binds true

/-- Runs a compiled statement. A write drops the cached reads of its tables, whether it succeeds
    or not. -/
def run (db : Database η σ) (s : Statement) : Attempt η σ Outcome :=
  if s.readonly then
    db.readCached s
  else
    (db.executeDirect s.sql s.binds false).thereafter (invalidateAll s.tables)

/-- Runs an insert, and yields the key it generated; none if it inserted nothing. -/
def runInsert (db : Database η σ) (s : Statement) : Attempt η σ (Option Int64) := do
  let outcome ← db.run s
  if outcome.count = 0 then
    return none
  else
    Attempt.always db.lastInsertId

end Database

end SqlMapper
