import SqlMapper.Proofs.Engine.Sending

/-!
# Crowds

Threads that share a connection, one step at a time.

Threads may share a connection, and then one of them can run between any two
steps of another. Each step is done under a lock: looking into the cache, taking
down the generation of a table, one call of the client, storing an answer, or
dropping the reads of a table. A `Party` is a thread with one statement to run,
and its `Phase` is what it has to remember between two steps. `Party.turn` is one
step; it is made of the functions that the engine is made of.

A `Crowd` is a connection with its parties. A schedule says whose turn it is, and
every schedule is allowed. What was done is written down as it is done, so the
place of a turn in this record is its time.

## Main definitions

* `Party`: A read of a table through the cache, or a write.
* `Phase`: Where a party stands between two turns.
* `Deed`: What was done in a turn.
* `Database.settle`, `Database.tryOnce`: One attempt to run a statement past the cache.
* `Party.turn`: One turn of a party.
* `Crowd`: A connection that is shared, with the turns so far.
* `Crowd.step`, `Crowd.run`: A turn, and the turns of a schedule.
-/

namespace SqlMapper

variable {η σ ι : Type}

/-- A thread with one statement to run. -/
inductive Party where
  -- Reads a table through the cache, where the answer lives for some time.
  | reader (r : Statement) (table : String) (ttl : UInt64)
  -- Writes, and drops the cached reads of some tables.
  | writer (sql : String) (binds : Binds) (tables : List String)

/-- Where a party stands between two turns. -/
inductive Phase where
  -- It will look into the cache.
  | looking
  -- It has found nothing there.
  | missed
  -- It has taken down the generation of its table, and will ask the database.
  | asking (started : Nat) (attempt : UInt32)
  -- It has lost the session on the way, and will rebuild it to ask again.
  | recovering (started : Nat) (attempt : UInt32) (failure : ClientFailure)
  -- It has an answer, and will store it.
  | storing (started : Nat) (outcome : Outcome)
  -- It will write.
  | writing (attempt : UInt32)
  -- It has lost the session on the way, and will rebuild it to write again.
  | mending (attempt : UInt32) (failure : ClientFailure)
  -- It has written, and will drop the cached reads of some tables.
  | dropping (tables : List String)
  -- It has nothing left to do.
  | finished

/-- What was done in a turn. -/
inductive Deed where
  -- The cache was looked into.
  | looked
  -- A generation was taken down.
  | noted
  -- The database was asked, and perhaps it answered.
  | asked (answer : Option Outcome)
  -- An answer was stored, or not, as it may have been overtaken.
  | stored
  -- The database was written to.
  | executed
  -- The cached reads of a table were dropped.
  | dropped (table : String)
  -- The session was rebuilt.
  | recovered
  -- Nothing was done.
  | rested

namespace Database

/-- How running a statement past the cache ends, given how its last attempt went. -/
def settle (db : Database η σ) (sql : String) (binds : Binds) (attempt : UInt32)
    (transactional : Bool) (result : Except ClientFailure Outcome) : Attempt η σ Outcome := do
  match ← Attempt.always (db.conclude sql binds attempt transactional result) with
  | .ok outcome => return outcome
  | .error failure => Attempt.raise (.execute sql failure.text)

/-- One attempt to run a statement past the cache: how it ends, or the failure after which it has
    to be sent again. -/
def tryOnce (db : Database η σ) (sql : String) (binds : Binds) (readonly : Bool)
    (attempt : UInt32) : Action η σ (Except ClientFailure (Except Stop Outcome)) := do
  let transactional ← inTransaction
  let result ← db.send sql binds readonly
  match callsForRetry transactional result with
  | some failure =>
    if db.options.retry.allows attempt then
      return .error failure
    else
      return .ok (← (db.settle sql binds attempt transactional result).run)
  | none => return .ok (← (db.settle sql binds attempt transactional result).run)

end Database

namespace Party

/-- Where a party stands before its first turn. -/
def start : Party → Phase
  | .reader _ _ _ => .looking
  | .writer _ _ _ => .writing 1

/-- One turn of a party: where it stands afterwards, and what it did. -/
def turn (db : Database η σ) : Party → Phase → Action η σ (Phase × Deed)
  | .reader r table _, .looking => do
    match ← around (Surroundings.lookup (queryKey table r.sql r.binds)) with
    | some (.rows _) =>
      report {
        level := .debug
        message := "cache hit"
        fields := [("table", table)] }
      return (.finished, .looked)
    | _ => return (.missed, .looked)
  | .reader _ table _, .missed => do
    let started ← generation table
    return (.asking started 1, .noted)
  | .reader r _ _, .asking started attempt => do
    match ← db.tryOnce r.sql r.binds true attempt with
    | .error failure => return (.recovering started attempt failure, .asked none)
    | .ok (.error _) => return (.finished, .asked none)
    | .ok (.ok outcome) => return (.storing started outcome, .asked (some outcome))
  | .reader _ _ _, .recovering started attempt failure => do
    db.recover attempt failure
    return (.asking started (attempt + 1), .recovered)
  | .reader r table ttl, .storing started outcome => do
    let key := queryKey table r.sql r.binds
    let _ ← (Database.storeIfCurrent table started key outcome.cached ttl).run
    return (.finished, .stored)
  | .writer sql binds tables, .writing attempt => do
    match ← db.tryOnce sql binds false attempt with
    | .error failure => return (.mending attempt failure, .executed)
    | .ok _ => return (.dropping tables, .executed)
  | .writer _ _ _, .mending attempt failure => do
    db.recover attempt failure
    return (.writing (attempt + 1), .recovered)
  | .writer _ _ _, .dropping (table :: rest) => do
    invalidate table
    return (.dropping rest, .dropped table)
  | .writer _ _ _, .dropping [] => return (.finished, .rested)
  | _, phase => return (phase, .rested)

end Party

/-- A connection that is shared, with the turns so far. -/
structure Crowd (ι η σ : Type) where
  -- The connection.
  state : State η σ
  -- Where each party stands.
  phase : ι → Phase
  -- Whose turns there were and what was done in them, oldest first.
  past : List (ι × Deed) := []

namespace Crowd

variable [DecidableEq ι] (db : Database η σ) (parties : ι → Party)

/-- A crowd before its first turn. -/
def start (s : State η σ) : Crowd ι η σ where
  state := s
  phase i := (parties i).start

/-- A turn of one party. -/
def step (c : Crowd ι η σ) (i : ι) : Crowd ι η σ :=
  let done := ((parties i).turn db (c.phase i)).run c.state
  { state := done.2
    phase := fun j => if j = i then done.1.1 else c.phase j
    past := c.past ++ [(i, done.1.2)] }

/-- The turns of a schedule. -/
def run (c : Crowd ι η σ) (schedule : List ι) : Crowd ι η σ :=
  schedule.foldl (step db parties) c

end Crowd

end SqlMapper
