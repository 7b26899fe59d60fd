import SqlMapper.Engine.Database
import SqlMapper.Statement.Preview
import SqlMapper.Statement.Targets

/-!
# Running Statements

How one statement is sent, and sent again.

A statement that fails with a dropped session is sent again on a rebuilt one, as
often as the policy allows, each time after a longer wait. Inside a transaction
nothing is sent again, because the rebuilt session would know nothing of what
the transaction did before. The failure that remains becomes an error that names
the statement.

A write drops the cached reads of the tables it may have written, whether it
succeeded or not: a write that failed half way has changed something, too.

## Main definitions

* `Outcome`: What a statement yielded.
* `Database.exchange`: One call on the session.
* `Database.send`: Sending a statement once.
* `Database.callsForRetry`: Whether a result calls for another attempt.
* `Database.sendFrom`: Sending it from some attempt on.
* `Database.sendRetrying`: Sending it until it is answered.
* `Database.executeDirect`: The same, with its failure as an error.
* `Database.execute`: Running a hand-written statement.
-/

namespace SqlMapper

/-- What a statement yielded. -/
inductive Outcome where
  /-- The rows of a read. -/
  | rows (rows : List Row)
  /-- The number of rows that a write changed. -/
  | affected (count : UInt64)
  deriving DecidableEq

namespace Outcome

/-- The rows of a read; none for a write. -/
def rowList : Outcome → List Row
  | .rows list => list
  | .affected _ => []

/-- The number of rows that a write changed, or that a read returned. -/
def count : Outcome → UInt64
  | .rows list => UInt64.ofNat list.length
  | .affected changed => changed

/-- The outcome as the cache stores it. -/
def cached : Outcome → CacheValue
  | .rows list => .rows list
  | .affected changed => .affected changed

end Outcome

namespace Database

variable {η σ : Type}

/-- One call on the session, as the journal shows it. Tables that others wrote to while it ran lose
    their cached reads. -/
def exchange {α : Type} (shown : Event) (call : η → StateM σ (Reply α)) :
    Action η σ (Except ClientFailure α) := do
  let handle := (← get).own.handle
  around (Surroundings.note shown)
  let reply ← around (Surroundings.inWorld (call handle))
  invalidateAll reply.meanwhile
  return reply.outcome

/-- Sends a query once. -/
def sendQuery (db : Database η σ) (sql : String) (binds : Binds) :
    Action η σ (Except ClientFailure (List Row)) :=
  exchange (.query sql binds) fun h => db.client.query h sql binds

/-- Sends a statement once that changes rows. -/
def sendExecute (db : Database η σ) (sql : String) (binds : Binds) :
    Action η σ (Except ClientFailure UInt64) :=
  exchange (.execute sql binds) fun h => db.client.execute h sql binds

/-- Sends a statement once. -/
def send (db : Database η σ) (sql : String) (binds : Binds) (readonly : Bool) :
    Action η σ (Except ClientFailure Outcome) := do
  if readonly then
    return (← db.sendQuery sql binds).map Outcome.rows
  else
    return (← db.sendExecute sql binds).map Outcome.affected

/-- The report about a statement that succeeded. -/
def executedRecord (sql : String) (binds : Binds) (attempt : UInt32) : LogRecord where
  level := .info
  message := "statement executed"
  fields := [("sql", preview sql binds), ("attempts", toString attempt.toNat)]

/-- The report about a failure that is worth another attempt. -/
def retryRecord (attempt : UInt32) (failure : ClientFailure) (delay : UInt64) : LogRecord where
  level := .warn
  message := "transient failure, reconnecting"
  fields := [("attempt", toString attempt.toNat), ("code", optionalNumber failure.code),
    ("error", failure.message), ("delay_ms", toString delay.toNat)]

/-- The report about a dropped session that no further attempt can help. -/
def surrenderRecord (attempt : UInt32) (inTransaction : Bool) : LogRecord where
  level := .warn
  message := "giving up on transient failure"
  fields := [("attempt", toString attempt.toNat), ("in_transaction", truthWord inTransaction)]

/-- Reports how the last attempt went, and yields its result. -/
def conclude (db : Database η σ) (sql : String) (binds : Binds) (attempt : UInt32)
    (transactional : Bool) (result : Except ClientFailure Outcome) :
    Action η σ (Except ClientFailure Outcome) := do
  match result with
  | .ok _ => if db.options.debug then report (executedRecord sql binds attempt)
  | .error failure =>
    if failure.isTransient then report (surrenderRecord attempt transactional)
  return result

/-- Rebuilds the session after a failed attempt, and waits. -/
def recover (db : Database η σ) (attempt : UInt32) (failure : ClientFailure) :
    Action η σ Unit := do
  let delay := db.options.retry.backoff attempt
  report (retryRecord attempt failure delay)
  db.reconnect
  around (Surroundings.pause delay)

/-- Whether a result calls for another attempt: the session was dropped, and no transaction was
    open. -/
def callsForRetry (transactional : Bool) : Except ClientFailure Outcome → Option ClientFailure
  | .ok _ => none
  | .error failure => if failure.isTransient && !transactional then some failure else none

/-- Sends a statement, and again on a rebuilt session while the result calls for it and the policy
    allows another attempt. -/
def sendFrom (db : Database η σ) (sql : String) (binds : Binds) (readonly : Bool)
    (attempt : UInt32) : Action η σ (Except ClientFailure Outcome) := do
  -- Taken before sending: the statement itself must not decide whether it is sent again.
  let transactional ← inTransaction
  let result ← db.send sql binds readonly
  match callsForRetry transactional result with
  | some failure =>
    if db.options.retry.allows attempt then
      db.recover attempt failure
      db.sendFrom sql binds readonly (attempt + 1)
    else
      db.conclude sql binds attempt transactional result
  | none => db.conclude sql binds attempt transactional result
termination_by db.options.retry.maxAttempts.toNat - attempt.toNat
decreasing_by
  rename_i hallows
  have hnext := RetryPolicy.toNat_add_one_of_allows hallows
  have hlt := RetryPolicy.lt_of_allows hallows
  omega

/-- Sends a statement as often as it takes and the policy allows. -/
def sendRetrying (db : Database η σ) (sql : String) (binds : Binds) (readonly : Bool) :
    Action η σ (Except ClientFailure Outcome) :=
  db.sendFrom sql binds readonly 1

/-- Runs a statement past the cache; its failure becomes an error that names it. -/
def executeDirect (db : Database η σ) (sql : String) (binds : Binds) (readonly : Bool) :
    Attempt η σ Outcome := do
  match ← db.sendRetrying sql binds readonly with
  | .ok outcome => return outcome
  | .error failure => Attempt.raise (.execute sql failure.text)

/-- Runs a hand-written statement past the cache. A write drops the cached reads of the tables it
    names. -/
def execute (db : Database η σ) (sql : String) (binds : Binds) (readonly : Bool) :
    Attempt η σ Outcome :=
  if readonly then
    db.executeDirect sql binds true
  else
    (db.executeDirect sql binds false).thereafter (invalidateAll (writtenTables sql))

end Database

end SqlMapper
