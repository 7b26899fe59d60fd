import SqlMapper.Binds
import SqlMapper.Client.Failure
import SqlMapper.Row
import SqlMapper.Settings.Config

/-!
# Clients

The seam between the engine and a database.

A client opens sessions and runs statements on them. What it talks to is a world
of its own that every call may change, be it a server, a file or a list of
prepared answers; nothing is assumed of it. While a call runs, others may write
to the same database. Their writes are reported with the answer as the tables
they touched, so that what happened during a read can be told from what happened
before it.

Beginning and ending a transaction are calls of their own: a client need not
send them as statements.

## Main definitions

* `Reply`: The answer to one call.
* `Client`: The calls.
-/

namespace SqlMapper

/-- The answer to one call. -/
structure Reply (α : Type) where
  /-- The result, or why there is none. -/
  outcome : Except ClientFailure α
  /-- The tables that others wrote to while the call ran, oldest first. -/
  meanwhile : List String := []

/-- The calls of a client, with sessions `η` in a world `σ`. -/
structure Client (η σ : Type) where
  /-- Opens a session, given the tag of the dialect. -/
  connect : String → Config → StateM σ (Except ClientFailure η)
  /-- Runs a statement that returns rows. -/
  query : η → String → Binds → StateM σ (Reply (List Row))
  /-- Runs a statement that changes rows, and counts them. -/
  execute : η → String → Binds → StateM σ (Reply UInt64)
  /-- Opens a transaction. -/
  begin : η → StateM σ (Reply Unit)
  /-- Commits the open transaction. -/
  commit : η → StateM σ (Reply Unit)
  /-- Rolls the open transaction back. -/
  rollback : η → StateM σ (Reply Unit)
  /-- The key that the latest insert generated. -/
  lastInsertId : η → σ → Option Int64

end SqlMapper
