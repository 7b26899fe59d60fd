import SqlMapper.Cache.Key
import SqlMapper.Cache.Basic
import SqlMapper.Error

/-!
# What the Engine Works On

The changing parts of a connection, and the computations that change them.

A connection owns its session, knows whether a transaction is open, and counts
the writes to each table. Around it is what connections may share: the world of
the client, the cache, the clock, the log, and a journal of every call that left
the engine, in order. Nothing else changes, so a computation on this state says
all there is about what the engine did.

A computation may end early: with an error, which the caller can handle, or
abruptly, which only ends transactions on its way out.

## Main definitions

* `Event`: A call that left the engine.
* `Surroundings`: What connections may share.
* `Connection`: What belongs to one connection.
* `State`: Both.
* `Action`: A computation that always returns.
* `Attempt`: A computation that may end early.
* `Attempt.raise`: Ending with an error, and reporting it.
* `invalidate`: Dropping every cached read of a table.
-/

namespace SqlMapper

/-- A call that left the engine. -/
inductive Event where
  /-- A session was asked for. -/
  | connect (tag host database : String)
  /-- A statement was sent that returns rows. -/
  | query (sql : String) (binds : Binds)
  /-- A statement was sent that changes rows, or the state of the transaction. -/
  | execute (sql : String) (binds : Binds)
  /-- The cache was asked for a key. -/
  | lookup (key : String) (found : Bool)
  /-- A value was put into the cache. -/
  | store (key : String) (value : CacheValue) (ttl : Option UInt64)
  /-- A key was taken out of the cache. -/
  | forget (key : String)
  /-- Every key that begins with a text was taken out of the cache, which had so many entries
      before and so many afterwards. -/
  | forgetAll (start : String) (before after : Nat)
  /-- The engine waited. -/
  | pause (ms : UInt64)
  deriving DecidableEq

/-- Whether a call went to the cache. -/
def Event.isCache : Event → Bool
  | .lookup _ _ | .store _ _ _ | .forget _ | .forgetAll _ _ _ => true
  | _ => false

/-- What connections may share. -/
structure Surroundings (σ : Type) where
  /-- The world of the client. -/
  world : σ
  /-- The cache. -/
  cache : Cache := ∅
  /-- The clock, in milliseconds. -/
  now : Nat := 0
  /-- The calls that left the engine, oldest first. -/
  journal : List Event := []
  /-- The log. -/
  log : Log := []

/-- What belongs to one connection. -/
structure Connection (η : Type) where
  /-- The session. -/
  handle : η
  /-- Whether a transaction is open. -/
  inTransaction : Bool := false
  /-- How often each table was written to. -/
  generations : OrderedMap String Nat := ∅

/-- The changing parts of a connection. -/
structure State (η σ : Type) where
  /-- What it may share with others. -/
  around : Surroundings σ
  /-- What is its own. -/
  own : Connection η

/-- Why a computation ended early. -/
inductive Stop where
  /-- With an error. -/
  | failed (e : Error)
  /-- Abruptly; nobody can handle that. -/
  | aborted
  deriving DecidableEq

namespace Surroundings

variable {σ : Type}

/-- Enters a call into the journal. -/
def note (e : Event) : StateM (Surroundings σ) Unit :=
  modify fun s => { s with journal := s.journal ++ [e] }

/-- Enters a record into the log. -/
def report (r : LogRecord) : StateM (Surroundings σ) Unit :=
  modify fun s => { s with log := s.log ++ [r] }

/-- Reports an error, if errors of its kind are reported. -/
def reportError (e : Error) : StateM (Surroundings σ) Unit :=
  match e.record? with
  | some r => report r
  | none => pure ()

/-- Does something in the world of the client. -/
def inWorld {α : Type} (act : StateM σ α) : StateM (Surroundings σ) α := fun s =>
  let done := act s.world
  (done.1, { s with world := done.2 })

/-- The live value under a key of the cache. -/
def lookup (key : String) : StateM (Surroundings σ) (Option CacheValue) := do
  let s ← get
  let found := s.cache.get s.now key
  set { s with cache := found.2 }
  note (.lookup key found.1.isSome)
  return found.1

/-- Puts a value into the cache; false if the clock cannot show its deadline. -/
def store (key : String) (value : CacheValue) (ttl : Option UInt64) :
    StateM (Surroundings σ) Bool := do
  let s ← get
  match s.cache.set? s.now key value ttl with
  | some cache =>
    set { s with cache := cache }
    note (.store key value ttl)
    return true
  | none => return false

/-- Takes a key out of the cache. -/
def forget (key : String) : StateM (Surroundings σ) Unit := do
  modify fun s => { s with cache := s.cache.delete key }
  note (.forget key)

/-- Takes every key out of the cache that begins with a text. -/
def forgetAll (start : String) : StateM (Surroundings σ) Unit := do
  let s ← get
  let cache := s.cache.deletePrefix start
  set { s with cache := cache }
  note (.forgetAll start s.cache.size cache.size)

/-- Waits. -/
def pause (ms : UInt64) : StateM (Surroundings σ) Unit := do
  modify fun s => { s with now := s.now + ms.toNat }
  note (.pause ms)

end Surroundings

/-- A computation on a connection that always returns. -/
abbrev Action (η σ α : Type) : Type :=
  StateM (State η σ) α

/-- A computation on a connection that may end early. -/
abbrev Attempt (η σ α : Type) : Type :=
  ExceptT Stop (StateM (State η σ)) α

section

variable {η σ α β : Type}

/-- Does something in the surroundings of a connection. -/
def around (act : StateM (Surroundings σ) α) : Action η σ α := fun s =>
  let done := act s.around
  (done.1, { s with around := done.2 })

/-- Changes what belongs to the connection. -/
def modifyOwn (f : Connection η → Connection η) : Action η σ Unit :=
  modify fun s => { s with own := f s.own }

/-- Enters a record into the log. -/
def report (r : LogRecord) : Action η σ Unit :=
  around (Surroundings.report r)

/-- Whether a transaction is open. -/
def inTransaction : Action η σ Bool :=
  return (← get).own.inTransaction

/-- How often a table was written to. -/
def generation (table : String) : Action η σ Nat :=
  return ((← get).own.generations.get? table).getD 0

/-- Counts a write to a table and drops every cached read of it. -/
def invalidate (table : String) : Action η σ Unit := do
  let count ← generation table
  modifyOwn fun c => { c with generations := c.generations.insert table (count + 1) }
  around (Surroundings.forgetAll (tablePrefix table))

/-- Counts writes to several tables and drops every cached read of them. -/
def invalidateAll (tables : List String) : Action η σ Unit :=
  tables.forM invalidate

namespace Attempt

/-- A computation that always returns, as an attempt. -/
def always (act : Action η σ α) : Attempt η σ α :=
  ExceptT.lift act

/-- Ends with an error, and reports it. -/
def raise (e : Error) : Attempt η σ α :=
  ExceptT.mk do
    around (Surroundings.reportError e)
    return .error (.failed e)

/-- Goes on with a result, or ends with an error and reports it. -/
def check : Except Error α → Attempt η σ α
  | .ok a => pure a
  | .error e => raise e

/-- An attempt with something behind it that is done however the attempt ends. -/
def thereafter (act : Attempt η σ α) (last : Action η σ Unit) : Attempt η σ α :=
  ExceptT.mk do
    let r ← act.run
    last
    return r

/-- An attempt whose error is a result. -/
def settled (act : Attempt η σ α) : Attempt η σ (Except Error α) :=
  ExceptT.mk do
    match ← act.run with
    | .ok a => return .ok (.ok a)
    | .error (.failed e) => return .ok (.error e)
    | .error .aborted => return .error .aborted

end Attempt

/-- Puts a value into the cache. The attempt is aborted if the clock cannot show its deadline. -/
def store (key : String) (value : CacheValue) (ttl : Option UInt64) : Attempt η σ Unit :=
  ExceptT.mk do
    if ← around (Surroundings.store key value ttl) then
      return .ok ()
    else
      return .error .aborted

end

end SqlMapper
