import SqlMapper.Engine.Migration
import SqlMapper.Engine.Query

/-!
# Operations

Everything that can be asked of a connection, as data.

An operation is one call of the engine, and performing it yields an answer of
one of a few forms. Written down like this, whole uses of a connection can be
listed, run and reasoned about.

## Main definitions

* `Query`: A query of any kind.
* `Reading`: What a selection is read for.
* `Operation`: One call of the engine.
* `Answer`: What it yields.
* `Operation.perform`: The call.
-/

namespace SqlMapper

/-- A query of any kind. -/
inductive Query where
  /-- Rows to read. -/
  | select (q : SelectQuery)
  /-- Rows to add. -/
  | insert (q : InsertQuery)
  /-- Rows to change. -/
  | update (q : UpdateQuery)
  /-- Rows to remove. -/
  | delete (q : DeleteQuery)
  deriving DecidableEq

/-- The statement of a query, in a dialect. -/
def Query.compile (d : Dialect) : Query → Except Error Statement
  | .select q => q.compile
  | .insert q => q.compile d
  | .update q => q.compile
  | .delete q => q.compile

/-- What a selection is read for. -/
inductive Reading where
  /-- Its rows. -/
  | rows
  /-- Its rows as records of an entity. -/
  | records (entity : Entity)
  /-- One page of its rows. -/
  | page
  /-- One page of its rows as records of an entity. -/
  | recordPage (entity : Entity)
  /-- The number of its rows. -/
  | count
  /-- The sum of a field. -/
  | sum (field : String)
  deriving DecidableEq

/-- One call of the engine. -/
inductive Operation where
  /-- Runs a hand-written statement. -/
  | execute (sql : String) (binds : Binds) (readonly : Bool)
  /-- Runs a compiled statement. -/
  | run (s : Statement)
  /-- Runs a compiled insert for its key. -/
  | runInsert (s : Statement)
  /-- Compiles a query. -/
  | compile (q : Query)
  /-- Reads a selection. -/
  | read (s : Selection) (use : Reading)
  /-- Adds rows. -/
  | insert (q : InsertQuery)
  /-- Changes rows. -/
  | update (q : UpdateQuery)
  /-- Removes rows. -/
  | delete (q : DeleteQuery)
  /-- Finds out whether a table can be read. -/
  | probe (table : String)
  /-- Empties a table. -/
  | truncate (table : String)
  /-- Drops a table. -/
  | drop (table : String)
  /-- Drops the cached reads of a table. -/
  | invalidate (table : String)
  /-- Rebuilds the session. -/
  | reconnect
  /-- Asks for the latest generated key. -/
  | lastId
  /-- Asks whether a transaction is open. -/
  | inTransaction
  /-- Asks for the version of a table's schema. -/
  | recorded (table : String)
  /-- Creates or upgrades the table of an entity; the table's name is checked first. -/
  | initTable (table : String) (entity : Entity)
  /-- Creates or upgrades the table of an entity. -/
  | migrate (table : String) (entity : Entity)
  /-- Puts a value into the cache, for ever. -/
  | cachePut (key : String) (value : CacheValue)
  /-- Asks the cache for a value. -/
  | cacheGet (key : String)
  /-- Asks for the dialect, the parameters and the options. -/
  | describe
  /-- Asks for the description that diagnostics show. -/
  | summary
  /-- Takes the log. -/
  | takeLog
  /-- Searches the log. -/
  | searchLog (level : LogLevel) (part field : String)
  deriving DecidableEq

/-- What an operation yields. -/
inductive Answer where
  /-- Nothing. -/
  | done
  /-- What a statement yielded. -/
  | outcome (o : Outcome)
  /-- The key of an insert. -/
  | key (id : Option Int64)
  /-- A compiled statement. -/
  | statement (s : Statement)
  /-- Rows. -/
  | rows (rows : List Row)
  /-- Records. -/
  | records (records : List (List (String × FieldValue)))
  /-- A page of rows. -/
  | page (p : Page Row)
  /-- A page of records. -/
  | recordPage (p : Page (List (String × FieldValue)))
  /-- A number of rows. -/
  | count (n : UInt64)
  /-- A sum. -/
  | sum (x : Float)
  /-- The latest generated key. -/
  | lastId (id : Option Int64)
  /-- A truth value. -/
  | truth (b : Bool)
  /-- The version of a schema. -/
  | version (v : Option UInt32)
  /-- Where a table ended up. -/
  | migration (outcome : MigrationOutcome)
  /-- A value of the cache. -/
  | cached (value : Option CacheValue)
  /-- A dialect, parameters and options. -/
  | description (tag : String) (config : Config) (options : Options)
  /-- A text. -/
  | text (s : String)
  /-- A log. -/
  | log (log : Log)
  /-- What a log says. -/
  | findings (f : LogFindings)

section

variable {η σ : Type}

/-- Takes the log, and leaves an empty one. -/
def takeLog : Action η σ Log := fun s =>
  (s.around.log, { s with around := { s.around with log := [] } })

/-- Reads a selection. -/
def Reading.perform (db : Database η σ) (s : Selection) : Reading → Attempt η σ Answer
  | .rows => Answer.rows <$> db.rows s.query
  | .records entity => Answer.records <$> db.records entity s.query
  | .page => Answer.page <$> db.page s
  | .recordPage entity => Answer.recordPage <$> db.recordPage entity s
  | .count => Answer.count <$> db.count s.query
  | .sum field => Answer.sum <$> db.sum s.query field

/-- One call of the engine. -/
def Operation.perform (db : Database η σ) : Operation → Attempt η σ Answer
  | .execute sql binds readonly => Answer.outcome <$> db.execute sql binds readonly
  | .run s => Answer.outcome <$> db.run s
  | .runInsert s => Answer.key <$> db.runInsert s
  | .compile q => Answer.statement <$> Attempt.check (q.compile db.dialect)
  | .read s use => use.perform db s
  | .insert q => Answer.key <$> db.insert q
  | .update q => Answer.count <$> db.update q
  | .delete q => Answer.count <$> db.delete q
  | .probe table => Answer.truth <$> Attempt.always (db.probe table)
  | .truncate table => Answer.count <$> db.truncate table
  | .drop table => (fun _ => Answer.done) <$> db.dropTable table
  | .invalidate table => (fun _ => Answer.done) <$> Attempt.always (SqlMapper.invalidate table)
  | .reconnect => (fun _ => Answer.done) <$> Attempt.always db.reconnect
  | .lastId => Answer.lastId <$> Attempt.always db.lastInsertId
  | .inTransaction => Answer.truth <$> Attempt.always SqlMapper.inTransaction
  | .recorded table => Answer.version <$> Attempt.always (recordedVersion table)
  | .initTable table entity => Answer.migration <$> db.initTable entity table
  | .migrate table entity => do
    let schema ← Attempt.check entity.schema
    Answer.migration <$> db.migrate schema table
  | .cachePut key value => (fun _ => Answer.done) <$> store key value none
  | .cacheGet key => Answer.cached <$> Attempt.always (around (Surroundings.lookup key))
  | .describe => pure (.description db.dialect.tag db.config db.options)
  | .summary => pure (.text db.summary)
  | .takeLog => Answer.log <$> Attempt.always SqlMapper.takeLog
  | .searchLog level part field => do
    let s ← Attempt.always get
    return .findings (s.around.log.search level part field)

end

end SqlMapper
