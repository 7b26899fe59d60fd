import SqlMapper.Engine.Maintenance
import SqlMapper.Engine.Transaction

/-!
# Migrations

Bringing a table to the version that its schema declares.

The version that was applied last is kept in the cache, under a key that no
write drops and without a time to live. Without it, or when every schema is to
be checked, the table is probed; one that is missing is created as declared. A
table that is there but unrecorded counts as the first version. Upgrades run in
one transaction, and the record moves only when all of it has succeeded.

## Main definitions

* `MigrationOutcome`: Where a table ended up.
* `recordedVersion`: The version that was applied last.
* `Database.migrate`: Creating or upgrading a table.
* `Database.initTable`: The same for an entity.
-/

namespace SqlMapper

/-- Where a table ended up. -/
inductive MigrationOutcome where
  /-- It was missing and has been created. -/
  | created
  /-- It was brought from one version to another. -/
  | upgraded (before after : UInt32)
  /-- There was nothing to do. -/
  | unchanged
  /-- It could not be created or upgraded. -/
  | failed (reason : String)
  deriving Repr, DecidableEq

section

variable {η σ : Type}

/-- The version of a table's schema that was applied last. -/
def recordedVersion (table : String) : Action η σ (Option UInt32) := do
  match ← around (Surroundings.lookup (versionKey table)) with
  | some (.version v) => return some v
  | _ => return none

/-- Records the version of a table's schema. -/
def recordVersion (table : String) (version : UInt32) : Attempt η σ Unit :=
  store (versionKey table) (.version version) none

end

/-- A version as a field of a log record. -/
def versionField (name : String) (version : UInt32) : String × String :=
  (name, toString version.toNat)

namespace Database

variable {η σ : Type}

/-- Creates a table as its schema declares it. -/
def createTable (db : Database η σ) (schema : Schema) (table : String) :
    Attempt η σ MigrationOutcome := do
  let sql := db.dialect.createTable schema table db.config.charset
  match ← (db.execute sql ∅ false).settled with
  | .ok _ =>
    recordVersion table schema.version
    Attempt.always do
      invalidate table
      report {
        level := .info
        message := "table created"
        fields := [("table", table), versionField "version" schema.version] }
    return .created
  | .error e =>
    Attempt.always (report {
      level := .error
      message := "table creation failed"
      fields := [("table", table), ("error", e.message)] })
    return .failed e.message

/-- Runs the statements between two versions, and yields how many there were. -/
def runUpgrade (db : Database η σ) (schema : Schema) (before after : UInt32) :
    Attempt η σ Nat := do
  match schema.upgradePath before after with
  | .error key => Attempt.raise (.field key "missing upgrade script")
  | .ok statements =>
    statements.forM fun sql => do
      let _ ← db.execute sql ∅ false
    return statements.length

/-- Upgrades a table from one version to another, in one transaction. -/
def upgradeTable (db : Database η σ) (schema : Schema) (table : String) (before after : UInt32) :
    Attempt η σ MigrationOutcome := do
  let versions := [("table", table), versionField "from" before, versionField "to" after]
  Attempt.always (report { level := .info, message := "upgrading table", fields := versions })
  match ← (db.transaction (db.runUpgrade schema before after)).settled with
  | .ok applied =>
    recordVersion table after
    Attempt.always do
      invalidate table
      report {
        level := .info
        message := "table upgraded"
        fields := versions ++ [("statements", toString applied)] }
    return .upgraded before after
  | .error e =>
    Attempt.always (report {
      level := .error
      message := "table upgrade failed, rolled back"
      fields := versions ++ [("error", e.message)] })
    return .failed e.message

/-- Upgrades a table that is there, unless its version is recent enough. A table without a record
    counts as the first version. -/
def bringUp (db : Database η σ) (schema : Schema) (table : String) (recorded : Option UInt32) :
    Attempt η σ MigrationOutcome := do
  let before := recorded.getD 1
  if schema.version ≤ before then
    -- The next run then finds a record and need not probe.
    if recorded.isNone then
      recordVersion table before
    return .unchanged
  else
    db.upgradeTable schema table before schema.version

/-- Creates or upgrades a table as its schema declares it. -/
def migrate (db : Database η σ) (schema : Schema) (table : String) :
    Attempt η σ MigrationOutcome := do
  let recorded ← Attempt.always (recordedVersion table)
  if recorded.isNone || db.options.debug then
    -- A missing record does not tell a missing table from one that was never recorded.
    if ← Attempt.always (db.probe table) then
      db.bringUp schema table recorded
    else
      db.createTable schema table
  else
    db.bringUp schema table recorded

/-- Creates or upgrades the table of an entity. Its name is checked first, then the entity. -/
def initTable (db : Database η σ) (entity : Entity) (table : String) :
    Attempt η σ MigrationOutcome := do
  Attempt.check (checkIdentifier table)
  let schema ← Attempt.check entity.schema
  db.migrate schema table

end Database

end SqlMapper
