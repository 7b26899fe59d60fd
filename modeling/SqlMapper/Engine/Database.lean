import SqlMapper.Client.Basic
import SqlMapper.Dialect.Catalog
import SqlMapper.Engine.Options
import SqlMapper.Engine.State

/-!
# Databases

The fixed parts of a connection, and how it is opened.

A database knows its client, its dialect, the parameters of its session and its
options. Opening one finds the dialect and asks the client for a session; when
the session is lost the same parameters serve to rebuild it. A rebuild that
fails leaves the old session where it is, and the next statement will show what
is wrong with it.

## Main definitions

* `Database`: The fixed parts of a connection.
* `Database.establish`: Opening a connection.
* `Database.reconnect`: Rebuilding its session.
* `Database.summary`: A connection as diagnostics show it.
-/

namespace SqlMapper

/-- The fixed parts of a connection. -/
structure Database (η σ : Type) where
  /-- The client. -/
  client : Client η σ
  /-- The dialect. -/
  dialect : Dialect
  /-- The parameters of the session. -/
  config : Config
  /-- The options. -/
  options : Options

namespace Database

variable {η σ : Type}

/-- Asks the client for a session. -/
def dial (db : Database η σ) : StateM (Surroundings σ) (Except Error η) := do
  Surroundings.note (.connect db.dialect.tag db.config.host db.config.database)
  match ← Surroundings.inWorld (db.client.connect db.dialect.tag db.config) with
  | .ok handle => return .ok handle
  | .error failure =>
    let e := Error.connect db.dialect.tag failure.code failure.message
    Surroundings.reportError e
    return .error e

/-- Opens a connection: the dialect is found first, then a session is asked for. -/
def establish (client : Client η σ) (dialects : DialectCatalog) (config : Config)
    (options : Options) :
    StateM (Surroundings σ) (Except Error (Database η σ × Connection η)) := do
  match dialects.find config.dialect with
  | .error e =>
    Surroundings.reportError e
    return .error e
  | .ok dialect =>
    let db : Database η σ := { client, dialect, config, options }
    match ← db.dial with
    | .error e => return .error e
    | .ok handle =>
      Surroundings.report {
        level := .info
        message := "database connected"
        fields := [("dialect", dialect.tag), ("host", config.host),
          ("database", config.database)] }
      return .ok (db, { handle })

/-- Rebuilds the session; the old one stays if that fails. -/
def reconnect (db : Database η σ) : Action η σ Unit := do
  match ← around db.dial with
  | .ok handle =>
    modifyOwn fun c => { c with handle := handle }
    report {
      level := .debug
      message := "native connection rebuilt"
      fields := [("dialect", db.dialect.tag)] }
  | .error e =>
    report { level := .warn, message := "reconnect failed", fields := [("error", e.message)] }

/-- The key that the latest insert generated. -/
def lastInsertId (db : Database η σ) : Action η σ (Option Int64) := do
  let s ← get
  return db.client.lastInsertId s.own.handle s.around.world

/-- A connection as diagnostics show it. Password and state stay hidden. -/
def summary (db : Database η σ) : String :=
  "Database \x7b dialect: " ++ Text.quoted db.dialect.tag ++ ", host: "
    ++ Text.quoted db.config.host ++ ", database: " ++ Text.quoted db.config.database
    ++ ", options: " ++ db.options.summary ++ ", .. \x7d"

end Database

end SqlMapper
