import SqlMapper.Engine.Database

/-!
# Registries

One connection for each set of parameters.

Connections are found again by the digest of their parameters, so whoever asks
for the same parameters gets the same connection, and each is opened only once.
A connection that is taken out is forgotten, and the next one for its parameters
is a new one with a number of its own. Connections share one cache if the
registry has one; otherwise each has its own.

## Main definitions

* `Registry`: Connections under the digests of their parameters.
* `Registry.obtain`: The connection for parameters, opened if need be.
* `Registry.remove`: Taking a connection out.
* `Registry.on`: A computation on the connection for parameters.
* `Registry.summary`: A registry as diagnostics show it.
-/

namespace SqlMapper

/-- A connection of a registry. -/
structure Registered (η σ : Type) where
  /-- Its number among all connections ever opened. -/
  number : Nat
  /-- Its fixed parts. -/
  database : Database η σ
  /-- Its changing parts. -/
  connection : Connection η
  /-- Its own cache, unused if connections share one. -/
  cache : Cache := ∅

/-- Connections under the digests of their parameters. -/
structure Registry (η σ : Type) where
  /-- The client. -/
  client : Client η σ
  /-- The dialects. -/
  dialects : DialectCatalog := DialectCatalog.standard
  /-- The options of every connection. -/
  options : Options := { }
  /-- Whether connections share one cache. -/
  sharesCache : Bool := false
  /-- The connections. -/
  connections : OrderedMap String (Registered η σ) := ∅
  /-- How many connections were ever opened. -/
  opened : Nat := 0

namespace Registry

variable {η σ α : Type}

/-- How many connections are open. -/
def size (r : Registry η σ) : Nat :=
  r.connections.size

/-- Whether no connection is open. -/
def isEmpty (r : Registry η σ) : Bool :=
  r.connections.isEmpty

/-- Keeps a connection under the digest of its parameters. -/
def keep (r : Registry η σ) (c : Registered η σ) : Registry η σ :=
  { r with connections := r.connections.insert c.database.config.fingerprint c }

/-- Opens a connection and keeps it. -/
def opening (r : Registry η σ) (config : Config) :
    StateM (Surroundings σ) (Except Error (Registered η σ) × Registry η σ) := do
  Surroundings.report {
    level := .debug
    message := "opening registry connection"
    fields := [("dialect", config.dialect), ("database", config.database)] }
  match ← Database.establish r.client r.dialects config r.options with
  | .error e => return (.error e, r)
  | .ok (database, connection) =>
    let c : Registered η σ := { number := r.opened, database, connection }
    return (.ok c, { r with opened := r.opened + 1 }.keep c)

/-- The connection for parameters. It is opened when it is asked for first. -/
def obtain (r : Registry η σ) (config : Config) :
    StateM (Surroundings σ) (Except Error (Registered η σ) × Registry η σ) :=
  match r.connections.get? config.fingerprint with
  | some c => pure (.ok c, r)
  | none => r.opening config

/-- The connection for parameters, and the registry without it. -/
def remove (r : Registry η σ) (config : Config) : Option (Registered η σ) × Registry η σ :=
  (r.connections.get? config.fingerprint,
    { r with connections := r.connections.erase config.fingerprint })

/-- A computation on a connection. Unless connections share a cache it runs on the connection's
    own. -/
def runOn (r : Registry η σ) (c : Registered η σ) (act : Database η σ → Action η σ α) :
    StateM (Surroundings σ) (α × Registry η σ) := fun s =>
  if r.sharesCache then
    let done := act c.database { around := s, own := c.connection }
    ((done.1, r.keep { c with connection := done.2.own }), done.2.around)
  else
    -- The connection's own cache stands in for the one around it, which is put back afterwards.
    let done := act c.database { around := { s with cache := c.cache }, own := c.connection }
    ((done.1, r.keep { c with connection := done.2.own, cache := done.2.around.cache }),
      { done.2.around with cache := s.cache })

/-- A computation on the connection for parameters, and the connection's number. -/
def on (r : Registry η σ) (config : Config) (act : Database η σ → Action η σ α) :
    StateM (Surroundings σ) (Except Error (Nat × α) × Registry η σ) := do
  match ← r.obtain config with
  | (.error e, r) => return (.error e, r)
  | (.ok c, r) =>
    let (a, r) ← r.runOn c act
    return (.ok (c.number, a), r)

/-- A registry as diagnostics show it. -/
def summary (r : Registry η σ) : String :=
  "ConnectionRegistry \x7b dialects: " ++ r.dialects.summary ++ ", options: " ++ r.options.summary
    ++ ", connections: " ++ toString r.size ++ ", .. \x7d"

end Registry

end SqlMapper
