import SqlMapper.Decimal.Integer
import SqlMapper.Log
import SqlMapper.OrderedMap
import SqlMapper.Settings.Basic
import SqlMapper.Text.Lowercase

/-!
# Settings from the Environment

Environment variables that override the settings file.

A variable that is set and acceptable wins over the file. One that is not
acceptable is reported and otherwise ignored, so a typing error in a deployment
cannot take a service down. Texts are acceptable unless they are empty, except
the password, which may be empty.

## Main definitions

* `Environment`: Variables and their values.
* `readBool?`: A truth value in words.
* `Overrides`: Settings, and the reports about ignored variables.
* `Settings.override`: Settings under an environment.
* `settingsPath`: Where the settings file is.
-/

namespace SqlMapper

/-- Variables and their values. -/
abbrev Environment :=
  OrderedMap String String

/-- A truth value in words, in any case. -/
def readBool? (s : String) : Option Bool :=
  let word := Text.lowercase s
  if ["true", "1", "yes", "on"].contains word then some true
  else if ["false", "0", "no", "off"].contains word then some false
  else none

/-- A number of 16 bits between two bounds. -/
def readPort? (least most : UInt16) (s : String) : Option UInt16 :=
  (Decimal.naturalWithin? least.toNat most.toNat s).map UInt16.ofNat

/-- A number of 64 bits between two bounds. -/
def readCount? (least most : UInt64) (s : String) : Option UInt64 :=
  (Decimal.naturalWithin? least.toNat most.toNat s).map UInt64.ofNat

/-- The longest life of a cached read that a variable may ask for: thirty days. -/
def longestTtl : UInt64 := 2592000

/-- A variable's value, unless it is empty. -/
def Environment.text? (env : Environment) (name : String) : Option String :=
  (env.get? name).filter fun v => v != ""

/-- Settings, and the reports about variables that were ignored. -/
structure Overrides where
  /-- The settings. -/
  settings : Settings
  /-- The reports, oldest first. -/
  warnings : List LogRecord := []

/-- The report about a variable that was ignored. -/
def ignoredVariable (kind name value : String) : LogRecord where
  level := .warn
  message := "invalid " ++ kind ++ " env var, ignoring"
  fields := [("key", name), ("value", value)]

namespace Overrides

/-- A text taken from a variable, unless it is empty. -/
def withText (o : Overrides) (env : Environment) (name : String)
    (set : Settings → String → Settings) : Overrides :=
  match env.text? name with
  | some v => { o with settings := set o.settings v }
  | none => o

/-- A value read from a variable; a report if it cannot be read. -/
def withRead {α : Type} (o : Overrides) (env : Environment) (kind name : String)
    (read : String → Option α) (set : Settings → α → Settings) : Overrides :=
  match env.get? name with
  | none => o
  | some v =>
    match read v with
    | some a => { o with settings := set o.settings a }
    | none => { o with warnings := o.warnings ++ [ignoredVariable kind name v] }

/-- The parameters of the connection taken from their variables. -/
def connection (o : Overrides) (env : Environment) : Overrides :=
  let o := o.withText env "SABLE_DB_HOST" fun s v =>
    { s with database := { s.database with host := v } }
  let o := o.withText env "SABLE_DB_DIALECT" fun s v =>
    { s with database := { s.database with dialect := Text.lowercase v } }
  let o := o.withRead env "u16" "SABLE_DB_PORT" (readPort? 1 65535) fun s v =>
    { s with database := { s.database with port := v } }
  let o := o.withText env "SABLE_DB_USER" fun s v =>
    { s with database := { s.database with username := v } }
  let o := o.withRead env "password" "SABLE_DB_PASSWORD" some fun s v =>
    { s with database := { s.database with password := v } }
  let o := o.withText env "SABLE_DB_NAME" fun s v =>
    { s with database := { s.database with database := v } }
  o.withText env "SABLE_DB_CHARSET" fun s v =>
    { s with database := { s.database with charset := v } }

/-- The remaining settings taken from their variables. -/
def behaviour (o : Overrides) (env : Environment) : Overrides :=
  let o := o.withRead env "boolean" "SABLE_DEBUG" readBool? fun s v => { s with debug := v }
  let o := o.withRead env "boolean" "SABLE_CACHE_ENABLED" readBool? fun s v =>
    { s with cache := { s.cache with enabled := v } }
  let o := o.withRead env "u64" "SABLE_CACHE_TTL_SECS" (readCount? 1 longestTtl) fun s v =>
    { s with cache := { s.cache with ttlSecs := v } }
  o.withText env "SABLE_LOG_LEVEL" fun s v =>
    { s with logging := { s.logging with level := v } }

end Overrides

/-- Settings under an environment, and the reports about variables that were ignored. -/
def Settings.override (s : Settings) (env : Environment) : Overrides :=
  (Overrides.connection { settings := s } env).behaviour env

/-- Where the settings file is. -/
def settingsPath (env : Environment) : String :=
  (env.text? "SABLE_SETTINGS").getD "sable.json"

end SqlMapper
