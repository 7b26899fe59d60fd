import SqlMapper.Retry
import SqlMapper.Settings.Config
import SqlMapper.Text.Blank

/-!
# Settings

Everything a host configures.

Each section has defaults, so a settings file names only what differs. Whatever
the file says, a connection needs a dialect and at least one attempt, and
settings without them are refused.

## Main definitions

* `CacheSettings`, `LoggingSettings`: Sections.
* `Settings`: All sections.
* `Settings.shape`, `Settings.json`: Settings in JSON.
* `SettingsError`: Why settings were refused.
* `Settings.validate`: The final check.
-/

namespace SqlMapper

/-- How reads are cached. -/
structure CacheSettings where
  /-- Whether reads are cached at all. -/
  enabled : Bool := true
  /-- How long a cached read lives, in seconds. -/
  ttlSecs : UInt64 := 300
  deriving Repr, DecidableEq

/-- How the host writes its log. -/
structure LoggingSettings where
  /-- Which records are written. -/
  level : String := "warn"
  /-- Whether records are written as JSON. -/
  json : Bool := false
  deriving Repr, DecidableEq

/-- Everything a host configures. -/
structure Settings where
  /-- The connection. -/
  database : Config := { }
  /-- Whether statements are previewed in the log, and schemas checked each time. -/
  debug : Bool := false
  /-- The cache of reads. -/
  cache : CacheSettings := { }
  /-- The attempts a statement gets. -/
  retry : RetryPolicy := { }
  /-- The log. -/
  logging : LoggingSettings := { }
  deriving Repr, DecidableEq

/-- Why settings were refused. -/
inductive SettingsError where
  /-- The file could not be read as text. -/
  | unreadable
  /-- The file does not hold settings in JSON. -/
  | malformed
  /-- A value cannot be used. -/
  | invalid (message : String)
  deriving Repr, DecidableEq

/-- The wording of a settings error. -/
def SettingsError.message : SettingsError → String
  | .unreadable => "failed to read settings file"
  | .malformed => "failed to parse settings JSON"
  | .invalid message => "invalid settings value: " ++ message

/-- The section in JSON; an absent field has its default. -/
def CacheSettings.shape : Json.Shape CacheSettings := fun node => do
  let fields ← Json.Fields.read? ["enabled", "ttlSecs"] node
  let standard : CacheSettings := { }
  let enabled ← fields.getD 0 Json.Shape.bool standard.enabled
  let ttlSecs ← fields.getD 1 (Json.Shape.natural UInt64.size) standard.ttlSecs.toNat
  return { enabled, ttlSecs := UInt64.ofNat ttlSecs }

/-- The section in JSON; an absent field has its default. -/
def LoggingSettings.shape : Json.Shape LoggingSettings := fun node => do
  let fields ← Json.Fields.read? ["level", "json"] node
  let standard : LoggingSettings := { }
  let level ← fields.getD 0 Json.Shape.string standard.level
  let json ← fields.getD 1 Json.Shape.bool standard.json
  return { level, json }

namespace Settings

/-- Settings in JSON; an absent section has its defaults. -/
def shape : Json.Shape Settings := fun node => do
  let fields ← Json.Fields.read? ["database", "debug", "cache", "retry", "logging"] node
  let standard : Settings := { }
  return {
    database := ← fields.getD 0 Config.shape standard.database
    debug := ← fields.getD 1 Json.Shape.bool standard.debug
    cache := ← fields.getD 2 CacheSettings.shape standard.cache
    retry := ← fields.getD 3 RetryPolicy.shape standard.retry
    logging := ← fields.getD 4 LoggingSettings.shape standard.logging }

/-- Settings as JSON. -/
def json (s : Settings) : Json :=
  .object (Json.ofPairs [
    ("database", s.database.json),
    ("debug", .bool s.debug),
    ("cache", .object (Json.ofPairs [
      ("enabled", .bool s.cache.enabled), ("ttlSecs", .number (.int s.cache.ttlSecs.toNat))])),
    ("retry", .object (Json.ofPairs [
      ("maxAttempts", .number (.int s.retry.maxAttempts.toNat)),
      ("baseDelayMs", .number (.int s.retry.baseDelayMs.toNat))])),
    ("logging", .object (Json.ofPairs [
      ("level", .string s.logging.level), ("json", .bool s.logging.json)]))])

/-- Refuses settings no connection could be opened with. -/
def validate (s : Settings) : Except SettingsError Unit :=
  if (Text.trim s.database.dialect).isEmpty then
    .error (.invalid "database.dialect must not be empty")
  else if s.retry.maxAttempts = 0 then
    .error (.invalid "retry.maxAttempts must be at least 1")
  else
    .ok ()

end Settings

end SqlMapper
