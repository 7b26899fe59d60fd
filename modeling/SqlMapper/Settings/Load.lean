import SqlMapper.Json.Merge
import SqlMapper.Json.Node
import SqlMapper.Settings.Environment

/-!
# Loading Settings

From defaults, file and environment to settings that can be used.

The file is laid over the defaults, the environment over both, and the result is
checked. A file that is missing changes nothing; one that cannot be read or does
not hold settings is an error, and the environment is then not looked at.

## Main definitions

* `SettingsFile`: What is found where the settings file should be.
* `SettingsFile.settings`: Defaults under the file.
* `Loaded`: The outcome, and the reports made on the way.
* `Settings.load`: The whole way.
-/

namespace SqlMapper

/-- What is found where the settings file should be. -/
inductive SettingsFile where
  /-- Nothing. -/
  | absent
  /-- A directory. -/
  | directory
  /-- A file. -/
  | file (bytes : List UInt8)
  deriving Repr, DecidableEq

/-- The settings of a JSON value laid over the defaults. -/
def Settings.ofJson (upper : Json) : Except SettingsError Settings :=
  match Settings.shape ((Settings.json { }).merge upper).node with
  | some s => .ok s
  | none => .error .malformed

/-- The defaults under what the file says. -/
def SettingsFile.settings : SettingsFile → Except SettingsError Settings
  | .absent => Settings.ofJson (.object [])
  | .directory => .error .unreadable
  | .file bytes =>
    match Text.ofBytes? bytes with
    | none => .error .unreadable
    | some text =>
      match Json.read? text with
      | none => .error .malformed
      | some upper => Settings.ofJson upper

/-- The outcome of loading, and the reports made on the way. -/
structure Loaded where
  /-- The settings, or why there are none. -/
  outcome : Except SettingsError Settings
  /-- The reports, oldest first. -/
  warnings : List LogRecord := []

/-- Settings from a file and an environment. -/
def Settings.load (file : SettingsFile) (env : Environment) : Loaded :=
  match file.settings with
  | .error e => { outcome := .error e }
  | .ok base =>
    let o := base.override env
    { outcome := o.settings.validate.map fun _ => o.settings, warnings := o.warnings }

end SqlMapper
