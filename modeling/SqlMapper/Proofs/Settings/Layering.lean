import Mathlib
import SqlMapper.Proofs.Json.Merging
import SqlMapper.Proofs.Settings.Variables
import SqlMapper.Proofs.Text.Utf8
import SqlMapper.Proofs.Text.Words
import SqlMapper.Settings.Load

/-!
# Layered Settings

Which layer every setting comes from.

There are three layers. A variable that is set and acceptable decides; below it
the file, if it has a value at the place of the setting; below both the default.
Each setting looks at its own variable and at its own place in the file, so a
variable that cannot be used changes nothing, neither its own setting nor
another one.

A file that only holds values of the right types is never refused as a file:
the settings that the layers make are loaded, unless no connection could be
opened with them. Reading a file loses the layers, since the file is merged into
the defaults and the result is read as one record. What connects the two is that
the merged value displays the settings: it has the value of every setting at the
place of the setting, whatever else it holds.

## Main definitions

* `Beneath`: The value of a setting without its variable.
* `Uppermost`: The value of a setting.
* `Settings.Layered`: The value of every setting.
* `Settings.WellTyped`: Whatever a file has for a setting is of its type.
* `SettingsFile.Holds`: What a file says.
* `Settings.Displays`: A JSON value that has the value of every setting at its place.

## Theorems

* `Settings.shape_of_displays`: A value that displays settings is read as them.
* `Settings.ofJson_layered`: What becomes of a file without variables.
* `Settings.Layered.override`: Variables are laid over what is there.
* `Settings.Layered.unique`: The layers leave no choice.
* `Settings.load_layered`: Loading gives the settings that the layers make.
-/

namespace SqlMapper

/-- The value of a setting without its variable: what the file has at its place, or else the
    default. -/
inductive Beneath {α : Type} (written : α → Json) (found : Option Json) (standard : α) : α → Prop
  /-- The file has a value. -/
  | file {a : α} (h : found = some (written a)) : Beneath written found standard a
  /-- The file has none. -/
  | standard (h : found = none) : Beneath written found standard standard

/-- The value of a setting: what its variable is taken for, or else what lies beneath. -/
inductive Uppermost {α : Type} (accepts : Acceptance α) (given : Option String)
    (beneath : α → Prop) : α → Prop
  /-- The variable is set and acceptable. -/
  | taken {v : String} {a : α} (hset : given = some v) (h : accepts v a) :
      Uppermost accepts given beneath a
  /-- The variable is not set, or it is not acceptable. -/
  | beneath {a : α} (hnone : ∀ v, given = some v → ∀ b, ¬ accepts v b) (h : beneath a) :
      Uppermost accepts given beneath a

theorem Uppermost.of_unset {α : Type} {accepts : Acceptance α} {beneath : α → Prop} {a : α}
    (h : Uppermost accepts none beneath a) : beneath a := by
  cases h with
  | taken hset _ => exact absurd hset nofun
  | beneath _ h => exact h

theorem Beneath.unset {α : Type} {accepts : Acceptance α} {written : α → Json}
    {found : Option Json} {standard a : α} (h : Beneath written found standard a) :
    Uppermost accepts none (Beneath written found standard) a :=
  .beneath nofun h

/-- A setting with what is taken from its variable, if anything is, and else what it was. -/
theorem Uppermost.getD {α : Type} {accepts : Acceptance α} {given : Option String}
    {beneath : α → Prop} {a : α} {taken : Option α}
    (htaken : ∀ b, taken = some b ↔ ∃ v, given = some v ∧ accepts v b) (h : beneath a) :
    Uppermost accepts given beneath (taken.getD a) := by
  cases taken with
  | none =>
      refine .beneath (fun v hset b hb => ?_) h
      exact absurd ((htaken b).mpr ⟨v, hset, hb⟩) nofun
  | some b =>
      rcases (htaken b).mp rfl with ⟨v, hset, hb⟩
      exact .taken hset hb

theorem Uppermost.getD_read {α : Type} {accepts : Acceptance α} {given : Option String}
    {beneath : α → Prop} {a : α} {read : String → Option α}
    (hread : ∀ v b, read v = some b ↔ accepts v b) (h : beneath a) :
    Uppermost accepts given beneath ((given.bind read).getD a) := by
  refine .getD (fun b => ?_) h
  simp only [Option.bind_eq_some_iff, hread]

theorem Beneath.unique {α : Type} {written : α → Json} {found : Option Json} {standard a b : α}
    (hwritten : Function.Injective written) (ha : Beneath written found standard a)
    (hb : Beneath written found standard b) : a = b := by
  cases ha with
  | file ha =>
      cases hb with
      | file hb => exact hwritten (Option.some.inj (ha.symm.trans hb))
      | standard hb => exact absurd (ha.symm.trans hb) nofun
  | standard ha =>
      cases hb with
      | file hb => exact absurd (ha.symm.trans hb) nofun
      | standard _ => rfl

theorem Uppermost.unique {α : Type} {accepts : Acceptance α} {given : Option String}
    {beneath : α → Prop} {a b : α} (haccepts : accepts.Sharp)
    (hbeneath : ∀ a b, beneath a → beneath b → a = b) (ha : Uppermost accepts given beneath a)
    (hb : Uppermost accepts given beneath b) : a = b := by
  cases ha with
  | taken hset ha =>
      cases hb with
      | taken hset' hb =>
          cases Option.some.inj (hset.symm.trans hset')
          exact haccepts _ a b ha hb
      | beneath hnone _ => exact absurd ha (hnone _ hset a)
  | beneath hnone ha =>
      cases hb with
      | taken hset hb => exact absurd hb (hnone _ hset b)
      | beneath _ hb => exact hbeneath a b ha hb

namespace Settings

/-- A number in JSON. -/
def count (n : Nat) : Json :=
  .number (.int n)

/-- The settings that the layers make: of variables, of what a file says, and of the defaults. -/
structure Layered (given : String → Option String) (file : Json) (s : Settings) : Prop where
  host : Uppermost .text (given "SABLE_DB_HOST")
    (Beneath .string (file.at? ["database", "host"]) "127.0.0.1") s.database.host
  dialect : Uppermost .lowered (given "SABLE_DB_DIALECT")
    (Beneath .string (file.at? ["database", "dialect"]) "mysql") s.database.dialect
  port : Uppermost .port (given "SABLE_DB_PORT")
    (Beneath (count ·.toNat) (file.at? ["database", "port"]) 3306) s.database.port
  username : Uppermost .text (given "SABLE_DB_USER")
    (Beneath .string (file.at? ["database", "username"]) "root") s.database.username
  password : Uppermost .any (given "SABLE_DB_PASSWORD")
    (Beneath .string (file.at? ["database", "password"]) "") s.database.password
  database : Uppermost .text (given "SABLE_DB_NAME")
    (Beneath .string (file.at? ["database", "database"]) "") s.database.database
  charset : Uppermost .text (given "SABLE_DB_CHARSET")
    (Beneath .string (file.at? ["database", "charset"]) "utf8mb4") s.database.charset
  debug : Uppermost .word (given "SABLE_DEBUG")
    (Beneath .bool (file.at? ["debug"]) false) s.debug
  enabled : Uppermost .word (given "SABLE_CACHE_ENABLED")
    (Beneath .bool (file.at? ["cache", "enabled"]) true) s.cache.enabled
  ttlSecs : Uppermost .lifetime (given "SABLE_CACHE_TTL_SECS")
    (Beneath (count ·.toNat) (file.at? ["cache", "ttlSecs"]) 300) s.cache.ttlSecs
  maxAttempts : Beneath (count ·.toNat) (file.at? ["retry", "maxAttempts"]) 3 s.retry.maxAttempts
  baseDelayMs : Beneath (count ·.toNat) (file.at? ["retry", "baseDelayMs"]) 100 s.retry.baseDelayMs
  level : Uppermost .text (given "SABLE_LOG_LEVEL")
    (Beneath .string (file.at? ["logging", "level"]) "warn") s.logging.level
  json : Beneath .bool (file.at? ["logging", "json"]) false s.logging.json

/-- What is found, if anything is, is a value of a type. -/
def Typed {α : Type} (written : α → Json) (found : Option Json) : Prop :=
  ∀ j, found = some j → ∃ a, j = written a

/-- A file is an object that has an object or nothing for each section, and a value of the right
    type and range or nothing for each setting. -/
structure WellTyped (file : Json) : Prop where
  root : ∃ members, file = .object members
  sections : ∀ key ∈ ["database", "cache", "retry", "logging"], Typed .object (file.at? [key])
  texts : ∀ path ∈ [["database", "host"], ["database", "dialect"], ["database", "username"],
    ["database", "password"], ["database", "database"], ["database", "charset"],
    ["logging", "level"]], Typed .string (file.at? path)
  truths : ∀ path ∈ [["debug"], ["cache", "enabled"], ["logging", "json"]],
    Typed .bool (file.at? path)
  port : Typed (fun n : UInt16 => count n.toNat) (file.at? ["database", "port"])
  ttlSecs : Typed (fun n : UInt64 => count n.toNat) (file.at? ["cache", "ttlSecs"])
  maxAttempts : Typed (fun n : UInt32 => count n.toNat) (file.at? ["retry", "maxAttempts"])
  baseDelayMs : Typed (fun n : UInt64 => count n.toNat) (file.at? ["retry", "baseDelayMs"])

end Settings

/-- What a file says: nothing if it is missing, and else the value that its text denotes. -/
inductive SettingsFile.Holds : SettingsFile → Json → Prop
  /-- There is no file. -/
  | absent : Holds .absent (.object [])
  /-- There is a file with a JSON text. -/
  | file {bytes : List UInt8} {text : String} {value : Json}
      (hbytes : Text.ofBytes? bytes = some text) (hread : Json.read? text = some value) :
      Holds (.file bytes) value

namespace Settings

/-! ### Settings displayed in JSON -/

/-- A JSON value has the value of every setting at the place of the setting. -/
structure Displays (j : Json) (s : Settings) : Prop where
  host : j.at? ["database", "host"] = some (.string s.database.host)
  dialect : j.at? ["database", "dialect"] = some (.string s.database.dialect)
  port : j.at? ["database", "port"] = some (count s.database.port.toNat)
  username : j.at? ["database", "username"] = some (.string s.database.username)
  password : j.at? ["database", "password"] = some (.string s.database.password)
  database : j.at? ["database", "database"] = some (.string s.database.database)
  charset : j.at? ["database", "charset"] = some (.string s.database.charset)
  debug : j.at? ["debug"] = some (.bool s.debug)
  enabled : j.at? ["cache", "enabled"] = some (.bool s.cache.enabled)
  ttlSecs : j.at? ["cache", "ttlSecs"] = some (count s.cache.ttlSecs.toNat)
  maxAttempts : j.at? ["retry", "maxAttempts"] = some (count s.retry.maxAttempts.toNat)
  baseDelayMs : j.at? ["retry", "baseDelayMs"] = some (count s.retry.baseDelayMs.toNat)
  level : j.at? ["logging", "level"] = some (.string s.logging.level)
  json : j.at? ["logging", "json"] = some (.bool s.logging.json)

/-- Settings as JSON display themselves. -/
theorem displays_json (s : Settings) : Displays s.json s := by
  constructor <;>
    simp [json, Config.json, Json.at?, Json.ofPairs, Json.get?_put_self, Json.get?_put_ne,
      Json.isNull, count]

theorem json_ordered (s : Settings) : s.json.Ordered :=
  Json.ordered_ofPairs
    ⟨Json.ordered_ofPairs
      ⟨trivial, trivial, trivial, trivial, trivial, trivial, trivial, trivial⟩,
    trivial, Json.ordered_ofPairs ⟨trivial, trivial, trivial⟩,
    Json.ordered_ofPairs ⟨trivial, trivial, trivial⟩,
    Json.ordered_ofPairs ⟨trivial, trivial, trivial⟩, trivial⟩

end Settings

/-- What an object has at the end of a path through one of its members is in that member. -/
theorem get?_of_at? {key name : String} {members fields : List (String × Json)} {leaf : Json}
    (hfields : Json.get? key members = some (.object fields))
    (h : (Json.object members).at? [key, name] = some leaf) :
    Json.get? name fields = some leaf := by
  rcases Json.at?_cons.mp h with ⟨_, _, hmembers, hkey, h⟩
  rcases Json.at?_cons.mp h with ⟨_, _, hvalue, hname, h⟩
  cases hmembers
  cases hvalue.symm.trans (Option.some.inj (hkey.symm.trans hfields))
  rw [hname, (Json.at?_nil.mp h).1]

section Records

variable {members : List (String × Json)} (hmembers : (Json.object members).Ordered)

include hmembers

/-- An object that holds the parameters of a connection is read as them. -/
theorem Config.shape_object {c : Config}
    (host : Json.get? "host" members = some (.string c.host))
    (dialect : Json.get? "dialect" members = some (.string c.dialect))
    (port : Json.get? "port" members = some (Settings.count c.port.toNat))
    (username : Json.get? "username" members = some (.string c.username))
    (password : Json.get? "password" members = some (.string c.password))
    (database : Json.get? "database" members = some (.string c.database))
    (charset : Json.get? "charset" members = some (.string c.charset)) :
    Config.shape (Json.object members).node = some c := by
  simp only [Config.shape, Json.Fields.read?_object _ hmembers, Option.bind_eq_bind,
    Option.bind_some]
  rw [Json.Fields.getD_string rfl host, Json.Fields.getD_string rfl dialect,
    Json.Fields.getD_natural rfl port c.port.toNat_lt,
    Json.Fields.getD_string rfl username, Json.Fields.getD_string rfl password,
    Json.Fields.getD_string rfl database, Json.Fields.getD_string rfl charset]
  simp only [Option.bind_some, UInt16.ofNat_toNat, Option.pure_def]

/-- An object that holds the settings of the cache is read as them. -/
theorem CacheSettings.shape_object {c : CacheSettings}
    (enabled : Json.get? "enabled" members = some (.bool c.enabled))
    (ttlSecs : Json.get? "ttlSecs" members = some (Settings.count c.ttlSecs.toNat)) :
    CacheSettings.shape (Json.object members).node = some c := by
  simp only [CacheSettings.shape, Json.Fields.read?_object _ hmembers, Option.bind_eq_bind,
    Option.bind_some]
  rw [Json.Fields.getD_bool rfl enabled,
    Json.Fields.getD_natural rfl ttlSecs c.ttlSecs.toNat_lt]
  simp only [Option.bind_some, UInt64.ofNat_toNat, Option.pure_def]

/-- An object that holds a retry policy is read as it. -/
theorem RetryPolicy.shape_object {p : RetryPolicy}
    (maxAttempts : Json.get? "maxAttempts" members = some (Settings.count p.maxAttempts.toNat))
    (baseDelayMs : Json.get? "baseDelayMs" members = some (Settings.count p.baseDelayMs.toNat)) :
    RetryPolicy.shape (Json.object members).node = some p := by
  simp only [RetryPolicy.shape, Json.Fields.read?_object _ hmembers, Option.bind_eq_bind,
    Option.bind_some]
  rw [Json.Fields.getD_natural rfl maxAttempts p.maxAttempts.toNat_lt,
    Json.Fields.getD_natural rfl baseDelayMs p.baseDelayMs.toNat_lt]
  simp only [Option.bind_some, UInt32.ofNat_toNat, UInt64.ofNat_toNat, Option.pure_def]

/-- An object that holds the settings of the log is read as them. -/
theorem LoggingSettings.shape_object {l : LoggingSettings}
    (level : Json.get? "level" members = some (.string l.level))
    (json : Json.get? "json" members = some (.bool l.json)) :
    LoggingSettings.shape (Json.object members).node = some l := by
  simp only [LoggingSettings.shape, Json.Fields.read?_object _ hmembers, Option.bind_eq_bind,
    Option.bind_some]
  rw [Json.Fields.getD_string rfl level, Json.Fields.getD_bool rfl json]
  simp only [Option.bind_some, Option.pure_def]

end Records

namespace Settings

/-- A section that holds one setting is an object. -/
theorem section_of_at? {members : List (String × Json)} {key name : String} {leaf : Json}
    (hmembers : (Json.object members).Ordered)
    (h : (Json.object members).at? [key, name] = some leaf) :
    ∃ fields, Json.get? key members = some (.object fields) ∧ (Json.object fields).Ordered := by
  rcases Json.at?_cons.mp h with ⟨_, _, heq, hkey, h⟩
  rcases Json.at?_cons.mp h with ⟨fields, _, rfl, -, -⟩
  cases heq
  exact ⟨fields, hkey, hmembers.of_get? hkey⟩

/-- A value that displays settings is read as them. -/
theorem shape_of_displays {j : Json} {s : Settings} (hj : j.Ordered) (h : Displays j s) :
    shape j.node = some s := by
  rcases Json.at?_cons.mp h.debug with ⟨members, _, rfl, hdebug, hleaf⟩
  rw [(Json.at?_nil.mp hleaf).1] at hdebug
  rcases section_of_at? hj h.host with ⟨_, hdatabase, hordered⟩
  have database := Config.shape_object hordered (get?_of_at? hdatabase h.host)
    (get?_of_at? hdatabase h.dialect) (get?_of_at? hdatabase h.port)
    (get?_of_at? hdatabase h.username) (get?_of_at? hdatabase h.password)
    (get?_of_at? hdatabase h.database) (get?_of_at? hdatabase h.charset)
  rcases section_of_at? hj h.enabled with ⟨_, hcache, hordered⟩
  have cache := CacheSettings.shape_object hordered (get?_of_at? hcache h.enabled)
    (get?_of_at? hcache h.ttlSecs)
  rcases section_of_at? hj h.maxAttempts with ⟨_, hretry, hordered⟩
  have retry := RetryPolicy.shape_object hordered (get?_of_at? hretry h.maxAttempts)
    (get?_of_at? hretry h.baseDelayMs)
  rcases section_of_at? hj h.level with ⟨_, hlogging, hordered⟩
  have logging := LoggingSettings.shape_object hordered (get?_of_at? hlogging h.level)
    (get?_of_at? hlogging h.json)
  simp only [shape, Json.Fields.read?_object _ hj, Option.bind_eq_bind, Option.bind_some]
  rw [Json.Fields.getD_of_get? rfl hdatabase database, Json.Fields.getD_bool rfl hdebug,
    Json.Fields.getD_of_get? rfl hcache cache, Json.Fields.getD_of_get? rfl hretry retry,
    Json.Fields.getD_of_get? rfl hlogging logging]
  simp only [Option.bind_some, Option.pure_def]

/-! ### The layers -/

theorem WellTyped.leads {file : Json} (h : WellTyped file) (key : String)
    (hkey : key ∈ ["database", "cache", "retry", "logging"]) (name : String) :
    Json.Leads [key, name] file := by
  rcases h.root with ⟨members, rfl⟩
  intro value hvalue
  cases hnull : value.isNull with
  | true =>
      cases value with
      | null => rfl
      | _ => exact absurd hnull nofun
  | false =>
      rcases h.sections key hkey value (Json.at?_cons.mpr
        ⟨members, value, rfl, hvalue, Json.at?_nil.mpr ⟨rfl, hnull⟩⟩) with ⟨fields, rfl⟩
      exact fun _ _ => trivial

/-- What the file has at a place, or else what the defaults have there, is found in the merged
    value. -/
theorem merged_at? {α : Type} {written : α → Json} {standard : α} {file : Json}
    {path : List String} (hwritten : ∀ members, written standard ≠ .object members)
    (hfile : file.Ordered) (hroot : ∃ members, file = .object members)
    (hleads : Json.Leads path file) (htyped : Typed written (file.at? path))
    (hstandard : (Settings.json { }).at? path = some (written standard)) :
    ∃ a, ((Settings.json { }).merge file).at? path = some (written a) ∧
      Beneath written (file.at? path) standard a := by
  have hnull : file.isNull = false := by
    rcases hroot with ⟨_, rfl⟩
    rfl
  have hmerge := Json.at?_merge hfile hnull hleads hstandard hwritten
  rcases hfound : file.at? path with _ | leaf
  · rw [hfound] at hmerge
    exact ⟨standard, hmerge, .standard rfl⟩
  · rcases htyped leaf hfound with ⟨a, rfl⟩
    rw [hfound] at hmerge
    exact ⟨a, hmerge, .file rfl⟩

/-- Without variables, a file of the right types gives the settings that it and the defaults
    make. -/
theorem ofJson_layered {file : Json} (hfile : file.Ordered) (h : WellTyped file) :
    ∃ s, ofJson file = .ok s ∧ Layered (fun _ => none) file s := by
  have std := displays_json { }
  have database := h.leads "database" (by decide)
  have cache := h.leads "cache" (by decide)
  have retry := h.leads "retry" (by decide)
  have logging := h.leads "logging" (by decide)
  have debug : Json.Leads ["debug"] file := by
    rcases h.root with ⟨_, rfl⟩
    exact fun _ _ => trivial
  have text (standard : String) (path : List String) :=
    @merged_at? String .string standard file path nofun hfile h.root
  have truth (standard : Bool) (path : List String) :=
    @merged_at? Bool .bool standard file path nofun hfile h.root
  have number {α : Type} (toNat : α → Nat) (standard : α) (path : List String) :=
    @merged_at? α (count <| toNat ·) standard file path nofun hfile h.root
  -- The value of each setting in the merged value, and the layer that it is from.
  rcases text _ _ (database _) (h.texts _ (by decide)) std.host with ⟨host, mhost, bhost⟩
  rcases text _ _ (database _) (h.texts _ (by decide)) std.dialect
    with ⟨dialect, mdialect, bdialect⟩
  rcases number _ _ _ (database _) h.port std.port with ⟨port, mport, bport⟩
  rcases text _ _ (database _) (h.texts _ (by decide)) std.username
    with ⟨username, musername, busername⟩
  rcases text _ _ (database _) (h.texts _ (by decide)) std.password
    with ⟨password, mpassword, bpassword⟩
  rcases text _ _ (database _) (h.texts _ (by decide)) std.database with ⟨name, mname, bname⟩
  rcases text _ _ (database _) (h.texts _ (by decide)) std.charset
    with ⟨charset, mcharset, bcharset⟩
  rcases truth _ _ debug (h.truths _ (by decide)) std.debug with ⟨debug, mdebug, bdebug⟩
  rcases truth _ _ (cache _) (h.truths _ (by decide)) std.enabled
    with ⟨enabled, menabled, benabled⟩
  rcases number _ _ _ (cache _) h.ttlSecs std.ttlSecs with ⟨ttlSecs, mttlSecs, bttlSecs⟩
  rcases number _ _ _ (retry _) h.maxAttempts std.maxAttempts
    with ⟨maxAttempts, mmaxAttempts, bmaxAttempts⟩
  rcases number _ _ _ (retry _) h.baseDelayMs std.baseDelayMs
    with ⟨baseDelayMs, mbaseDelayMs, bbaseDelayMs⟩
  rcases text _ _ (logging _) (h.texts _ (by decide)) std.level with ⟨level, mlevel, blevel⟩
  rcases truth _ _ (logging _) (h.truths _ (by decide)) std.json with ⟨json, mjson, bjson⟩
  have hdisplays : Displays ((Settings.json { }).merge file)
      { database := { host, dialect, port, username, password, database := name, charset }
        debug
        cache := { enabled, ttlSecs }
        retry := { maxAttempts, baseDelayMs }
        logging := { level, json } } :=
    ⟨mhost, mdialect, mport, musername, mpassword, mname, mcharset, mdebug, menabled, mttlSecs,
      mmaxAttempts, mbaseDelayMs, mlevel, mjson⟩
  have hread := shape_of_displays (Json.merge_ordered (json_ordered { }) hfile) hdisplays
  refine ⟨_, by rw [ofJson, hread], ?_⟩
  exact ⟨bhost.unset, bdialect.unset, bport.unset, busername.unset, bpassword.unset,
    bname.unset, bcharset.unset, bdebug.unset, benabled.unset, bttlSecs.unset, bmaxAttempts,
    bbaseDelayMs, blevel.unset, bjson⟩

/-- Variables are laid over what is there. -/
theorem Layered.override {file : Json} {s : Settings} (h : Layered (fun _ => none) file s)
    (env : Environment) : Layered env.get? file (s.override env).settings := by
  rw [Settings.override, Overrides.behaviour_settings, Overrides.connection_settings]
  have text {beneath : String → Prop} {name a : String} (h : beneath a) :
      Uppermost .text (env.get? name) beneath ((env.text? name).getD a) :=
    .getD (fun _ => Environment.text?_eq_some_iff) h
  exact
    { host := text h.host.of_unset
      dialect := .getD (fun _ => Environment.lowered_eq_some_iff) h.dialect.of_unset
      port := .getD_read (fun _ _ => readPort?_eq_some_iff) h.port.of_unset
      username := text h.username.of_unset
      password := .getD_read (fun _ _ => eq_comm.trans Option.some_inj) h.password.of_unset
      database := text h.database.of_unset
      charset := text h.charset.of_unset
      debug := .getD_read (fun _ _ => readBool?_eq_some_iff) h.debug.of_unset
      enabled := .getD_read (fun _ _ => readBool?_eq_some_iff) h.enabled.of_unset
      ttlSecs := .getD_read (fun _ _ => readCount?_eq_some_iff) h.ttlSecs.of_unset
      maxAttempts := h.maxAttempts
      baseDelayMs := h.baseDelayMs
      level := text h.level.of_unset
      json := h.json }

theorem count_injective : Function.Injective count :=
  fun _ _ h => Int.ofNat.inj (Number.int.inj (Json.number.inj h))

/-- The layers leave no choice. -/
theorem Layered.unique {given : String → Option String} {file : Json} {s t : Settings}
    (hs : Layered given file s) (ht : Layered given file t) : s = t := by
  have text {found : Option Json} {standard : String} (a b : String)
      (ha : Beneath .string found standard a) (hb : Beneath .string found standard b) : a = b :=
    ha.unique (fun _ _ => Json.string.inj) hb
  have truth {found : Option Json} {standard : Bool} (a b : Bool)
      (ha : Beneath .bool found standard a) (hb : Beneath .bool found standard b) : a = b :=
    ha.unique (fun _ _ => Json.bool.inj) hb
  have number {α : Type} {toNat : α → Nat} (h : Function.Injective toNat) {found : Option Json}
      {standard : α} (a b : α) (ha : Beneath (count <| toNat ·) found standard a)
      (hb : Beneath (count <| toNat ·) found standard b) : a = b :=
    ha.unique (count_injective.comp h) hb
  have short : Function.Injective UInt16.toNat := fun _ _ => UInt16.toNat_inj.mp
  have middle : Function.Injective UInt32.toNat := fun _ _ => UInt32.toNat_inj.mp
  have long : Function.Injective UInt64.toNat := fun _ _ => UInt64.toNat_inj.mp
  have host := hs.host.unique Acceptance.text_sharp text ht.host
  have dialect := hs.dialect.unique Acceptance.lowered_sharp text ht.dialect
  have port := hs.port.unique Acceptance.port_sharp (number short) ht.port
  have username := hs.username.unique Acceptance.text_sharp text ht.username
  have password := hs.password.unique Acceptance.any_sharp text ht.password
  have database := hs.database.unique Acceptance.text_sharp text ht.database
  have charset := hs.charset.unique Acceptance.text_sharp text ht.charset
  have debug := hs.debug.unique Acceptance.word_sharp truth ht.debug
  have enabled := hs.enabled.unique Acceptance.word_sharp truth ht.enabled
  have ttlSecs := hs.ttlSecs.unique Acceptance.lifetime_sharp (number long) ht.ttlSecs
  have maxAttempts := number middle _ _ hs.maxAttempts ht.maxAttempts
  have baseDelayMs := number long _ _ hs.baseDelayMs ht.baseDelayMs
  have level := hs.level.unique Acceptance.text_sharp text ht.level
  have json := truth _ _ hs.json ht.json
  rcases s with ⟨⟨_, _, _, _, _, _, _⟩, _, ⟨_, _⟩, ⟨_, _⟩, ⟨_, _⟩⟩
  rcases t with ⟨⟨_, _, _, _, _, _, _⟩, _, ⟨_, _⟩, ⟨_, _⟩, ⟨_, _⟩⟩
  simp only [Settings.mk.injEq, Config.mk.injEq, CacheSettings.mk.injEq, RetryPolicy.mk.injEq,
    LoggingSettings.mk.injEq]
  exact ⟨⟨host, dialect, port, username, password, database, charset⟩, debug, ⟨enabled, ttlSecs⟩,
    ⟨maxAttempts, baseDelayMs⟩, level, json⟩

end Settings

/-- The final check refuses a blank dialect and a policy without an attempt, and nothing else. -/
theorem Settings.map_validate (s : Settings) :
    (s.validate.map fun _ => s) =
      if s.database.dialect.toList.all Text.isBlank then
        .error (.invalid "database.dialect must not be empty")
      else if s.retry.maxAttempts = 0 then
        .error (.invalid "retry.maxAttempts must be at least 1")
      else
        .ok s := by
  simp only [validate, Text.isEmpty_trim]
  split
  · rfl
  · split <;> rfl

theorem SettingsFile.Holds.settings {file : SettingsFile} {value : Json} (h : file.Holds value) :
    file.settings = Settings.ofJson value := by
  cases h with
  | absent => rfl
  | file hbytes hread => simp only [SettingsFile.settings, hbytes, hread]

theorem SettingsFile.Holds.ordered {file : SettingsFile} {value : Json} (h : file.Holds value) :
    value.Ordered := by
  cases h with
  | absent => exact ⟨List.Pairwise.nil, trivial⟩
  | file _ hread => exact Json.read?_ordered hread

/-- Loading gives the settings that the layers make: each from its variable if that is set and
    acceptable, else from the file if that has a value for it, else from the defaults. They are
    refused exactly if their dialect is blank or they allow no attempt. -/
theorem Settings.load_layered {file : SettingsFile} {value : Json} (hfile : file.Holds value)
    (hvalue : Settings.WellTyped value) (env : Environment) :
    ∃ s, (∀ other, Settings.Layered env.get? value other ↔ other = s) ∧
      (Settings.load file env).outcome =
        if s.database.dialect.toList.all Text.isBlank then
          .error (.invalid "database.dialect must not be empty")
        else if s.retry.maxAttempts = 0 then
          .error (.invalid "retry.maxAttempts must be at least 1")
        else
          .ok s := by
  rcases Settings.ofJson_layered hfile.ordered hvalue with ⟨base, hbase, hlayered⟩
  have habove := hlayered.override env
  refine ⟨(base.override env).settings, fun other => ⟨fun h => h.unique habove, ?_⟩, ?_⟩
  · rintro rfl
    exact habove
  · simp only [Settings.load, hfile.settings, hbase, Settings.map_validate]

set_option maxRecDepth 20000 in
/-- A file that leaves the port to the variable and names a key that nobody knows, under a variable
    that cannot be used. -/
theorem Settings.load_layered_deployment :
    let text :=
      "\x7b\"database\":\x7b\"host\":\"db\",\"port\":null,\"tls\":[1]\x7d,\"cache\":null\x7d"
    let value := Json.object [("cache", .null),
      ("database", .object [("host", .string "db"), ("port", .null),
        ("tls", .array [.number (.int 1)])])]
    let file := SettingsFile.file (Text.toBytes text)
    let env : Environment :=
      ((∅ : Environment).insert "SABLE_DB_PORT" "+0443").insert "SABLE_DEBUG" "perhaps"
    file.Holds value ∧ Settings.WellTyped value ∧
      (Settings.load file env).outcome = .ok { database := { host := "db", port := 443 } } := by
  have hread : Json.read?
      "\x7b\"database\":\x7b\"host\":\"db\",\"port\":null,\"tls\":[1]\x7d,\"cache\":null\x7d" =
        some (.object [("cache", .null),
          ("database", .object [("host", .string "db"), ("port", .null),
            ("tls", .array [.number (.int 1)])])]) := by cbv
  intro text value file env
  have hfile : file.Holds value := .file (Text.ofBytes?_toBytes _) hread
  have hvalue : Settings.WellTyped value :=
    { root := ⟨_, rfl⟩
      sections := by simp [value, Settings.Typed, Json.at?, Json.get?, Json.isNull]
      texts := by simp [value, Settings.Typed, Json.at?, Json.get?, Json.isNull]
      truths := by simp [value, Settings.Typed, Json.at?, Json.get?, Json.isNull]
      port := by simp [value, Settings.Typed, Json.at?, Json.get?, Json.isNull]
      ttlSecs := by simp [value, Settings.Typed, Json.at?, Json.get?]
      maxAttempts := by simp [value, Settings.Typed, Json.at?, Json.get?]
      baseDelayMs := by simp [value, Settings.Typed, Json.at?, Json.get?] }
  have hport : Acceptance.port "+0443" 443 :=
    ⟨.inr ⟨['0', '4', '4', '3'], rfl, [0, 4, 4, 3], by decide, by decide, rfl, rfl⟩, by decide,
      by decide⟩
  have hdebug : ∀ b, ¬ Acceptance.word "perhaps" b := by
    intro b
    unfold Acceptance.word
    cases b <;> decide
  have hlayers : Settings.Layered env.get? value
      { database := { host := "db", port := 443 } } :=
    { host := (Beneath.file rfl).unset
      dialect := (Beneath.standard rfl).unset
      port := .taken rfl hport
      username := (Beneath.standard rfl).unset
      password := (Beneath.standard rfl).unset
      database := (Beneath.standard rfl).unset
      charset := (Beneath.standard rfl).unset
      debug := .beneath (fun v hv => Option.some.inj hv ▸ hdebug) (.standard rfl)
      enabled := (Beneath.standard rfl).unset
      ttlSecs := (Beneath.standard rfl).unset
      maxAttempts := .standard rfl
      baseDelayMs := .standard rfl
      level := (Beneath.standard rfl).unset
      json := .standard rfl }
  rcases Settings.load_layered hfile hvalue env with ⟨s, hs, houtcome⟩
  rw [← (hs _).mp hlayers] at houtcome
  exact ⟨hfile, hvalue, houtcome⟩

end SqlMapper
