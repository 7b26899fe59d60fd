import SqlMapper.Proofs.Json.Rereading
import SqlMapper.Proofs.Settings.Layering

/-!
# Saved Settings

Settings that are written to the file and loaded from it.

Settings are written as a record, with the members in the order of the fields.
The text goes a long way round: it is read, the value is merged into the
defaults, and what comes out is read as a record again, every field under its
name, with a default for each one that is not found. Nothing is lost on the way.
The value has every setting at its place, so every setting is found in the file
and none is left to the defaults; strings are read back whatever they are made
of, and every number of a setting fits the 64 bits that integers are read with.

How the file is laid out does not matter. Blanks between the tokens, escapes and
the like spell the same record, and the settings depend on the record alone.

## Main definitions

* `Settings.record`, `Settings.text`: Settings as they are written.
* `Environment.Unset`: No variable is set that could override a setting.

## Theorems

* `Settings.json?_record`: What is written denotes the settings.
* `Settings.ofJson_json`: The settings are found in the merged value.
* `Settings.load_saved`: Saved settings load back unchanged.
-/

namespace SqlMapper

/-! ### Settings as they are written -/

/-- The parameters as they are written, in the order of the fields. -/
def Config.record (c : Config) : Json :=
  .object [
    ("host", .string c.host), ("dialect", .string c.dialect),
    ("port", .number (.int c.port.toNat)), ("username", .string c.username),
    ("password", .string c.password), ("database", .string c.database),
    ("charset", .string c.charset)]

namespace Settings

/-- Settings as they are written, in the order of the fields. -/
def record (s : Settings) : Json :=
  .object [
    ("database", s.database.record),
    ("debug", .bool s.debug),
    ("cache", .object [
      ("enabled", .bool s.cache.enabled), ("ttlSecs", .number (.int s.cache.ttlSecs.toNat))]),
    ("retry", .object [
      ("maxAttempts", .number (.int s.retry.maxAttempts.toNat)),
      ("baseDelayMs", .number (.int s.retry.baseDelayMs.toNat))]),
    ("logging", .object [("level", .string s.logging.level), ("json", .bool s.logging.json)])]

/-- The text of settings. -/
def text (s : Settings) : String :=
  s.record.text

/-- What is written denotes the settings. -/
theorem json?_record (s : Settings) : s.record.node.json? = some s.json :=
  rfl

theorem nesting_record (s : Settings) : s.record.node.nesting = 2 :=
  rfl

/-- A number of a setting is read exactly. -/
theorem fits64_of_lt {n size : Nat} (hn : n < size) (hsize : size ≤ 0x10000000000000000) :
    Json.Fits64 n := by
  unfold Json.Fits64
  omega

theorem exact_record (s : Settings) : s.record.Exact :=
  ⟨⟨trivial, trivial, fits64_of_lt s.database.port.toNat_lt (by decide), trivial, trivial, trivial,
      trivial, trivial⟩,
    trivial,
    ⟨trivial, fits64_of_lt s.cache.ttlSecs.toNat_lt (by decide), trivial⟩,
    ⟨fits64_of_lt s.retry.maxAttempts.toNat_lt (by decide),
      fits64_of_lt s.retry.baseDelayMs.toNat_lt (by decide), trivial⟩,
    ⟨trivial, trivial, trivial⟩, trivial⟩

/-- Every text that spells the record denotes the settings. -/
theorem read?_spelled {s : Settings} {text : String}
    (h : Json.Padded s.record.node text.toList) : Json.read? text = some s.json := by
  have hlimit : s.record.node.nesting ≤ Json.nestingLimit := by
    rw [nesting_record]
    decide
  simp only [Json.read?, Json.Node.read?_eq_some_iff.mpr h, Option.bind_eq_bind, Option.bind_some,
    if_pos hlimit, json?_record]

/-! ### The merged value -/

theorem Typed.of_found {α : Type} {written : α → Json} {found : Option Json} {a : α}
    (h : found = some (written a)) : Typed written found :=
  fun _ hfound => ⟨a, Option.some.inj (hfound.symm.trans h)⟩

/-- A section that holds a setting is an object. -/
theorem Typed.of_at? {file leaf : Json} {key name : String} (h : file.at? [key, name] = some leaf) :
    Typed .object (file.at? [key]) := by
  rcases Json.at?_cons.mp h with ⟨members, value, rfl, hkey, h⟩
  rcases Json.at?_cons.mp h with ⟨fields, _, rfl, -, -⟩
  exact .of_found (Json.at?_cons.mpr ⟨members, _, rfl, hkey, Json.at?_nil.mpr ⟨rfl, rfl⟩⟩)

/-- Settings as JSON are a file of the right types. -/
theorem wellTyped_json (s : Settings) : WellTyped s.json where
  root := ⟨_, rfl⟩
  sections := by
    have h := displays_json s
    simp only [List.forall_mem_cons, List.not_mem_nil, false_implies, implies_true, and_true]
    exact ⟨.of_at? h.host, .of_at? h.enabled, .of_at? h.maxAttempts, .of_at? h.level⟩
  texts := by
    have h := displays_json s
    simp only [List.forall_mem_cons, List.not_mem_nil, false_implies, implies_true, and_true]
    exact ⟨.of_found h.host, .of_found h.dialect, .of_found h.username, .of_found h.password,
      .of_found h.database, .of_found h.charset, .of_found h.level⟩
  truths := by
    have h := displays_json s
    simp only [List.forall_mem_cons, List.not_mem_nil, false_implies, implies_true, and_true]
    exact ⟨.of_found h.debug, .of_found h.enabled, .of_found h.json⟩
  port := .of_found (displays_json s).port
  ttlSecs := .of_found (displays_json s).ttlSecs
  maxAttempts := .of_found (displays_json s).maxAttempts
  baseDelayMs := .of_found (displays_json s).baseDelayMs

/-- Every setting is found in the file. -/
theorem layered_json (s : Settings) : Layered (fun _ => none) s.json s :=
  have h := displays_json s
  { host := Beneath.unset (.file h.host)
    dialect := Beneath.unset (.file h.dialect)
    port := Beneath.unset (.file h.port)
    username := Beneath.unset (.file h.username)
    password := Beneath.unset (.file h.password)
    database := Beneath.unset (.file h.database)
    charset := Beneath.unset (.file h.charset)
    debug := Beneath.unset (.file h.debug)
    enabled := Beneath.unset (.file h.enabled)
    ttlSecs := Beneath.unset (.file h.ttlSecs)
    maxAttempts := .file h.maxAttempts
    baseDelayMs := .file h.baseDelayMs
    level := Beneath.unset (.file h.level)
    json := .file h.json }

/-- Settings as JSON, laid over the defaults, are read as the settings. -/
theorem ofJson_json (s : Settings) : ofJson s.json = .ok s := by
  rcases ofJson_layered (json_ordered s) (wellTyped_json s) with ⟨read, hread, hlayers⟩
  rw [hread, hlayers.unique (layered_json s)]

end Settings

/-! ### Loading -/

/-- No variable is set that could override a setting. -/
def Environment.Unset (env : Environment) : Prop :=
  ∀ name : String, "SABLE_".toList <+: name.toList → env.get? name = none

namespace Overrides

variable {env : Environment} {o : Overrides} {name : String}

theorem withText_of_unset (h : env.get? name = none) (set : Settings → String → Settings) :
    o.withText env name set = o := by
  simp only [withText, Environment.text?, h, Option.filter_none]

theorem withRead_of_unset {α : Type} (h : env.get? name = none) (kind : String)
    (read : String → Option α) (set : Settings → α → Settings) :
    o.withRead env kind name read set = o := by
  simp only [withRead, h]

end Overrides

namespace Settings

/-- Without variables nothing is overridden and nothing reported. -/
theorem override_of_unset (s : Settings) {env : Environment} (h : env.Unset) :
    s.override env = { settings := s } := by
  have unset : ∀ name : String, "SABLE_".toList <+: name.toList → env.get? name = none := h
  have connection (o : Overrides) : o.connection env = o := by
    simp (disch := exact unset _ (by decide)) only [Overrides.connection,
      Overrides.withText_of_unset, Overrides.withRead_of_unset]
  have behaviour (o : Overrides) : o.behaviour env = o := by
    simp (disch := exact unset _ (by decide)) only [Overrides.behaviour,
      Overrides.withText_of_unset, Overrides.withRead_of_unset]
  rw [override, connection, behaviour]

theorem load_spelled {s : Settings} (h : s.validate = .ok ()) {env : Environment}
    (henv : env.Unset) {text : String} (htext : Json.Padded s.record.node text.toList) :
    Settings.load (.file (Text.toBytes text)) env = { outcome := .ok s } := by
  have hfile : SettingsFile.settings (.file (Text.toBytes text)) = .ok s := by
    simp only [SettingsFile.settings, Text.ofBytes?_toBytes, read?_spelled htext, ofJson_json]
  simp only [load, hfile, override_of_unset s henv, h]
  rfl

/-- Settings that can be used at all are loaded from the file that they were saved to, in whatever
    layout, unless a variable is set. -/
theorem load_saved {s : Settings} (h : s.validate = .ok ()) {env : Environment}
    (henv : env.Unset) :
    Settings.load (.file (Text.toBytes s.text)) env = { outcome := .ok s } ∧
      ∀ text : String, Json.Padded s.record.node text.toList →
        Settings.load (.file (Text.toBytes text)) env = { outcome := .ok s } :=
  ⟨load_spelled h henv (Json.Node.read?_eq_some_iff.mp (Json.read?_text (exact_record s))),
    fun _ => load_spelled h henv⟩

/-- Strings that have to be escaped, and the ends of all ranges. -/
theorem load_saved_limits :
    let s : Settings := {
      database := {
        host := "\x00\"\\/\n", dialect := " SQLite ", port := 65535, username := "\x7b\"v\":1\x7d",
        password := "", database := "数据😀", charset := "\u2028\x7f" }
      debug := true
      cache := { enabled := false, ttlSecs := 18446744073709551615 }
      retry := { maxAttempts := 4294967295, baseDelayMs := 18446744073709551615 }
      logging := { level := "null", json := true } }
    let env : Environment := (∅ : Environment).insert "RUST_LOG" "debug"
    s.validate = .ok () ∧ env.Unset ∧
      (Settings.load (.file (Text.toBytes s.text)) env).outcome = .ok s := by
  intro s env
  have hvalid : s.validate = .ok () := by decide
  have henv : env.Unset := by
    intro name hname
    refine OrderedMap.get?_insert_ne _ ?_ _
    rintro rfl
    exact absurd hname (by decide)
  exact ⟨hvalid, henv, by rw [(load_saved hvalid henv).1]⟩

end Settings

end SqlMapper
