import SqlMapper.Proofs.Cache.Reads
import SqlMapper.Proofs.Client.Recorded
import SqlMapper.Proofs.Settings.Saving

/-!
# Deadlines

Reads whose answer is not delivered because its deadline cannot be shown.

The clock ends somewhere, and the deadline of an entry is the instant at which
it is put in plus its time to live. If that lies beyond the end of the clock,
the call that puts the entry in is aborted, and with it the read whose answer it
was. No other step of a read aborts it. So a read is aborted exactly if its
answer is fetched, is to be cached, and would live too long.

The time to live is a setting. A variable may ask for thirty days at most, but a
file may ask for any number of seconds that the setting has room for, and if it
asks for more than the clock ever shows, every read is aborted that fetches an
answer to be cached, whatever the time.

## Main definitions

* `Database.looked`: What looking a read up in the cache yields.
* `Database.Fetches`: A read goes past the cache and comes back with an answer to be cached.
* `Settings.lasting`: A file that asks for a time to live.
* `Database.heeding`: A connection to prepared answers, with the options of settings.

## Theorems

* `deadline?_eq_none_iff`: The deadlines that cannot be shown.
* `Database.Fetches.run`: What becomes of an answer to be cached.
* `Database.run_eq_aborted_iff`: The reads that are aborted.
* `Settings.load_eq_ok_iff`: The settings that are accepted.
* `Settings.ofJson_lasting`: No time to live is refused.
* `Database.reads_under_settings`: The reads that are aborted under settings that were accepted.
* `Database.aborted_under_settings`: Settings under which reads are aborted at all times.
-/

namespace SqlMapper

variable {η σ : Type}

/-! ### The end of the clock -/

theorem deadline?_eq_none_iff {now : Nat} {seconds : UInt64} :
    deadline? now seconds = none ↔ lastSecond < now / 1000 + seconds.toNat := by
  rw [deadline?, ite_eq_right_iff, ← Nat.not_le]
  simp only [reduceCtorEq, imp_false]

theorem deadline?_of_le {now : Nat} {seconds : UInt64}
    (h : now / 1000 + seconds.toNat ≤ lastSecond) :
    deadline? now seconds = some (now + 1000 * seconds.toNat) :=
  if_pos h

/-! ### Answers to be cached -/

namespace Database

variable (db : Database η σ) (r : Statement) (s : State η σ)

/-- What looking a read up in the cache yields, and what it leaves behind. -/
def looked (table : String) : Option CacheValue × State η σ :=
  (around (Surroundings.lookup (queryKey table r.sql r.binds))).run s

/-- A read goes past the cache and comes back with an answer to be cached: it is a read of one table
    outside transactions, no rows are cached for it, it is answered, and nobody writes to its table
    meanwhile. -/
structure Fetches (table : String) (outcome : Outcome) (t : State η σ) : Prop where
  -- It is a read of one table.
  tables : r.tables = [table]
  -- No transaction is open.
  outside : s.own.inTransaction = false
  -- No rows are cached for it.
  missed : ∀ rows, (looked r s table).1 ≠ some (.rows rows)
  -- It is answered.
  answered : (db.executeDirect r.sql r.binds true).run.run (looked r s table).2 = (.ok outcome, t)
  -- Nobody writes to its table meanwhile.
  current : t.generation table = s.generation table

/-- Past the cache a read may fail, but it is not aborted. -/
theorem executeDirect_ne_aborted :
    ((db.executeDirect r.sql r.binds true).run.run s).1 ≠ .error .aborted := by
  rw [executeDirect_run]
  rcases (db.sendRetrying r.sql r.binds true).run s with ⟨failure | outcome, t⟩ <;> nofun

theorem readThrough_run (table : String) (ttl : UInt64) (key : String) :
    (db.readThrough r table ttl key).run.run s
      = match (db.executeDirect r.sql r.binds true).run.run s with
        | (.error stop, t) => (.error stop, t)
        | (.ok outcome, t) =>
          let stored := (storeIfCurrent table (s.generation table) key outcome.cached ttl).run.run t
          (stored.1.map fun _ => outcome, stored.2) := by
  rw [readThrough, Attempt.run_always_bind, generation_run, Attempt.run_bind]
  rcases (db.executeDirect r.sql r.binds true).run.run s with ⟨stop | outcome, t⟩
  · rfl
  · exact Attempt.run_bind_pure _ _ _

variable {db r s} {table : String} {outcome : Outcome} {t : State η σ} {ttl : UInt64}

theorem cacheSlot?_eq_some_iff :
    db.cacheSlot? r = some (table, ttl) ↔ db.options.cacheTtl = some ttl ∧ r.tables = [table] := by
  unfold cacheSlot?
  split
  · rename_i ttl' table' httl htables
    rw [httl, htables, Option.some.injEq, Option.some.injEq, Prod.mk.injEq, List.singleton_inj,
      and_comm]
  · rename_i hno
    exact iff_of_false nofun fun h => hno _ _ h.1 h.2

/-- A read that no rows are cached for goes past the cache. -/
theorem readCached_of_missed (httl : db.options.cacheTtl = some ttl) (htables : r.tables = [table])
    (houtside : s.own.inTransaction = false)
    (hmissed : ∀ rows, (looked r s table).1 ≠ some (.rows rows)) :
    (db.readCached r).run.run s
      = (db.readThrough r table ttl (queryKey table r.sql r.binds)).run.run
        (looked r s table).2 := by
  rw [readCached_run, cacheSlot?_eq_some_iff.mpr ⟨httl, htables⟩, houtside]
  dsimp only
  split
  · rename_i rows after hlooked
    exact absurd (congrArg Prod.fst hlooked) (hmissed rows)
  · rename_i found after _ hlooked
    rw [looked, hlooked]

/-- An answer to be cached is delivered, with its deadline in the cache, if that can be shown. If
    not, the read is aborted. -/
theorem Fetches.run (h : db.Fetches r s table outcome t) (hread : r.readonly = true)
    (httl : db.options.cacheTtl = some ttl) :
    (db.run r).run.run s
      = match deadline? t.around.now ttl with
        | none => (.error .aborted, t)
        | some deadline =>
          let key := queryKey table r.sql r.binds
          (.ok outcome, { t with around := { t.around with
            cache := t.around.cache.insert key ⟨outcome.cached, some deadline⟩
            journal := t.around.journal ++ [.store key outcome.cached (some ttl)] } }) := by
  -- Looking a read up counts no writes.
  have hcurrent : t.generation table = (looked r s table).2.generation table := h.current
  rw [Database.run, if_pos hread, readCached_of_missed httl h.tables h.outside h.missed,
    readThrough_run, h.answered]
  dsimp only
  rw [storeIfCurrent_run, if_pos hcurrent, store_run, Cache.set?]
  cases deadline? t.around.now ttl <;> rfl

/-- A read that goes past the cache is only aborted if its answer is to be cached. -/
theorem fetches_of_aborted (hread : r.readonly = true)
    (haborted : ((db.run r).run.run s).1 = .error .aborted) :
    ∃ ttl table outcome t, db.options.cacheTtl = some ttl ∧ db.Fetches r s table outcome t := by
  rw [Database.run, if_pos hread] at haborted
  have hrun := db.readCached_run r (s := s)
  split at hrun
  · rename_i table ttl hslot houtside
    rcases cacheSlot?_eq_some_iff.mp hslot with ⟨httl, htables⟩
    split at hrun
    · rw [hrun] at haborted
      cases haborted
    · rename_i found after hmissed hlooked
      have hnone : ∀ rows, (looked r s table).1 ≠ some (.rows rows) := by
        intro rows hfound
        exact hmissed rows ((congrArg Prod.fst hlooked).symm.trans hfound)
      rw [readCached_of_missed httl htables houtside hnone, readThrough_run] at haborted
      rcases hanswer : (db.executeDirect r.sql r.binds true).run.run (looked r s table).2 with
        ⟨stop | outcome, t⟩
      · rw [hanswer] at haborted
        exact absurd ((congrArg Prod.fst hanswer).trans haborted) (db.executeDirect_ne_aborted _ _)
      · refine ⟨ttl, table, outcome, t, httl, htables, houtside, hnone, hanswer, ?_⟩
        -- What was overtaken is not stored.
        by_contra hother
        have hovertaken : t.generation table ≠ (looked r s table).2.generation table := hother
        rw [hanswer] at haborted
        dsimp only at haborted
        rw [storeIfCurrent_run, if_neg hovertaken] at haborted
        cases haborted
  · rw [hrun] at haborted
    exact absurd haborted (db.executeDirect_ne_aborted _ _)

/-- A read is aborted exactly if its answer is to be cached and its deadline cannot be shown. -/
theorem run_eq_aborted_iff (hread : r.readonly = true) :
    ((db.run r).run.run s).1 = .error .aborted
      ↔ ∃ ttl table outcome t, db.options.cacheTtl = some ttl ∧ db.Fetches r s table outcome t
        ∧ lastSecond < t.around.now / 1000 + ttl.toNat := by
  constructor
  · intro haborted
    rcases fetches_of_aborted hread haborted with ⟨ttl, table, outcome, t, httl, h⟩
    refine ⟨ttl, table, outcome, t, httl, h, ?_⟩
    rw [h.run hread httl] at haborted
    rw [← deadline?_eq_none_iff]
    cases hdeadline : deadline? t.around.now ttl with
    | none => rfl
    | some deadline =>
        rw [hdeadline] at haborted
        cases haborted
  · rintro ⟨ttl, table, outcome, t, httl, h, hlate⟩
    rw [h.run hread httl, deadline?_eq_none_iff.mpr hlate]

end Database

/-! ### Settings -/

/-- What is loaded is what the file says under the environment, if that can be used. -/
theorem Settings.load_eq_ok_iff {file : SettingsFile} {env : Environment} {settings : Settings} :
    (Settings.load file env).outcome = .ok settings
      ↔ ∃ base, file.settings = .ok base ∧ (base.override env).settings = settings
        ∧ settings.validate = .ok () := by
  unfold Settings.load
  cases file.settings with
  | error e => exact iff_of_false nofun fun ⟨_, hbase, _⟩ => nomatch hbase
  | ok base =>
      dsimp only
      constructor
      · intro hload
        cases hvalid : (base.override env).settings.validate with
        | error e =>
            rw [hvalid] at hload
            cases hload
        | ok _ =>
            rw [hvalid] at hload
            cases Except.ok.inj hload
            exact ⟨base, rfl, rfl, hvalid⟩
      · rintro ⟨_, ⟨⟩, rfl, hvalid⟩
        rw [hvalid]
        rfl

/-- A variable that is acceptable decides how long cached reads live. -/
theorem Settings.ttlSecs_of_given {file : SettingsFile} {env : Environment} {settings : Settings}
    (hload : (Settings.load file env).outcome = .ok settings) {v : String} {seconds : UInt64}
    (hgiven : env.get? "SABLE_CACHE_TTL_SECS" = some v)
    (haccepts : Acceptance.lifetime v seconds) : settings.cache.ttlSecs = seconds := by
  rcases Settings.load_eq_ok_iff.mp hload with ⟨base, -, rfl, -⟩
  rw [Settings.override, Overrides.behaviour_settings]
  dsimp only
  rw [hgiven, Option.bind_some, readCount?_eq_some_iff.mpr haccepts, Option.getD_some]

theorem Options.cacheTtl_ofSettings {settings : Settings} {ttl : UInt64} :
    (Options.ofSettings settings).cacheTtl = some ttl
      ↔ settings.cache.enabled = true ∧ settings.cache.ttlSecs = ttl := by
  rw [Options.ofSettings, Option.ite_none_right_eq_some, Option.some.injEq]

/-- A value is read as the settings whose JSON it makes of that of the defaults. -/
theorem Settings.ofJson_of_merge {upper : Json} {settings : Settings}
    (h : (Settings.json { }).merge upper = settings.json) :
    Settings.ofJson upper = .ok settings := by
  rw [ofJson, h, shape_of_displays (json_ordered _) (displays_json _)]

/-- What a file says that asks for a time to live and nothing else. -/
def Settings.lasting (seconds : UInt64) : Json :=
  .object [("cache", .object [("ttlSecs", .number (.int seconds.toNat))])]

/-- A file may ask for every time to live that the setting has room for. -/
theorem Settings.ofJson_lasting (seconds : UInt64) :
    Settings.ofJson (lasting seconds) = .ok { cache := { ttlSecs := seconds } } :=
  ofJson_of_merge (by cbv)

/-- A read of one table. -/
def Statement.reading (table : String) : Statement where
  sql := "SELECT * FROM " ++ quotePath table ++ ";"
  binds := ∅
  tables := [table]
  readonly := true

/-- A connection that answers every read with no rows, with the options of settings. -/
def Database.heeding (settings : Settings) : Database Unit Script :=
  { Database.scripted with options := .ofSettings settings }

/-- Its state at an instant, before anything is asked of it. -/
def State.untouched (now : Nat) : State Unit Script where
  around := { world := { }, now }
  own := { handle := () }

namespace Database

/-- On such a connection the first read comes back with an answer to be cached. -/
theorem heeding_fetches (settings : Settings) (now : Nat) (table : String) :
    ∃ t, (heeding settings).Fetches (.reading table) (.untouched now) table (.rows []) t
      ∧ t.around.now = now := by
  let db := heeding settings
  let r := Statement.reading table
  let s := (looked r (.untouched now : State Unit Script) table).2
  let sent := (db.send r.sql r.binds true).run s
  have hlast : (db.sendFrom r.sql r.binds true 1).run s
      = (db.conclude r.sql r.binds 1 false sent.1).run sent.2 :=
    sendFrom_stop_run db r.sql r.binds true 1 s (Or.inl rfl)
  -- Concluding writes the log at most.
  rcases db.conclude_run r.sql r.binds 1 false sent.1 sent.2 with ⟨log, hlog⟩
  have hanswer : (db.executeDirect r.sql r.binds true).run.run s
      = (.ok (.rows []), { sent.2 with around := { sent.2.around with log := log } }) := by
    rw [executeDirect_run, sendRetrying, hlast, hlog]
    rfl
  exact ⟨_, ⟨rfl, rfl, fun _ => nofun, hanswer, rfl⟩, rfl⟩

/-- Under settings that were accepted, a read is aborted exactly if reads are cached, its answer is
    to be cached, and the clock ends before the time to live. Any other answer to be cached is
    delivered, and put into the cache with the time to live from then on. If a variable decides how
    long that is, no read is aborted until thirty days before the clock ends. -/
theorem reads_under_settings {file : SettingsFile} {env : Environment} {settings : Settings}
    (hload : (Settings.load file env).outcome = .ok settings) {db : Database η σ}
    (hoptions : db.options = .ofSettings settings) {r : Statement} (hread : r.readonly = true)
    (s : State η σ) :
    (((db.run r).run.run s).1 = .error .aborted
        ↔ settings.cache.enabled = true ∧ ∃ table outcome t, db.Fetches r s table outcome t
          ∧ lastSecond < t.around.now / 1000 + settings.cache.ttlSecs.toNat)
      ∧ (settings.cache.enabled = true → ∀ table outcome t, db.Fetches r s table outcome t →
          t.around.now / 1000 + settings.cache.ttlSecs.toNat ≤ lastSecond →
            let key := queryKey table r.sql r.binds
            let deadline := t.around.now + 1000 * settings.cache.ttlSecs.toNat
            (db.run r).run.run s = (.ok outcome, { t with around := { t.around with
              cache := t.around.cache.insert key ⟨outcome.cached, some deadline⟩
              journal := t.around.journal
                ++ [.store key outcome.cached (some settings.cache.ttlSecs)] } }))
      ∧ ∀ v seconds, env.get? "SABLE_CACHE_TTL_SECS" = some v → Acceptance.lifetime v seconds →
          (∀ table outcome t, db.Fetches r s table outcome t →
            t.around.now / 1000 + 2592000 ≤ lastSecond) →
          ((db.run r).run.run s).1 ≠ .error .aborted := by
  have haborted : ((db.run r).run.run s).1 = .error .aborted
      ↔ settings.cache.enabled = true ∧ ∃ table outcome t, db.Fetches r s table outcome t
        ∧ lastSecond < t.around.now / 1000 + settings.cache.ttlSecs.toNat := by
    rw [run_eq_aborted_iff hread, hoptions]
    simp only [Options.cacheTtl_ofSettings]
    constructor
    · rintro ⟨_, table, outcome, t, ⟨henabled, rfl⟩, h, hlate⟩
      exact ⟨henabled, table, outcome, t, h, hlate⟩
    · rintro ⟨henabled, table, outcome, t, h, hlate⟩
      exact ⟨_, table, outcome, t, ⟨henabled, rfl⟩, h, hlate⟩
  refine ⟨haborted, fun henabled table outcome t h hfits => ?_, ?_⟩
  · have httl : db.options.cacheTtl = some settings.cache.ttlSecs := by
      rw [hoptions]
      exact Options.cacheTtl_ofSettings.mpr ⟨henabled, rfl⟩
    rw [h.run hread httl, deadline?_of_le hfits]
  · intro v seconds hgiven haccepts hclock hstop
    rcases haborted.mp hstop with ⟨-, table, outcome, t, h, hlate⟩
    rw [Settings.ttlSecs_of_given hload hgiven haccepts] at hlate
    have hlong := haccepts.2.2
    have hfits := hclock table outcome t h
    omega

/-- A variable asks for thirty days, and the clock is thirty days from its end. -/
theorem reads_under_settings_month :
    let env : Environment := (∅ : Environment).insert "SABLE_CACHE_TTL_SECS" "2592000"
    let settings : Settings := { cache := { ttlSecs := 2592000 } }
    let s := State.untouched (1000 * (lastSecond - 2592000))
    (Settings.load .absent env).outcome = .ok settings
      ∧ (heeding settings).options = .ofSettings settings
      ∧ (Statement.reading "t").readonly = true
      ∧ (((heeding settings).run (.reading "t")).run.run s).1 = .ok (.rows []) := by
  intro env settings s
  have hmerged : (Settings.json { }).merge (.object []) = Settings.json { } := rfl
  have hfile : SettingsFile.settings .absent = .ok { } := Settings.ofJson_of_merge hmerged
  have hoverride : (({ } : Settings).override env).settings = settings := by
    rw [Settings.override, Overrides.behaviour_settings, Overrides.connection_settings]
    rfl
  have hload := Settings.load_eq_ok_iff.mpr ⟨_, hfile, hoverride, by decide⟩
  rcases heeding_fetches settings (1000 * (lastSecond - 2592000)) "t" with ⟨t, h, hnow⟩
  have hdelivered := (reads_under_settings hload rfl rfl s).2.1 rfl "t" _ t h (by rw [hnow]; decide)
  exact ⟨hload, rfl, rfl, congrArg Prod.fst hdelivered⟩

/-- A file is accepted that asks for more seconds than the clock ever shows, and reads are aborted
    at all times. -/
theorem aborted_under_settings :
    let file := SettingsFile.file
      (Text.toBytes "\x7b\"cache\":\x7b\"ttlSecs\":18446744073709551615\x7d\x7d")
    ∃ settings, (Settings.load file ∅).outcome = .ok settings
      ∧ (∀ now, deadline? now settings.cache.ttlSecs = none)
      ∧ ∀ now, (((heeding settings).run (.reading "t")).run.run (.untouched now)).1
        = .error .aborted := by
  intro file
  let settings : Settings := { cache := { ttlSecs := 18446744073709551615 } }
  have hread : Json.read? "\x7b\"cache\":\x7b\"ttlSecs\":18446744073709551615\x7d\x7d" =
      some (Settings.lasting 18446744073709551615) := by
    cbv
  have hfile : file.settings = .ok settings := by
    simp only [file, SettingsFile.settings, Text.ofBytes?_toBytes, hread, Settings.ofJson_lasting]
    rfl
  have henv : (∅ : Environment).Unset := fun _ _ => rfl
  have hload := Settings.load_eq_ok_iff.mpr
    ⟨settings, hfile, by rw [Settings.override_of_unset settings henv], by decide⟩
  have hnone : ∀ now, deadline? now settings.cache.ttlSecs = none := fun now =>
    deadline?_eq_none_iff.mpr (Nat.lt_add_left _ (by decide))
  refine ⟨settings, hload, hnone, fun now => ?_⟩
  rcases heeding_fetches settings now "t" with ⟨t, h, -⟩
  rw [h.run rfl rfl, hnone]

end Database

end SqlMapper
