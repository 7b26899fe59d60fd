import SqlMapper.Proofs.Cache.Tracking
import SqlMapper.Proofs.Migration.Brought
import SqlMapper.Proofs.Migration.Probing

/-!
# What Vouches for a Record

The call that put a version on record, found again from any later moment.

Migrations are the only operations that write the record of a table; others can
at most remove it. So where a version is on record that was not there before,
some call of the run has put it there, and the record has only been kept since.
What that call has run is known, and what has become of it can be read off the
contacts since.

The record is written at once, and nothing takes it back when the transaction is
given up in which the migration ran. So the record says that its statements were
run, and not that they last: they share the fate of the transaction that was
open behind the call, if one was.

## Main definitions

* `Operation.Migrates`: An operation that brings a table to the version of a schema.
* `growing`: The frame of what adds contacts.
* `following`: The frame of what writes no record.
* `since`: The frame of what keeps to a frame since a call of some kind.
* `Routine.moments`: The states that a run passes through.
* `Call.Records`: A call that puts a version on record.
* `Vouches`: What such a call and what came behind it say of the version.

## Theorems

* `following_perform`: No other operation writes the record.
* `migration_perform`: What the operations do that bring a table to a version.
* `Routine.durable`: A record without a deadline has none at any moment.
* `record_vouched`: The statements of a record share the fate of what was run behind them.
* `record_outlives_rollback`: The record stays when they are rolled back.
-/

namespace SqlMapper

variable {η σ α : Type}

/-- An operation that brings a table to the version of a schema. -/
def Operation.Migrates (table : String) (schema : Schema) : Operation → Prop
  | .initTable other entity | .migrate other entity => other = table ∧ entity.schema = .ok schema
  | _ => False

/-- Contacts are added. -/
def growing (η σ : Type) : Frame η (Recorded η σ) where
  rel s t := ∃ later, t.contacts = s.contacts ++ later
  refl s := ⟨[], (List.append_nil _).symm⟩
  trans := by
    rintro s t u ⟨first, hfirst⟩ ⟨second, hsecond⟩
    exact ⟨first ++ second, by rw [hsecond, hfirst, List.append_assoc]⟩

theorem growing_encloses (db : Database η σ) : Encloses db.recorded (growing η σ) where
  enter := by
    intro s
    cases hflag : s.own.inTransaction with
    | true =>
        rw [Database.enter_inside _ s hflag]
        exact (growing η σ).refl s
    | false =>
        have hbegin := Database.switch_recorded "BEGIN" .begin db.client.begin true
          "transaction started" s
        rw [Database.enter_outside _ s hflag]
        rcases hrun : db.recorded.begin.run.run s with ⟨stop | _, t⟩
        all_goals
          rw [show (Database.switch "BEGIN" (Request.begin.recorded db.client.begin) true
            "transaction started").run.run s = _ from hrun] at hbegin
          rcases hbegin.2 with ⟨-, -, hcontacts⟩ | ⟨-, -, hcontacts⟩
        all_goals exact ⟨_, hcontacts⟩
  close ending s := by
    rcases db.close_recorded ending s with ⟨-, -, last, hcontacts, -⟩
    exact ⟨last, hcontacts⟩

/-- Every operation does nothing to the contacts but add some. -/
theorem growing_respects (db : Database η σ) : Respects db.recorded (growing η σ) where
  quiet s _ _ _ := (growing η σ).refl s
  counting s _ := (growing η σ).refl s
  sending sql binds readonly s := by
    rcases db.sendFrom_adds "" sql binds readonly 1 s with ⟨_, _, -, hadds⟩
    exact ⟨_, hadds.contacts⟩
  transaction := (growing_encloses db).transaction

theorem growing_perform (db : Database η σ) (op : Operation) :
    (growing η σ).Holds (op.perform db.recorded).run := by
  by_cases hreconnect : op = .reconnect
  · intro s
    rw [hreconnect]
    exact ⟨_, congrArg Recorded.contacts (db.recorded.reconnect_rebuilt s).1.world⟩
  · exact (growing_respects db).perform hreconnect

/-- Contacts are added, and the record of a table is kept or removed. -/
def following (η σ : Type) (table : String) : Frame η (Recorded η σ) where
  rel s t := (growing η σ).rel s t ∧ ∀ e, t.record table = some e → s.record table = some e
  refl s := ⟨(growing η σ).refl s, fun _ h => h⟩
  trans := fun hst htu =>
    ⟨(growing η σ).trans hst.1 htu.1, fun e he => hst.2 e (htu.2 e he)⟩

theorem Adds.following {table : String} {s t : State η (Recorded η σ)} {made : List (Contact η)}
    (h : Adds table s t made) : (following η σ table).rel s t := by
  refine ⟨⟨made, h.contacts⟩, fun e he => ?_⟩
  rw [← h.record, he]

theorem following_encloses (db : Database η σ) (table : String) :
    Encloses db.recorded (following η σ table) where
  enter s := ⟨(growing_encloses db).enter s, fun e he => db.recorded.enter_partOf s _ e he⟩
  close ending s :=
    ⟨(growing_encloses db).close ending s, fun e he => db.recorded.close_partOf ending s _ e he⟩

/-- So do the parts of an operation that caches under other keys. -/
theorem following_upholds (db : Database η σ) (table : String) :
    Upholds db.recorded (following η σ table) (· ≠ versionKey table) where
  reporting s _ := (following η σ table).refl s
  dropping s _ _ hpart := ⟨(growing η σ).refl s, fun e he => hpart _ e he⟩
  storing s _ _ _ _ _ hkey hset := by
    refine ⟨(growing η σ).refl s, fun e he => ?_⟩
    rcases Cache.get?_of_set? hset he with ⟨hsame, -⟩ | hthere
    · exact absurd hsame.symm hkey
    · exact hthere
  counting s _ := (following η σ table).refl s
  sending sql binds readonly s := by
    rcases db.sendFrom_adds table sql binds readonly 1 s with ⟨_, _, -, hadds⟩
    exact hadds.following
  transaction := (following_encloses db table).transaction

-- The key of a read is not the key of a version.
theorem queryKey_ne_versionKey (table other sql : String) (b : Binds) :
    queryKey other sql b ≠ versionKey table := by
  intro h
  have hread := startsWith_queryKey other sql b
  rw [h, startsWith_versionKey] at hread
  cases hread

/-- No operation writes the record but those that are meant to. -/
theorem following_perform (db : Database η σ) (table : String) {op : Operation}
    (hmigrates : ∀ entity, op ≠ .initTable table entity ∧ op ≠ .migrate table entity)
    (hputs : ∀ value, op ≠ .cachePut (versionKey table) value) :
    (following η σ table).Holds (op.perform db.recorded).run := by
  by_cases hreconnect : op = .reconnect
  · intro s
    refine ⟨growing_perform db op s, fun e he => ?_⟩
    have hcache : ((Operation.reconnect.perform db.recorded).run.run s).2.around.cache
        = s.around.cache := (db.recorded.reconnect_rebuilt s).1.cache
    rw [hreconnect, State.record, hcache] at he
    exact he
  · refine (following_upholds db table).perform hreconnect fun key hstores => ?_
    rintro rfl
    cases op with
    | run s =>
        rcases hstores.2 with ⟨other, _, -, hkey⟩
        exact queryKey_ne_versionKey table other _ _ hkey.symm
    | runInsert s =>
        rcases hstores.2 with ⟨other, _, -, hkey⟩
        exact queryKey_ne_versionKey table other _ _ hkey.symm
    | read s use =>
        rcases hstores with ⟨_, -, other, _, -, hkey⟩
        exact queryKey_ne_versionKey table other _ _ hkey.symm
    | initTable other entity =>
        rw [versionKey_inj (show versionKey table = versionKey other from hstores)] at hmigrates
        exact (hmigrates entity).1 rfl
    | migrate other entity =>
        rw [versionKey_inj (show versionKey table = versionKey other from hstores)] at hmigrates
        exact (hmigrates entity).2 rfl
    | cachePut other value =>
        rw [show versionKey table = other from hstores] at hputs
        exact hputs value rfl
    | _ => exact hstores

/-- What comes behind a check is done, or the check fails and is reported. -/
theorem Attempt.check_bind_cases {β : Type} (r : Except Error β) (act : β → Attempt η σ α)
    (s : State η σ) :
    (∃ b, r = .ok b ∧ (Attempt.check r >>= act).run.run s = (act b).run.run s)
      ∨ ∃ e log, (Attempt.check r >>= act).run.run s
        = (.error (.failed e), { s with around := { s.around with log := log } }) := by
  cases r with
  | ok b => exact Or.inl ⟨b, rfl, rfl⟩
  | error e =>
      refine Or.inr ⟨e, s.around.log ++ e.record?.toList, ?_⟩
      rw [Attempt.run_bind, show Attempt.check (.error e) = Attempt.raise e from rfl,
        Attempt.raise_run]

/-- An operation that brings a table to a version migrates it, or fails before it does anything. -/
theorem migration_perform (db : Database η σ) (table : String) {op : Operation} {entity : Entity}
    (hop : op = .initTable table entity ∨ op = .migrate table entity) (s : State η (Recorded η σ))
    (hdurable : s.Durable table) :
    let done := (op.perform db.recorded).run.run s
    (Adds table s done.2 [] ∧ done.1.isOk = false)
      ∨ ∃ schema outcome, op.Migrates table schema ∧ done.1 = .ok (.migration outcome)
        ∧ Brought db schema table s done.2 outcome := by
  have hbrought : ∀ schema, ∃ outcome t, (db.recorded.migrate schema table).run.run s
      = (.ok outcome, t) ∧ Brought db schema table s t outcome :=
    fun schema => (db.migrate_sent schema table s hdurable).ok_of_infallible
  have hreport : ∀ log, Adds table s { s with around := { s.around with log := log } } [] :=
    (Resting.reports table).reporting s
  rcases hop with rfl | rfl
  · -- Two checks come first here, and one below.
    intro done
    have hdone : done = _ := Attempt.run_map Answer.migration (db.recorded.initTable entity table) s
    rw [hdone]
    rcases Attempt.check_bind_cases (checkIdentifier table) (fun _ => do
      db.recorded.migrate (← Attempt.check entity.schema) table) s with
      ⟨_, -, hnamed⟩ | ⟨e, log, hfailed⟩
    · rw [show (db.recorded.initTable entity table).run.run s = _ from hnamed]
      rcases Attempt.check_bind_cases entity.schema
        (fun schema => db.recorded.migrate schema table) s with
        ⟨schema, hschema, hrun⟩ | ⟨e, log, hfailed⟩
      · rcases hbrought schema with ⟨outcome, t, hmigrated, hleft⟩
        rw [hrun, hmigrated]
        exact Or.inr ⟨schema, outcome, ⟨rfl, hschema⟩, rfl, hleft⟩
      · rw [hfailed]
        exact Or.inl ⟨hreport log, rfl⟩
    · rw [show (db.recorded.initTable entity table).run.run s = _ from hfailed]
      exact Or.inl ⟨hreport log, rfl⟩
  · intro done
    rcases Attempt.check_bind_cases entity.schema
      (fun schema => Answer.migration <$> db.recorded.migrate schema table) s with
      ⟨schema, hschema, hrun⟩ | ⟨e, log, hfailed⟩
    · rcases hbrought schema with ⟨outcome, t, hmigrated, hleft⟩
      rw [Attempt.run_map, hmigrated] at hrun
      rw [show done = _ from hrun]
      exact Or.inr ⟨schema, outcome, ⟨rfl, hschema⟩, rfl, hleft⟩
    · rw [show done = _ from hfailed]
      exact Or.inl ⟨hreport log, rfl⟩

/-- A call that puts a version on record, with its contacts and the statements that it has run. -/
structure Call.Records (db : Database η σ) (table : String) (c : Call η (Recorded η σ))
    (schema : Schema) (v : UInt32) (made : List (Contact η)) (statements : List String) :
    Prop where
  -- It brings the table to the version of the schema.
  migrates : c.op.Migrates table schema
  -- It has run what there is to run for that.
  moved : ∃ outcome, c.result = .ok (.migration outcome)
    ∧ Moved db schema table (c.before.version table) made outcome v statements
  -- These are its contacts.
  contacts : c.after.contacts = c.before.contacts ++ made
  -- The version is on record behind it.
  record : c.after.record table = some (.ofVersion v)
  -- The statements share the fate of what is run next.
  stands : Stands c.before.hasOpen made statements

/-- A call puts a version on record, or writes no record. -/
theorem Call.records_or_following (db : Database η σ) (table : String)
    {c : Call η (Recorded η σ)}
    (hperform : (c.op.perform db.recorded).run.run c.before = (c.result, c.after))
    (hputs : ∀ value, c.op ≠ .cachePut (versionKey table) value)
    (hdurable : c.before.Durable table) :
    (following η σ table).rel c.before c.after
      ∨ ∃ schema v made statements, c.Records db table schema v made statements := by
  by_cases hop : ∃ entity, c.op = .initTable table entity ∨ c.op = .migrate table entity
  · rcases hop with ⟨entity, hop⟩
    have hdone := migration_perform db table hop c.before hdurable
    rw [hperform] at hdone
    rcases hdone with ⟨hadds, -⟩ | ⟨schema, outcome, hmigrates, hresult, hbrought⟩
    · exact Or.inl hadds.following
    · cases hbrought with
      | recorded moved contacts record stands =>
          exact Or.inr ⟨schema, _, _, _, hmigrates, ⟨outcome, hresult, moved⟩, contacts, record,
            stands⟩
      | recent adds => exact Or.inl adds.following
      | failed reason adds => exact Or.inl adds.following
  · have hfollowing : (following η σ table).Holds (c.op.perform db.recorded).run :=
      following_perform db table
        (fun entity => ⟨fun h => hop ⟨entity, Or.inl h⟩, fun h => hop ⟨entity, Or.inr h⟩⟩) hputs
    have hother := hfollowing c.before
    rw [hperform] at hother
    exact Or.inl hother

/-- A record without a deadline is not given one. -/
def undying (η σ : Type) (table : String) : Frame η (Recorded η σ) where
  rel s t := s.Durable table → t.Durable table
  refl _ := id
  trans := fun hst htu hs => htu (hst hs)

theorem undying_of_following {table : String} {s t : State η (Recorded η σ)}
    (h : (following η σ table).rel s t) : (undying η σ table).rel s t :=
  fun hs e he => hs e (h.2 e he)

/-- A record without a deadline has none at any moment of a run. -/
theorem Routine.durable (db : Database η σ) (table : String) (r : Routine α)
    (s : State η (Recorded η σ)) : r.Spans db.recorded (undying η σ table) s := by
  have hencloses : Encloses db.recorded (undying η σ table) :=
    ⟨fun s => undying_of_following ((following_encloses db table).enter s),
      fun ending s => undying_of_following ((following_encloses db table).close ending s)⟩
  refine hencloses.routine fun c hc hdurable => ?_
  have hperform := r.perform_of_mem_calls c hc
  by_cases hputs : ∃ value, c.op = .cachePut (versionKey table) value
  · -- What is put there by hand has no deadline either.
    rcases hputs with ⟨value, hop⟩
    rw [hop] at hperform
    have hput : ((Operation.cachePut (versionKey table) value).perform db.recorded).run.run c.before
        = _ := Attempt.run_map _ _ c.before
    rw [hperform, store_run] at hput
    have hafter := congrArg Prod.snd hput
    intro e he
    rw [show c.after = _ from hafter] at he
    have hentry := (OrderedMap.get?_insert_self c.before.around.cache (versionKey table)
      { value := value, deadline := none }).symm.trans he
    rw [← Option.some.inj hentry]
  · rcases Call.records_or_following db table hperform (fun value h => hputs ⟨value, h⟩) hdurable
      with hfollowing | ⟨schema, v, made, statements, hrecords⟩
    · exact undying_of_following hfollowing hdurable
    · intro e he
      rw [hrecords.record] at he
      rw [← Option.some.inj he]
      rfl

/-- Keeping to a frame, at least since some call. -/
def since (F : Frame η σ) (p : Call η σ → Prop) : Frame η σ where
  rel s t := F.rel s t ∨ ∃ c, p c ∧ F.rel c.after t
  refl s := Or.inl (F.refl s)
  trans := by
    intro s t u hst htu
    rcases htu with htu | hcall
    · rcases hst with hst | ⟨c, hc, hct⟩
      · exact Or.inl (F.trans hst htu)
      · exact Or.inr ⟨c, hc, F.trans hct htu⟩
    · exact Or.inr hcall

/-- A run keeps to a frame at least since the last of its calls that does not. -/
theorem Encloses.since {db : Database η σ} {F : Frame η σ} (h : Encloses db F)
    {p : Call η σ → Prop} {r : Routine α} {s : State η σ}
    (hcalls : ∀ c ∈ r.calls db s, F.rel c.before c.after ∨ p c) :
    r.Spans db (since F fun c => c ∈ r.calls db s ∧ p c) s := by
  have hencloses : Encloses db (SqlMapper.since F fun c => c ∈ r.calls db s ∧ p c) :=
    ⟨fun s => Or.inl (h.enter s), fun ending s => Or.inl (h.close ending s)⟩
  exact hencloses.routine fun c hc =>
    (hcalls c hc).imp_right fun hp => ⟨c, ⟨hc, hp⟩, F.refl _⟩

/-- The states that a run passes through: where calls are made, where transactions return, and
    where it ends. -/
def Routine.moments (db : Database η σ) (r : Routine α) (s : State η σ) : List (State η σ) :=
  (r.calls db s).map Call.before ++ r.returns db s ++ [((r.run db).run.run s).2]

theorem Routine.Spans.moments {r : Routine α} {db : Database η σ} {F : Frame η σ} {s : State η σ}
    (h : r.Spans db F s) : ∀ u ∈ r.moments db s, F.rel s u := by
  intro u hu
  simp only [Routine.moments, List.mem_append, List.mem_map, List.mem_singleton] at hu
  rcases hu with (⟨c, hc, rfl⟩ | hu) | rfl
  · exact h.before c hc
  · exact h.returns u hu
  · exact h.whole

/-- What a call that put a version on record, and what came behind it, say of the version. -/
structure Vouches (db : Database η σ) (table : String) (c : Call η (Recorded η σ)) (v : UInt32)
    (u : State η (Recorded η σ)) (schema : Schema) (made later : List (Contact η))
    (statements : List String) : Prop where
  -- The call has run these statements, and put the version on record.
  records : c.Records db table schema v made statements
  -- The contacts since.
  contacts : u.contacts = c.after.contacts ++ later
  -- The statements have the fate of the transaction that was open behind the call. If none was,
  -- they last.
  fates : fates c.before.hasOpen made later
    = statements.map fun sql => (sql, fate c.after.hasOpen later)
  -- None was if none was open before the call.
  outside : c.before.hasOpen = false → c.after.hasOpen = false
  -- Once no transaction is open, it is decided whether they last.
  decided : u.hasOpen = false → fate c.after.hasOpen later ≠ .waiting

/-- A version that came on record during a run was put there by a call that has run the statements
    for it, and these have the fate of whatever was run behind them: they last, unless a transaction
    was open that was given up since. -/
theorem record_vouched (db : Database η σ) (table : String) (r : Routine α)
    (s : State η (Recorded η σ)) (hdurable : s.Durable table)
    (hputs : ∀ c ∈ r.calls db.recorded s, ∀ value, c.op ≠ .cachePut (versionKey table) value) :
    ∀ u ∈ r.moments db.recorded s, ∀ v, u.version table = some v →
      s.version table = some v ∨ ∃ c ∈ r.calls db.recorded s, ∃ schema made later statements,
        Vouches db table c v u schema made later statements := by
  intro u hu v hv
  have hundying := Routine.durable db table r s
  have hcalls : ∀ c ∈ r.calls db.recorded s, (following η σ table).rel c.before c.after
      ∨ ∃ schema v made statements, c.Records db table schema v made statements :=
    fun c hc => Call.records_or_following db table (r.perform_of_mem_calls c hc) (hputs c hc)
      (hundying.before c hc hdurable)
  -- The version is that of an entry, which was there before or was written by some call.
  rw [version_eq (hundying.moments u hu hdurable), Option.bind_eq_some_iff] at hv
  rcases hv with ⟨e, hentry, hversion⟩
  rcases ((following_encloses db table).since hcalls).moments u hu with
    hfollowing | ⟨c, ⟨hc, schema, w, made, statements, hrecords⟩, ⟨later, hlater⟩, hkept⟩
  · left
    rw [version_eq hdurable, hfollowing.2 e hentry]
    exact hversion
  · right
    have hsame := (hkept e hentry).symm.trans hrecords.record
    rw [Option.some.inj hsame] at hversion
    have hopen : c.after.hasOpen = hasOpen c.before.hasOpen made := by
      rw [State.hasOpen, hrecords.contacts, hasOpen_append]
      rfl
    refine ⟨c, hc, schema, made, later, statements, ⟨?_, hlater, ?_, ?_, ?_⟩⟩
    · rwa [Option.some.inj hversion] at hrecords
    · rw [hrecords.stands.shared later, hopen]
    · rw [hopen]
      exact hrecords.stands.closed
    · intro hclosed hwaiting
      have hstill := hasOpen_of_waiting hwaiting
      rw [State.hasOpen, hlater, hasOpen_append] at hclosed
      exact Bool.false_ne_true (hclosed.symm.trans hstill)

namespace Site

/-- An entity with the schema of some version. -/
def entity (version : UInt32) : Entity where
  columns := []
  version := version
  upgrades := (schema version).upgrades

/-- A migration in a transaction, which ends in some way. -/
def enclosed (version : UInt32) (last : Except Stop Unit) : Routine Unit :=
  .transaction (.call (.migrate "t" (entity version)) fun _ => .ending last) .ending

theorem once_sendRetrying (sql : String) (binds : Binds) (readonly : Bool) :
    database.recorded.sendRetrying sql binds readonly = (do
      let transactional ← inTransaction
      let result ← database.recorded.send sql binds readonly
      database.recorded.conclude sql binds 1 transactional result) :=
  funext fun s => Database.sendFrom_stop_run _ sql binds readonly 1 s (Or.inr (by decide))

end Site

set_option maxRecDepth 20000 in
/-- The upgrade succeeds and its transaction is given up. The call that has recorded the version
    still vouches for it, but for statements that are undone. -/
theorem record_vouched_abandoned :
    let r := Site.enclosed 2 (.error .aborted)
    let s := Site.settled []
    let u := ((r.run Site.database.recorded).run.run s).2
    s.Durable "t"
      ∧ (∀ c ∈ r.calls Site.database.recorded s, ∀ value,
        c.op ≠ .cachePut (versionKey "t") value)
      ∧ u ∈ r.moments Site.database.recorded s ∧ u.version "t" = some 2
      ∧ ∃ c ∈ r.calls Site.database.recorded s, ∃ schema made later statements,
        Vouches Site.database "t" c 2 u schema made later statements := by
  intro r s u
  have hdurable : s.Durable "t" := fun e h => by cases h
  have hputs : ∀ c ∈ r.calls Site.database.recorded s, ∀ value,
      c.op ≠ .cachePut (versionKey "t") value := by
    refine Routine.Uses.of_mem_calls (p := fun op => ∀ value, op ≠ .cachePut _ value) ?_
    exact ⟨⟨fun _ => Operation.noConfusion, fun _ => trivial⟩, fun _ => trivial⟩
  have hmoment : u ∈ r.moments Site.database.recorded s :=
    List.mem_append_right _ (List.mem_singleton_self u)
  have hversion : u.version "t" = some 2 := by
    simp only [u, r, Site.enclosed, Routine.run, Operation.perform, Database.migrate,
      Database.probe, Database.bringUp, Database.upgradeTable, Database.runUpgrade,
      Database.execute, Database.executeDirect, Site.once_sendRetrying]
    decide +kernel
  refine ⟨hdurable, hputs, hmoment, hversion, ?_⟩
  refine (record_vouched Site.database "t" r s hdurable hputs u hmoment 2 hversion).resolve_left ?_
  intro hbefore
  cases hbefore

set_option maxRecDepth 20000 in
/-- A version stays on record when the transaction is rolled back in which the table was brought to
    it, although nothing of that lasts. -/
theorem record_outlives_rollback :
    let u := (((Site.enclosed 2 (.error .aborted)).run Site.database.recorded).run.run
      (Site.settled [])).2
    (Site.entity 2).schema.toOption.map (fun schema => (schema.upgradePath 1 2).toOption)
        = some (some ["ALTER TABLE t ADD a;"])
      ∧ u.own.inTransaction = false ∧ u.hasOpen = false ∧ u.version "t" = some 2
      ∧ u.fates = [("ALTER TABLE t ADD a;", .undone)] := by
  simp only [Site.enclosed, Routine.run, Operation.perform, Database.migrate, Database.probe,
    Database.bringUp, Database.upgradeTable, Database.runUpgrade, Database.execute,
    Database.executeDirect, Site.once_sendRetrying]
  decide +kernel

end SqlMapper
