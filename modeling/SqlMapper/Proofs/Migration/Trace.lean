import SqlMapper.Proofs.Migration.Brought
import SqlMapper.Proofs.Migration.Vouching

/-!
# The Trace of a Migration

What a migration asks its session for, call by call, and what it records.

Outside of transactions the calls of a migration and their answers say all that
comes of it. It looks for its table, unless the version is known and not every
schema is to be checked. A table that is not found is created by one statement.
One that is found needs nothing if its version is recent enough; otherwise its
upgrade is a transaction, whose statements are sent in their order up to the
first that fails.

The record follows the calls. It moves to the declared version where the
creation or the commit has succeeded, and where nothing had to be done a missing
record becomes that of the first version. In every other case it stays as it
was.

A transaction that cannot be begun is not rolled back either: there is nothing
to undo, and nothing else is sent. One whose commit is refused is rolled back.

## Main definitions

* `Looks`: Whether a table is looked for, and what that adds.
* `Course`: What comes behind that, with the outcome and the record.
* `MigrationTrace`: What a migration leaves behind.
* `Looked`, `Follows`: The same for a look for a table, and for what comes behind it.

## Theorems

* `Course.committed_iff`: An upgrade succeeds exactly if its commit does.
* `createTable_course`, `bringUp_course`: The two ways on from a look for the table.
* `migrate_traced`: What a migration leaves behind, whatever the client answers.
* `migrate_neither_or_both`: An upgrade may end with neither a commit nor a rollback, or with both.
-/

namespace SqlMapper

variable {η σ : Type}

/-- Whether a table is looked for, what that adds, and whether the table counts as there. -/
inductive Looks (debug : Bool) (known : Option UInt32) (table : String) :
    Bool → List (Contact η) → Prop where
  -- The version is known, and not every schema is to be checked.
  | spared {v : UInt32} (version : known = some v) (unchecked : debug = false) :
      Looks debug known table true []
  -- The table is probed, and is there if the probe succeeds.
  | probed (due : known = none ∨ debug = true) {found : Bool} {made : List (Contact η)}
      (tries : Tries (.query (probeStatement table) ∅) found made) :
      Looks debug known table found made

/-- What comes behind a look for a table: by what was known of it and whether it was found, what is
    asked of a session, the outcome, and the record afterwards. -/
inductive Course (db : Database η σ) (schema : Schema) (table : String) (session : η)
    (known : Option UInt32) (record : Option CacheEntry) :
    Bool → List (Contact η) → MigrationOutcome → Option CacheEntry → Prop where
  -- The table is created as declared.
  | created {made : List (Contact η)}
      (tries : Tries (.execute (db.dialect.createTable schema table db.config.charset) ∅) true
        made) :
      Course db schema table session known record false made .created
        (some (.ofVersion schema.version))
  -- It cannot be created.
  | uncreated {made : List (Contact η)}
      (tries : Tries (.execute (db.dialect.createTable schema table db.config.charset) ∅) false
        made) (reason : String) :
      Course db schema table session known record false made (.failed reason) record
  -- The version on record is recent enough.
  | recent {v : UInt32} (version : known = some v) (newer : schema.version ≤ v) :
      Course db schema table session known record true [] .unchanged record
  -- No version is on record, and the first is recent enough.
  | adopted (unknown : known = none) (newer : schema.version ≤ 1) :
      Course db schema table session known record true [] .unchanged (some (.ofVersion 1))
  -- The upgrade is committed.
  | upgraded (older : known.getD 1 < schema.version) {count : Nat} {made : List (Contact η)}
      (transacted : Transacted session
        (Performed session (schema.upgradePath (known.getD 1) schema.version)) (.ok count) made) :
      Course db schema table session known record true made
        (.upgraded (known.getD 1) schema.version) (some (.ofVersion schema.version))
  -- It fails, and the error is the reason.
  | abandoned (older : known.getD 1 < schema.version) {e : Error} {made : List (Contact η)}
      (transacted : Transacted session
        (Performed session (schema.upgradePath (known.getD 1) schema.version)) (.error e) made) :
      Course db schema table session known record true made (.failed e.message) record

/-- What a migration leaves behind: whether its table was found, and what was asked for to find that
    out and behind that. -/
structure MigrationTrace (db : Database η σ) (schema : Schema) (table : String)
    (s t : State η (Recorded η σ)) (outcome : MigrationOutcome) (found : Bool)
    (look rest : List (Contact η)) : Prop where
  -- Nothing else was asked for.
  contacts : t.contacts = s.contacts ++ look ++ rest
  -- The table was looked for if its version was not known or every schema is checked.
  looks : Looks db.options.debug (s.version table) table found look
  -- The calls behind that determine the outcome and the record.
  course : Course db schema table t.own.handle (s.version table) (s.living table) found rest outcome
    (t.record table)
  -- The table is upgraded exactly if a commit has succeeded.
  committed : (∃ h, .call h .commit true ∈ rest)
    ↔ outcome = .upgraded ((s.version table).getD 1) schema.version
  -- No transaction is left open.
  closed : t.own.inTransaction = false

/-- Each call is made for the one request. -/
theorem Tries.request_of_mem {request other : Request} {succeeded answer : Bool} {session : η}
    {made : List (Contact η)} (h : Tries request succeeded made)
    (hmem : .call session other answer ∈ made) : other = request := by
  induction h with
  | last h =>
      cases List.mem_singleton.mp hmem
      rfl
  | again h dialed rest ih =>
      rcases List.mem_cons.mp hmem with hcall | hmem
      · cases hcall
        rfl
      · rcases List.mem_cons.mp hmem with hdial | hmem
        · cases hdial
        · exact ih hmem

/-- Statements do not end a transaction. -/
theorem Performed.commit_not_mem {session h : η} {path : Except String (List String)}
    {r : Except Error Nat} {made : List (Contact η)} (hmade : Performed session path r made)
    (succeeded : Bool) : .call h .commit succeeded ∉ made := by
  have hwrites : ∀ answer (statements : List String),
      .call h .commit succeeded ∉ statements.map (Contact.write session answer) := by
    intro answer statements hmem
    rcases List.mem_map.mp hmem with ⟨sql, -, hcall⟩
    cases hcall
  cases hmade with
  | missing => exact List.not_mem_nil
  | @stopped before sql after found e =>
      intro hmem
      rcases List.mem_append.mp hmem with hmem | hmem
      · exact hwrites true before hmem
      · exact hwrites false [sql] hmem
  | complete => exact hwrites true _

/-- A transaction around statements succeeds exactly if its commit does. -/
theorem Transacted.committed_iff {session : η} {path : Except String (List String)}
    {r : Except Error Nat} {made : List (Contact η)}
    (h : Transacted session (Performed session path) r made) :
    (∃ h, .call h .commit true ∈ made) ↔ r.isOk = true := by
  cases h with
  | refused e => simp [Except.isOk, Except.toBool]
  | undone body undone => simp [Except.isOk, Except.toBool, body.commit_not_mem]
  | uncommitted body e undone => simp [Except.isOk, Except.toBool, body.commit_not_mem]
  | committed body => simp [Except.isOk, Except.toBool]

/-- An upgrade succeeds exactly if its commit does. -/
theorem Course.committed_iff {db : Database η σ} {schema : Schema} {table : String} {session : η}
    {known : Option UInt32} {record after : Option CacheEntry} {found : Bool}
    {made : List (Contact η)} {outcome : MigrationOutcome}
    (h : Course db schema table session known record found made outcome after) :
    (∃ h, .call h .commit true ∈ made) ↔ outcome = .upgraded (known.getD 1) schema.version := by
  cases h with
  | created tries =>
      refine ⟨fun ⟨_, hmem⟩ => ?_, MigrationOutcome.noConfusion⟩
      cases tries.request_of_mem hmem
  | uncreated tries reason =>
      refine ⟨fun ⟨_, hmem⟩ => ?_, MigrationOutcome.noConfusion⟩
      cases tries.request_of_mem hmem
  | recent => exact ⟨fun ⟨_, hmem⟩ => absurd hmem List.not_mem_nil, MigrationOutcome.noConfusion⟩
  | adopted => exact ⟨fun ⟨_, hmem⟩ => absurd hmem List.not_mem_nil, MigrationOutcome.noConfusion⟩
  | upgraded older transacted => exact ⟨fun _ => rfl, fun _ => transacted.committed_iff.mpr rfl⟩
  | abandoned older transacted =>
      refine ⟨fun hcommit => ?_, MigrationOutcome.noConfusion⟩
      cases transacted.committed_iff.mp hcommit

/-- A table was looked for: its record was asked for, so that it is gone if it had died, and some
    contacts were added. -/
structure Looked (table : String) (s t : State η (Recorded η σ)) (made : List (Contact η)) :
    Prop where
  contacts : t.contacts = s.contacts ++ made
  record : t.record table = s.living table
  inTransaction : t.own.inTransaction = s.own.inTransaction

theorem recordedVersion_asks (table : String) (s : State η (Recorded η σ)) :
    Looked table s ((recordedVersion table).run s).2 [] := by
  rcases recordedVersion_living table s with ⟨hrecord, hown, hworld⟩
  refine ⟨?_, hrecord, congrArg Connection.inTransaction hown⟩
  rw [List.append_nil]
  exact congrArg Recorded.contacts hworld

theorem Looked.after {table : String} {s t u : State η (Recorded η σ)} {made : List (Contact η)}
    (hst : Looked table s t []) (htu : Adds table t u made) : Looked table s u made where
  contacts := by rw [htu.contacts, hst.contacts, List.append_nil]
  record := htu.record.trans hst.record
  inTransaction := htu.inTransaction.trans hst.inTransaction

/-- What comes behind a look for a table leaves this behind. -/
def Follows (db : Database η σ) (schema : Schema) (table : String) (known : Option UInt32)
    (found : Bool) (s t : State η (Recorded η σ)) (outcome : MigrationOutcome) : Prop :=
  ∃ made, t.contacts = s.contacts ++ made ∧ t.own.inTransaction = false
    ∧ Course db schema table t.own.handle known (s.record table) found made outcome
      (t.record table)

theorem Looked.traced {db : Database η σ} {schema : Schema} {table : String} {found : Bool}
    {s t u : State η (Recorded η σ)} {look : List (Contact η)} {outcome : MigrationOutcome}
    (hlooked : Looked table s t look)
    (hlooks : Looks db.options.debug (s.version table) table found look)
    (hfollows : Follows db schema table (s.version table) found t u outcome) :
    ∃ found look rest, MigrationTrace db schema table s u outcome found look rest := by
  rcases hfollows with ⟨made, hmade, hshut, hcourse⟩
  rw [hlooked.record] at hcourse
  refine ⟨found, look, made, ?_, hlooks, hcourse, hcourse.committed_iff, hshut⟩
  rw [hmade, hlooked.contacts]

namespace Database

variable (db : Database η σ) (schema : Schema) (table : String)

/-- Creating a table is one statement, and records the declared version if it succeeds. -/
theorem createTable_course (known : Option UInt32) (s : State η (Recorded η σ))
    (outside : s.own.inTransaction = false) :
    (db.recorded.createTable schema table).Yields s
      (fun o t => Follows db schema table known false s t o) fun _ => False := by
  have hcreate := db.execute_tries table
    (db.dialect.createTable schema table db.config.charset) ∅ s
  unfold createTable
  refine hcreate.settled_bind (fun _ t ht => ?_) fun e t ht => ?_
  · rcases ht with ⟨made, hmade, hadds⟩
    refine (conclusion_sent table schema.version _ .created t).mono ?_ fun _ h => h
    rintro _ u ⟨rfl, hcontacts, hrecord, -, hflag⟩
    refine ⟨made, hcontacts.trans hadds.contacts, ?_, ?_⟩
    · rw [hflag, hadds.inTransaction, outside]
    · rw [hrecord]
      exact .created hmade
  · rcases ht with ⟨made, hmade, hadds⟩
    refine .framed_bind ((Resting.reports table).report _) fun _ u hu => .pure ?_
    have hrest := hadds.rest hu
    refine ⟨made, hrest.contacts, hrest.inTransaction.trans outside, ?_⟩
    rw [hrest.record]
    exact .uncreated hmade e.message

/-- Upgrading a table is one transaction, and records the declared version if it succeeds. -/
theorem upgradeTable_course {known : Option UInt32} (s : State η (Recorded η σ))
    (outside : s.own.inTransaction = false) (older : known.getD 1 < schema.version) :
    (db.recorded.upgradeTable schema table (known.getD 1) schema.version).Yields s
      (fun o t => Follows db schema table known true s t o) fun _ => False := by
  unfold upgradeTable
  refine .framed_bind ((Staying.reports table).report _) fun _ r hr => ?_
  have hflag : r.own.inTransaction = false := hr.inTransaction.trans outside
  refine (db.upgrade_transacted schema table _ _ r hflag).settled_bind ?_
  rintro (e | count) t ⟨made, htransacted, ht⟩
  · refine .framed_bind ((Staying.reports table).report _) fun _ u hu => .pure ?_
    have hrest := ht.trans hu
    rw [List.append_nil] at hrest
    have hwhole := hr.trans hrest
    refine ⟨made, hwhole.contacts, hwhole.inTransaction.trans outside, ?_⟩
    rw [hwhole.record, hrest.handle]
    exact .abandoned older htransacted
  · refine (conclusion_sent table _ _ _ t).mono ?_ fun _ h => h
    rintro _ u ⟨rfl, hcontacts, hrecord, hhandle, hshut⟩
    have hwhole := hr.trans ht
    refine ⟨made, hcontacts.trans hwhole.contacts, ?_, ?_⟩
    · rw [hshut, hwhole.inTransaction, outside]
    · rw [hrecord, hhandle, ht.handle]
      exact .upgraded older htransacted

/-- Bringing up a table upgrades it if its version is older than the declared one, and records a
    version that was not known. -/
theorem bringUp_course (known : Option UInt32) (s : State η (Recorded η σ))
    (outside : s.own.inTransaction = false) :
    (db.recorded.bringUp schema table known).Yields s
      (fun o t => Follows db schema table known true s t o) fun _ => False := by
  unfold bringUp
  by_cases hnewer : schema.version ≤ known.getD 1
  · simp only [if_pos hnewer]
    rcases known with _ | v
    · simp only [Option.isNone_none, if_true, Option.getD_none]
      refine .bind (.of_run_ok (recordVersion_run table 1 s) (P := fun _ t =>
        t.contacts = s.contacts ∧ t.own = s.own ∧ t.record table = some (.ofVersion 1))
        ⟨rfl, rfl, OrderedMap.get?_insert_self _ _ _⟩) (fun _ t ht => .pure ?_) fun _ h => h
      rcases ht with ⟨hcontacts, hown, hrecord⟩
      refine ⟨[], ?_, ?_, ?_⟩
      · rw [hcontacts, List.append_nil]
      · rw [hown, outside]
      · rw [hrecord]
        exact .adopted rfl hnewer
    · exact .pure ⟨[], (List.append_nil _).symm, outside, .recent rfl hnewer⟩
  · simp only [if_neg hnewer]
    exact db.upgradeTable_course schema table s outside (UInt32.not_le.mp hnewer)

end Database

/-- Outside of transactions a migration goes the way that the answers of the client lead, and leaves
    behind nothing else. -/
theorem migrate_traced (db : Database η σ) (schema : Schema) (table : String)
    (s : State η (Recorded η σ)) (hname : isIdentifier table = true)
    (outside : s.own.inTransaction = false) :
    (db.recorded.migrate schema table).Yields s
      (fun o t => ∃ found look rest, MigrationTrace db schema table s t o found look rest)
      fun _ => False := by
  have hasked := recordedVersion_asks table s
  rcases db.probe_tries table hname ((recordedVersion table).run s).2 with ⟨made, hmade, hprobed⟩
  have hlooked := hasked.after hprobed
  refine db.recorded.migrate_branches schema table s (fun hdue t ht => ?_) (fun hdue t ht => ?_)
    fun v hknown hdebug => ?_
  · rw [ht] at hmade hlooked
    have hcourse := db.createTable_course schema table (s.version table) t
      (hlooked.inTransaction.trans outside)
    exact hcourse.mono (fun _ _ => hlooked.traced (.probed hdue hmade)) fun _ h => h
  · rw [ht] at hmade hlooked
    have hcourse := db.bringUp_course schema table (s.version table) t
      (hlooked.inTransaction.trans outside)
    exact hcourse.mono (fun _ _ => hlooked.traced (.probed hdue hmade)) fun _ h => h
  · have hcourse := db.bringUp_course schema table (s.version table) _
      (hasked.inTransaction.trans outside)
    exact hcourse.mono (fun _ _ => hasked.traced (.spared hknown hdebug)) fun _ h => h

/-- Its second statement is refused, and the first is rolled back with it. -/
theorem migrate_traced_refused :
    isIdentifier "t" = true ∧ (Site.settled [false, false, true]).own.inTransaction = false
      ∧ (Site.database.recorded.migrate (Site.schema 3) "t").Yields
        (Site.settled [false, false, true])
        (fun o t => ∃ found look rest, MigrationTrace Site.database (Site.schema 3) "t"
          (Site.settled [false, false, true]) t o found look rest) fun _ => False := by
  have hname : isIdentifier "t" = true := by decide
  exact ⟨hname, rfl, migrate_traced Site.database (Site.schema 3) "t" _ hname rfl⟩

set_option maxRecDepth 20000 in
/-- A transaction that cannot be begun has neither a commit nor a rollback, and one that cannot be
    committed has both. -/
theorem migrate_neither_or_both :
    let s := Site.settled [true]
    let s' := Site.settled [false, false, true]
    let unbegun := ((Site.database.recorded.migrate (Site.schema 2) "t").run.run s).2
    let uncommitted := ((Site.database.recorded.migrate (Site.schema 2) "t").run.run s').2
    isIdentifier "t" = true
      ∧ ((Site.schema 2).upgradePath 1 2).toOption = some ["ALTER TABLE t ADD a;"]
      ∧ s.own.inTransaction = false ∧ s.version "t" = none
      ∧ unbegun.contacts
        = [.call () (.query (probeStatement "t") ∅) true, .call () .begin false]
      ∧ unbegun.version "t" = none
      ∧ s'.own.inTransaction = false ∧ s'.version "t" = none
      ∧ uncommitted.contacts
        = [.call () (.query (probeStatement "t") ∅) true, .call () .begin true,
          .call () (.execute "ALTER TABLE t ADD a;" ∅) true, .call () .commit false,
          .call () .rollback true]
      ∧ uncommitted.version "t" = none := by
  simp only [Database.migrate, Database.probe, Database.bringUp, Database.upgradeTable,
    Database.runUpgrade, Database.execute, Database.executeDirect, Site.once_sendRetrying]
  decide +kernel

end SqlMapper
