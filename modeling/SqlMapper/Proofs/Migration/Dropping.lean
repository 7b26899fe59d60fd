import SqlMapper.Proofs.Cache.Reads
import SqlMapper.Proofs.Migration.Trace

/-!
# Dropping a Table

What is left of a table in the cache after it was to be dropped.

A table is dropped by one statement, and behind it the engine forgets the table:
it takes out the cached reads and the record of the version. It does so whether
the statement has succeeded or not. So where dropping is refused the table is
still there, at the version it was at, and the engine knows nothing of it. The
next migration takes it for a table of the first version, and sends the
statements of every upgrade again that it has had since.

Only a name that is refused before anything is sent leaves the record alone.

## Main definitions

* `DropTrace`: What dropping a table leaves behind.
* `StartsOver`: What a migration without a record leaves behind.
* `forgetTable`: What is done behind the statement that drops a table.
* `Site.upgraded`: A place whose table was upgraded, and where one statement is refused.

## Theorems

* `forgetTable_run`: Forgetting a table takes out its reads and its record, and no other record.
* `dropTable_traced`: Dropping a table forgets it, however the client answers.
* `migrate_unrecorded`: A migration without a record starts over.
* `drop_forgets_record`: The record outlives a refused drop only if there is none.
* `refused_drop_repeats_upgrade`: An upgrade is sent again behind a refused drop.
-/

namespace SqlMapper

variable {η σ : Type}

/-- What dropping a table leaves behind. -/
structure DropTrace (table : String) (s t : State η (Recorded η σ)) (succeeded : Bool) : Prop where
  -- The statement was sent until it was answered, and nothing else was.
  sent : ∃ made, Tries (.execute (dropStatement table) ∅) succeeded made
    ∧ t.contacts = s.contacts ++ made
  -- A transaction that was open is still open.
  inTransaction : t.own.inTransaction = s.own.inTransaction
  -- No read of the table is cached.
  clear : t.around.cache.Clear table
  -- No version of the table is on record.
  record : t.record table = none
  -- The records of other tables are as they were.
  others : ∀ other, other ≠ table → t.record other = s.record other

/-- A migration leaves this behind that looks for its table, and takes one that it finds for a table
    of the first version. -/
def StartsOver (db : Database η σ) (schema : Schema) (table : String)
    (s t : State η (Recorded η σ)) (outcome : MigrationOutcome) : Prop :=
  ∃ found look rest, Tries (.query (probeStatement table) ∅) found look
    ∧ t.contacts = s.contacts ++ look ++ rest
    ∧ Course db schema table t.own.handle none none found rest outcome (t.record table)

/-- What is done behind the statement that drops a table. -/
def forgetTable (table : String) : Action η σ Unit := do
  invalidate table
  around (Surroundings.forget (versionKey table))

/-- Forgetting a table takes out its reads and its record, and no other record. -/
theorem forgetTable_run (table : String) (s : State η σ) :
    let forgotten := ((forgetTable table).run s).2
    forgotten.around.world = s.around.world ∧ forgotten.own.inTransaction = s.own.inTransaction
      ∧ forgotten.around.cache.Clear table ∧ forgotten.record table = none
      ∧ ∀ other, other ≠ table → forgotten.record other = s.record other := by
  intro forgotten
  let dropped := ((invalidate table).run s).2
  have hcache : forgotten.around.cache = dropped.around.cache.erase (versionKey table) := rfl
  have hkept : ∀ key, key ≠ versionKey table →
      forgotten.around.cache.get? key = dropped.around.cache.get? key := by
    intro key hkey
    rw [hcache, OrderedMap.get?_erase_ne _ hkey]
  refine ⟨rfl, rfl, fun sql binds => ?_, ?_, fun other hother => ?_⟩
  · rw [hkept _ (queryKey_ne_versionKey table table sql binds)]
    exact invalidate_clear table s sql binds
  · rw [State.record, hcache, OrderedMap.get?_erase_self]
  · rw [State.record, hkept _ fun hkey => hother (versionKey_inj hkey)]
    exact record_invalidate other table s

theorem DropTrace.of_adds {table : String} {s t : State η (Recorded η σ)} {succeeded : Bool}
    {made : List (Contact η)} (hmade : Tries (.execute (dropStatement table) ∅) succeeded made)
    (hadds : Adds table s t made) (hrecords : ∀ other, t.record other = s.record other) :
    DropTrace table s ((forgetTable table).run t).2 succeeded := by
  rcases forgetTable_run table t with ⟨hworld, hflag, hclear, hrecord, hothers⟩
  refine ⟨⟨made, hmade, ?_⟩, hflag.trans hadds.inTransaction, hclear, hrecord, fun other h => ?_⟩
  · exact (congrArg Recorded.contacts hworld).trans hadds.contacts
  · rw [hothers other h, hrecords other]

theorem Looked.startsOver {db : Database η σ} {schema : Schema} {table : String} {found : Bool}
    {s t u : State η (Recorded η σ)} {look : List (Contact η)} {outcome : MigrationOutcome}
    (h : Looked table s t look) (hrecord : s.record table = none)
    (hlook : Tries (.query (probeStatement table) ∅) found look)
    (hfollows : Follows db schema table none found t u outcome) :
    StartsOver db schema table s u outcome := by
  rcases hfollows with ⟨rest, hrest, -, hcourse⟩
  have hgone : t.record table = none := by
    rw [h.record, State.living, hrecord]
    rfl
  rw [hgone] at hcourse
  refine ⟨found, look, rest, hlook, ?_, hcourse⟩
  rw [hrest, h.contacts]

namespace Database

variable (db : Database η σ) (schema : Schema) (table : String)

/-- Dropping a table forgets it, however the client answers. -/
theorem dropTable_traced (s : State η (Recorded η σ)) (hname : isIdentifier table = true) :
    (db.recorded.dropTable table).Yields s (fun _ t => DropTrace table s t true)
      fun t => DropTrace table s t false := by
  let dropping := db.recorded.executeDirect (dropStatement table) ∅ false
  -- The statement leaves every record alone.
  have hrecords : ∀ other, (dropping.run.run s).2.record other = s.record other := by
    intro other
    rcases (db.executeDirect_tries other (dropStatement table) ∅ s).cases with
      ⟨_, t, hrun, _, -, hadds⟩ | ⟨_, t, hrun, _, -, hadds⟩
    · rw [hrun, hadds.record]
    · rw [hrun, hadds.record]
  have hsent := (db.executeDirect_tries table (dropStatement table) ∅ s).also
    (R := fun t => ∀ other, t.record other = s.record other) hrecords
  have hdropped : db.recorded.dropTable table = (do
      Attempt.check (checkIdentifier table)
      let _ ← dropping.thereafter (forgetTable table)) := rfl
  have hchecked : Attempt.check (checkIdentifier table)
      = (pure () : Attempt η (Recorded η σ) Unit) := by
    rw [checkIdentifier, if_pos hname]
    rfl
  rw [hdropped, hchecked, pure_bind]
  refine (hsent.thereafter ?_ ?_).bind (fun _ _ h => .pure h) fun _ h => h
  · rintro _ t ⟨⟨made, hmade, hadds⟩, hkept⟩
    exact .of_adds hmade hadds hkept
  · rintro t ⟨⟨made, hmade, hadds⟩, hkept⟩
    exact .of_adds hmade hadds hkept

/-- A name that is no identifier is refused, and nothing is sent or forgotten. -/
theorem dropTable_refused (s : State η σ) (hname : isIdentifier table = false) :
    ∃ log, (db.dropTable table).run.run s
      = (.error (.failed (.field table "disallowed field name")),
        { s with around := { s.around with log := log } }) := by
  have hchecked : Attempt.check (checkIdentifier table)
      = (Attempt.raise (.field table "disallowed field name") : Attempt η σ Unit) := by
    rw [checkIdentifier, hname]
    rfl
  have hrun : (db.dropTable table).run.run s
      = (Attempt.raise (.field table "disallowed field name") : Attempt η σ Unit).run.run s := by
    unfold dropTable
    rw [hchecked, Attempt.raise_bind]
  exact ⟨_, hrun.trans (Attempt.raise_run _ s)⟩

/-- Outside of transactions a migration without a record starts over. -/
theorem migrate_unrecorded {s : State η (Recorded η σ)} (hname : isIdentifier table = true)
    (hrecord : s.record table = none) (outside : s.own.inTransaction = false) :
    (db.recorded.migrate schema table).Yields s
      (fun o t => StartsOver db schema table s t o) fun _ => False := by
  have hversion : s.version table = none := by
    have hdurable : s.Durable table := fun e he => nomatch hrecord.symm.trans he
    rw [version_eq hdurable, hrecord]
    rfl
  rcases db.probe_tries table hname ((recordedVersion table).run s).2 with ⟨look, hlook, hprobed⟩
  have hlooked := (recordedVersion_asks table s).after hprobed
  have hflag := hlooked.inTransaction.trans outside
  refine db.recorded.migrate_branches schema table s (fun _ t ht => ?_) (fun _ t ht => ?_)
    fun v hknown => ?_
  · rw [ht] at hlook hlooked hflag
    exact (db.createTable_course schema table none t hflag).mono
      (fun _ _ => hlooked.startsOver hrecord hlook) fun _ h => h
  · rw [ht] at hlook hlooked hflag
    rw [hversion]
    exact (db.bringUp_course schema table none t hflag).mono
      (fun _ _ => hlooked.startsOver hrecord hlook) fun _ h => h
  · rw [hversion] at hknown
    cases hknown

end Database

/-- Whether dropping a table succeeds or is refused, no read of the table is cached behind it, no
    version of it is on record, and the next migration starts over. So behind an error the record is
    as it was only if there was none, or if the name was refused before anything was sent. -/
theorem drop_forgets_record (db : Database η σ) (table : String) (s : State η (Recorded η σ)) :
    let dropped := (db.recorded.dropTable table).run.run s
    (isIdentifier table = true → DropTrace table s dropped.2 dropped.1.isOk
        ∧ (s.own.inTransaction = false → ∀ schema,
          (db.recorded.migrate schema table).Yields dropped.2
            (fun o t => StartsOver db schema table dropped.2 t o) fun _ => False))
      ∧ (isIdentifier table = false → dropped.1.isOk = false
        ∧ dropped.2.contacts = s.contacts ∧ dropped.2.around.cache = s.around.cache)
      ∧ (dropped.1.isOk = false →
        (dropped.2.record table = s.record table
          ↔ isIdentifier table = false ∨ s.record table = none)) := by
  intro dropped
  have hnamed : isIdentifier table = true → DropTrace table s dropped.2 dropped.1.isOk := by
    intro hname
    rcases (db.dropTable_traced table s hname).cases with
      ⟨_, t, hrun, htrace⟩ | ⟨e, t, hrun, htrace⟩
    · rw [show dropped = _ from hrun]
      exact htrace
    · rw [show dropped = _ from hrun]
      exact htrace
  have hunnamed : isIdentifier table = false → dropped.1.isOk = false
      ∧ dropped.2.contacts = s.contacts ∧ dropped.2.around.cache = s.around.cache := by
    intro hname
    rcases db.recorded.dropTable_refused table s hname with ⟨log, hrun⟩
    rw [show dropped = _ from hrun]
    exact ⟨rfl, rfl, rfl⟩
  refine ⟨fun hname => ⟨hnamed hname, fun outside schema => ?_⟩, hunnamed, fun _ => ?_⟩
  · have htrace := hnamed hname
    exact db.migrate_unrecorded schema table hname htrace.record
      (htrace.inTransaction.trans outside)
  · by_cases hname : isIdentifier table = true
    · rw [(hnamed hname).record, hname]
      simp only [Bool.true_eq_false, false_or]
      exact eq_comm
    · have hrefused := Bool.eq_false_iff.mpr hname
      refine iff_of_true ?_ (Or.inl hrefused)
      rw [State.record, (hunnamed hrefused).2.2, State.record]

/-- A place whose table was upgraded to the second version, and where the next statement is
    refused. -/
def Site.upgraded : State Unit (Recorded Unit Site) :=
  ((recordVersion "t" 2).run.run (settled [true])).2

theorem Site.upgraded_refuses :
    ((database.recorded.dropTable "t").run.run upgraded).1.isOk = false := by
  simp only [Database.dropTable, Database.executeDirect, Site.once_sendRetrying]
  decide +kernel

theorem drop_forgets_record_refused :
    let dropped := (Site.database.recorded.dropTable "t").run.run Site.upgraded
    isIdentifier "t" = true ∧ Site.upgraded.own.inTransaction = false ∧ dropped.1.isOk = false
      ∧ DropTrace "t" Site.upgraded dropped.2 false
      ∧ (Site.database.recorded.migrate (Site.schema 2) "t").Yields dropped.2
        (fun o t => StartsOver Site.database (Site.schema 2) "t" dropped.2 t o)
        fun _ => False := by
  intro dropped
  have hname : isIdentifier "t" = true := by decide
  have hrefused : dropped.1.isOk = false := Site.upgraded_refuses
  rcases drop_forgets_record Site.database "t" Site.upgraded with ⟨hnamed, -, -⟩
  rcases hnamed hname with ⟨htrace, hmigrate⟩
  exact ⟨hname, rfl, hrefused, hrefused ▸ htrace, hmigrate rfl (Site.schema 2)⟩

set_option maxRecDepth 20000 in
/-- Dropping the table is refused. The next migration does not find the version that the table is
    at, and sends the statement of its upgrade again. -/
theorem refused_drop_repeats_upgrade :
    let s := Site.upgraded
    let dropped := (Site.database.recorded.dropTable "t").run.run s
    let migrated := (Site.database.recorded.migrate (Site.schema 2) "t").run.run dropped.2
    s.version "t" = some 2 ∧ dropped.1.isOk = false ∧ dropped.2.version "t" = none
      ∧ migrated.1.toOption = some (.upgraded 1 2)
      ∧ migrated.2.contacts = dropped.2.contacts
        ++ [.call () (.query (probeStatement "t") ∅) true, .call () .begin true,
          .call () (.execute "ALTER TABLE t ADD a;" ∅) true, .call () .commit true] := by
  simp only [Database.dropTable, Database.migrate, Database.probe, Database.bringUp,
    Database.upgradeTable, Database.runUpgrade, Database.execute, Database.executeDirect,
    Site.once_sendRetrying]
  decide +kernel

end SqlMapper
