import SqlMapper.Proofs.Migration.History

/-!
# Probing

What a migration comes to where the probe tells the truth.

A migration learns whether a table is there from one statement, and takes every
failure of it for a missing table. Where the table is found nothing can go
wrong: whatever else fails, the table is not created again, and its record moves
only behind all statements of the path to the version that it then holds. They
are committed by the migration itself, or they wait for the commit of the
transaction in which it runs.

A table that is there and is not found is another matter. Creating it succeeds
and changes nothing, and the declared version is recorded all the same.

## Main definitions

* `Ledger.run`: Statements that are run together.
* `Standing.Tracked`: The engine and the ledger agree on whether a transaction is open.
* `Unskipped`: What a migration leaves behind that skips nothing.

## Theorems

* `upgrade_run`: The statements of an upgrade are run together, or the record stays.
* `bringUp_unskipped`: Bringing up a table that is there skips nothing.
* `migrate_unskipped`: Neither does a migration, if it finds the table.
* `migrate_created`: If it does not, the table counts as created.
* `migrate_skips`: It may skip an upgrade if it does not.
-/

namespace SqlMapper

variable {η σ : Type}

/-- Statements are run together: in the transaction that is open, or in one of their own. -/
def Ledger.run (l : Ledger) (statements : List String) : Ledger :=
  match l.pending with
  | some held => l.holding (held ++ statements)
  | none => l.applied statements

theorem Ledger.run_nil (l : Ledger) : l.run [] = l := by
  rcases l with ⟨_ | held, direct, committed⟩
  · exact congrArg (Ledger.mk none direct) (List.append_nil committed)
  · exact congrArg (Ledger.mk · direct committed) (congrArg some (List.append_nil held))

/-- A transaction counts as open if the ledger has one. -/
def Standing.Tracked (b : Standing) : Prop :=
  b.inTransaction = b.ledger.pending.isSome

/-- What a migration leaves behind that skips nothing, by the standings around it. -/
structure Unskipped (schema : Schema) (b c : Standing) (outcome : MigrationOutcome) : Prop where
  -- The table is not created.
  existing : outcome ≠ .created
  -- A record that moves has all statements behind it on the path to the version that it holds.
  record : c.record = b.record ∨ ∃ statements,
    schema.upgradeTo (b.version.getD 1) c.version = .ok statements
      ∧ c.ledger = b.ledger.run statements

/-- A record is durable if another is that is the same. -/
theorem State.Durable.of_standing {table : String} {s t : State η (Recorded η σ)}
    (hs : s.Durable table) (ht : t.standing table = s.standing table) : t.Durable table := by
  rw [Durable, show t.record table = s.record table from congrArg Standing.record ht]
  exact hs

namespace Database

variable (db : Database η σ) (schema : Schema) (table : String) (s : State η (Recorded η σ))

/-- The statements of an upgrade are run together, or the record stays as it was. -/
theorem upgrade_run (older newer : UInt32) (hdurable : s.Durable table)
    (htracked : (s.standing table).Tracked) :
    (db.recorded.transaction (db.recorded.runUpgrade schema older newer)).Yields s
      (fun _ t => ∃ statements, schema.upgradePath older newer = .ok statements
        ∧ t.standing table = (s.standing table).entered (·.run statements))
      fun t => (t.standing table).record = (s.standing table).record := by
  rcases hpending : (s.standing table).ledger.pending with _ | held
  · -- The migration has a transaction of its own.
    have hidle : (s.standing table).Idle :=
      ⟨htracked.trans (by rw [hpending]; rfl), hpending, hdurable⟩
    have hrun : ∀ statements, (s.standing table).ledger.run statements
        = (s.standing table).ledger.applied statements := by
      intro statements
      rw [Ledger.run, hpending]
    refine (db.upgrade_standing schema older newer table s hidle).mono ?_ fun t ht => ?_
    · rintro _ t ⟨statements, hpath, ht⟩
      refine ⟨statements, hpath, ht.trans ?_⟩
      rw [Standing.entered, Standing.entered, hrun]
    · rw [ht]
  · -- It joins the one that is open.
    have hopen : s.own.inTransaction = true := htracked.trans (by rw [hpending]; rfl)
    have hholding : s.standing table = (s.standing table).entered (·.holding held) := by
      rw [Standing.entered, Ledger.holding, ← hpending]
    have hrun : ∀ statements, (s.standing table).ledger.run statements
        = (s.standing table).ledger.holding (held ++ statements) := by
      intro statements
      rw [Ledger.run, hpending]
    have hbody := db.runUpgrade_standing schema older newer table _ held s hholding
    refine (hbody.mono ?_ ?_).of_run_eq (transaction_inside _ _ s hopen)
    · rintro _ t ⟨statements, hpath, ht⟩
      refine ⟨statements, hpath, ht.trans ?_⟩
      rw [Standing.entered, Standing.entered, hrun]
    · rintro t ⟨held', ht⟩
      rw [ht]
      rfl

/-- Bringing up a table that is there skips nothing, however the client answers. -/
theorem bringUp_unskipped (hdurable : s.Durable table) (htracked : (s.standing table).Tracked) :
    (db.recorded.bringUp schema table (s.standing table).version).Yields s
      (fun o t => Unskipped schema (s.standing table) (t.standing table) o) fun _ => False := by
  unfold bringUp
  by_cases hnewer : schema.version ≤ (s.standing table).version.getD 1
  · simp only [if_pos hnewer]
    rcases hversion : (s.standing table).version with _ | v
    · -- The version that an unrecorded table counts as is written down.
      simp only [Option.isNone_none, if_true, Option.getD_none]
      refine (recordVersion_standing table 1 s).bind (fun _ t ht => .pure ?_) fun _ h => h
      refine ⟨MigrationOutcome.noConfusion, Or.inr ⟨[], ?_, ?_⟩⟩
      · rw [ht, hversion]
        exact schema.upgradeTo_self 1
      · rw [ht, Ledger.run_nil]
        rfl
    · exact .pure ⟨MigrationOutcome.noConfusion, Or.inl rfl⟩
  · simp only [if_neg hnewer]
    have hupgrade : ∀ t : State η (Recorded η σ), t.standing table = s.standing table →
        (db.recorded.transaction (db.recorded.runUpgrade schema
          ((s.standing table).version.getD 1) schema.version)).Yields t
          (fun _ u => ∃ statements,
            schema.upgradePath ((s.standing table).version.getD 1) schema.version = .ok statements
              ∧ u.standing table = (s.standing table).entered (·.run statements))
          fun u => (u.standing table).record = (s.standing table).record := by
      intro t ht
      have hkept := hdurable.of_standing ht
      rw [← ht] at htracked ⊢
      exact db.upgrade_run schema table t _ _ hkept htracked
    refine (db.upgradeTable_yields schema table _ _ s (P := fun b => ∃ statements,
        schema.upgradePath ((s.standing table).version.getD 1) schema.version = .ok statements
          ∧ b = (s.standing table).entered (·.run statements))
      (Q := fun b => b.record = (s.standing table).record) hupgrade).mono ?_ fun _ h => h
    rintro o t (⟨rfl, b, ⟨statements, hpath, rfl⟩, ht⟩ | ⟨⟨reason, rfl⟩, ht⟩)
    · refine ⟨MigrationOutcome.noConfusion, Or.inr ⟨statements, ?_, ?_⟩⟩
      · rw [ht]
        show (if schema.version = (s.standing table).version.getD 1 then _ else _) = _
        rw [if_neg (UInt32.ne_of_lt (UInt32.not_le.mp hnewer)).symm]
        exact hpath
      · rw [ht]
        rfl
    · exact ⟨MigrationOutcome.noConfusion, Or.inl ht⟩

end Database

/-- A migration skips nothing if it finds the table where it probes for it. -/
theorem migrate_unskipped (db : Database η σ) (schema : Schema) (table : String)
    (s : State η (Recorded η σ)) (hdurable : s.Durable table)
    (htracked : (s.standing table).Tracked)
    (hfound : s.version table = none ∨ db.options.debug = true →
      db.recorded.finds table s = true) :
    (db.recorded.migrate schema table).Yields s
      (fun o t => Unskipped schema (s.standing table) (t.standing table) o) fun _ => False := by
  refine db.migrate_yields schema table s hdurable (fun hprobes hmissing t ht => ?_)
    fun _ t ht => ?_
  · rw [version_eq hdurable] at hfound
    exact absurd ((hfound hprobes).symm.trans hmissing) Bool.noConfusion
  · have hkept := hdurable.of_standing ht
    rw [← ht] at htracked ⊢
    exact db.bringUp_unskipped schema table t hkept htracked

/-- A table that is not found counts as created where every statement succeeds. -/
theorem migrate_created (db : Database η σ) (schema : Schema) (table : String)
    (s : State η (Recorded η σ)) (hdurable : s.Durable table) (hunknown : s.version table = none)
    (hmissing : db.recorded.finds table s = false)
    (hexecute : ∀ sql t, ∃ outcome, ((db.recorded.execute sql ∅ false).run.run t).1 = .ok outcome) :
    ((db.recorded.migrate schema table).run.run s).1 = .ok .created := by
  have hyields : (db.recorded.migrate schema table).Yields s (fun o _ => o = .created)
      fun _ => False := by
    rw [version_eq hdurable] at hunknown
    refine db.migrate_yields schema table s hdurable (fun _ _ t _ => ?_) fun hfound _ _ => ?_
    · have hcreate : ∀ sql, (db.recorded.execute sql ∅ false).Yields t (fun _ _ => True)
          fun _ => False := by
        intro sql
        rcases hexecute sql t with ⟨outcome, hok⟩
        exact .of_run_ok (Prod.ext hok rfl) trivial
      unfold Database.createTable
      refine (hcreate _).settled_bind (fun _ u _ => ?_) fun _ _ h => absurd h not_false
      exact (Database.conclusion_standing table schema.version _ .created u).mono
        (fun _ _ h => h.1) fun _ h => h
    · exact absurd ((hfound (Or.inl hunknown)).symm.trans hmissing) Bool.noConfusion
  rcases hyields.ok_of_infallible with ⟨outcome, t, hrun, rfl⟩
  rw [hrun]

namespace Site

/-- The state of a connection to a place where the table is there, before anything was asked. -/
def settled (refusals : List Bool) : State Unit (Recorded Unit Site) where
  around := { world := { world := { built := true, refusals } } }
  own := { handle := () }

/-- A client that may change the table but not read it. -/
def barred : Client Unit Site :=
  { client with
    query := fun _ _ _ w => ({ outcome := .error refusal }, w)
    execute := fun _ _ _ w => ({ outcome := .ok 1 }, w) }

/-- A connection through it. -/
def unreadable : Database Unit Site :=
  { database with client := barred }

theorem unreadable_execute (sql : String) (s : State Unit (Recorded Unit Site)) :
    ((unreadable.recorded.execute sql ∅ false).run.run s).1 = .ok (.affected 1) := by
  have hsent := unreadable.sendRetrying_once (by decide) sql ∅ false s
  show ((unreadable.recorded.executeDirect sql ∅ false).run.run s).1 = _
  rw [Database.executeDirect_run]
  rcases hresult : (unreadable.recorded.sendRetrying sql ∅ false).run s with ⟨failure | outcome, t⟩
  · rw [hresult] at hsent
    cases hsent
  · rw [hresult] at hsent
    cases hsent
    rfl

theorem unreadable_finds (s : State Unit (Recorded Unit Site)) :
    unreadable.recorded.finds "t" s = false := by
  rw [Database.finds, Action.run_bind, Database.probe, if_pos (by decide), Action.run_bind,
    Database.sendRetrying_once _ (by decide)]
  rfl

end Site

/-- The statements of two upgrades; the second is refused, and both are given up. -/
theorem migrate_unskipped_refused :
    let s := Site.settled [false, false, true]
    s.Durable "t" ∧ (s.standing "t").Tracked
      ∧ (s.version "t" = none ∨ Site.database.options.debug = true →
        Site.database.recorded.finds "t" s = true)
      ∧ (Site.database.recorded.migrate (Site.schema 3) "t").Yields s
        (fun o t => Unskipped (Site.schema 3) (s.standing "t") (t.standing "t") o)
        fun _ => False := by
  intro s
  have hdurable : s.Durable "t" := fun e h => by cases h
  have hfound : s.version "t" = none ∨ Site.database.options.debug = true →
      Site.database.recorded.finds "t" s = true := fun _ => Site.finds_of_built s rfl
  exact ⟨hdurable, rfl, hfound, migrate_unskipped Site.database _ "t" s hdurable rfl hfound⟩

/-- A table that is there and is not found may be recorded at a version it was never brought to. -/
theorem migrate_skips :
    ¬ ∀ (schema : Schema) (s : State Unit (Recorded Unit Site)),
      s.around.world.world.built = true → s.Durable "t" → (s.standing "t").Tracked →
        (Site.unreadable.recorded.migrate schema "t").Yields s
          (fun o t => Unskipped schema (s.standing "t") (t.standing "t") o) fun _ => False := by
  intro hall
  let s := Site.settled []
  have hdurable : s.Durable "t" := fun e h => by cases h
  have hwhole := hall (Site.schema 2) s rfl hdurable rfl
  have hcreated := migrate_created Site.unreadable (Site.schema 2) "t" s hdurable rfl
    (Site.unreadable_finds s) fun sql t => ⟨_, Site.unreadable_execute sql t⟩
  rcases hwhole.ok_of_infallible with ⟨outcome, t, hrun, hunskipped⟩
  rw [hrun] at hcreated
  exact hunskipped.existing (Except.ok.inj hcreated)

end SqlMapper
