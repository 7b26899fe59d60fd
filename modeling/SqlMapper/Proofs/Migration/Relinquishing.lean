import SqlMapper.Proofs.Migration.Vouching

/-!
# What a Failed Migration Relinquishes

What is left of the statements of a migration that reports a failure.

A migration that fails never moves the record. Its statements are another
matter. If it had a transaction of its own, that is rolled back before the call
returns, and nothing of it is left unless the rollback was refused. If it joined
a transaction, the statements before the one that failed stay in it: nobody
takes them back but whoever opened it, and where that goes on and commits, they
last. What comes behind the call is left open here, so this holds in every
context.

## Theorems

* `failed_migration_relinquishes`: What becomes of the statements, by how they were run.
* `failed_migration_lasts`: Some of them may last.
-/

namespace SqlMapper

variable {η σ α : Type}

theorem Operation.Migrates.exists_entity {table : String} {schema : Schema} {op : Operation}
    (h : op.Migrates table schema) : ∃ entity, entity.schema = .ok schema
      ∧ (op = .initTable table entity ∨ op = .migrate table entity) := by
  cases op with
  | initTable other entity =>
      rcases h with ⟨rfl, hschema⟩
      exact ⟨entity, hschema, Or.inl rfl⟩
  | migrate other entity =>
      rcases h with ⟨rfl, hschema⟩
      exact ⟨entity, hschema, Or.inr rfl⟩
  | _ => exact absurd h not_false

theorem Operation.Migrates.unique {table : String} {schema other : Schema} {op : Operation}
    (h : op.Migrates table schema) (hother : op.Migrates table other) : other = schema := by
  rcases h.exists_entity with ⟨entity, hschema, rfl | rfl⟩
  all_goals exact Except.ok.inj (hother.2.symm.trans hschema)

/-- A call that fails to bring a table to its version keeps the record. It has run the first of the
    statements of the upgrade at most, and what becomes of these follows from how they were run and
    from what comes behind the call. -/
theorem failed_migration_relinquishes (db : Database η σ) (table : String) (r : Routine α)
    (s : State η (Recorded η σ)) (hdurable : s.Durable table) :
    ∀ c ∈ r.calls db.recorded s, ∀ schema reason, c.op.Migrates table schema →
      c.result = .ok (.migration (.failed reason)) →
        c.after.record table = c.before.record table
        ∧ c.after.version table = c.before.version table
        ∧ ∃ made statements later, c.after.contacts = c.before.contacts ++ made
          ∧ statements <+: schema.steps ((c.before.version table).getD 1) schema.version
          ∧ Relinquished c.before made statements
          ∧ ((r.run db.recorded).run.run s).2.contacts = c.after.contacts ++ later := by
  intro c hc schema reason hmigrates hresult
  have hbefore := (Routine.durable db table r s).before c hc hdurable
  -- Contacts are only added behind the call.
  have hgrows : (growing η σ).rel c.after ((r.run db.recorded).run.run s).2 := by
    refine ((growing_encloses db).routine fun d hd => ?_).after c hc
    have hdone := growing_perform db d.op d.before
    rw [r.perform_of_mem_calls d hd] at hdone
    exact hdone
  rcases hmigrates.exists_entity with ⟨entity, hschema, hop⟩
  have hdone := migration_perform db table hop c.before hbefore
  rw [r.perform_of_mem_calls c hc, hresult] at hdone
  rcases hdone with ⟨-, hrefused⟩ | ⟨other, outcome, hother, houtcome, hbrought⟩
  · cases hrefused
  · cases houtcome
    cases hmigrates.unique hother
    cases hbrought with
    | recorded moved contacts record stands => cases moved
    | failed _ adds path relinquished =>
        rcases hgrows with ⟨later, hlater⟩
        exact ⟨adds.record, adds.version hbefore, _, _, later, adds.contacts, path, relinquished,
          hlater⟩

/-- The second statement of an upgrade is refused. -/
def Site.halfway : State Unit (Recorded Unit Site) :=
  settled [false, false, true]

set_option maxRecDepth 20000 in
theorem Site.halfway_fails :
    ∃ reason, (((Operation.migrate "t" (entity 3)).perform database.recorded).run.run
      (database.recorded.enter.run.run halfway).2).1 = .ok (.migration (.failed reason)) := by
  have hfailed : ((database.recorded.migrate (schema 3) "t").run.run
      (database.recorded.enter.run.run halfway).2).1.toOption
      = some (.failed "execute error: [1205] refused\n  sql: ALTER TABLE t ADD b;") := by
    simp only [Database.migrate, Database.probe, Database.bringUp, Database.upgradeTable,
      Database.runUpgrade, Database.execute, Database.executeDirect, Site.once_sendRetrying]
    decide +kernel
  have hperform : ((Operation.migrate "t" (entity 3)).perform database.recorded).run.run
      (database.recorded.enter.run.run halfway).2 = _ :=
    Attempt.run_map Answer.migration (database.recorded.migrate (schema 3) "t") _
  rw [hperform]
  revert hfailed
  rcases ((database.recorded.migrate (schema 3) "t").run.run
    (database.recorded.enter.run.run halfway).2).1 with stop | outcome
  · intro hfailed
    cases hfailed
  · rintro ⟨⟩
    exact ⟨_, rfl⟩

/-- An upgrade that joins a transaction and fails. -/
theorem failed_migration_relinquishes_joined :
    let r := Site.enclosed 3 (.ok ())
    let u := ((r.run Site.database.recorded).run.run Site.halfway).2
    Site.halfway.Durable "t"
      ∧ ∃ c ∈ r.calls Site.database.recorded Site.halfway, ∃ reason,
        (c.op.Migrates "t" (Site.schema 3) ∧ c.result = .ok (.migration (.failed reason)))
        ∧ c.before.own.inTransaction = true
        ∧ c.after.record "t" = c.before.record "t"
        ∧ c.after.version "t" = c.before.version "t"
        ∧ ∃ made statements later, c.after.contacts = c.before.contacts ++ made
          ∧ statements <+: (Site.schema 3).steps ((c.before.version "t").getD 1) 3
          ∧ Relinquished c.before made statements ∧ u.contacts = c.after.contacts ++ later := by
  intro r u
  have hdurable : Site.halfway.Durable "t" := fun e h => by cases h
  rcases Site.halfway_fails with ⟨reason, hfails⟩
  exact ⟨hdurable, _, List.mem_cons_self, reason, ⟨⟨rfl, rfl⟩, hfails⟩, rfl,
    failed_migration_relinquishes Site.database "t" r Site.halfway hdurable _ List.mem_cons_self
      (Site.schema 3) reason ⟨rfl, rfl⟩ hfails⟩

set_option maxRecDepth 20000 in
/-- The first statement of an upgrade that fails lasts if the transaction that it joined is
    committed. -/
theorem failed_migration_lasts :
    let r := Site.enclosed 3 (.ok ())
    let u := ((r.run Site.database.recorded).run.run Site.halfway).2
    (∃ c ∈ r.calls Site.database.recorded Site.halfway, ∃ reason,
      c.op.Migrates "t" (Site.schema 3) ∧ c.result = .ok (.migration (.failed reason)))
      ∧ u.hasOpen = false ∧ u.fates = [("ALTER TABLE t ADD a;", .lasting)] := by
  rcases Site.halfway_fails with ⟨reason, hfails⟩
  refine ⟨⟨_, List.mem_cons_self, reason, ⟨rfl, rfl⟩, hfails⟩, ?_⟩
  simp only [Site.enclosed, Routine.run, Operation.perform, Database.migrate, Database.probe,
    Database.bringUp, Database.upgradeTable, Database.runUpgrade, Database.execute,
    Database.executeDirect, Site.once_sendRetrying]
  decide +kernel

end SqlMapper
