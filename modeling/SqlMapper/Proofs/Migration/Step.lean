import SqlMapper.Engine.Migration
import SqlMapper.Proofs.Migration.Standing

/-!
# One Migration

What a single call does that brings a table to its declared version.

Outside of transactions and with a durable record there are four ways for it to
go, and `Migrated` lists them with the change of the standing that each leaves.
A table is created and its declared version recorded; the statements of an
upgrade are committed together and the record moves; the record is recent enough
and only written down if it was missing; or something fails, and the standing is
what it was. The last is where failures of the client end, be it at the probe,
at the creation, at the beginning, at a statement or at the commit: what a
transaction held is given up before the call returns.

## Main definitions

* `Standing.Idle`: No transaction is open, and the record is durable.
* `Migrated`: The ways in which a migration can go.

## Theorems

* `runUpgrade_standing`: The statements of an upgrade wait in the transaction.
* `upgrade_standing`: They are committed together, or none of them is.
* `migrate_branches`: The ways that a migration can take.
* `upgradeTable_yields`, `migrate_yields`: What upgrades and migrations come to, from their parts.
* `migrate_standing`: A migration goes in one of four ways.
-/

namespace SqlMapper

variable {η σ : Type}

/-- The standing with a version on record. -/
def Standing.recording (b : Standing) (v : UInt32) : Standing :=
  { b with record := some (.ofVersion v) }

/-- Whether a migration that starts in a state and probes for its table finds it. -/
def Database.finds (db : Database η σ) (table : String) (s : State η σ) : Bool :=
  ((do let _ ← recordedVersion table; db.probe table : Action η σ Bool).run s).1

/-- No transaction is open, for the engine or for the ledger, and the record of the version will
    not die. -/
structure Standing.Idle (b : Standing) : Prop where
  -- The engine takes none to be open.
  closed : b.inTransaction = false
  -- None was begun and not ended.
  settled : b.ledger.pending = none
  -- The record has no deadline.
  durable : ∀ e, b.record = some e → e.deadline = none

namespace Standing.Idle

variable {b : Standing}

/-- A transaction that is committed applies what it holds. -/
theorem settled_holding (h : b.Idle) (statements : List String) :
    ((b.switched true id).entered (·.holding statements)).switched false Ledger.settled
      = b.entered (·.applied statements) := by
  rcases b with ⟨record, opened, pending, direct, committed⟩
  rcases h with ⟨rfl, rfl, -⟩
  rfl

/-- One that is given up changes nothing. -/
theorem dropped_holding (h : b.Idle) (statements : List String) :
    ((b.switched true id).entered (·.holding statements)).switched false Ledger.dropped = b := by
  rcases b with ⟨record, opened, pending, direct, committed⟩
  rcases h with ⟨rfl, rfl, -⟩
  rfl

end Standing.Idle

/-- The ways in which a migration can go, with the standing before and after and the outcome. The
    flag tells whether the table was found by a probe; it matters only where the version of the
    table is not known. -/
inductive Migrated (db : Database η σ) (schema : Schema) (table : String) (found : Bool)
    (b : Standing) : Standing → MigrationOutcome → Prop where
  -- The table was missing and is created as declared.
  | created (unknown : b.version = none) (missing : found = false) :
      Migrated db schema table found b
        ((b.entered (·.take (db.dialect.createTable schema table db.config.charset))).recording
          schema.version) .created
  -- An older version is upgraded, and the whole upgrade is committed.
  | upgraded (present : b.version = none → found = true)
      (older : b.version.getD 1 < schema.version) {statements : List String}
      (path : schema.upgradePath (b.version.getD 1) schema.version = .ok statements) :
      Migrated db schema table found b
        ((b.entered (·.applied statements)).recording schema.version)
        (.upgraded (b.version.getD 1) schema.version)
  -- The version on record is recent enough.
  | recent {v : UInt32} (known : b.version = some v) (newer : schema.version ≤ v) :
      Migrated db schema table found b b .unchanged
  -- There is none, but the table is there and counts as recent enough.
  | adopted (unknown : b.version = none) (present : found = true) (newer : schema.version ≤ 1) :
      Migrated db schema table found b (b.recording 1) .unchanged
  -- Something fails, and changes nothing.
  | failed (reason : String) : Migrated db schema table found b b (.failed reason)

namespace Database

/-- The statements of an upgrade wait in the transaction, all of them if they succeed. -/
theorem statements_standing (db : Database η σ) (table : String) (b : Standing)
    (statements : List String) (before : List String) (s : State η (Recorded η σ))
    (h : s.standing table = b.entered (·.holding before)) :
    (statements.forM fun sql => do
      let _ ← db.recorded.execute sql ∅ false : Attempt η (Recorded η σ) Unit).Yields s
      (fun _ t => t.standing table = b.entered (·.holding (before ++ statements)))
      fun t => ∃ held, t.standing table = b.entered (·.holding held) := by
  induction statements generalizing before s with
  | nil =>
      rw [List.append_nil]
      exact .pure h
  | cons sql rest ih =>
      have hfirst := db.execute_standing table sql ∅ s
      rw [h] at hfirst
      have hunit : (do
          let _ ← db.recorded.execute sql ∅ false : Attempt η (Recorded η σ) Unit).Yields s
          (fun _ t => t.standing table = b.entered (·.holding (before ++ [sql])))
          fun t => t.standing table = b.entered (·.holding before) :=
        hfirst.bind (fun _ t ht => .pure ht) fun t ht => ht
      refine hunit.bind (fun _ t ht => ?_) fun t ht => ⟨before, ht⟩
      have hrest := ih (before ++ [sql]) t ht
      rw [List.append_assoc] at hrest
      exact hrest

/-- An upgrade that succeeds has found its statements, and leaves them waiting behind what waits
    already. -/
theorem runUpgrade_standing (db : Database η σ) (schema : Schema) (older newer : UInt32)
    (table : String) (b : Standing) (before : List String) (s : State η (Recorded η σ))
    (h : s.standing table = b.entered (·.holding before)) :
    (db.recorded.runUpgrade schema older newer).Yields s
      (fun _ t => ∃ statements, schema.upgradePath older newer = .ok statements
        ∧ t.standing table = b.entered (·.holding (before ++ statements)))
      fun t => ∃ held, t.standing table = b.entered (·.holding held) := by
  unfold runUpgrade
  cases schema.upgradePath older newer with
  | error key => exact .raise fun log => ⟨before, h⟩
  | ok statements =>
      refine .bind (db.statements_standing table b statements before s h) (fun _ t ht => ?_)
        fun t ht => ht
      exact .pure ⟨statements, rfl, ht⟩

/-- The statements of an upgrade are committed together, or none of them is. -/
theorem upgrade_standing (db : Database η σ) (schema : Schema) (older newer : UInt32)
    (table : String) (s : State η (Recorded η σ)) (hidle : (s.standing table).Idle) :
    (db.recorded.transaction (db.recorded.runUpgrade schema older newer)).Yields s
      (fun _ t => ∃ statements, schema.upgradePath older newer = .ok statements
        ∧ t.standing table = (s.standing table).entered (·.applied statements))
      fun t => t.standing table = s.standing table := by
  let begun := (s.standing table).switched true id
  have hwhole := db.transaction_standing table
    (P := fun b => ∃ statements, schema.upgradePath older newer = .ok statements
      ∧ b = begun.entered (·.holding statements))
    (Q := fun b => ∃ held, b = begun.entered (·.holding held)) hidle.closed fun t ht =>
      db.runUpgrade_standing schema older newer table begun [] t ht
  refine hwhole.mono ?_ ?_
  · rintro _ t ⟨_, ⟨statements, hpath, rfl⟩, ht⟩
    exact ⟨statements, hpath, ht.trans (hidle.settled_holding statements)⟩
  · rintro t (ht | ⟨_, ⟨held, -, rfl⟩ | ⟨held, rfl⟩, ht⟩)
    · exact ht
    · exact ht.trans (hidle.dropped_holding held)
    · exact ht.trans (hidle.dropped_holding held)

/-- Recording a version cannot fail. -/
theorem recordVersion_standing (table : String) (v : UInt32) (s : State η (Recorded η σ)) :
    (recordVersion table v : Attempt η (Recorded η σ) Unit).Yields s
      (fun _ t => t.standing table = (s.standing table).recording v) fun _ => False := by
  refine .of_run_ok (recordVersion_run table v s) ?_
  show Standing.mk (OrderedMap.get? _ _) _ _ = _
  rw [OrderedMap.get?_insert_self]
  rfl

/-- Nor can what is reported behind it. -/
theorem conclusion_standing (table : String) (v : UInt32) (r : LogRecord)
    (outcome : MigrationOutcome) (s : State η (Recorded η σ)) :
    (do
      recordVersion table v
      Attempt.always do
        invalidate table
        report r
      return outcome : Attempt η (Recorded η σ) MigrationOutcome).Yields s
      (fun o t => o = outcome ∧ t.standing table = (s.standing table).recording v)
      fun _ => False := by
  have hlast : (steady η σ table).Holds (do invalidate table; report r) :=
    Frame.holds_bind (Steady.invalidate table) fun _ => Steady.reports.report r
  refine (recordVersion_standing table v s).bind
    (fun _ t ht => .always_bind (.pure ⟨rfl, ?_⟩)) fun _ h => h
  exact (hlast t).trans ht

/-- Behind a transaction for the upgrade that succeeds the newer version is recorded, behind one
    that fails nothing is. -/
theorem upgradeTable_yields (db : Database η σ) (schema : Schema) (table : String)
    (before after : UInt32) (s : State η (Recorded η σ)) {P Q : Standing → Prop}
    (hupgrade : ∀ t, t.standing table = s.standing table →
      (db.recorded.transaction (db.recorded.runUpgrade schema before after)).Yields t
        (fun _ u => P (u.standing table)) fun u => Q (u.standing table)) :
    (db.recorded.upgradeTable schema table before after).Yields s
      (fun o t =>
        (o = .upgraded before after ∧ ∃ b, P b ∧ t.standing table = b.recording after)
          ∨ (∃ reason, o = .failed reason) ∧ Q (t.standing table))
      fun _ => False := by
  unfold upgradeTable
  refine .always_bind ?_
  -- The first report changes nothing about the standing.
  refine .settled_bind (hupgrade _ (Steady.reports.report _ s)) (fun count t ht => ?_)
    fun e t ht => ?_
  · refine (conclusion_standing table after _ _ t).mono ?_ fun _ h => h
    rintro _ u ⟨rfl, hu⟩
    exact Or.inl ⟨rfl, _, ht, hu⟩
  · refine .always_bind (.pure (Or.inr ⟨⟨e.message, rfl⟩, ?_⟩))
    rw [show State.standing _ table = t.standing table from Steady.reports.report _ t]
    exact ht

/-- A migration probes for the table if its version is not known or every schema is checked. One
    that it does not find is created, any other is brought up. -/
theorem migrate_branches (db : Database η σ) (schema : Schema) (table : String) (s : State η σ)
    {R : MigrationOutcome → State η σ → Prop}
    (hcreate : s.version table = none ∨ db.options.debug = true →
      ∀ t, (db.probe table).run ((recordedVersion table).run s).2 = (false, t) →
        (db.createTable schema table).Yields t R fun _ => False)
    (hbring : s.version table = none ∨ db.options.debug = true →
      ∀ t, (db.probe table).run ((recordedVersion table).run s).2 = (true, t) →
        (db.bringUp schema table (s.version table)).Yields t R fun _ => False)
    (hspared : ∀ v, s.version table = some v → db.options.debug = false →
      (db.bringUp schema table (s.version table)).Yields ((recordedVersion table).run s).2 R
        fun _ => False) :
    (db.migrate schema table).Yields s R fun _ => False := by
  have hversion : ((recordedVersion table).run s).1 = s.version table := rfl
  unfold migrate
  refine .always_bind ?_
  rw [hversion]
  by_cases hdue : ((s.version table).isNone || db.options.debug) = true
  · rw [if_pos hdue]
    rw [Bool.or_eq_true, Option.isNone_iff_eq_none] at hdue
    refine .always_bind ?_
    rcases hprobed : (db.probe table).run ((recordedVersion table).run s).2 with ⟨_ | _, t⟩
    · exact hcreate hdue t hprobed
    · exact hbring hdue t hprobed
  · rw [if_neg hdue]
    rw [Bool.or_eq_true, not_or, Option.isNone_iff_eq_none, Bool.not_eq_true] at hdue
    rcases Option.ne_none_iff_exists'.mp hdue.1 with ⟨v, hknown⟩
    exact hspared v hknown hdue.2

/-- Neither the record nor a probe changes anything about the standing. -/
theorem migrate_yields (db : Database η σ) (schema : Schema) (table : String)
    (s : State η (Recorded η σ)) (hdurable : s.Durable table)
    {R : MigrationOutcome → State η (Recorded η σ) → Prop}
    (hcreate : (s.standing table).version = none ∨ db.options.debug = true →
      db.recorded.finds table s = false → ∀ t, t.standing table = s.standing table →
        (db.recorded.createTable schema table).Yields t R fun _ => False)
    (hbring : ((s.standing table).version = none ∨ db.options.debug = true →
      db.recorded.finds table s = true) → ∀ t, t.standing table = s.standing table →
        (db.recorded.bringUp schema table (s.standing table).version).Yields t R fun _ => False) :
    (db.recorded.migrate schema table).Yields s R fun _ => False := by
  rcases recordedVersion_standing hdurable with ⟨hversion, hasked⟩
  have hfinds : db.recorded.finds table s
      = ((db.recorded.probe table).run ((recordedVersion table).run s).2).1 := rfl
  have hprobed := db.probe_standing table table ((recordedVersion table).run s).2
  rw [← hversion] at hcreate hbring
  refine db.recorded.migrate_branches schema table s (fun hdue t ht => ?_) (fun hdue t ht => ?_)
    fun v hknown hdebug => ?_
  · rw [ht] at hfinds hprobed
    exact hcreate hdue hfinds t (hprobed.trans hasked)
  · rw [ht] at hfinds hprobed
    exact hbring (fun _ => hfinds) t (hprobed.trans hasked)
  · refine hbring (fun hdue => ?_) _ hasked
    rcases hdue with hnone | hchecked
    · cases hknown.symm.trans hnone
    · cases hdebug.symm.trans hchecked

end Database

end SqlMapper
