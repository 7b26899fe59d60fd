import SqlMapper.Proofs.Migration.Step
import SqlMapper.Proofs.Migration.Upgrading

/-!
# What a Migration Leaves Behind

The contacts of a migration, and what becomes of its statements.

What becomes of a migration's statements can be read off its contacts and of
what comes next. While it looks for its table nothing succeeds that could last.
A creation is one statement in the end, and shares the fate of whatever is run
behind it; so do the statements of an upgrade that joins a transaction. An
upgrade with a transaction of its own encloses its statements: they last if the
commit succeeds, they are undone if the rollback does, and if that is refused
they wait for what the session is asked for next.

The record of the table moves behind all of that, and only where nothing failed.
But it moves at once, whatever the statements wait for.

## Main definitions

* `Abandons`: The end of a transaction that is given up.
* `Relinquished`: What becomes of the statements of a migration that failed.
* `Moved`: What a migration runs that moves the record.
* `Brought`: What a migration leaves behind.
* `Carried`, `Dropped`: What an upgrade leaves behind.

## Theorems

* `upgrade_transacted`: An upgrade with a transaction of its own.
* `upgrade_sent`: What becomes of the statements of an upgrade.
* `createTable_sent`, `bringUp_sent`: The same for the two ways on from a look for the table.
* `migrate_sent`: A migration goes in one of the ways listed.
-/

namespace SqlMapper

variable {η σ α : Type}

/-- A transaction that is given up ends with a rollback, which may be refused. -/
inductive Abandons : List (Contact η) → Bool → Prop where
  -- Its body has failed.
  | body (h : η) (undone : Bool) : Abandons [.call h .rollback undone] undone
  -- Its commit has failed.
  | commit (h : η) (undone : Bool) :
      Abandons [.call h .commit false, .call h .rollback undone] undone

namespace Abandons

variable {last : List (Contact η)} {undone : Bool}

theorem accepted (h : Abandons last undone) : SqlMapper.accepted last = [] := by
  cases h <;> rfl

theorem ends (h : Abandons last undone) :
    ∃ before session, last = before ++ [.call session .rollback undone] := by
  cases h with
  | body session undone => exact ⟨[], session, rfl⟩
  | commit session undone => exact ⟨[.call session .commit false], session, rfl⟩

/-- The rollback decides, unless it is refused. -/
theorem fate (h : Abandons last undone) (later : List (Contact η)) :
    fate true (last ++ later) = if undone then .undone else fate true later := by
  cases h <;> cases undone <;> rfl

end Abandons

/-- What becomes of the statements of a migration that failed. -/
inductive Relinquished (s : State η (Recorded η σ)) (made : List (Contact η)) :
    List String → Prop where
  -- None was run.
  | nothing (none : accepted made = []) : Relinquished s made []
  -- They were run in a transaction of their own, which was rolled back.
  | undone {statements : List String} (outside : s.own.inTransaction = false)
      (rolledBack : ∃ inner h, made = inner ++ [.call h .rollback true])
      (fates : ∀ later, fates s.hasOpen made later = statements.map fun sql => (sql, .undone)) :
      Relinquished s made statements
  -- The rollback of their transaction was refused, and they wait for what comes next.
  | refused {statements : List String} (outside : s.own.inTransaction = false)
      (refused : ∃ inner h, made = inner ++ [.call h .rollback false])
      (fates : ∀ later, fates s.hasOpen made later
        = statements.map fun sql => (sql, fate true later)) :
      Relinquished s made statements
  -- They joined the transaction that was open, and go the way of it.
  | joined {statements : List String} (inside : s.own.inTransaction = true)
      (fates : ∀ later, fates s.hasOpen made later
        = statements.map fun sql => (sql, fate s.hasOpen later)) :
      Relinquished s made statements

/-- What leaves nothing behind may come first. -/
theorem Relinquished.behind {table : String} {s t : State η (Recorded η σ)}
    {first made : List (Contact η)} {statements : List String} (hadds : Adds table s t first)
    (hfirst : Fruitless first) (hopen : s.own.inTransaction = true → t.hasOpen = s.hasOpen)
    (h : Relinquished t made statements) : Relinquished s (first ++ made) statements := by
  have hfates : ∀ later, fates s.hasOpen (first ++ made) later = fates t.hasOpen made later := by
    intro later
    rw [fates_append, fates_of_accepted_nil _ first _ hfirst.accepted, List.nil_append,
      hadds.hasOpen]
  cases h with
  | nothing none =>
      refine .nothing ?_
      rw [accepted_append, hfirst.accepted, none]
      rfl
  | undone outside rolledBack fates =>
      rcases rolledBack with ⟨inner, h, rfl⟩
      refine .undone (hadds.inTransaction.symm.trans outside)
        ⟨first ++ inner, h, (List.append_assoc ..).symm⟩ fun later => ?_
      rw [hfates, fates later]
  | refused outside refused fates =>
      rcases refused with ⟨inner, h, rfl⟩
      refine .refused (hadds.inTransaction.symm.trans outside)
        ⟨first ++ inner, h, (List.append_assoc ..).symm⟩ fun later => ?_
      rw [hfates, fates later]
  | joined inside fates =>
      have hinside := hadds.inTransaction.symm.trans inside
      refine .joined hinside fun later => ?_
      rw [hfates, fates later, hopen hinside]

/-- Statements of a transaction that was given up are undone, unless its rollback was refused. -/
theorem Relinquished.abandoned {s : State η (Recorded η σ)} {inner last : List (Contact η)}
    {statements : List String} {undone : Bool} (outside : s.own.inTransaction = false)
    (hran : Ran inner statements) (habandons : Abandons last undone) (first : η) :
    Relinquished s (.call first .begin true :: inner ++ last) statements := by
  have hfates : ∀ later, fates s.hasOpen (.call first .begin true :: inner ++ last) later
      = statements.map fun sql => (sql, if undone then .undone else fate true later) := by
    intro later
    rw [fates_enclosed hran habandons.accepted first s.hasOpen later, habandons.fate]
  rcases habandons.ends with ⟨before, h, rfl⟩
  have hends : .call first .begin true :: inner ++ (before ++ [.call h .rollback undone])
      = (.call first .begin true :: inner ++ before) ++ [.call h .rollback undone] :=
    (List.append_assoc ..).symm
  cases undone with
  | true => exact .undone outside ⟨_, h, hends⟩ hfates
  | false => exact .refused outside ⟨_, h, hends⟩ hfates

/-- What a migration runs that moves the record to a version, by what was known of the table and by
    its contacts. -/
inductive Moved (db : Database η σ) (schema : Schema) (table : String) (known : Option UInt32)
    (made : List (Contact η)) : MigrationOutcome → UInt32 → List String → Prop where
  -- The table is created as declared.
  | created : Moved db schema table known made .created schema.version
      [db.dialect.createTable schema table db.config.charset]
  -- An older version is upgraded.
  | upgraded {statements : List String} (older : known.getD 1 < schema.version)
      (path : schema.upgradePath (known.getD 1) schema.version = .ok statements) :
      Moved db schema table known made (.upgraded (known.getD 1) schema.version) schema.version
        statements
  -- The table was found and counts as the first version.
  | adopted (unknown : known = none) (recent : schema.version ≤ 1)
      (found : ∃ h, .call h (.query (probeStatement table) ∅) true ∈ made) :
      Moved db schema table known made .unchanged 1 []

/-- What a migration leaves behind. -/
inductive Brought (db : Database η σ) (schema : Schema) (table : String)
    (s t : State η (Recorded η σ)) : MigrationOutcome → Prop where
  -- The record moves, and the statements behind it share the fate of what is run next.
  | recorded {outcome : MigrationOutcome} {v : UInt32} {made : List (Contact η)}
      {statements : List String}
      (moved : Moved db schema table (s.version table) made outcome v statements)
      (contacts : t.contacts = s.contacts ++ made) (record : t.record table = some (.ofVersion v))
      (stands : Stands s.hasOpen made statements) : Brought db schema table s t outcome
  -- The record is recent enough.
  | recent {made : List (Contact η)} (adds : Adds table s t made) :
      Brought db schema table s t .unchanged
  -- Something failed.
  | failed {made : List (Contact η)} {statements : List String} (reason : String)
      (adds : Adds table s t made)
      (path : statements <+: schema.steps ((s.version table).getD 1) schema.version)
      (relinquished : Relinquished s made statements) :
      Brought db schema table s t (.failed reason)

/-- What an upgrade leaves behind that succeeds. -/
def Carried (schema : Schema) (table : String) (older newer : UInt32)
    (s t : State η (Recorded η σ)) : Prop :=
  ∃ made statements, schema.upgradePath older newer = .ok statements
    ∧ Stands s.hasOpen made statements ∧ Adds table s t made

/-- What an upgrade leaves behind that fails. -/
def Dropped (schema : Schema) (table : String) (older newer : UInt32)
    (s t : State η (Recorded η σ)) : Prop :=
  ∃ made statements, statements <+: schema.steps older newer
    ∧ Relinquished s made statements ∧ Adds table s t made

namespace Database

variable (db : Database η σ) (schema : Schema) (table : String)

/-- An upgrade that joins a transaction leaves its statements to it. -/
theorem upgrade_inside (older newer : UInt32) (s : State η (Recorded η σ))
    (hinside : s.own.inTransaction = true) :
    (db.recorded.transaction (db.recorded.runUpgrade schema older newer)).Yields s
      (fun _ t => Carried schema table older newer s t)
      fun t => Dropped schema table older newer s t := by
  have hbody := (db.runUpgrade_performed table schema older newer s hinside).yields
  refine (hbody.mono ?_ ?_).of_run_eq (transaction_inside _ _ s hinside)
  · rintro _ t ⟨made, hmade, hadds⟩
    rcases hmade.ran_of_ok with ⟨statements, hpath, hran⟩
    exact ⟨made, statements, hpath, .of_ran hran, hadds.toAdds⟩
  · rintro t ⟨_, made, hmade, hadds⟩
    rcases hmade.ran with ⟨statements, hpath, hran⟩
    refine ⟨made, statements, hpath, .joined hinside fun later => ?_, hadds.toAdds⟩
    rw [fates_quiet hran.quiet, hran.accepted]

/-- An upgrade with a transaction of its own adds that. -/
theorem upgrade_transacted (older newer : UInt32) (s : State η (Recorded η σ))
    (outside : s.own.inTransaction = false) :
    (db.recorded.transaction (db.recorded.runUpgrade schema older newer)).Ends s fun r t =>
      ∃ made, Transacted s.own.handle
          (Performed s.own.handle (schema.upgradePath older newer)) r made
        ∧ Continues table s t made := by
  refine db.transaction_transacted table outside fun t hflag hhandle => ?_
  rw [← hhandle]
  exact db.runUpgrade_performed table schema older newer t hflag

/-- It commits its statements or gives them up. -/
theorem upgrade_outside (older newer : UInt32) (s : State η (Recorded η σ))
    (outside : s.own.inTransaction = false) :
    (db.recorded.transaction (db.recorded.runUpgrade schema older newer)).Yields s
      (fun _ t => Carried schema table older newer s t)
      fun t => Dropped schema table older newer s t := by
  refine (db.upgrade_transacted schema table older newer s outside).yields.mono ?_ ?_
  · rintro _ t ⟨made, htransacted, hadds⟩
    cases htransacted with
    | committed body =>
        rcases body.ran_of_ok with ⟨statements, hpath, hran⟩
        exact ⟨_, statements, hpath, .committed hran _ _, hadds.toAdds⟩
  · rintro t ⟨e, made, htransacted, hadds⟩
    cases htransacted with
    | refused => exact ⟨_, [], List.nil_prefix, .nothing rfl, hadds.toAdds⟩
    | undone body undone =>
        rcases body.ran with ⟨statements, hpath, hran⟩
        exact ⟨_, statements, hpath, .abandoned outside hran (.body _ undone) _, hadds.toAdds⟩
    | uncommitted body e undone =>
        rcases body.ran with ⟨statements, hpath, hran⟩
        exact ⟨_, statements, hpath, .abandoned outside hran (.commit _ undone) _, hadds.toAdds⟩

/-- The statements of an upgrade stand behind a success, and are relinquished behind a failure. -/
theorem upgrade_sent (older newer : UInt32) (s : State η (Recorded η σ)) :
    (db.recorded.transaction (db.recorded.runUpgrade schema older newer)).Yields s
      (fun _ t => Carried schema table older newer s t)
      fun t => Dropped schema table older newer s t := by
  cases hflag : s.own.inTransaction with
  | true => exact db.upgrade_inside schema table older newer s hflag
  | false => exact db.upgrade_outside schema table older newer s hflag

/-- Recording a version and what comes behind it add no contact. -/
theorem conclusion_sent (v : UInt32) (r : LogRecord) (outcome : MigrationOutcome)
    (s : State η (Recorded η σ)) :
    (do
      recordVersion table v
      Attempt.always do
        invalidate table
        report r
      return outcome : Attempt η (Recorded η σ) MigrationOutcome).Yields s
      (fun o t => o = outcome ∧ t.contacts = s.contacts ∧ t.record table = some (.ofVersion v)
        ∧ t.own.handle = s.own.handle ∧ t.own.inTransaction = s.own.inTransaction)
      fun _ => False := by
  have hlast : (staying η σ table).Holds (do invalidate table; report r) :=
    Frame.holds_bind (Staying.invalidate table _) fun _ => (Staying.reports table).report r
  have hrecord : (recordVersion table v : Attempt η (Recorded η σ) Unit).Yields s
      (fun _ t => t.contacts = s.contacts ∧ t.record table = some (.ofVersion v)
        ∧ t.own = s.own)
      fun _ => False :=
    .of_run_ok (recordVersion_run table v s) ⟨rfl, OrderedMap.get?_insert_self _ _ _, rfl⟩
  refine hrecord.bind (fun _ t ⟨hcontacts, hput, hown⟩ => .always_bind (.pure ?_)) fun _ h => h
  refine ⟨rfl, ?_, ?_, ?_, ?_⟩
  · rw [(hlast t).contacts, List.append_nil, hcontacts]
  · rw [(hlast t).record, hput]
  · rw [(hlast t).handle, hown]
  · rw [(hlast t).inTransaction, hown]

section

variable {s t : State η (Recorded η σ)} {first : List (Contact η)}

/-- A creation behind a look for the table. -/
theorem createTable_sent (hfirst : Fruitless first) (hadds : Adds table s t first) :
    (db.recorded.createTable schema table).Yields t
      (fun o u => Brought db schema table s u o) fun _ => False := by
  unfold createTable
  refine (db.execute_adds table _ ∅ t).settled_bind (fun _ u hu => ?_) fun e u hu => ?_
  · rcases hu with ⟨before, h, hbefore, hrest⟩
    refine (conclusion_sent table schema.version _ .created u).mono ?_ fun _ h => h
    rintro _ v ⟨rfl, hcontacts, hrecord, -⟩
    refine .recorded .created ?_ hrecord (.last (hfirst.append hbefore) h _ ∅)
    rw [hcontacts, hrest.contacts, hadds.contacts]
    simp only [List.append_assoc]
    rfl
  · rcases hu with ⟨made, hmade, hrest⟩
    refine .framed_bind ((Resting.reports table).report _) fun _ v hv => .pure ?_
    exact .failed e.message ((hadds.trans hrest).rest hv) List.nil_prefix
      (.nothing (hfirst.append hmade).accepted)

/-- Bringing up a table behind a look for it. -/
theorem bringUp_sent (hfirst : Fruitless first) (hadds : Adds table s t first)
    (hopen : s.own.inTransaction = true → t.hasOpen = s.hasOpen)
    (hfound : s.version table = none →
      ∃ h, Contact.call h (.query (probeStatement table) ∅) true ∈ first) :
    (db.recorded.bringUp schema table (s.version table)).Yields t
      (fun o u => Brought db schema table s u o) fun _ => False := by
  unfold bringUp
  by_cases hrecent : schema.version ≤ (s.version table).getD 1
  · simp only [if_pos hrecent]
    rcases hversion : s.version table with _ | v
    · -- The version that the table counts as is written down.
      rw [hversion] at hrecent
      simp only [Option.isNone_none, if_true, Option.getD_none]
      refine .bind (.of_run_ok (recordVersion_run table 1 t) (P := fun _ u =>
        u.contacts = t.contacts ∧ u.record table = some (.ofVersion 1))
        ⟨rfl, OrderedMap.get?_insert_self _ _ _⟩) (fun _ u hu => .pure ?_) fun _ h => h
      refine .recorded (.adopted hversion hrecent (hfound hversion)) ?_ hu.2 (.of_fruitless hfirst)
      rw [hu.1, hadds.contacts]
    · exact .pure (.recent hadds)
  · simp only [if_neg hrecent]
    unfold upgradeTable
    -- The report in front adds nothing.
    refine .framed_bind ((Resting.reports table).report _) fun _ r hr => ?_
    have hreported := hadds.rest hr
    refine (db.upgrade_sent schema table _ _ _).settled_bind (fun count u hu => ?_)
      fun e u hu => ?_
    · rcases hu with ⟨made, statements, hpath, hstands, hrest⟩
      refine (conclusion_sent table _ _ _ u).mono ?_ fun _ h => h
      rintro _ v ⟨rfl, hcontacts, hrecord, -⟩
      rw [hreported.hasOpen] at hstands
      refine .recorded (.upgraded (UInt32.not_le.mp hrecent) hpath) ?_ hrecord
        (.behind hfirst hstands)
      rw [hcontacts, hrest.contacts, hreported.contacts, List.append_assoc]
    · rcases hu with ⟨made, statements, hpath, hrelinquished, hrest⟩
      refine .framed_bind ((Resting.reports table).report _) fun _ v hv => .pure ?_
      refine .failed e.message ((hreported.trans hrest).rest hv) hpath ?_
      refine hrelinquished.behind hreported hfirst fun hinside => ?_
      rw [hr.hasOpen]
      exact hopen hinside

end

/-- A migration with a durable record leaves behind one of the things listed. -/
theorem migrate_sent (s : State η (Recorded η σ)) (hdurable : s.Durable table) :
    (db.recorded.migrate schema table).Yields s (fun o t => Brought db schema table s t o)
      fun _ => False := by
  have hasked := recordedVersion_adds hdurable
  rcases db.probe_adds table table ((recordedVersion table).run s).2 with
    ⟨made, hmade, hprobed, hfound⟩
  have hprobing : (inside η σ).law.Holds (db.recorded.probe table) :=
    (inside_respects db).upholds.obeys.probe trivial
  have hinside := hprobing ((recordedVersion table).run s).2
  have hadds := hasked.trans hprobed
  refine db.recorded.migrate_branches schema table s (fun _ t ht => ?_) (fun _ t ht => ?_)
    fun v hknown _ => ?_
  · rw [ht] at hadds
    exact db.createTable_sent schema table hmade hadds
  · rw [ht] at hadds hprobed hfound hinside
    refine db.bringUp_sent schema table hmade hadds (fun hflag => ?_) fun _ => hfound rfl
    have hquiet := (hinside (hasked.inTransaction.trans hflag)).quiet hprobed
    rw [hprobed.hasOpen, hquiet.hasOpen, hasked.hasOpen]
    rfl
  · refine db.bringUp_sent schema table .nil hasked (fun _ => hasked.hasOpen) fun hnone => ?_
    cases hknown.symm.trans hnone

end Database

end SqlMapper
