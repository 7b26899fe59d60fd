import SqlMapper.Proofs.Migration.Ledger
import SqlMapper.Proofs.Migration.Record
import SqlMapper.Proofs.Engine.Retrying
import SqlMapper.Proofs.Engine.Switching
import SqlMapper.Proofs.Engine.Yields

/-!
# Standings

What matters of a connection while a table is migrated.

Three things decide how migrations go and what they leave behind: the record of
the table's version, whether the engine takes a transaction to be open, and the
ledger. Together they are the standing of a connection, and every step of the
engine is a simple change of it: a report changes nothing, a statement that
succeeds is entered, a beginning opens the ledger and the flag together.

Statements are sent again on rebuilt sessions outside of transactions. That
makes no difference to the ledger either, since what failed was not entered.

## Main definitions

* `Standing`: The record of a version, the flag of the engine, and the ledger.
* `steady`: The frame of what changes nothing about that.

## Theorems

* `exchange_standing`: A call is entered.
* `sendFrom_standing`: A statement is entered once, however often it is sent.
* `execute_standing`: It either succeeds and is entered, or fails and is not.
* `begin_standing`, `commit_standing`, `rollback_standing`: The ends of a transaction.
-/

namespace SqlMapper

variable {η σ α : Type}

/-- What matters of a connection while a table is migrated. -/
structure Standing where
  -- The record of the table's version.
  record : Option CacheEntry
  -- Whether the engine takes a transaction to be open.
  inTransaction : Bool
  -- What the contacts come to.
  ledger : Ledger

/-- The version that a standing's record holds. -/
def Standing.version (b : Standing) : Option UInt32 :=
  b.record.bind CacheEntry.version?

/-- The standing with entries in its ledger. -/
def Standing.entered (b : Standing) (entry : Ledger → Ledger) : Standing :=
  { b with ledger := entry b.ledger }

/-- The standing with entries in its ledger and a transaction that counts as open or not. -/
def Standing.switched (b : Standing) (opened : Bool) (entry : Ledger → Ledger) : Standing :=
  { b with inTransaction := opened, ledger := entry b.ledger }

/-- The standing of a connection with respect to a table. -/
def State.standing (s : State η (Recorded η σ)) (table : String) : Standing where
  record := s.record table
  inTransaction := s.own.inTransaction
  ledger := s.ledger

/-- Nothing about the standing is changed. -/
def steady (η σ : Type) (table : String) : Frame η (Recorded η σ) where
  rel s t := t.standing table = s.standing table
  refl _ := rfl
  trans := fun hst htu => htu.trans hst

namespace Steady

open SqlMapper.Frame

variable {table : String}

theorem reports : Reporting (steady η σ table) :=
  ⟨fun _ _ => rfl⟩

theorem invalidate (other : String) : (steady η σ table).Holds (SqlMapper.invalidate other) := by
  intro s
  show Standing.mk _ s.own.inTransaction s.ledger = _
  rw [record_invalidate]
  rfl

theorem invalidateAll (tables : List String) :
    (steady η σ table).Holds (SqlMapper.invalidateAll tables) :=
  holds_forM invalidate tables

theorem recover (db : Database η σ) (attempt : UInt32) (failure : ClientFailure) :
    (steady η σ table).Holds (db.recorded.recover attempt failure) := by
  intro s
  rcases db.recorded.recover_rebuilt attempt failure s with ⟨hrebuilt, -⟩
  rcases db.recover_recorded attempt failure s with ⟨-, -, hcontacts, hflag, -⟩
  have hledger := ledger_of_contacts hcontacts
  show Standing.mk (OrderedMap.get? _ _) _ _ = _
  rw [hrebuilt.cache, hflag, hledger]
  rfl

end Steady

/-- Asking for a durable record yields its version, and changes nothing. -/
theorem recordedVersion_standing {table : String} {s : State η (Recorded η σ)}
    (h : s.Durable table) :
    ((recordedVersion table).run s).1 = (s.standing table).version
      ∧ ((recordedVersion table).run s).2.standing table = s.standing table := by
  rw [recordedVersion_run h]
  exact ⟨rfl, rfl⟩

namespace Database

theorem isOk_of_callsForRetry {transactional : Bool} {r : Except ClientFailure Outcome}
    {failure : ClientFailure} (h : callsForRetry transactional r = some failure) :
    r.isOk = false := by
  cases r with
  | ok outcome => cases h
  | error e => rfl

/-- A call is entered in the ledger. -/
theorem exchange_standing (table : String) (shown : Event) (request : Request)
    (call : η → StateM σ (Reply α)) (s : State η (Recorded η σ)) :
    let done := (exchange shown (request.recorded call)).run s
    done.2.standing table = (s.standing table).entered
      (·.enter (.call s.own.handle request done.1.isOk)) := by
  intro done
  let reply := (call s.own.handle).run s.around.world.world
  let contact : Contact η := .call s.own.handle request reply.1.outcome.isOk
  -- The state in which the writes of others are counted.
  let noted : State η (Recorded η σ) := { s with around := { s.around with
    world := { world := reply.2, contacts := s.contacts ++ [contact] }
    journal := s.around.journal ++ [shown] } }
  have hrest : done.2.standing table = noted.standing table :=
    Steady.invalidateAll reply.1.meanwhile noted
  have hledger : noted.ledger = s.ledger.enter contact := ledger_of_contacts rfl
  rw [hrest]
  show Standing.mk _ _ noted.ledger = _
  rw [hledger]
  rfl

/-- A statement that is sent once is entered if it changes rows and succeeds. -/
theorem send_standing (db : Database η σ) (table sql : String) (binds : Binds) (readonly : Bool)
    (s : State η (Recorded η σ)) :
    let done := (db.recorded.send sql binds readonly).run s
    done.2.standing table
      = (s.standing table).entered (·.ran sql readonly done.1.isOk) := by
  intro done
  have hentry : (fun l : Ledger => l.ran sql readonly done.1.isOk) = fun l =>
      l.enter (.call s.own.handle (Request.ofStatement sql binds readonly) done.1.isOk) :=
    funext fun l => (l.enter_statement s.own.handle sql binds readonly _).symm
  rw [hentry]
  cases readonly with
  | true =>
      have hsent := exchange_standing table (.query sql binds) (.query sql binds)
        (fun h => db.client.query h sql binds) s
      rw [show done.1.isOk = _ from isOk_map Outcome.rows _]
      exact hsent
  | false =>
      have hsent := exchange_standing table (.execute sql binds) (.execute sql binds)
        (fun h => db.client.execute h sql binds) s
      rw [show done.1.isOk = _ from isOk_map Outcome.affected _]
      exact hsent

/-- A statement is entered once, however often it is sent: what is sent again has failed. -/
theorem sendFrom_standing (db : Database η σ) (table sql : String) (binds : Binds)
    (readonly : Bool) (attempt : UInt32) (s : State η (Recorded η σ)) :
    let done := (db.recorded.sendFrom sql binds readonly attempt).run s
    done.2.standing table
      = (s.standing table).entered (·.ran sql readonly done.1.isOk) := by
  refine db.recorded.sendFrom_induction sql binds readonly attempt s
    (motive := fun s done => done.2.standing table
      = (s.standing table).entered (·.ran sql readonly done.1.isOk)) ?_ ?_
  · intro attempt s
    rcases db.recorded.conclude_run sql binds attempt s.own.inTransaction
      ((db.recorded.send sql binds readonly).run s).1
      ((db.recorded.send sql binds readonly).run s).2 with ⟨log, hrun⟩
    rw [hrun]
    exact db.send_standing table sql binds readonly s
  · intro attempt failure s done hcalls hrest
    let sent := (db.recorded.send sql binds readonly).run s
    have hsent : sent.2.standing table
        = (s.standing table).entered (·.ran sql readonly sent.1.isOk) :=
      db.send_standing table sql binds readonly s
    rw [isOk_of_callsForRetry hcalls] at hsent
    have hkept : sent.2.standing table = s.standing table := hsent
    rw [Steady.recover db attempt failure sent.2, hkept] at hrest
    exact hrest

/-- A write succeeds and is entered, or fails and is not. -/
theorem execute_standing (db : Database η σ) (table sql : String) (binds : Binds)
    (s : State η (Recorded η σ)) :
    (db.recorded.execute sql binds false).Yields s
      (fun _ t => t.standing table = (s.standing table).entered (·.take sql))
      fun t => t.standing table = s.standing table := by
  have hdirect : (db.recorded.executeDirect sql binds false).Yields s
      (fun _ t => t.standing table = (s.standing table).entered (·.take sql))
      fun t => t.standing table = s.standing table := by
    have hsent := db.sendFrom_standing table sql binds false 1 s
    have hrun := db.recorded.executeDirect_run sql binds false s
    rw [sendRetrying] at hrun
    rcases hresult : (db.recorded.sendFrom sql binds false 1).run s with ⟨failure | outcome, t⟩
    · rw [hresult] at hsent hrun
      exact .of_run_failed hrun hsent
    · rw [hresult] at hsent hrun
      exact .of_run_ok hrun hsent
  -- Dropping the reads of the tables that may have been written comes last.
  have hlast : (steady η σ table).Holds (invalidateAll (writtenTables sql)) :=
    Steady.invalidateAll _
  exact hdirect.thereafter (fun _ t h => (hlast t).trans h) fun t h => (hlast t).trans h

/-- A probe changes nothing, however it goes. -/
theorem probe_standing (db : Database η σ) (table probed : String) :
    (steady η σ table).Holds (db.recorded.probe probed) := by
  have hsending : (steady η σ table).Holds
      (db.recorded.sendRetrying (probeStatement probed) ∅ true) := by
    intro s
    have hsent := db.sendFrom_standing table (probeStatement probed) ∅ true 1 s
    simp only [Ledger.ran_readonly] at hsent
    exact hsent
  unfold probe
  by_cases hname : isIdentifier probed = true
  · rw [if_pos hname]
    refine Frame.holds_bind hsending fun r => ?_
    cases r with
    | ok outcome => exact Frame.holds_pure true
    | error failure =>
        exact Frame.holds_bind (Steady.reports.report _) fun _ => Frame.holds_pure false
  · rw [if_neg hname]
    exact Frame.holds_pure false

/-- A call that opens or closes a transaction is entered, and the flag follows it. -/
theorem switch_standing (table word : String) (request : Request) (call : η → StateM σ (Reply Unit))
    (opened : Bool) (message : String) (s : State η (Recorded η σ)) :
    (switch word (request.recorded call) opened message).Yields s
      (fun _ t => t.standing table
        = (s.standing table).switched opened (·.enter (.call s.own.handle request true)))
      fun t => t.standing table
        = (s.standing table).entered (·.enter (.call s.own.handle request false)) := by
  have hsent := exchange_standing table (.execute word ∅) request call s
  refine .always_bind ?_
  rcases hrun : (exchange (.execute word ∅) (request.recorded call)).run s with
    ⟨failure | _, t⟩
  · rw [hrun] at hsent
    exact .raise fun log => hsent
  · rw [hrun] at hsent
    have hflag : (t.standing table).switched opened id
        = (s.standing table).switched opened (·.enter (.call s.own.handle request true)) :=
      congrArg (·.switched opened id) hsent
    exact .always_bind (.always hflag)

/-- Beginning a transaction opens it, or changes nothing. -/
theorem begin_standing (db : Database η σ) (table : String) (s : State η (Recorded η σ)) :
    db.recorded.begin.Yields s
      (fun _ t => t.standing table = (s.standing table).switched true (·.holding []))
      fun t => t.standing table = s.standing table :=
  switch_standing table "BEGIN" .begin db.client.begin true "transaction started" s

/-- Committing it closes it, or changes nothing. -/
theorem commit_standing (db : Database η σ) (table : String) (s : State η (Recorded η σ)) :
    db.recorded.commit.Yields s
      (fun _ t => t.standing table = (s.standing table).switched false Ledger.settled)
      fun t => t.standing table = s.standing table :=
  switch_standing table "COMMIT" .commit db.client.commit false "transaction committed" s

/-- Rolling it back closes it in any case. -/
theorem rollback_standing (db : Database η σ) (table : String) (s : State η (Recorded η σ)) :
    (db.recorded.rollback.run s).2.standing table
      = (s.standing table).switched false Ledger.dropped := by
  let closed : State η (Recorded η σ) := { s with own := { s.own with inTransaction := false } }
  let sent := (exchange (.execute "ROLLBACK" ∅) (Request.rollback.recorded db.client.rollback)).run
    closed
  have hsent := exchange_standing table (.execute "ROLLBACK" ∅) .rollback db.client.rollback closed
  rcases db.recorded.rollback_reports s with ⟨r, hreport⟩
  have hkept : (db.recorded.rollback.run s).2.standing table = sent.2.standing table := by
    rw [hreport]
    exact Steady.reports.report r sent.2
  rw [hkept]
  exact hsent

/-- Ending a transaction whose body succeeded commits what it holds, or gives it up. -/
theorem close_standing (db : Database η σ) (table : String) (a : α) (s : State η (Recorded η σ)) :
    Attempt.Yields (ExceptT.mk (db.recorded.close (.ok a))) s
      (fun _ t => t.standing table = (s.standing table).switched false Ledger.settled)
      fun t => t.standing table = (s.standing table).switched false Ledger.dropped := by
  have hclose := close_ok_run db.recorded a s
  rcases (db.commit_standing table s).cases with
    ⟨_, t, hrun, hcommitted⟩ | ⟨e, t, hrun, hrefused⟩
  · rw [hrun] at hclose
    exact .of_run_ok hclose hcommitted
  · rw [hrun] at hclose
    have hrolled := db.rollback_standing table t
    rw [hrefused] at hrolled
    exact .of_run_failed hclose hrolled

/-- A transaction commits what its body leaves waiting, or changes nothing but what the body
    changed apart from that. -/
theorem transaction_standing (db : Database η σ) (table : String)
    {body : Attempt η (Recorded η σ) α} {s : State η (Recorded η σ)} {P Q : Standing → Prop}
    (h : s.own.inTransaction = false)
    (hbody : ∀ t, t.standing table = (s.standing table).switched true (·.holding []) →
      body.Yields t (fun _ u => P (u.standing table)) fun u => Q (u.standing table)) :
    (db.recorded.transaction body).Yields s
      (fun _ u => ∃ b, P b ∧ u.standing table = b.switched false Ledger.settled)
      fun u => u.standing table = s.standing table
        ∨ ∃ b, (P b ∨ Q b) ∧ u.standing table = b.switched false Ledger.dropped := by
  have hwhole := db.recorded.transaction_outside body s h
  rcases (db.begin_standing table s).cases with
    ⟨_, t, hbegin, hbegun⟩ | ⟨e, t, hbegin, hrefused⟩
  · rw [hbegin] at hwhole
    dsimp only at hwhole
    rcases (hbody t hbegun).cases with ⟨a, u, hrun, hP⟩ | ⟨e, u, hrun, hQ⟩
    · rw [hrun] at hwhole
      have hclose := db.close_standing table a u
      exact (hclose.mono (fun _ v hv => ⟨_, hP, hv⟩) fun v hv =>
        Or.inr ⟨_, Or.inl hP, hv⟩).of_run_eq hwhole
    · rw [hrun] at hwhole
      have hrolled := db.rollback_standing table u
      exact .of_run_failed hwhole (Or.inr ⟨_, Or.inr hQ, hrolled⟩)
  · rw [hbegin] at hwhole
    exact .of_run_failed hwhole (Or.inl hrefused)

end Database

end SqlMapper
