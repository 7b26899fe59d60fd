import SqlMapper.Proofs.Client.Fates
import SqlMapper.Proofs.Migration.Standing
import SqlMapper.Proofs.Program.Bracketing

/-!
# What Statements Send

The contacts that a statement adds, with the record of a table in view.

A statement that is sent until it is answered adds its attempts, and all of them
but the last have failed: `Tries` lists them. Only the last attempt can leave
something behind, so neither a write that fails nor a look for a table does.
None of that touches the record of a table or whether a transaction counts as
open.

## Main definitions

* `Adds`: Contacts are added, and nothing else is changed that matters to a migration.
* `resting`: The frame of what adds none.
* `Tries`: The attempts of one statement.

## Theorems

* `sendFrom_tries`, `sendFrom_adds`: A statement adds its attempts.
* `executeDirect_tries`, `execute_tries`, `execute_adds`: A write.
* `probe_tries`, `probe_adds`: A look for a table.
-/

namespace SqlMapper

variable {η σ α : Type}

/-- Contacts are added, and nothing is changed about the record of a table or about whether a
    transaction counts as open. -/
structure Adds (table : String) (s t : State η (Recorded η σ)) (made : List (Contact η)) :
    Prop where
  contacts : t.contacts = s.contacts ++ made
  record : t.record table = s.record table
  inTransaction : t.own.inTransaction = s.own.inTransaction

namespace Adds

variable {table : String} {s t u : State η (Recorded η σ)} {first second made : List (Contact η)}

theorem refl (s : State η (Recorded η σ)) : Adds table s s [] :=
  ⟨(List.append_nil _).symm, rfl, rfl⟩

theorem trans (hst : Adds table s t first) (htu : Adds table t u second) :
    Adds table s u (first ++ second) where
  contacts := by rw [htu.contacts, hst.contacts, List.append_assoc]
  record := htu.record.trans hst.record
  inTransaction := htu.inTransaction.trans hst.inTransaction

theorem rest (hst : Adds table s t made) (htu : Adds table t u []) : Adds table s u made := by
  have hwhole := hst.trans htu
  rw [List.append_nil] at hwhole
  exact hwhole

theorem hasOpen (h : Adds table s t made) : t.hasOpen = SqlMapper.hasOpen s.hasOpen made := by
  rw [State.hasOpen, h.contacts, hasOpen_append]
  rfl

theorem durable (h : Adds table s t made) (hs : s.Durable table) : t.Durable table := by
  rw [State.Durable, h.record]
  exact hs

theorem version (h : Adds table s t made) (hs : s.Durable table) :
    t.version table = s.version table := by
  rw [version_eq (h.durable hs), version_eq hs, h.record]

end Adds

/-- No contact is added. -/
def resting (η σ : Type) (table : String) : Frame η (Recorded η σ) where
  rel s t := Adds table s t []
  refl := Adds.refl
  trans hst htu := hst.trans htu

namespace Resting

open SqlMapper.Frame

variable (table : String)

theorem reports : Reporting (resting η σ table) :=
  ⟨fun _ _ => ⟨(List.append_nil _).symm, rfl, rfl⟩⟩

theorem invalidate (other : String) : (resting η σ table).Holds (SqlMapper.invalidate other) :=
  fun s => ⟨(List.append_nil _).symm, record_invalidate table other s, rfl⟩

theorem invalidateAll (tables : List String) :
    (resting η σ table).Holds (SqlMapper.invalidateAll tables) :=
  holds_forM (invalidate table) tables

end Resting

/-- The contacts of a statement that is sent until it is answered: each attempt but the last has
    failed, and a session was asked for behind it. -/
inductive Tries (request : Request) (succeeded : Bool) : List (Contact η) → Prop where
  -- The last attempt.
  | last (h : η) : Tries request succeeded [.call h request succeeded]
  -- One more in front.
  | again (h : η) (session : Option η) {made : List (Contact η)}
      (rest : Tries request succeeded made) :
      Tries request succeeded (.call h request false :: .connect session :: made)

namespace Tries

variable {request : Request} {succeeded : Bool} {made : List (Contact η)}

/-- Only the last attempt can leave something behind. -/
theorem fruitless_before (h : Tries request succeeded made) : ∃ before session,
    Fruitless before ∧ made = before ++ [.call session request succeeded] := by
  induction h with
  | last session => exact ⟨[], session, .nil, rfl⟩
  | again session dialed rest ih =>
      rcases ih with ⟨before, last, hbefore, rfl⟩
      exact ⟨_, last, ((Fruitless.refused session request).append (.dialed dialed)).append hbefore,
        rfl⟩

/-- On one session there is one attempt. -/
theorem eq_of_statements {session : η} (h : Tries request succeeded made)
    (hmade : ∀ c ∈ made, c.IsStatement session) : made = [.call session request succeeded] := by
  cases h with
  | last other =>
      rcases hmade _ List.mem_cons_self with ⟨_, _, _, _, hcall⟩
      cases hcall
      rfl
  | again other dialed rest =>
      rcases hmade _ (List.mem_cons_of_mem _ List.mem_cons_self) with ⟨_, _, _, _, hdial⟩
      cases hdial

end Tries

theorem recordedVersion_adds {table : String} {s : State η (Recorded η σ)}
    (h : s.Durable table) : Adds table s ((recordedVersion table).run s).2 [] := by
  rw [recordedVersion_run h]
  exact ⟨(List.append_nil _).symm, rfl, rfl⟩

namespace Database

variable (db : Database η σ) (table sql : String) (binds : Binds) (readonly : Bool)

theorem send_adds (s : State η (Recorded η σ)) :
    let done := (db.recorded.send sql binds readonly).run s
    Adds table s done.2
      [.call s.own.handle (Request.ofStatement sql binds readonly) done.1.isOk] := by
  intro done
  rcases db.send_recorded sql binds readonly s with ⟨hresult, -, hcontacts, hkept⟩
  have hrecord := congrArg Standing.record (db.send_standing table sql binds readonly s)
  rw [← hresult] at hcontacts
  exact ⟨hcontacts, hrecord, hkept.inTransaction⟩

/-- A statement that is sent until it is answered adds its attempts. -/
theorem sendFrom_tries (attempt : UInt32) (s : State η (Recorded η σ)) :
    let done := (db.recorded.sendFrom sql binds readonly attempt).run s
    ∃ made, Tries (Request.ofStatement sql binds readonly) done.1.isOk made
      ∧ Adds table s done.2 made := by
  refine db.recorded.sendFrom_induction sql binds readonly attempt s
    (motive := fun s done => ∃ made, Tries (Request.ofStatement sql binds readonly) done.1.isOk made
      ∧ Adds table s done.2 made) ?_ ?_
  · intro attempt s
    rcases db.recorded.conclude_run sql binds attempt s.own.inTransaction
      ((db.recorded.send sql binds readonly).run s).1
      ((db.recorded.send sql binds readonly).run s).2 with ⟨log, hrun⟩
    rw [hrun]
    exact ⟨_, .last s.own.handle,
      (db.send_adds table sql binds readonly s).rest ((Resting.reports table).reporting _ log)⟩
  · -- An attempt behind which another comes has failed, and the session is asked for anew.
    intro attempt failure s done hcalls ⟨made, hmade, hrest⟩
    let sent := (db.recorded.send sql binds readonly).run s
    have hsent : Adds table s sent.2 [.call s.own.handle (Request.ofStatement sql binds readonly)
        sent.1.isOk] := db.send_adds table sql binds readonly s
    rw [isOk_of_callsForRetry hcalls] at hsent
    rcases db.recover_recorded attempt failure sent.2 with ⟨-, -, hdialed, hflag, -⟩
    have hkept : (((db.recorded.recover attempt failure).run sent.2).2.standing table)
        = sent.2.standing table := Steady.recover db attempt failure sent.2
    have hdial : Adds table sent.2 ((db.recorded.recover attempt failure).run sent.2).2 _ :=
      ⟨hdialed, congrArg Standing.record hkept, hflag⟩
    exact ⟨_, .again s.own.handle _ hmade, (hsent.trans hdial).trans hrest⟩

/-- Only the last attempt of a statement can leave something behind. -/
theorem sendFrom_adds (attempt : UInt32) (s : State η (Recorded η σ)) :
    let done := (db.recorded.sendFrom sql binds readonly attempt).run s
    ∃ before h, Fruitless before ∧ Adds table s done.2
      (before ++ [.call h (Request.ofStatement sql binds readonly) done.1.isOk]) := by
  intro done
  rcases db.sendFrom_tries table sql binds readonly attempt s with ⟨made, hmade, hadds⟩
  rcases hmade.fruitless_before with ⟨before, h, hbefore, rfl⟩
  exact ⟨before, h, hbefore, hadds⟩

/-- A write that drops no reads succeeds if its last attempt does. -/
theorem executeDirect_tries (s : State η (Recorded η σ)) :
    (db.recorded.executeDirect sql binds false).Yields s
      (fun _ t => ∃ made, Tries (.execute sql binds) true made ∧ Adds table s t made)
      fun t => ∃ made, Tries (.execute sql binds) false made ∧ Adds table s t made := by
  have hrun := db.recorded.executeDirect_run sql binds false s
  rcases db.sendFrom_tries table sql binds false 1 s with ⟨made, hmade, hadds⟩
  rw [sendRetrying] at hrun
  rcases hresult : (db.recorded.sendFrom sql binds false 1).run s with ⟨failure | outcome, t⟩
  · rw [hresult] at hmade hadds hrun
    exact .of_run_failed hrun
      ⟨made, hmade, hadds.rest ((Resting.reports table).reporting t _)⟩
  · rw [hresult] at hmade hadds hrun
    exact .of_run_ok hrun ⟨made, hmade, hadds⟩

/-- A write succeeds if its last attempt does. -/
theorem execute_tries (s : State η (Recorded η σ)) :
    (db.recorded.execute sql binds false).Yields s
      (fun _ t => ∃ made, Tries (.execute sql binds) true made ∧ Adds table s t made)
      fun t => ∃ made, Tries (.execute sql binds) false made ∧ Adds table s t made := by
  -- Dropping the reads of the tables that may have been written comes last.
  have hlast : (resting η σ table).Holds (invalidateAll (writtenTables sql)) :=
    Resting.invalidateAll table _
  refine (db.executeDirect_tries table sql binds s).thereafter ?_ ?_
  · rintro _ t ⟨made, hmade, hadds⟩
    exact ⟨made, hmade, hadds.rest (hlast t)⟩
  · rintro t ⟨made, hmade, hadds⟩
    exact ⟨made, hmade, hadds.rest (hlast t)⟩

/-- A write that succeeds is the last contact that it adds, and the only one that leaves something
    behind. -/
theorem execute_adds (s : State η (Recorded η σ)) :
    (db.recorded.execute sql binds false).Yields s
      (fun _ t => ∃ before h, Fruitless before
        ∧ Adds table s t (before ++ [.call h (.execute sql binds) true]))
      fun t => ∃ made, Fruitless made ∧ Adds table s t made := by
  refine (db.execute_tries table sql binds s).mono ?_ ?_
  · rintro _ t ⟨made, hmade, hadds⟩
    rcases hmade.fruitless_before with ⟨before, h, hbefore, rfl⟩
    exact ⟨before, h, hbefore, hadds⟩
  · rintro t ⟨made, hmade, hadds⟩
    rcases hmade.fruitless_before with ⟨before, h, hbefore, rfl⟩
    exact ⟨_, hbefore.append (.refused h _), hadds⟩

/-- A look for a table is a query that is sent until it is answered, if the table can be named. -/
theorem probe_tries {probed : String} (hname : isIdentifier probed = true)
    (s : State η (Recorded η σ)) :
    let done := (db.recorded.probe probed).run s
    ∃ made, Tries (.query (probeStatement probed) ∅) done.1 made ∧ Adds table s done.2 made := by
  unfold probe
  rw [if_pos hname, Action.run_bind]
  rcases db.sendFrom_tries table (probeStatement probed) ∅ true 1 s with ⟨made, hmade, hadds⟩
  rw [sendRetrying]
  rcases hsent : (db.recorded.sendFrom (probeStatement probed) ∅ true 1).run s with
    ⟨failure | outcome, t⟩
  · rw [hsent] at hmade hadds
    exact ⟨made, hmade, hadds.rest ((Resting.reports table).report _ t)⟩
  · rw [hsent] at hmade hadds
    exact ⟨made, hmade, hadds⟩

/-- A look for a table leaves nothing behind. If it finds the table, a query for that has
    succeeded. -/
theorem probe_adds (probed : String) (s : State η (Recorded η σ)) :
    let done := (db.recorded.probe probed).run s
    ∃ made, Fruitless made ∧ Adds table s done.2 made
      ∧ (done.1 = true → ∃ h, .call h (.query (probeStatement probed) ∅) true ∈ made) := by
  intro done
  by_cases hname : isIdentifier probed = true
  · rcases db.probe_tries table hname s with ⟨made, hmade, hadds⟩
    rcases hmade.fruitless_before with ⟨before, h, hbefore, rfl⟩
    refine ⟨_, hbefore.append (.queried h _ _ _), hadds, fun hfound => ⟨h, ?_⟩⟩
    rw [← hfound]
    exact List.mem_append_right _ (List.mem_singleton_self _)
  · have hdone : done = (false, s) := by
      show (probe _ probed).run s = _
      rw [probe, if_neg hname]
      rfl
    rw [hdone]
    exact ⟨[], .nil, .refl s, fun hfound => absurd hfound Bool.false_ne_true⟩

end Database

end SqlMapper
