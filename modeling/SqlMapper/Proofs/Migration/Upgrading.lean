import SqlMapper.Engine.Migration
import SqlMapper.Proofs.Migration.Sent

/-!
# What Upgrades Send

The contacts of an upgrade, one by one.

In a transaction nothing is sent again, so each statement of an upgrade is one
contact, and all of them go to the session that is there. They come in their
order, up to the first that fails; if a script is missing on the way there are
none. Where no transaction was open they stand between a beginning and an end,
and the end tells how it went: a commit, a rollback, or both if the commit was
refused. If the beginning is refused there is nothing else, not even an end.

None of that touches the record of a table or leaves a transaction counted as
open that was not before.

## Main definitions

* `Continues`: Contacts are added, and the session is still in use.
* `staying`: The frame of what adds none and keeps the session.
* `Contact.write`: A write as a contact.
* `Performed`: What the statements of an upgrade add.
* `Transacted`: What a transaction adds around its body.
* `Schema.steps`: The statements between two versions, if none is missing.

## Theorems

* `execute_continues`: In a transaction a write is one contact.
* `statements_continue`: Several writes are sent in their order.
* `runUpgrade_performed`: The statements of an upgrade, in a transaction.
* `transaction_transacted`: A transaction where none was open.
-/

namespace SqlMapper

variable {η σ α : Type}

-- What is sent in an open transaction decides nothing about it.
theorem Within.quiet {s t : State η (Recorded η σ)} {made : List (Contact η)} (h : Within s t)
    {table : String} (hadds : Adds table s t made) : Quiet made := by
  rcases h.contacts with ⟨added, hcontacts, hstatements⟩
  rw [hadds.contacts, List.append_cancel_left_eq] at hcontacts
  rw [hcontacts]
  intro c hc
  rcases hstatements c hc with ⟨sql, binds, readonly, succeeded, rfl⟩
  cases readonly <;> cases succeeded <;> rfl

/-- Contacts are added, and the session is still in use. -/
structure Continues (table : String) (s t : State η (Recorded η σ)) (made : List (Contact η)) :
    Prop extends Adds table s t made where
  handle : t.own.handle = s.own.handle

namespace Continues

variable {table : String} {s t u : State η (Recorded η σ)} {first second : List (Contact η)}

theorem refl (s : State η (Recorded η σ)) : Continues table s s [] :=
  ⟨.refl s, rfl⟩

theorem trans (hst : Continues table s t first) (htu : Continues table t u second) :
    Continues table s u (first ++ second) :=
  ⟨hst.toAdds.trans htu.toAdds, htu.handle.trans hst.handle⟩

end Continues

/-- No contact is added, and the session is still in use. -/
def staying (η σ : Type) (table : String) : Frame η (Recorded η σ) where
  rel s t := Continues table s t []
  refl := Continues.refl
  trans hst htu := hst.trans htu

namespace Staying

variable (table : String)

theorem reports : Reporting (staying η σ table) :=
  ⟨fun _ _ => ⟨⟨(List.append_nil _).symm, rfl, rfl⟩, rfl⟩⟩

theorem invalidate (other : String) : (staying η σ table).Holds (SqlMapper.invalidate other) :=
  fun s => ⟨Resting.invalidate table other s, rfl⟩

end Staying

/-- A write without values as a contact. -/
def Contact.write (session : η) (succeeded : Bool) (sql : String) : Contact η :=
  .call session (.execute sql ∅) succeeded

theorem Ran.of_writes (session : η) (statements : List String) :
    Ran (statements.map (Contact.write session true)) statements where
  quiet := by
    intro c hc
    rcases List.mem_map.mp hc with ⟨sql, -, rfl⟩
    rfl
  accepted := by
    rw [SqlMapper.accepted, List.filterMap_map]
    exact List.filterMap_some

theorem Ran.of_refused (session : η) (sql : String) :
    Ran [Contact.write session false sql] [] where
  quiet := by
    intro c hc
    rw [List.mem_singleton.mp hc]
    rfl
  accepted := rfl

/-- What the statements of an upgrade add on a session, given those between its versions or the key
    of a script that is missing, and what comes of them. -/
inductive Performed (session : η) (path : Except String (List String)) :
    Except Error Nat → List (Contact η) → Prop where
  -- A script is missing. Nothing is sent, and the error names its key.
  | missing {key : String} (missing : path = .error key) :
      Performed session path (.error (.field key "missing upgrade script")) []
  -- A statement has failed, and is the last.
  | stopped {before : List String} {sql : String} {after : List String}
      (found : path = .ok (before ++ sql :: after)) (e : Error) :
      Performed session path (.error e)
        (before.map (Contact.write session true) ++ [Contact.write session false sql])
  -- All have succeeded.
  | complete {statements : List String} (found : path = .ok statements) :
      Performed session path (.ok statements.length)
        (statements.map (Contact.write session true))

/-- The statements between two versions, if none is missing. -/
def Schema.steps (schema : Schema) (older newer : UInt32) : List String :=
  (schema.upgradePath older newer).toOption.getD []

theorem Schema.steps_of_ok {schema : Schema} {older newer : UInt32} {statements : List String}
    (h : schema.upgradePath older newer = .ok statements) :
    schema.steps older newer = statements := by
  rw [Schema.steps, h]
  rfl

namespace Performed

variable {session : η} {schema : Schema} {older newer : UInt32} {made : List (Contact η)}

/-- An upgrade that succeeds has run its statements. -/
theorem ran_of_ok {count : Nat}
    (h : Performed session (schema.upgradePath older newer) (.ok count) made) :
    ∃ statements, schema.upgradePath older newer = .ok statements ∧ Ran made statements := by
  cases h with
  | complete found => exact ⟨_, found, .of_writes session _⟩

/-- Any other has run the first of them at most. -/
theorem ran {r : Except Error Nat}
    (h : Performed session (schema.upgradePath older newer) r made) :
    ∃ statements, statements <+: schema.steps older newer ∧ Ran made statements := by
  cases h with
  | missing => exact ⟨[], List.nil_prefix, .nil⟩
  | @stopped before sql after found e =>
      have hran := (Ran.of_writes session before).append (.of_refused session sql)
      rw [List.append_nil] at hran
      rw [Schema.steps_of_ok found]
      exact ⟨before, List.prefix_append before _, hran⟩
  | complete found =>
      rw [Schema.steps_of_ok found]
      exact ⟨_, List.prefix_rfl, .of_writes session _⟩

end Performed

/-- What a transaction adds on a session around its body, and what comes of it. -/
inductive Transacted (session : η) (Body : Except Error α → List (Contact η) → Prop) :
    Except Error α → List (Contact η) → Prop where
  -- It could not be begun. Nothing else is asked for.
  | refused (e : Error) : Transacted session Body (.error e) [.call session .begin false]
  -- Its body has failed, and it is rolled back.
  | undone {e : Error} {inner : List (Contact η)} (body : Body (.error e) inner)
      (undone : Bool) :
      Transacted session Body (.error e)
        (.call session .begin true :: inner ++ [.call session .rollback undone])
  -- Its body has succeeded, but it could not be committed, and is rolled back.
  | uncommitted {a : α} {inner : List (Contact η)} (body : Body (.ok a) inner) (e : Error)
      (undone : Bool) :
      Transacted session Body (.error e) (.call session .begin true :: inner
        ++ [.call session .commit false, .call session .rollback undone])
  -- Its body has succeeded, and it is committed.
  | committed {a : α} {inner : List (Contact η)} (body : Body (.ok a) inner) :
      Transacted session Body (.ok a)
        (.call session .begin true :: inner ++ [.call session .commit true])

namespace Database

variable (db : Database η σ) (table : String)

/-- In a transaction a write is one contact. -/
theorem execute_continues (sql : String) (s : State η (Recorded η σ))
    (h : s.own.inTransaction = true) :
    (db.recorded.execute sql ∅ false).Yields s
      (fun _ t => Continues table s t [Contact.write s.own.handle true sql])
      fun t => Continues table s t [Contact.write s.own.handle false sql] := by
  have hinside : (inside η σ).law.Holds (db.recorded.execute sql ∅ false).run :=
    (inside_respects db).upholds.obeys.execute trivial ∅ false fun _ _ _ => trivial
  have hwithin := hinside s h
  have hone : ∀ {t : State η (Recorded η σ)} {made : List (Contact η)} {succeeded : Bool},
      Tries (.execute sql ∅) succeeded made → Adds table s t made → Within s t →
        Continues table s t [Contact.write s.own.handle succeeded sql] := by
    intro t made succeeded hmade hadds hwithin
    rcases hwithin.contacts with ⟨added, hcontacts, hstatements⟩
    rw [hadds.contacts, List.append_cancel_left_eq] at hcontacts
    rw [← hcontacts] at hstatements
    rw [hmade.eq_of_statements hstatements] at hadds
    exact ⟨hadds, hwithin.handle⟩
  refine ((db.execute_tries table sql ∅ s).also hwithin).mono ?_ ?_
  · rintro _ t ⟨⟨made, hmade, hadds⟩, hwithin⟩
    exact hone hmade hadds hwithin
  · rintro t ⟨⟨made, hmade, hadds⟩, hwithin⟩
    exact hone hmade hadds hwithin

/-- In a transaction writes are sent in their order, up to the first that fails. -/
theorem statements_continue (statements : List String) (s : State η (Recorded η σ))
    (h : s.own.inTransaction = true) :
    (statements.forM fun sql => do
      let _ ← db.recorded.execute sql ∅ false : Attempt η (Recorded η σ) Unit).Yields s
      (fun _ t => Continues table s t (statements.map (Contact.write s.own.handle true)))
      fun t => ∃ before sql after, statements = before ++ sql :: after
        ∧ Continues table s t (before.map (Contact.write s.own.handle true)
          ++ [Contact.write s.own.handle false sql]) := by
  induction statements generalizing s with
  | nil => exact .pure (.refl s)
  | cons sql rest ih =>
      have hunit : (do
          let _ ← db.recorded.execute sql ∅ false : Attempt η (Recorded η σ) Unit).Yields s
          (fun _ t => Continues table s t [Contact.write s.own.handle true sql])
          fun t => Continues table s t [Contact.write s.own.handle false sql] :=
        (db.execute_continues table sql s h).bind (fun _ t ht => .pure ht) fun t ht => ht
      refine hunit.bind (fun _ t ht => ?_) fun t ht => ⟨[], sql, rest, rfl, ht⟩
      -- The others go to the same session.
      have hrest := ih t (ht.inTransaction.trans h)
      rw [ht.handle] at hrest
      refine hrest.mono (fun _ u hu => ht.trans hu) ?_
      rintro u ⟨before, last, after, rfl, hu⟩
      exact ⟨sql :: before, last, after, rfl, ht.trans hu⟩

/-- In a transaction an upgrade sends its statements, if no script is missing. -/
theorem runUpgrade_performed (schema : Schema) (older newer : UInt32) (s : State η (Recorded η σ))
    (h : s.own.inTransaction = true) :
    (db.recorded.runUpgrade schema older newer).Ends s fun r t => ∃ made,
      Performed s.own.handle (schema.upgradePath older newer) r made
        ∧ Continues table s t made := by
  unfold runUpgrade
  cases hpath : schema.upgradePath older newer with
  | error key =>
      exact .raise fun log =>
        ⟨[], .missing rfl, (Staying.reports table).reporting s log⟩
  | ok statements =>
      have hall : (do
          statements.forM fun sql => do
            let _ ← db.recorded.execute sql ∅ false
          return statements.length : Attempt η (Recorded η σ) Nat).Yields s
          (fun n t => n = statements.length
            ∧ Continues table s t (statements.map (Contact.write s.own.handle true)))
          fun t => ∃ before sql after, statements = before ++ sql :: after
            ∧ Continues table s t (before.map (Contact.write s.own.handle true)
              ++ [Contact.write s.own.handle false sql]) :=
        (db.statements_continue table statements s h).bind (fun _ t ht => .pure ⟨rfl, ht⟩)
          fun t ht => ht
      refine .of_yields hall ?_ ?_
      · rintro _ t ⟨rfl, ht⟩
        exact ⟨_, .complete rfl, ht⟩
      · rintro e t ⟨before, sql, after, rfl, ht⟩
        exact ⟨_, .stopped rfl e, ht⟩

/-- Beginning a transaction is one contact. -/
theorem begin_sent (s : State η (Recorded η σ)) :
    db.recorded.begin.Yields s
      (fun _ t => t.own.inTransaction = true ∧ t.own.handle = s.own.handle
        ∧ t.record table = s.record table
        ∧ t.contacts = s.contacts ++ [.call s.own.handle .begin true])
      fun t => Continues table s t [.call s.own.handle .begin false] := by
  have hbegin := switch_recorded "BEGIN" .begin db.client.begin true "transaction started" s
  rcases (db.begin_standing table s).cases with ⟨a, t, hrun, hstanding⟩ | ⟨e, t, hrun, hstanding⟩
  all_goals
    have hrecord := congrArg Standing.record hstanding
    rw [show (switch "BEGIN" (Request.begin.recorded db.client.begin) true
      "transaction started").run.run s = _ from hrun] at hbegin
    rcases hbegin with ⟨hhandle, ⟨hresult, hflag, hcontacts⟩ |
      ⟨⟨e, hresult⟩, hflag, hcontacts⟩⟩
  · exact .of_run_ok hrun ⟨hflag, hhandle, hrecord, hcontacts⟩
  · cases hresult
  · cases hresult
  · exact .of_run_failed hrun ⟨⟨hcontacts, hrecord, hflag⟩, hhandle⟩

theorem close_record (ending : Except Stop α) (s : State η (Recorded η σ)) :
    ((db.recorded.close ending).run s).2.record table = s.record table := by
  rcases ending with (e | _) | a
  · exact congrArg Standing.record (db.rollback_standing table s)
  · exact congrArg Standing.record (db.rollback_standing table ((SqlMapper.report {
      level := .warn
      message := "transaction closure panicked, rolling back" }).run s).2)
  · have hstanding := db.close_standing table a s
    rcases hstanding.cases with ⟨_, t, hrun, ht⟩ | ⟨_, t, hrun, ht⟩
    all_goals
      rw [show (db.recorded.close (.ok a)).run s = _ from hrun]
      exact congrArg Standing.record ht

/-- A transaction where none was open adds its beginning, its body and its end. -/
theorem transaction_transacted {body : Attempt η (Recorded η σ) α} {s : State η (Recorded η σ)}
    {Body : Except Error α → List (Contact η) → Prop} (h : s.own.inTransaction = false)
    (hbody : ∀ t : State η (Recorded η σ), t.own.inTransaction = true →
      t.own.handle = s.own.handle → body.Ends t fun r u => ∃ inner, Body r inner
        ∧ Continues table t u inner) :
    (db.recorded.transaction body).Ends s fun r u => ∃ made,
      Transacted s.own.handle Body r made ∧ Continues table s u made := by
  have hwhole := db.recorded.transaction_outside body s h
  rcases (db.begin_sent table s).cases with ⟨_, t, hrun, hflag, hhandle, hrecord, hcontacts⟩ |
    ⟨e, t, hrun, hrefused⟩
  · rw [hrun] at hwhole
    dsimp only at hwhole
    rcases hbody t hflag hhandle with ⟨r, u, hran, inner, hinner, hcontinues⟩
    rw [hran] at hwhole
    have hsession : u.own.handle = s.own.handle := hcontinues.handle.trans hhandle
    have hclosed := db.close_recorded (r.mapError Stop.failed) u
    have hkept := db.close_record table (r.mapError Stop.failed) u
    rcases hclose : (db.recorded.close (r.mapError Stop.failed)).run u with ⟨result, v⟩
    rw [hclose] at hwhole hclosed hkept
    rw [hsession] at hclosed
    rcases hclosed with ⟨hafter, hshut, last, hlast, hending⟩
    have hmade : Continues table s v (.call s.own.handle .begin true :: inner ++ last) := by
      refine ⟨⟨?_, ?_, hshut.trans h.symm⟩, hafter⟩
      · rw [hlast, hcontinues.contacts, hcontacts, List.append_assoc, List.append_assoc]
        rfl
      · rw [hkept, hcontinues.record, hrecord]
    -- What is asked for at the end depends on how the body has ended.
    rcases r with e | a
    · cases hending with
      | undone _ undone => exact .of_run_failed hwhole ⟨_, .undone hinner undone, hmade⟩
    · cases hending with
      | committed => exact .of_run_ok hwhole ⟨_, .committed hinner, hmade⟩
      | refused _ e undone =>
          exact .of_run_failed hwhole ⟨_, .uncommitted hinner e undone, hmade⟩
  · rw [hrun] at hwhole
    exact .of_run_failed hwhole ⟨_, .refused e, hrefused⟩

end Database

end SqlMapper
