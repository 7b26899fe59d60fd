import SqlMapper.Proofs.Engine.Frame

/-!
# Sending

What sending a statement does to a connection, apart from its answer.

A call of the client changes the world of the client and nothing else of a
connection, except that the tables which others wrote to meanwhile lose their
cached reads. `Kept` says what stays: the session, whether a transaction is
open, and the waits in the journal; nothing is cached, and no write is forgotten
that was counted. Dropping the reads of a table keeps to it as well, and so do
the reports at the end.

The loop that sends a statement again is taken apart here once. It either stops
with the answer it has, or goes on with the next attempt from the state in which
recovering leaves it, and these two equations, with the induction that they give,
are all that other proofs use of it. Inside a transaction it always stops.

## Main definitions

* `State.pauses`: The waits.
* `State.generation`: How often a table was written to.
* `Kept`: What a call of the client leaves alone.
* `Rebuilt`: What rebuilding the session changes.
* `Client.answer`: The answer to a statement of either kind.

## Theorems

* `exchange_kept`: A call yields the client's answer and leaves the rest alone.
* `send_kept`: The same for a statement of either kind.
* `reconnect_rebuilt`, `recover_rebuilt`: Rebuilding the session, and waiting behind it.
* `sendFrom_stop_run`, `sendFrom_of_retry`: The two ways an attempt can go.
* `sendFrom_of_stop`: What the last attempt leaves alone.
* `sendFrom_induction`: What holds of each attempt holds of the loop.
* `executeDirect_run`: Running a statement past the cache.
* `sendRetrying_inside`: Inside a transaction there is one attempt.
-/

namespace SqlMapper

variable {η σ α : Type}

/-- The length of a wait. -/
def Event.pause? : Event → Option UInt64
  | .pause ms => some ms
  | _ => none

/-- How long the engine waited, each time. -/
def State.pauses (s : State η σ) : List UInt64 :=
  s.around.journal.filterMap Event.pause?

/-- How often a table was written to. -/
def State.generation (s : State η σ) (table : String) : Nat :=
  (s.own.generations.get? table).getD 0

theorem generation_run (table : String) (s : State η σ) :
    (generation table : Action η σ Nat).run s = (s.generation table, s) := rfl

/-- What a call of the client leaves alone. -/
structure Kept (s t : State η σ) : Prop where
  -- The session.
  handle : t.own.handle = s.own.handle
  -- Whether a transaction is open.
  inTransaction : t.own.inTransaction = s.own.inTransaction
  -- The waits.
  pauses : t.pauses = s.pauses
  -- What is cached was cached before.
  cache : t.around.cache.PartOf s.around.cache
  -- Writes are counted up.
  generation : ∀ table, s.generation table ≤ t.generation table

namespace Kept

theorem refl (s : State η σ) : Kept s s :=
  ⟨rfl, rfl, rfl, .refl _, fun _ => Nat.le_refl _⟩

theorem trans {s t u : State η σ} (hst : Kept s t) (htu : Kept t u) : Kept s u where
  handle := htu.handle.trans hst.handle
  inTransaction := htu.inTransaction.trans hst.inTransaction
  pauses := htu.pauses.trans hst.pauses
  cache := htu.cache.trans hst.cache
  generation table := Nat.le_trans (hst.generation table) (htu.generation table)

/-- Keeping what calls leave alone, and the world as well. -/
def frame (η σ : Type) : Frame η σ where
  rel s t := Kept s t ∧ t.around.world = s.around.world
  refl s := ⟨refl s, rfl⟩
  trans := fun hst htu => ⟨hst.1.trans htu.1, htu.2.trans hst.2⟩

theorem invalidate (table : String) :
    (frame η σ).Holds (SqlMapper.invalidate table) := by
  intro s
  refine ⟨⟨rfl, rfl, ?_, Cache.deletePrefix_partOf _ _, fun other => ?_⟩, rfl⟩
  · show (s.around.journal ++ [_]).filterMap Event.pause? = s.pauses
    simp only [List.filterMap_append, List.filterMap_cons, Event.pause?, List.filterMap_nil,
      List.append_nil, State.pauses]
  · show s.generation other
      ≤ ((s.own.generations.insert table (s.generation table + 1)).get? other).getD 0
    by_cases hother : other = table
    · rw [hother, OrderedMap.get?_insert_self, Option.getD_some]
      exact Nat.le_succ _
    · rw [OrderedMap.get?_insert_ne _ hother]
      exact Nat.le_refl _

theorem invalidateAll (tables : List String) :
    (frame η σ).Holds (SqlMapper.invalidateAll tables) :=
  Frame.holds_forM invalidate tables

theorem forget (key : String) : (frame η σ).Holds (around (Surroundings.forget key)) := by
  intro s
  refine ⟨⟨rfl, rfl, ?_, Cache.erase_partOf _ _, fun _ => Nat.le_refl _⟩, rfl⟩
  show (s.around.journal ++ [_]).filterMap Event.pause? = s.pauses
  simp only [List.filterMap_append, List.filterMap_cons, Event.pause?, List.filterMap_nil,
    List.append_nil, State.pauses]

theorem reports : Reporting (frame η σ) :=
  ⟨fun _ _ => ⟨⟨rfl, rfl, rfl, .refl _, fun _ => Nat.le_refl _⟩, rfl⟩⟩

end Kept

/-- What rebuilding the session changes: the session is the one that the client gives, or the old
    one if it gives none. -/
structure Rebuilt (db : Database η σ) (s t : State η σ) : Prop where
  -- The session.
  handle : t.own.handle
    = ((db.client.connect db.dialect.tag db.config).run s.around.world).1.toOption.getD s.own.handle
  -- The world of the client.
  world : t.around.world
    = ((db.client.connect db.dialect.tag db.config).run s.around.world).2
  -- Whether a transaction is open.
  inTransaction : t.own.inTransaction = s.own.inTransaction
  -- What is cached.
  cache : t.around.cache = s.around.cache
  -- The counts of writes.
  generations : t.own.generations = s.own.generations

/-- The answer to a statement of either kind, and the world behind it. -/
def Client.answer (c : Client η σ) (h : η) (sql : String) (binds : Binds) (readonly : Bool)
    (w : σ) : Except ClientFailure Outcome × σ :=
  if readonly then
    let reply := (c.query h sql binds).run w
    (reply.1.outcome.map Outcome.rows, reply.2)
  else
    let reply := (c.execute h sql binds).run w
    (reply.1.outcome.map Outcome.affected, reply.2)

namespace Database

/-- A call yields the answer of the client. What else it changes are the books. -/
theorem exchange_kept (shown : Event) (hshown : shown.pause? = none)
    (call : η → StateM σ (Reply α)) (s : State η σ) :
    let reply := (call s.own.handle).run s.around.world
    let done := (exchange shown call).run s
    done.1 = reply.1.outcome ∧ done.2.around.world = reply.2 ∧ Kept s done.2 := by
  intro reply done
  -- The state in which the writes of others are counted.
  let noted : State η σ := { s with around := { s.around with
    world := reply.2, journal := s.around.journal ++ [shown] } }
  have hnoted : Kept s noted := by
    refine ⟨rfl, rfl, ?_, .refl _, fun _ => Nat.le_refl _⟩
    show (s.around.journal ++ [shown]).filterMap Event.pause? = s.pauses
    simp only [List.filterMap_append, List.filterMap_cons, hshown, List.filterMap_nil,
      List.append_nil, State.pauses]
  have hrest : Kept noted done.2 ∧ done.2.around.world = noted.around.world :=
    Kept.invalidateAll reply.1.meanwhile noted
  exact ⟨rfl, hrest.2, hnoted.trans hrest.1⟩

/-- Sending a statement yields the answer of the client. -/
theorem send_kept (db : Database η σ) (sql : String) (binds : Binds) (readonly : Bool)
    (s : State η σ) :
    let answered := db.client.answer s.own.handle sql binds readonly s.around.world
    let done := (db.send sql binds readonly).run s
    done.1 = answered.1 ∧ done.2.around.world = answered.2 ∧ Kept s done.2 := by
  cases readonly with
  | true =>
      have h := exchange_kept (.query sql binds) rfl (fun h => db.client.query h sql binds) s
      exact ⟨congrArg (Except.map Outcome.rows) h.1, h.2⟩
  | false =>
      have h := exchange_kept (.execute sql binds) rfl (fun h => db.client.execute h sql binds) s
      exact ⟨congrArg (Except.map Outcome.affected) h.1, h.2⟩

/-- Concluding yields the result, and adds a report at most. -/
theorem conclude_run (db : Database η σ) (sql : String) (binds : Binds) (attempt : UInt32)
    (transactional : Bool) (result : Except ClientFailure Outcome) (s : State η σ) :
    ∃ log, (db.conclude sql binds attempt transactional result).run s
      = (result, { s with around := { s.around with log := log } }) := by
  unfold conclude
  cases result with
  | ok outcome =>
      by_cases hdebug : db.options.debug = true
      · simp only [if_pos hdebug]
        exact ⟨_, rfl⟩
      · simp only [if_neg hdebug]
        exact ⟨_, rfl⟩
  | error failure =>
      by_cases hdropped : failure.isTransient = true
      · simp only [if_pos hdropped]
        exact ⟨_, rfl⟩
      · simp only [if_neg hdropped]
        exact ⟨_, rfl⟩

theorem conclude_kept (db : Database η σ) (sql : String) (binds : Binds) (attempt : UInt32)
    (transactional : Bool) (result : Except ClientFailure Outcome) (s : State η σ) :
    let done := (db.conclude sql binds attempt transactional result).run s
    done.1 = result ∧ Kept s done.2 ∧ done.2.around.world = s.around.world := by
  intro done
  rcases db.conclude_run sql binds attempt transactional result s with ⟨log, hrun⟩
  rw [show done = _ from hrun]
  exact ⟨rfl, Kept.reports.reporting s log⟩

/-- Asking for a session yields what the client gives. -/
theorem dial_run (db : Database η σ) (a : Surroundings σ) :
    let dialed := (db.client.connect db.dialect.tag db.config).run a.world
    let shown := Event.connect db.dialect.tag db.config.host db.config.database
    db.dial.run a = match dialed.1 with
      | .ok handle => (.ok handle, { a with world := dialed.2, journal := a.journal ++ [shown] })
      | .error failure =>
        let e := Error.connect db.dialect.tag failure.code failure.message
        (.error e, { a with world := dialed.2, journal := a.journal ++ [shown],
                            log := a.log ++ e.record?.toList }) := by
  intro dialed shown
  show (match dialed.1 with
    | .ok _ => _
    | .error _ => _ : StateM (Surroundings σ) (Except Error η)).run
      { a with world := dialed.2, journal := a.journal ++ [shown] } = _
  cases dialed.1 <;> rfl

/-- Rebuilding the session puts the new one in place of the old, or leaves that. -/
theorem reconnect_run (db : Database η σ) (s : State η σ) :
    (db.reconnect.run s).2 = match db.dial.run s.around with
      | (.ok handle, a) =>
        { around := { a with log := a.log ++ [{
            level := .debug
            message := "native connection rebuilt"
            fields := [("dialect", db.dialect.tag)] }] }
          own := { s.own with handle := handle } }
      | (.error e, a) =>
        { s with around := { a with log := a.log ++ [{
            level := .warn
            message := "reconnect failed"
            fields := [("error", e.message)] }] } } := by
  have hdial : (around db.dial : Action η σ (Except Error η)).run s
      = ((db.dial.run s.around).1, { s with around := (db.dial.run s.around).2 }) := rfl
  rw [reconnect, Action.run_bind, hdial]
  rcases db.dial.run s.around with ⟨e | handle, a⟩ <;> rfl

theorem reconnect_rebuilt (db : Database η σ) (s : State η σ) :
    Rebuilt db s (db.reconnect.run s).2 ∧ (db.reconnect.run s).2.pauses = s.pauses := by
  have hdone := db.reconnect_run s
  rw [dial_run] at hdone
  have hjournal : (s.around.journal ++ [Event.connect db.dialect.tag db.config.host
      db.config.database]).filterMap Event.pause? = s.pauses := by
    simp only [List.filterMap_append, List.filterMap_cons, Event.pause?, List.filterMap_nil,
      List.append_nil, State.pauses]
  rcases hdialed : (db.client.connect db.dialect.tag db.config).run s.around.world with
    ⟨failure | handle, world⟩
  · rw [hdialed] at hdone
    rw [hdone]
    refine ⟨⟨?_, ?_, rfl, rfl, rfl⟩, hjournal⟩
    · rw [hdialed]
      rfl
    · rw [hdialed]
  · rw [hdialed] at hdone
    rw [hdone]
    refine ⟨⟨?_, ?_, rfl, rfl, rfl⟩, hjournal⟩
    · rw [hdialed]
      rfl
    · rw [hdialed]

/-- Recovering from a failure rebuilds the session and waits. -/
theorem recover_rebuilt (db : Database η σ) (attempt : UInt32) (failure : ClientFailure)
    (s : State η σ) :
    let done := ((db.recover attempt failure).run s).2
    Rebuilt db s done ∧ done.pauses = s.pauses ++ [db.options.retry.backoff attempt] := by
  intro done
  let delay := db.options.retry.backoff attempt
  -- The report comes before the session is rebuilt, the wait behind that.
  let reported := ((SqlMapper.report (retryRecord attempt failure delay)).run s).2
  let rebuilt := (db.reconnect.run reported).2
  rcases db.reconnect_rebuilt reported with ⟨hrebuilt, hpauses⟩
  refine ⟨⟨hrebuilt.handle, hrebuilt.world, hrebuilt.inTransaction, hrebuilt.cache,
    hrebuilt.generations⟩, ?_⟩
  show (rebuilt.around.journal ++ [Event.pause delay]).filterMap Event.pause? = s.pauses ++ [delay]
  rw [List.filterMap_append]
  exact congrArg (· ++ [delay]) hpauses

theorem callsForRetry_inside (r : Except ClientFailure Outcome) : callsForRetry true r = none := by
  cases r with
  | ok outcome => rfl
  | error failure =>
      simp only [callsForRetry, Bool.not_true, Bool.and_false, Bool.false_eq_true, if_false]

theorem outside_of_callsForRetry {transactional : Bool} {r : Except ClientFailure Outcome}
    {failure : ClientFailure} (h : callsForRetry transactional r = some failure) :
    transactional = false := by
  cases transactional with
  | false => rfl
  | true =>
      rw [callsForRetry_inside] at h
      cases h

section

variable (db : Database η σ) (sql : String) (binds : Binds) (readonly : Bool) (attempt : UInt32)
  (s : State η σ)

/-- One attempt, and what its answer leads to. -/
theorem sendFrom_run :
    (db.sendFrom sql binds readonly attempt).run s =
      (match callsForRetry s.own.inTransaction ((db.send sql binds readonly).run s).1 with
        | some failure =>
          if db.options.retry.allows attempt then do
            db.recover attempt failure
            db.sendFrom sql binds readonly (attempt + 1)
          else
            db.conclude sql binds attempt s.own.inTransaction
              ((db.send sql binds readonly).run s).1
        | none =>
          db.conclude sql binds attempt s.own.inTransaction
            ((db.send sql binds readonly).run s).1).run ((db.send sql binds readonly).run s).2 := by
  rw [sendFrom]
  rfl

/-- An attempt is the last one if its answer does not call for another or none is left. -/
theorem sendFrom_stop_run
    (h : callsForRetry s.own.inTransaction ((db.send sql binds readonly).run s).1 = none
      ∨ db.options.retry.allows attempt = false) :
    let sent := (db.send sql binds readonly).run s
    (db.sendFrom sql binds readonly attempt).run s
      = (db.conclude sql binds attempt s.own.inTransaction sent.1).run sent.2 := by
  intro sent
  rw [sendFrom_run db sql binds readonly attempt s]
  cases hcall : callsForRetry s.own.inTransaction sent.1 with
  | none => rfl
  | some failure =>
      have hallows : db.options.retry.allows attempt = false := by
        rcases h with h | h
        · exact absurd (h.symm.trans hcall) (by simp only [reduceCtorEq, not_false_eq_true])
        · exact h
      simp only [hallows, Bool.false_eq_true, if_false]
      rfl

/-- The last attempt yields its answer, and a report at most. -/
theorem sendFrom_of_stop
    (h : callsForRetry s.own.inTransaction ((db.send sql binds readonly).run s).1 = none
      ∨ db.options.retry.allows attempt = false) :
    let sent := (db.send sql binds readonly).run s
    let done := (db.sendFrom sql binds readonly attempt).run s
    done.1 = sent.1 ∧ Kept sent.2 done.2 ∧ done.2.around.world = sent.2.around.world := by
  intro sent done
  rw [show done = _ from sendFrom_stop_run db sql binds readonly attempt s h]
  exact db.conclude_kept sql binds attempt s.own.inTransaction sent.1 sent.2

/-- Otherwise the next attempt goes on where recovering from the failure ends. -/
theorem sendFrom_of_retry {failure : ClientFailure}
    (h : callsForRetry s.own.inTransaction ((db.send sql binds readonly).run s).1 = some failure)
    (hallows : db.options.retry.allows attempt = true) :
    (db.sendFrom sql binds readonly attempt).run s
      = (db.sendFrom sql binds readonly (attempt + 1)).run
          ((db.recover attempt failure).run ((db.send sql binds readonly).run s).2).2 := by
  rw [sendFrom_run, h]
  simp only [hallows, if_true]
  rfl

/-- What holds of a last attempt, and of an attempt if it holds of the attempts behind it, holds of
    the loop. -/
theorem sendFrom_induction {motive : State η σ → Except ClientFailure Outcome × State η σ → Prop}
    (hlast : ∀ attempt s, motive s ((db.conclude sql binds attempt s.own.inTransaction
      ((db.send sql binds readonly).run s).1).run ((db.send sql binds readonly).run s).2))
    (hnext : ∀ attempt failure s done,
      callsForRetry s.own.inTransaction ((db.send sql binds readonly).run s).1 = some failure →
      motive ((db.recover attempt failure).run ((db.send sql binds readonly).run s).2).2 done →
      motive s done) :
    motive s ((db.sendFrom sql binds readonly attempt).run s) := by
  -- By induction on how many more attempts the policy allows.
  induction hleft : db.options.retry.maxAttempts.toNat - attempt.toNat using
    Nat.strongRecOn generalizing attempt s with
  | _ left ih =>
      cases hcalls : callsForRetry s.own.inTransaction ((db.send sql binds readonly).run s).1 with
      | none =>
          rw [sendFrom_stop_run db sql binds readonly attempt s (Or.inl hcalls)]
          exact hlast attempt s
      | some failure =>
          by_cases hallows : db.options.retry.allows attempt = true
          · have hadd := RetryPolicy.toNat_add_one_of_allows hallows
            have hlt := RetryPolicy.lt_of_allows hallows
            rw [sendFrom_of_retry db sql binds readonly attempt s hcalls hallows]
            exact hnext attempt failure s _ hcalls (ih _ (by omega) (attempt + 1) _ rfl)
          · rw [sendFrom_stop_run db sql binds readonly attempt s
              (Or.inr (by simpa only [Bool.not_eq_true] using hallows))]
            exact hlast attempt s

/-- An answer is stored if nothing was counted since a generation was taken down. -/
theorem storeIfCurrent_run (table : String) (started : Nat) (key : String) (value : CacheValue)
    (ttl : UInt64) :
    (storeIfCurrent table started key value ttl).run.run s
      = (if s.generation table = started then
          store key value (some ttl)
        else
          Attempt.always (report {
            level := .debug
            message := "table written during read, result not cached"
            fields := [("table", table)] }) : Attempt η σ Unit).run.run s := rfl

/-- Running a statement past the cache is sending it, and reporting its failure. -/
theorem executeDirect_run :
    (db.executeDirect sql binds readonly).run.run s
      = match (db.sendRetrying sql binds readonly).run s with
        | (.ok outcome, t) => (.ok outcome, t)
        | (.error failure, t) =>
          let e := Error.execute sql failure.text
          (.error (.failed e),
            { t with around := { t.around with log := t.around.log ++ e.record?.toList } }) := by
  rw [executeDirect]
  refine (Attempt.run_always_bind (db.sendRetrying sql binds readonly) _ s).trans ?_
  rcases (db.sendRetrying sql binds readonly).run s with ⟨failure | outcome, t⟩
  · exact Attempt.raise_run _ t
  · rfl

/-- A read that may go through the cache is answered by it, or by the database. -/
theorem readCached_run (r : Statement) :
    (db.readCached r).run.run s = match db.cacheSlot? r, s.own.inTransaction with
      | some (table, ttl), false =>
        match (around (Surroundings.lookup (queryKey table r.sql r.binds))).run s with
        | (some (.rows rows), t) =>
          (.ok (.rows rows), ((report {
            level := .debug
            message := "cache hit"
            fields := [("table", table)] }).run t).2)
        | (_, t) => (db.readThrough r table ttl (queryKey table r.sql r.binds)).run.run t
      | _, _ => (db.executeDirect r.sql r.binds true).run.run s := by
  rw [readCached, Attempt.run_always_bind]
  show (match db.cacheSlot? r, s.own.inTransaction with
    | some (table, ttl), false => _
    | _, _ => _ : Attempt η σ Outcome).run.run s = _
  split
  · rename_i table ttl _ _
    rw [Attempt.run_always_bind]
    rcases (around (Surroundings.lookup (queryKey table r.sql r.binds))).run s with ⟨found, t⟩
    rcases found with _ | rows | count | version <;> rfl
  · rfl

/-- Inside a transaction a statement is sent once. -/
theorem sendRetrying_inside (h : s.own.inTransaction = true) :
    let sent := (db.send sql binds readonly).run s
    let done := (db.sendRetrying sql binds readonly).run s
    done.1 = sent.1 ∧ Kept sent.2 done.2 ∧ done.2.around.world = sent.2.around.world := by
  refine db.sendFrom_of_stop sql binds readonly 1 s (Or.inl ?_)
  rw [h]
  exact callsForRetry_inside _

end

end Database

end SqlMapper
