import SqlMapper.Proofs.Cache.Tracking
import SqlMapper.Proofs.Engine.Retrying
import SqlMapper.Statement.Insert

/-!
# Keys of Inserts

Which key an insert reports.

A session remembers the latest key that was generated on it. A statement that
generates a key sets it, and a statement that generates none leaves the key of
an earlier statement where it is, or takes it away; which of the two is up to
the client. The engine asks for that key behind every insert that changed a row.

So the key that is reported is the one that the insert generated, if it did
generate one, also if it was sent again on a rebuilt session. But an insert may
change a row without generating a key: it overwrites one that is already there.
Then the key of an earlier statement is reported, if the session still knows it.

## Main definitions

* `Client.Keys`: What is known of the keys that statements generate.
* `Answered`: The call that answered a statement.
* `Reports`: What an insert reports, by the call that answered it.

## Theorems

* `Reaches.stops`: Among the attempts there is a last one.
* `sendRetrying_answered`: What sending a statement ends with is one call.
* `runInsert_reports`: Which key an insert reports.
* `runInsert_reports_earlier`: It may be that of an earlier statement.
-/

namespace SqlMapper

variable {η σ : Type}

/-- What is known of the keys that statements generate on the sessions of a client. -/
structure Client.Keys (c : Client η σ) where
  /-- The key that a statement generates, if it generates one. -/
  generated : η → String → Binds → σ → Option Int64
  /-- A key that is generated is the latest one of its session. -/
  latest : ∀ {h sql binds w key}, generated h sql binds w = some key →
    c.lastInsertId h ((c.execute h sql binds).run w).2 = some key
  /-- A statement without one leaves the latest key as it is, or takes it away. -/
  kept : ∀ {h sql binds w}, generated h sql binds w = none →
    c.lastInsertId h ((c.execute h sql binds).run w).2 = c.lastInsertId h w
      ∨ c.lastInsertId h ((c.execute h sql binds).run w).2 = none

section

variable (db : Database η σ) (q : Statement)

/-- A statement was answered behind so many failed attempts, with so many changed rows, and nobody
    was contacted since. -/
structure Answered (s : State η (Recorded η σ)) (k : Nat) (n : UInt64)
    (done : State η (Recorded η σ)) : Prop where
  -- The call that was answered is the last contact.
  contacts : done.contacts = s.contacts ++ s.start.rounds db q.sql q.binds false k
    ++ [.call (s.start.behind db q.sql q.binds false k).handle (.execute q.sql q.binds) true]
  -- The answer.
  outcome : ((db.client.execute (s.start.behind db q.sql q.binds false k).handle q.sql q.binds).run
    (s.start.behind db q.sql q.binds false k).world).1.outcome = .ok n
  -- The session that answered is still the one in use.
  handle : done.own.handle = (s.start.behind db q.sql q.binds false k).handle
  -- The world is the one that the answer left.
  world : done.around.world.world
    = ((db.client.execute (s.start.behind db q.sql q.binds false k).handle q.sql q.binds).run
        (s.start.behind db q.sql q.binds false k).world).2

/-- What an insert reports that was answered where the last attempt began, with so many changed
    rows. -/
structure Reports (keys : db.client.Keys) (a : Start η σ) (n : UInt64) (reported : Option Int64) :
    Prop where
  -- Nothing, if no row was changed.
  unchanged : n = 0 → reported = none
  -- The key that the insert generated.
  generated : n ≠ 0 → ∀ key, keys.generated a.handle q.sql q.binds a.world = some key →
    reported = some key
  -- If it generated none, the one that was the latest before.
  earlier : n ≠ 0 → keys.generated a.handle q.sql q.binds a.world = none →
    reported = db.client.lastInsertId a.handle a.world ∨ reported = none
  -- A key that is reported is that of the insert, unless it changed a row and generated none, and
  -- an earlier key is left.
  own : (∀ key, reported = some key → keys.generated a.handle q.sql q.binds a.world = some key)
    ↔ (n ≠ 0 → keys.generated a.handle q.sql q.binds a.world = none →
      db.client.lastInsertId a.handle
        ((db.client.execute a.handle q.sql q.binds).run a.world).2 = none)

end

/-! ### The last attempt -/

section

variable {db : Database η σ} {sql : String} {binds : Binds} {readonly : Bool}
  {s : State η (Recorded η σ)}

/-- Behind every attempt there is a last one. -/
theorem Reaches.stops {attempt : UInt32} {t : State η (Recorded η σ)}
    (h : Reaches db sql binds readonly s attempt t) :
    ∃ last u, Reaches db sql binds readonly s last u
      ∧ (Database.callsForRetry u.own.inTransaction ((db.recorded.send sql binds readonly).run u).1
          = none
        ∨ db.options.retry.allows last = false) := by
  -- By induction on how many more attempts the policy allows.
  induction hleft : db.options.retry.maxAttempts.toNat - attempt.toNat using
    Nat.strongRecOn generalizing attempt t with
  | _ left ih =>
      cases hcalls : Database.callsForRetry t.own.inTransaction
        ((db.recorded.send sql binds readonly).run t).1 with
      | none => exact ⟨attempt, t, h, Or.inl hcalls⟩
      | some failure =>
          by_cases hallows : db.options.retry.allows attempt = true
          · have hadd := RetryPolicy.toNat_add_one_of_allows hallows
            have hlt := RetryPolicy.lt_of_allows hallows
            exact ih _ (by omega) (.next h hcalls hallows) rfl
          · exact ⟨attempt, t, h, Or.inr (Bool.eq_false_iff.mpr hallows)⟩

/-- What sending a statement ends with is the answer to one call, and what that call left. -/
theorem sendRetrying_answered (db : Database η σ) (sql : String) (binds : Binds) (readonly : Bool)
    (s : State η (Recorded η σ)) :
    let done := (db.recorded.sendRetrying sql binds readonly).run s
    ∃ k, done.1 = s.start.response db sql binds readonly k
      ∧ done.2.contacts = s.contacts ++ s.start.rounds db sql binds readonly k
          ++ [s.start.call db sql binds readonly k]
      ∧ done.2.own.handle = (s.start.behind db sql binds readonly k).handle
      ∧ done.2.around.world.world
          = ((s.start.behind db sql binds readonly k).answered db sql binds readonly).2 := by
  intro done
  have hfirst : Reaches db sql binds readonly s 1 s := .first
  rcases hfirst.stops with ⟨last, u, hreach, hlast⟩
  rcases hreach.arrived with ⟨k, -, harrived⟩
  rcases harrived.send with ⟨hanswer, hcall, hworld, hkept⟩
  have hstop := db.recorded.sendFrom_of_stop sql binds readonly last u hlast
  rw [← hreach.sendRetrying_run] at hstop
  rcases hstop with ⟨hresult, hrest, hsame⟩
  refine ⟨k, hresult.trans hanswer, ?_, ?_, ?_⟩
  · rw [← harrived.contacts, ← hcall]
    exact congrArg Recorded.contacts hsame
  · rw [hrest.handle, hkept.handle]
    exact congrArg Start.handle harrived.start
  · rw [← hworld]
    exact congrArg Recorded.world hsame

end

/-! ### Inserts -/

section

variable {db : Database η σ} {q : Statement} {s : State η (Recorded η σ)}

/-- A write that returns was answered by one call, and yields the number of rows it changed. -/
theorem run_answered (hwrite : q.readonly = false) {outcome : Outcome}
    (h : ((db.recorded.run q).run.run s).1 = .ok outcome) :
    ∃ k n, outcome = .affected n ∧ Answered db q s k n ((db.recorded.run q).run.run s).2 := by
  rw [Database.run, if_neg (Bool.eq_false_iff.mp hwrite)] at h ⊢
  have hrun : ((db.recorded.executeDirect q.sql q.binds false).thereafter
        (invalidateAll q.tables)).run.run s
      = (((db.recorded.executeDirect q.sql q.binds false).run.run s).1,
        ((invalidateAll q.tables).run
          ((db.recorded.executeDirect q.sql q.binds false).run.run s).2).2) := rfl
  rw [hrun] at h ⊢
  rw [Database.executeDirect_run] at h ⊢
  rcases sendRetrying_answered db q.sql q.binds false s with
    ⟨k, hresult, hcontacts, hhandle, hworld⟩
  rcases hsent : (db.recorded.sendRetrying q.sql q.binds false).run s with ⟨failure | got, t⟩
  · rw [hsent] at h
    cases h
  · rw [hsent] at h hresult hcontacts hhandle hworld
    cases h
    rcases Kept.invalidateAll q.tables t with ⟨hkept, hsame⟩
    let a := s.start.behind db q.sql q.binds false k
    let reply := ((db.client.execute a.handle q.sql q.binds).run a.world).1
    have hreply : reply.outcome.map Outcome.affected = .ok outcome := hresult.symm
    obtain ⟨n, hn, rfl⟩ : ∃ n, reply.outcome = .ok n ∧ Outcome.affected n = outcome := by
      rcases houtcome : reply.outcome with failure | n
      · rw [houtcome] at hreply
        cases hreply
      · rw [houtcome] at hreply
        exact ⟨n, rfl, Except.ok.inj hreply⟩
    have hok : (s.start.response db q.sql q.binds false k).isOk = true := by
      rw [← hresult]
      rfl
    have hcall : s.start.call db q.sql q.binds false k
        = .call a.handle (.execute q.sql q.binds) true := by
      rw [Start.call, hok]
      rfl
    refine ⟨k, n, rfl, ⟨?_, hn, hkept.handle.trans hhandle, ?_⟩⟩
    · rw [← hcall, ← hcontacts]
      exact congrArg Recorded.contacts hsame
    · exact (congrArg Recorded.world hsame).trans hworld

/-- A key that is asked for behind the call that answered an insert is the one that is reported. -/
theorem reports_of_answered (keys : db.client.Keys) (a : Start η σ) (n : UInt64) :
    Reports db q keys a n (if n = 0 then none else db.client.lastInsertId a.handle
      ((db.client.execute a.handle q.sql q.binds).run a.world).2) := by
  by_cases hn : n = 0
  · rw [if_pos hn]
    exact ⟨fun _ => rfl, fun h => absurd hn h, fun h => absurd hn h,
      iff_of_true (fun key hkey => nomatch hkey) fun h => absurd hn h⟩
  · rw [if_neg hn]
    rcases hgenerated : keys.generated a.handle q.sql q.binds a.world with _ | key
    · refine ⟨fun h => absurd h hn, fun _ key hkey => ?_, fun _ _ => keys.kept hgenerated, ?_⟩
      · rw [hgenerated] at hkey
        cases hkey
      · constructor
        · intro hown _ _
          refine Option.eq_none_iff_forall_ne_some.mpr fun key hkey => ?_
          have hfound := hown key hkey
          rw [hgenerated] at hfound
          cases hfound
        · intro hnone key hkey
          rw [hnone hn hgenerated] at hkey
          cases hkey
    · have hlatest := keys.latest hgenerated
      refine ⟨fun h => absurd h hn, fun _ other hother => ?_, fun _ hnone => ?_, ?_⟩
      · rw [hlatest, ← hgenerated, hother]
      · rw [hgenerated] at hnone
        cases hnone
      · refine iff_of_true (fun other hother => ?_) fun _ hnone => ?_
        · rw [hgenerated, ← hother, hlatest]
        · rw [hgenerated] at hnone
          cases hnone

/-- An insert that returns was answered by one call on the session in use, with no other contact
    behind it, and reports the key that this call generated. If the call changed no row, nothing is
    reported. If it changed one and generated no key, an earlier key of the session may be. -/
theorem runInsert_reports (keys : db.client.Keys) (hwrite : q.readonly = false)
    {reported : Option Int64} (h : ((db.recorded.runInsert q).run.run s).1 = .ok reported) :
    ∃ k n, Answered db q s k n ((db.recorded.runInsert q).run.run s).2
      ∧ Reports db q keys (s.start.behind db q.sql q.binds false k) n reported := by
  rw [Database.runInsert_state]
  rw [Database.runInsert, Attempt.run_bind] at h
  rcases hrun : (db.recorded.run q).run.run s with ⟨stop | outcome, t⟩
  · rw [hrun] at h
    cases h
  · rcases run_answered hwrite (congrArg Prod.fst hrun) with ⟨k, n, rfl, hanswered⟩
    rw [hrun] at h hanswered
    refine ⟨k, n, hanswered, ?_⟩
    suffices hreported : reported = if n = 0 then none else
        db.client.lastInsertId (s.start.behind db q.sql q.binds false k).handle
          ((db.client.execute (s.start.behind db q.sql q.binds false k).handle q.sql q.binds).run
            (s.start.behind db q.sql q.binds false k).world).2 by
      rw [hreported]
      exact reports_of_answered keys _ n
    have hlast : db.client.lastInsertId t.own.handle t.around.world.world = _ :=
      congr (congrArg db.client.lastInsertId hanswered.handle) hanswered.world
    rw [← hlast]
    by_cases hn : n = 0
    · rw [if_pos hn]
      rw [hn] at h
      exact (Except.ok.inj h).symm
    · have hcount : ¬ (Outcome.affected n).count = 0 := hn
      rw [if_neg hn]
      simp only [if_neg hcount] at h
      exact (Except.ok.inj h).symm

end

/-- The keys that prepared answers name. -/
def Script.keys : scriptedClient.Keys where
  generated _ _ _ script := script.replies.head?.bind ScriptedReply.lastId
  latest {_ _ _ script _} h := by
    obtain ⟨replies, connects, lastId⟩ := script
    cases replies with
    | nil => cases h
    | cons reply rest => exact congrArg (· <|> lastId) (show reply.lastId = some _ from h)
  kept {_ _ _ script} h := by
    obtain ⟨replies, connects, lastId⟩ := script
    cases replies with
    | nil => exact Or.inl rfl
    | cons reply rest => exact Or.inl (congrArg (· <|> lastId) (show reply.lastId = none from h))

/-- An insert that overwrites the row if it is there. -/
def InsertQuery.renewing : InsertQuery where
  table := "users"
  mode := .update
  keys := ["email", "age"]
  rows := [[.text "bob@example.com", .int 42]]
  updateColumns := ["age"]

/-- The statement of an insert that adds the row. -/
def Statement.adding : Statement where
  sql := "INSERT INTO `users` (`email`,`age`) VALUES (:_INSERT_0, :_INSERT_1);"
  binds := .ofList [(":_INSERT_0", .text "bob@example.com"), (":_INSERT_1", .int 41)]
  tables := ["users"]
  readonly := false

/-- The statement that overwrites it. -/
def Statement.renewing : Statement where
  sql := "INSERT INTO `users` (`email`,`age`) VALUES (:_INSERT_0, :_INSERT_1)"
    ++ " ON CONFLICT DO UPDATE SET `age` = excluded.`age`;"
  binds := .ofList [(":_INSERT_0", .text "bob@example.com"), (":_INSERT_1", .int 42)]
  tables := ["users"]
  readonly := false

set_option maxRecDepth 4000 in
theorem InsertQuery.compile_renewing : InsertQuery.renewing.compile .sqlite = .ok .renewing := rfl

/-- A key for the first statement, and none for the second. -/
def Script.keyed : Script where
  replies := [{ lastId := some 7 }, { affected := 1 }]

theorem runInsert_adding :
    ((Database.once.recorded.runInsert .adding).run.run (.scripted .keyed)).1 = .ok (some 7) := by
  simp only [Database.runInsert, Database.run, Database.executeDirect, Database.once_sendRetrying]
  rfl

theorem runInsert_reports_adding :
    Statement.adding.readonly = false
      ∧ ((Database.once.recorded.runInsert .adding).run.run (.scripted .keyed)).1 = .ok (some 7)
      ∧ ∃ k n, Answered Database.once .adding (.scripted .keyed) k n
          ((Database.once.recorded.runInsert .adding).run.run (.scripted .keyed)).2
        ∧ Reports Database.once .adding Script.keys
          ((State.scripted .keyed).start.behind Database.once Statement.adding.sql
            Statement.adding.binds false k) n (some 7) :=
  ⟨rfl, runInsert_adding, runInsert_reports Script.keys rfl runInsert_adding⟩

/-- An insert that overwrites a row may report the key of an earlier statement. -/
theorem runInsert_reports_earlier :
    ¬ ∀ (q : InsertQuery) (r : Statement) (s : State Unit (Recorded Unit Script)) (key : Int64),
      q.compile .sqlite = .ok r →
      ((Database.once.recorded.runInsert r).run.run s).1 = .ok (some key) →
        Script.keys.generated () r.sql r.binds s.around.world.world = some key := by
  intro hall
  let s := ((Database.once.recorded.runInsert .adding).run.run (.scripted .keyed)).2
  have hreported : ((Database.once.recorded.runInsert .renewing).run.run s).1 = .ok (some 7) := by
    simp only [s, Database.runInsert, Database.run, Database.executeDirect,
      Database.once_sendRetrying]
    rfl
  have hgenerated := hall .renewing .renewing s 7 InsertQuery.compile_renewing hreported
  have hnone : Script.keys.generated () Statement.renewing.sql Statement.renewing.binds
      s.around.world.world = none := by
    simp only [s, Database.runInsert, Database.run, Database.executeDirect,
      Database.once_sendRetrying]
    rfl
  rw [hnone] at hgenerated
  cases hgenerated

end SqlMapper
