import SqlMapper.Proofs.Engine.Switching

/-!
# Backing Stores

What is assumed of a database behind a client, where its answers matter.

A backing store has contents, table by table, as statements see them, and the
contents that a rollback would bring back. Its answer to a read is a matter of
the contents. Opening a session and committing change none of them, nor does a
call that fails to begin or to end a transaction; beginning one saves them, and
rolling it back brings back what was saved. A client is not asked to have any of
this for every statement: what a statement reads or writes is stated statement by
statement, by `Reads` and `Writes`.

`Touches` is the trace that statements leave: only the tables they may write are
changed, and nothing is cached. Statements are sent again on rebuilt sessions,
and `sendFrom_touches` says that this makes no difference.

## Main definitions

* `Backing`: The store behind a client.
* `Backing.Reads`, `Backing.Writes`: What is assumed of a statement.
* `Touches`: Only some tables are changed, and nothing is cached.

## Theorems

* `sendFrom_touches`: A statement touches what it may write, however often it is sent.
* `executeDirect_touches`: So does running it past the cache.
* `Reads.executeDirect_rows`: A read that succeeds yields the answer of the store.
-/

namespace SqlMapper

variable {η σ κ : Type}

/-- The store behind a client, whose tables have contents in `κ`. -/
structure Backing (db : Database η σ) (κ : Type) where
  -- The contents of each table, as statements see them.
  contents : σ → String → κ
  -- The contents that a rollback brings back.
  saved : σ → String → κ
  -- The answer to a read.
  answer : String → Binds → (String → κ) → List Row
  -- Asking for a session changes no contents.
  connect_contents : ∀ w,
    contents ((db.client.connect db.dialect.tag db.config).run w).2 = contents w
  -- Neither does beginning a transaction,
  begin_contents : ∀ h w, contents ((db.client.begin h).run w).2 = contents w
  -- which saves them if it succeeds.
  begin_saved : ∀ h w, ((db.client.begin h).run w).1.outcome.isOk = true →
    saved ((db.client.begin h).run w).2 = contents w
  -- Neither does committing it.
  commit_contents : ∀ h w, contents ((db.client.commit h).run w).2 = contents w
  -- A commit that fails can still be rolled back.
  commit_saved : ∀ h w, ((db.client.commit h).run w).1.outcome.isOk = false →
    saved ((db.client.commit h).run w).2 = saved w
  -- Rolling back brings back what was saved,
  rollback_contents : ∀ h w, ((db.client.rollback h).run w).1.outcome.isOk = true →
    contents ((db.client.rollback h).run w).2 = saved w
  -- and changes nothing if it fails.
  rollback_refused : ∀ h w, ((db.client.rollback h).run w).1.outcome.isOk = false →
    contents ((db.client.rollback h).run w).2 = contents w

namespace Backing

variable {db : Database η σ} (b : Backing db κ)

/-- What is assumed of a statement that reads some tables. -/
structure Reads (sql : String) (binds : Binds) (tables : List String) : Prop where
  -- It changes nothing.
  contents : ∀ h w, b.contents ((db.client.query h sql binds).run w).2 = b.contents w
  -- It leaves alone what a rollback brings back.
  saved : ∀ h w, b.saved ((db.client.query h sql binds).run w).2 = b.saved w
  -- If it succeeds it yields the answer of the store.
  rows : ∀ h w rows, ((db.client.query h sql binds).run w).1.outcome = .ok rows →
    rows = b.answer sql binds (b.contents w)
  -- If it reads one table, the answer is a matter of this table.
  depends : ∀ table, tables = [table] → ∀ c d : String → κ, c table = d table →
    b.answer sql binds c = b.answer sql binds d

/-- What is assumed of a statement that writes some tables. -/
structure Writes (sql : String) (binds : Binds) (tables : List String) : Prop where
  -- It changes no other table, whether it succeeds or not.
  contents : ∀ h w table, table ∉ tables →
    b.contents ((db.client.execute h sql binds).run w).2 table = b.contents w table
  -- It leaves alone what a rollback brings back.
  saved : ∀ h w, b.saved ((db.client.execute h sql binds).run w).2 = b.saved w

/-- Only some tables are changed, and nothing is cached. -/
structure Touches (tables : List String) (s t : State η σ) : Prop where
  -- Other tables keep their contents.
  contents : ∀ table, table ∉ tables →
    b.contents t.around.world table = b.contents s.around.world table
  -- A transaction is open if one was.
  inTransaction : t.own.inTransaction = s.own.inTransaction
  -- While one is, what a rollback brings back is the same.
  saved : s.own.inTransaction = true → b.saved t.around.world = b.saved s.around.world
  -- What is cached was cached before.
  cache : t.around.cache.PartOf s.around.cache

namespace Touches

variable {b} {tables : List String} {s t u : State η σ}

theorem refl (tables : List String) (s : State η σ) : b.Touches tables s s :=
  ⟨fun _ _ => rfl, rfl, fun _ => rfl, .refl _⟩

theorem trans (hst : b.Touches tables s t) (htu : b.Touches tables t u) : b.Touches tables s u where
  contents table h := (htu.contents table h).trans (hst.contents table h)
  inTransaction := htu.inTransaction.trans hst.inTransaction
  saved h := (htu.saved (hst.inTransaction.trans h)).trans (hst.saved h)
  cache := htu.cache.trans hst.cache

theorem of_kept (hkept : Kept s t) (hworld : t.around.world = s.around.world) :
    b.Touches tables s t where
  contents table _ := by rw [hworld]
  inTransaction := hkept.inTransaction
  saved _ := by rw [hworld]
  cache := hkept.cache

theorem contents_eq (h : b.Touches [] s t) :
    b.contents t.around.world = b.contents s.around.world :=
  funext fun table => h.contents table List.not_mem_nil

end Touches

section

variable {b} {sql : String} {binds : Binds} {readonly : Bool} {tables : List String}

theorem Reads.send_touches (h : b.Reads sql binds tables) (s : State η σ) :
    b.Touches [] s ((db.send sql binds true).run s).2 := by
  rcases db.send_kept sql binds true s with ⟨-, hworld, hkept⟩
  refine ⟨fun table _ => ?_, hkept.inTransaction, fun _ => ?_, hkept.cache⟩
  · rw [hworld]
    exact congrFun (h.contents s.own.handle s.around.world) table
  · rw [hworld]
    exact h.saved s.own.handle s.around.world

theorem Writes.send_touches (h : b.Writes sql binds tables) (s : State η σ) :
    b.Touches tables s ((db.send sql binds false).run s).2 := by
  rcases db.send_kept sql binds false s with ⟨-, hworld, hkept⟩
  refine ⟨fun table htable => ?_, hkept.inTransaction, fun _ => ?_, hkept.cache⟩
  · rw [hworld]
    exact h.contents s.own.handle s.around.world table htable
  · rw [hworld]
    exact h.saved s.own.handle s.around.world

/-- Recovering from a failure outside a transaction touches nothing. -/
theorem recover_touches (b : Backing db κ) (tables : List String) (attempt : UInt32)
    (failure : ClientFailure) (s : State η σ) (h : s.own.inTransaction = false) :
    b.Touches tables s ((db.recover attempt failure).run s).2 := by
  rcases db.recover_rebuilt attempt failure s with ⟨hrebuilt, -⟩
  refine ⟨fun table _ => ?_, hrebuilt.inTransaction, fun hopen => ?_, fun key e he => ?_⟩
  · rw [hrebuilt.world]
    exact congrFun (b.connect_contents s.around.world) table
  · exact absurd (h.symm.trans hopen) Bool.false_ne_true
  · rw [hrebuilt.cache] at he
    exact he

/-- A statement touches what it may write, however often it is sent, and the result is the answer
    to the last attempt. -/
theorem sendFrom_touches (hsend : ∀ s, b.Touches tables s ((db.send sql binds readonly).run s).2)
    (attempt : UInt32) (s : State η σ) :
    let done := (db.sendFrom sql binds readonly attempt).run s
    ∃ t, b.Touches tables s t ∧ done.1 = ((db.send sql binds readonly).run t).1
      ∧ b.Touches tables t done.2 := by
  refine db.sendFrom_induction sql binds readonly attempt s
    (motive := fun s done => ∃ t, b.Touches tables s t
      ∧ done.1 = ((db.send sql binds readonly).run t).1 ∧ b.Touches tables t done.2) ?_ ?_
  · intro attempt s
    rcases db.conclude_kept sql binds attempt s.own.inTransaction
      ((db.send sql binds readonly).run s).1 ((db.send sql binds readonly).run s).2 with
      ⟨hresult, hkept, hworld⟩
    exact ⟨s, .refl tables s, hresult, (hsend s).trans (.of_kept hkept hworld)⟩
  · intro attempt failure s done hcalls hrest
    let sent := (db.send sql binds readonly).run s
    have hflag : sent.2.own.inTransaction = false :=
      (hsend s).inTransaction.trans (Database.outside_of_callsForRetry hcalls)
    have hbefore := (hsend s).trans (b.recover_touches tables attempt failure sent.2 hflag)
    rcases hrest with ⟨t, ht, hresult, hdone⟩
    exact ⟨t, hbefore.trans ht, hresult, hdone⟩

/-- Running a statement past the cache touches what it may write, and if it succeeds it yields the
    answer to the last attempt. -/
theorem executeDirect_touches
    (hsend : ∀ s, b.Touches tables s ((db.send sql binds readonly).run s).2) (s : State η σ) :
    let done := (db.executeDirect sql binds readonly).run.run s
    b.Touches tables s done.2 ∧ ∀ outcome, done.1 = .ok outcome →
      ∃ t, b.Touches tables s t ∧ ((db.send sql binds readonly).run t).1 = .ok outcome := by
  intro done
  rcases b.sendFrom_touches hsend 1 s with ⟨t, hbefore, hresult, hafter⟩
  have hsent := hbefore.trans hafter
  have hdone : done = _ := Database.executeDirect_run db sql binds readonly s
  rw [Database.sendRetrying] at hdone
  rw [hdone]
  rcases hrun : (db.sendFrom sql binds readonly 1).run s with ⟨failure | outcome, u⟩
  · rw [hrun] at hsent
    -- The error is reported, which touches nothing.
    exact ⟨⟨hsent.contents, hsent.inTransaction, hsent.saved, hsent.cache⟩,
      fun _ hok => by cases hok⟩
  · rw [hrun] at hsent hresult
    refine ⟨hsent, fun outcome' hok => ?_⟩
    cases hok
    exact ⟨t, hbefore, hresult.symm⟩

/-- A read that succeeds yields the answer of the store. -/
theorem Reads.executeDirect_rows (h : b.Reads sql binds tables) (s : State η σ) (outcome : Outcome)
    (hok : ((db.executeDirect sql binds true).run.run s).1 = .ok outcome) :
    outcome = .rows (b.answer sql binds (b.contents s.around.world)) := by
  rcases (b.executeDirect_touches h.send_touches s).2 outcome hok with ⟨t, ht, hsent⟩
  rw [(db.send_kept sql binds true t).1] at hsent
  -- The answer was given in another world, but to the same contents.
  have hcontents := ht.contents_eq
  have hmap : (((db.client.query t.own.handle sql binds).run t.around.world).1.outcome.map
      Outcome.rows) = .ok outcome := hsent
  rcases hreply : ((db.client.query t.own.handle sql binds).run t.around.world).1.outcome with
    failure | rows
  · rw [hreply] at hmap
    cases hmap
  · rw [hreply] at hmap
    cases hmap
    rw [← hcontents, ← h.rows t.own.handle t.around.world rows hreply]

end

end Backing

end SqlMapper
