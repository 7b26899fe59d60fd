import SqlMapper.Proofs.Cache.Reads
import SqlMapper.Proofs.Engine.Retrying
import SqlMapper.Proofs.Engine.Switching
import SqlMapper.Proofs.Program.Routine
import SqlMapper.Statement.Targets

/-!
# Tracked Tables

Reads that are sent again when one of their tables was written to.

A read is cached under its table, and a write drops what is cached under the
tables that it names. What is gone from the cache stays gone until the same read
puts it back: `lacking` is a frame to which every operation keeps that does not
cache under the key, transactions included, and rebuilding the session as well.
So the read is sent again, whatever came between the write and the read, and
whether the write succeeded or not. A read of several tables is always sent.

The tables of a read are those of its list. A table that only a hand-written
condition names is none of them, and writing to it drops nothing.

## Main definitions

* `lacking`: The frame of what does not cache under a key.
* `ReadSent`: A read was sent, before anything else was asked of the session.

## Theorems

* `lacking_upholds`, `lacking_encloses`: Every operation keeps to that but those that cache there.
* `write_lacks`: A write leaves nothing cached for its tables.
* `run_sent`: A read is sent if nothing is cached for it.
* `tracked_reads_reach`: A read is sent if one of its tables was written to before.
* `untracked_reads_rest`: It may not be if the table is only named in its conditions.
-/

namespace SqlMapper

variable {η σ α : Type}

/-- Nothing is cached under a key where nothing was. -/
def lacking (η σ : Type) (key : String) : Frame η σ where
  rel s t := s.around.cache.get? key = none → t.around.cache.get? key = none
  refl _ := id
  trans := fun hst htu hs => htu (hst hs)

namespace Database

variable (db : Database η σ)

/-- Sending a statement caches nothing. -/
theorem sendRetrying_partOf (sql : String) (binds : Binds) (readonly : Bool) (s : State η σ) :
    ((db.sendRetrying sql binds readonly).run s).2.around.cache.PartOf s.around.cache := by
  have hsend := fun s => (db.send_kept sql binds readonly s).2.2.cache
  refine sendFrom_induction db sql binds readonly 1 s
    (motive := fun s done => done.2.around.cache.PartOf s.around.cache) ?_ ?_
  · intro attempt s
    exact (db.conclude_kept sql binds attempt s.own.inTransaction _ _).2.1.cache.trans (hsend s)
  · intro attempt failure s done _ hrest
    rw [(db.recover_rebuilt attempt failure _).1.cache] at hrest
    exact hrest.trans (hsend s)

theorem enter_partOf (s : State η σ) :
    (db.enter.run.run s).2.around.cache.PartOf s.around.cache := by
  cases hflag : s.own.inTransaction with
  | true =>
      rw [enter_inside _ s hflag]
      exact .refl _
  | false =>
      have hbegin := (switch_run "BEGIN" db.client.begin true "transaction started" s).2.2.1
      rw [enter_outside _ s hflag]
      rcases hrun : db.begin.run.run s with ⟨stop | _, t⟩
      all_goals
        rw [show (switch "BEGIN" db.client.begin true "transaction started").run.run s = _ from
          hrun] at hbegin
        exact hbegin

theorem close_partOf (ending : Except Stop α) (s : State η σ) :
    ((db.close ending).run s).2.around.cache.PartOf s.around.cache := by
  rcases ending with (e | _) | a
  · exact (db.rollback_run s).2.2.1
  · exact (db.rollback_run ((SqlMapper.report {
      level := .warn
      message := "transaction closure panicked, rolling back" }).run s).2).2.2.1
  · have hcommit := (switch_run "COMMIT" db.client.commit false "transaction committed" s).2.2.1
    rw [close_ok_run]
    rcases hrun : db.commit.run.run s with ⟨stop | _, t⟩
    all_goals
      rw [show (switch "COMMIT" db.client.commit false "transaction committed").run.run s = _ from
        hrun] at hcommit
    · exact (db.rollback_run t).2.2.1.trans hcommit
    · exact hcommit

end Database

theorem lacking_encloses (db : Database η σ) (key : String) : Encloses db (lacking η σ key) where
  enter s := (db.enter_partOf s).lacks
  close ending s := (db.close_partOf ending s).lacks

theorem lacking_upholds (db : Database η σ) (key : String) :
    Upholds db (lacking η σ key) (· ≠ key) where
  reporting _ _ := id
  dropping _ _ _ hpart := hpart.lacks
  storing s other value ttl cache _ hother hset hnone := by
    -- The entry that was put in is under another key.
    refine Option.eq_none_iff_forall_ne_some.mpr fun e hget => ?_
    rcases Cache.get?_of_set? hset hget with ⟨hkey, -⟩ | hthere
    · exact hother hkey.symm
    · exact Option.eq_none_iff_forall_ne_some.mp hnone e hthere
  counting _ _ := id
  sending sql binds readonly s := (db.sendRetrying_partOf sql binds readonly s).lacks
  transaction := (lacking_encloses db key).transaction

/-- Every operation keeps to that, unless it caches under the key. -/
theorem lacking_perform (db : Database η σ) {key : String} {op : Operation}
    (hop : ¬ op.StoresUnder db key) : (lacking η σ key).Holds (op.perform db).run := by
  by_cases hreconnect : op = .reconnect
  · intro s hnone
    rw [hreconnect]
    exact (congrArg (·.get? key) (db.reconnect_rebuilt s).1.cache).trans hnone
  · refine (lacking_upholds db key).perform hreconnect fun other hstores => ?_
    rintro rfl
    exact hop hstores

/-- An operation runs a compiled statement. -/
def Operation.Runs (db : Database η σ) (w : Statement) : Operation → Prop
  | .run s | .runInsert s => s = w
  | .insert q => q.compile db.dialect = .ok w
  | .update q => q.compile = .ok w
  | .delete q => q.compile = .ok w
  | _ => False

theorem Database.runInsert_state (db : Database η σ) (w : Statement) (s : State η σ) :
    ((db.runInsert w).run.run s).2 = ((db.run w).run.run s).2 := by
  rw [Database.runInsert, Attempt.run_bind]
  rcases (db.run w).run.run s with ⟨stop | outcome, t⟩
  · rfl
  · by_cases hcount : outcome.count = 0
    · simp only [if_pos hcount]
      rfl
    · simp only [if_neg hcount]
      rfl

/-- Running a statement is all that such an operation does. -/
theorem Operation.perform_state {db : Database η σ} {w : Statement} {op : Operation}
    (h : op.Runs db w) (s : State η σ) :
    ((op.perform db).run.run s).2 = ((db.run w).run.run s).2 := by
  have hmap : ∀ {β γ : Type} (f : β → γ) (x : Attempt η σ β),
      ((f <$> x).run.run s).2 = (x.run.run s).2 :=
    fun f x => congrArg Prod.snd (Attempt.run_map f x s)
  cases op with
  | run r =>
      cases h
      exact hmap _ _
  | runInsert r =>
      cases h
      exact (hmap _ _).trans (db.runInsert_state _ s)
  | insert q =>
      rw [Operation.perform, hmap, Database.insert, show q.compile db.dialect = .ok w from h]
      exact db.runInsert_state w s
  | update q =>
      rw [Operation.perform, hmap, Database.update, show q.compile = .ok w from h]
      exact hmap _ _
  | delete q =>
      rw [Operation.perform, hmap, Database.delete, show q.compile = .ok w from h]
      exact hmap _ _
  | _ => exact h.elim

/-- A write leaves nothing cached for its tables, whether it succeeds or not. -/
theorem write_lacks (db : Database η σ) {w : Statement} (hwrite : w.readonly = false)
    {table : String} (htable : table ∈ w.tables) (s : State η σ) :
    ((db.run w).run.run s).2.around.cache.Clear table := by
  rw [Database.run, if_neg (by rw [hwrite]; exact Bool.false_ne_true)]
  exact invalidateAll_clear w.tables ((db.executeDirect w.sql w.binds false).run.run s).2 table
    htable

/-- A read was sent on the session in use, before anything else was asked of it. -/
def ReadSent (r : Statement) (s t : State η (Recorded η σ)) : Prop :=
  ∃ succeeded rest, t.contacts
    = s.contacts ++ .call s.own.handle (.query r.sql r.binds) succeeded :: rest

namespace Database

variable (db : Database η σ)

theorem sendRetrying_sent (r : Statement) (s : State η (Recorded η σ)) :
    ReadSent r s ((db.recorded.sendRetrying r.sql r.binds true).run s).2 := by
  refine sendFrom_induction db.recorded r.sql r.binds true 1 s
    (motive := fun s done => ReadSent r s done.2) ?_ ?_
  · intro attempt s
    have hworld := (db.recorded.conclude_kept r.sql r.binds attempt s.own.inTransaction
      ((db.recorded.send r.sql r.binds true).run s).1
      ((db.recorded.send r.sql r.binds true).run s).2).2.2
    exact ⟨_, [], (congrArg Recorded.contacts hworld).trans
      (db.send_recorded r.sql r.binds true s).2.2.1⟩
  · -- The attempts behind the first one add to its contact.
    rintro attempt failure s done - ⟨succeeded, rest, hrest⟩
    rw [(db.recover_recorded attempt failure _).2.2.1,
      (db.send_recorded r.sql r.binds true s).2.2.1] at hrest
    simp only [List.append_assoc, List.singleton_append] at hrest
    exact ⟨_, _, hrest⟩

theorem executeDirect_sent (r : Statement) (s : State η (Recorded η σ)) :
    ReadSent r s ((db.recorded.executeDirect r.sql r.binds true).run.run s).2 := by
  have hsent := db.sendRetrying_sent r s
  rw [executeDirect_run]
  rcases hresult : (db.recorded.sendRetrying r.sql r.binds true).run s with ⟨failure | outcome, t⟩
  all_goals
    rw [hresult] at hsent
    exact hsent

theorem storeIfCurrent_world (table : String) (started : Nat) (key : String) (value : CacheValue)
    (ttl : UInt64) (s : State η σ) :
    ((storeIfCurrent table started key value ttl : Attempt η σ Unit).run.run s).2.around.world
      = s.around.world := by
  rw [storeIfCurrent_run]
  by_cases hcurrent : s.generation table = started
  · rw [if_pos hcurrent, store_run]
    cases s.around.cache.set? s.around.now key value (some ttl) <;> rfl
  · rw [if_neg hcurrent]
    rfl

theorem readThrough_sent (r : Statement) (table : String) (ttl : UInt64) (key : String)
    (s : State η (Recorded η σ)) :
    ReadSent r s ((db.recorded.readThrough r table ttl key).run.run s).2 := by
  have hsent := db.executeDirect_sent r s
  rw [readThrough, Attempt.run_always_bind, generation_run, Attempt.run_bind]
  rcases hresult : (db.recorded.executeDirect r.sql r.binds true).run.run s with ⟨stop | outcome, t⟩
  · rw [hresult] at hsent
    exact hsent
  · rw [hresult] at hsent
    -- Storing the answer asks nothing of the session.
    dsimp only
    rw [Attempt.run_bind_pure, ReadSent, State.contacts, storeIfCurrent_world]
    exact hsent

/-- A read is sent if nothing is cached for it, in a transaction or not. -/
theorem run_sent {r : Statement} (hread : r.readonly = true) {s : State η (Recorded η σ)}
    (hlacks : ∀ key, db.StoresUnder r key → s.around.cache.get? key = none) :
    ReadSent r s ((db.recorded.run r).run.run s).2 := by
  rw [Database.run, if_pos hread, readCached_run]
  split
  · rename_i table ttl hslot _
    have hnone := hlacks _ ⟨table, ttl, hslot, rfl⟩
    have hmiss : s.around.cache.get s.around.now (queryKey table r.sql r.binds)
        = (none, s.around.cache) := by
      rw [Cache.get, hnone]
    have hlooked : (around (Surroundings.lookup (queryKey table r.sql r.binds))).run s = (none,
        { s with around := { s.around with
          journal := s.around.journal ++ [.lookup (queryKey table r.sql r.binds) false] } }) := by
      let got := s.around.cache.get s.around.now (queryKey table r.sql r.binds)
      show (got.1, { s with around := { s.around with
        cache := got.2
        journal := s.around.journal ++ [Event.lookup _ got.1.isSome] } }) = _
      rw [show got = _ from hmiss]
      rfl
    rw [hlooked]
    exact db.readThrough_sent r table ttl _ _
  · exact db.executeDirect_sent r s

end Database

/-- A read is sent if one of its tables was written to before, whatever else came between, as long
    as the read was not made then. A read of several tables is sent in any case. -/
theorem tracked_reads_reach (db : Database η σ) {α : Type} (between : Routine α)
    (s : State η (Recorded η σ)) (q : SelectQuery) (r w : Statement) (table : String)
    (hcompile : q.compile = .ok r) (htable : table ∈ q.tables ∨ q.tables.length ≠ 1)
    (hwrite : w.readonly = false) (hwritten : table ∈ w.tables)
    (hbetween : ∃ c ∈ between.calls db.recorded s, c.op.Runs db.recorded w)
    (hkeys : ∀ c ∈ between.calls db.recorded s, ∀ key, db.StoresUnder r key →
      ¬ c.op.StoresUnder db.recorded key) :
    let t := ((between.run db.recorded).run.run s).2
    ReadSent r t ((db.recorded.run r).run.run t).2 := by
  intro t
  rcases SelectQuery.kind hcompile with ⟨hread, htables⟩
  refine db.run_sent hread ?_
  rintro key ⟨one, ttl, hslot, rfl⟩
  have hone := Database.tables_of_cacheSlot? hslot
  -- The read is one of a single table, which was written to.
  have hsame : table = one := by
    rw [← htables, hone] at htable
    exact List.mem_singleton.mp (htable.resolve_right fun hmany => hmany rfl)
  rcases hbetween with ⟨c, hc, hop⟩
  have hspans := (lacking_encloses db.recorded (queryKey one r.sql r.binds)).routine
    (r := between) (s := s) fun c hc => by
      have hkept := lacking_perform db.recorded (hkeys c hc _ ⟨one, ttl, hslot, rfl⟩) c.before
      rw [between.perform_of_mem_calls c hc] at hkept
      exact hkept
  refine hspans.after c hc ?_
  have hcleared := write_lacks db.recorded hwrite hwritten c.before
  rw [← Operation.perform_state hop c.before, between.perform_of_mem_calls c hc, hsame] at hcleared
  exact hcleared r.sql r.binds

/-- A selection whose condition reads another table. -/
def SelectQuery.nested : SelectQuery where
  tables := ["a"]
  conditions := some { clauses := [.raw "id IN (SELECT a_id FROM b)"] }

/-- Its statement. -/
def Statement.nested : Statement where
  sql := "SELECT * FROM `a` WHERE id IN (SELECT a_id FROM b);"
  binds := ∅
  tables := ["a"]
  readonly := true

set_option maxRecDepth 20000 in
theorem SelectQuery.compile_nested : SelectQuery.nested.compile = .ok .nested := rfl

/-- A write to a table. -/
def Statement.writing (table : String) : Statement where
  sql := "UPDATE " ++ quotePath table ++ " SET n = 1;"
  binds := ∅
  tables := [table]
  readonly := false

/-- A write that is not looked after. -/
def Routine.heedless (table : String) : Routine Unit :=
  .call (.run (.writing table)) fun _ => .ending (.ok ())

/-- An answer that says that a statement was refused. -/
def ScriptedReply.refused : ScriptedReply where
  failure := some { code := some 1142, message := "command denied" }

/-- The read succeeds, and the write behind it does not. -/
theorem tracked_reads_reach_refused :
    let db := Database.scripted
    let s := ((db.recorded.run .nested).run.run
      (State.scripted { replies := [{ }, .refused] })).2
    let t := (((Routine.heedless "a").run db.recorded).run.run s).2
    (SelectQuery.nested.compile = .ok .nested ∧ "a" ∈ SelectQuery.nested.tables)
      ∧ ((Statement.writing "a").readonly = false ∧ "a" ∈ (Statement.writing "a").tables)
      ∧ (∃ c ∈ (Routine.heedless "a").calls db.recorded s, c.op.Runs db.recorded (.writing "a"))
      ∧ (∀ c ∈ (Routine.heedless "a").calls db.recorded s, ∀ key, db.StoresUnder .nested key →
        ¬ c.op.StoresUnder db.recorded key)
      ∧ ReadSent .nested t ((db.recorded.run .nested).run.run t).2 := by
  intro db s t
  have hbetween : ∃ c ∈ (Routine.heedless "a").calls db.recorded s,
      c.op.Runs db.recorded (.writing "a") := ⟨_, List.mem_cons_self, rfl⟩
  have hkeys : ∀ c ∈ (Routine.heedless "a").calls db.recorded s, ∀ key,
      db.StoresUnder .nested key → ¬ c.op.StoresUnder db.recorded key := by
    intro c hc key _ hstores
    rw [List.mem_singleton.mp hc] at hstores
    exact Bool.false_ne_true hstores.1
  have hmem : "a" ∈ SelectQuery.nested.tables := List.mem_singleton.mpr rfl
  have hwritten : "a" ∈ (Statement.writing "a").tables := List.mem_singleton.mpr rfl
  exact ⟨⟨SelectQuery.compile_nested, hmem⟩, ⟨rfl, hwritten⟩, hbetween, hkeys,
    tracked_reads_reach db (.heedless "a") s .nested .nested (.writing "a") "a"
      SelectQuery.compile_nested (Or.inl hmem) rfl hwritten hbetween hkeys⟩

/-- A connection to prepared answers on which each statement is sent once. -/
def Database.once : Database Unit Script :=
  { Database.scripted with options := { retry := .never } }

theorem Database.once_sendRetrying (sql : String) (binds : Binds) (readonly : Bool) :
    Database.once.recorded.sendRetrying sql binds readonly = (do
      let transactional ← inTransaction
      let result ← Database.once.recorded.send sql binds readonly
      Database.once.recorded.conclude sql binds 1 transactional result) :=
  funext fun s => sendFrom_stop_run _ sql binds readonly 1 s (Or.inr (by decide))

set_option maxRecDepth 20000 in
/-- A read may be answered from the cache although a table was written to that its text names. -/
theorem untracked_reads_rest :
    ¬ ∀ (q : SelectQuery) (r w : Statement) (table : String)
        (s : State Unit (Recorded Unit Script)),
      q.compile = .ok r → table ∈ writtenTables r.sql → w.readonly = false → table ∈ w.tables →
        s.own.inTransaction = false →
          let first := ((Database.once.recorded.run r).run.run s).2
          let written := ((Database.once.recorded.run w).run.run first).2
          ReadSent r written ((Database.once.recorded.run r).run.run written).2 := by
  intro hall
  rcases hall .nested .nested (.writing "b") "b" (.scripted { }) SelectQuery.compile_nested
    (by decide +kernel) rfl (List.mem_singleton.mpr rfl) rfl with ⟨succeeded, rest, hsent⟩
  have hlength := congrArg List.length hsent
  rw [List.length_append, List.length_cons] at hlength
  -- In fact no contact is added.
  have hsame : ((Database.once.recorded.run .nested).run.run
      ((Database.once.recorded.run (.writing "b")).run.run
        ((Database.once.recorded.run .nested).run.run (.scripted { })).2).2).2.contacts.length
      = ((Database.once.recorded.run (.writing "b")).run.run
        ((Database.once.recorded.run .nested).run.run (.scripted { })).2).2.contacts.length := by
    simp only [Database.run, Database.readCached, Database.readThrough, Database.executeDirect,
      Database.once_sendRetrying]
    decide +kernel
  omega

end SqlMapper
