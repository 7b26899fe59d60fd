import SqlMapper.Proofs.Cache.Freshness
import SqlMapper.Proofs.Program.Routine

/-!
# Fresh Reads

Whatever a host does, its reads are what the store would answer.

A host reads and writes compiled statements, runs hand-written writes, empties
and drops tables, and does all of this in and outside of transactions. What is
assumed of the store is assumed of the calls that are made: that a write changes
no other tables than those it is said to write, and that a read of one table
depends on this table. Then what is cached stays right from call to call, and a
read that is answered from the cache cannot be told from one that is not.

## Main definitions

* `Operation.reading?`: The read that a call performs.
* `Backing.AllowsStatement`, `Backing.Allows`: What is assumed of a statement, and of a call.
* `Database.WouldYield`: What a read would yield if it were sent.
* `Shelf`: A store with one table, as an example.

## Theorems

* `perform_fresh`: Every call keeps what is cached right.
* `transaction_fresh`: So does a transaction, however it ends.
* `Routine.fresh`: What is cached is right at every call of a run.
* `reads_are_fresh`: A read that succeeds yields what the store would answer.
-/

namespace SqlMapper

variable {η σ κ α : Type}

/-- The read that a call performs, if it performs one. -/
def Operation.reading? : Operation → Option Statement
  | .run s | .runInsert s => if s.readonly then some s else none
  | _ => none

namespace Backing

variable {db : Database η σ} (b : Backing db κ)

/-- What is assumed of a compiled statement: the tables it names are those that it reads or may
    write. -/
def AllowsStatement (s : Statement) : Prop :=
  if s.readonly then b.Reads s.sql s.binds s.tables else b.Writes s.sql s.binds s.tables

/-- What is assumed of a call. Calls of other kinds are not made. -/
def Allows : Operation → Prop
  | .run s | .runInsert s => b.AllowsStatement s
  | .execute sql binds readonly => readonly = false ∧ b.Writes sql binds (writtenTables sql)
  | .truncate table => b.Writes (db.dialect.truncate table) ∅ [table]
  | .drop table => b.Writes (dropStatement table) ∅ [table]
  | .invalidate _ => True
  | _ => False

variable {b} {known : Statement → Prop}

theorem reads_of_allows {op : Operation} {r : Statement} (hallows : b.Allows op)
    (h : op.reading? = some r) : b.Reads r.sql r.binds r.tables := by
  have hstatement : ∀ q : Statement, b.AllowsStatement q →
      (if q.readonly then some q else none) = some r → b.Reads r.sql r.binds r.tables := by
    intro q hq hread
    by_cases hreadonly : q.readonly = true
    · rw [if_pos hreadonly] at hread
      cases hread
      rwa [AllowsStatement, if_pos hreadonly] at hq
    · rw [if_neg hreadonly] at hread
      cases hread
  cases op with
  | run q => exact hstatement q hallows h
  | runInsert q => exact hstatement q hallows h
  | _ => cases h

theorem run_fresh (hknown : b.Known known) {r : Statement} (hallows : b.AllowsStatement r)
    (hr : r.readonly = true → known r) : (b.fresh known).Holds (db.run r).run := by
  unfold Database.run
  by_cases hread : r.readonly = true
  · rw [if_pos hread]
    intro s hs
    have hanswered := readCached_answered hknown hs (hr hread)
    exact ⟨hanswered.fresh, hanswered.inTransaction⟩
  · rw [AllowsStatement, if_neg hread] at hallows
    rw [if_neg hread]
    exact write_fresh hknown hallows (Kept.invalidateAll r.tables) (invalidateAll_clear r.tables)

/-- Every call keeps what is cached right. -/
theorem perform_fresh (hknown : b.Known known) {op : Operation} (hallows : b.Allows op)
    (hr : ∀ r, op.reading? = some r → known r) : (b.fresh known).Holds (op.perform db).run := by
  have hreporting := fresh_reporting hknown
  cases op with
  | run r =>
      refine Frame.holds_map _ (run_fresh hknown hallows fun hread => hr r ?_)
      simp only [Operation.reading?, if_pos hread]
  | runInsert r =>
      refine Frame.holds_map _ (Upholds.runInsert (run_fresh hknown hallows fun hread => hr r ?_))
      simp only [Operation.reading?, if_pos hread]
  | execute sql binds readonly =>
      rcases hallows with ⟨rfl, hwrites⟩
      exact Frame.holds_map _ (write_fresh hknown hwrites (Kept.invalidateAll _)
        (invalidateAll_clear _))
  | truncate table =>
      refine Frame.holds_map _ (Frame.holds_attempt_bind (hreporting.check _) fun _ => ?_)
      refine Frame.holds_attempt_bind (write_fresh hknown hallows (Kept.invalidate table) ?_)
        fun emptied => Frame.holds_attempt_pure _
      intro s other hother
      rw [List.mem_singleton.mp hother]
      exact invalidate_clear table s
  | drop table =>
      refine Frame.holds_map _ (Frame.holds_attempt_bind (hreporting.check _) fun _ => ?_)
      refine Frame.holds_map _ (write_fresh hknown hallows ?_ ?_)
      · exact Frame.holds_bind (Kept.invalidate table) fun _ => Kept.forget _
      · intro s other hother
        rw [List.mem_singleton.mp hother]
        exact (invalidate_clear table s).of_partOf (Cache.erase_partOf _ _)
  | invalidate table =>
      refine Frame.holds_map _ (Frame.holds_always fun s => ?_)
      rcases Kept.invalidate table s with ⟨hkept, hworld⟩
      exact fresh_of_touches hknown (.of_kept hkept hworld)
  | _ => exact hallows.elim

/-- Beginning a transaction keeps what is cached right: what a rollback brings back is what the
    cached reads were about. -/
theorem begin_fresh {s : State η σ} (hs : b.Fresh known s) (hclosed : s.own.inTransaction = false) :
    let done := db.begin.run.run s
    b.Fresh known done.2 ∧ ((done.1 = .ok () ∧ done.2.own.inTransaction = true)
      ∨ ((∃ stop, done.1 = .error stop) ∧ done.2.own.inTransaction = false)) := by
  intro done
  rcases Database.switch_run "BEGIN" db.client.begin true "transaction started" s with
    ⟨hworld, -, hcache, hcases⟩
  have hcontents : b.contents done.2.around.world = b.contents s.around.world :=
    (congrArg b.contents hworld).trans (b.begin_contents _ _)
  have hcurrent : b.Matches known done.2.around.cache (b.contents done.2.around.world) := by
    rw [hcontents]
    exact hs.current.of_partOf hcache
  rcases hcases with ⟨hok, hresult, hflag⟩ | ⟨-, ⟨e, hresult⟩, hflag⟩
  · refine ⟨⟨hcurrent, fun _ => ?_⟩, Or.inl ⟨hresult, hflag⟩⟩
    have hsaved := b.begin_saved _ _ hok
    rw [show done.2.around.world = _ from hworld, hsaved]
    exact hs.current.of_partOf hcache
  · have hstill : done.2.own.inTransaction = false := hflag.trans hclosed
    exact ⟨⟨hcurrent, fun hopen => absurd (hstill.symm.trans hopen) Bool.false_ne_true⟩,
      Or.inr ⟨⟨_, hresult⟩, hstill⟩⟩

theorem commit_fresh {s : State η σ} (hs : b.Fresh known s) :
    let done := db.commit.run.run s
    b.Fresh known done.2 ∧ ((done.1 = .ok () ∧ done.2.own.inTransaction = false)
      ∨ ((∃ stop, done.1 = .error stop)
        ∧ done.2.own.inTransaction = s.own.inTransaction)) := by
  intro done
  rcases Database.switch_run "COMMIT" db.client.commit false "transaction committed" s with
    ⟨hworld, -, hcache, hcases⟩
  have hcontents : b.contents done.2.around.world = b.contents s.around.world :=
    (congrArg b.contents hworld).trans (b.commit_contents _ _)
  have hcurrent : b.Matches known done.2.around.cache (b.contents done.2.around.world) := by
    rw [hcontents]
    exact hs.current.of_partOf hcache
  rcases hcases with ⟨-, hresult, hflag⟩ | ⟨hfailed, ⟨e, hresult⟩, hflag⟩
  · exact ⟨⟨hcurrent, fun hopen => absurd (hflag.symm.trans hopen) Bool.false_ne_true⟩,
      Or.inl ⟨hresult, hflag⟩⟩
  · refine ⟨⟨hcurrent, fun hopen => ?_⟩, Or.inr ⟨⟨_, hresult⟩, hflag⟩⟩
    have hsaved := b.commit_saved _ _ hfailed
    rw [show done.2.around.world = _ from hworld, hsaved]
    exact (hs.saved (hflag.symm.trans hopen)).of_partOf hcache

/-- Rolling back keeps what is cached right, whether it succeeds or not. -/
theorem rollback_fresh {s : State η σ} (hs : b.Fresh known s) (hopen : s.own.inTransaction = true) :
    let done := (db.rollback.run s).2
    b.Fresh known done ∧ done.own.inTransaction = false := by
  intro done
  rcases db.rollback_run s with ⟨hworld, -, hcache, hflag⟩
  refine ⟨⟨?_, fun hstill => absurd (hflag.symm.trans hstill) Bool.false_ne_true⟩, hflag⟩
  rw [show done.around.world = _ from hworld]
  cases hok : ((db.client.rollback s.own.handle).run s.around.world).1.outcome.isOk with
  | true =>
      rw [b.rollback_contents _ _ hok]
      exact (hs.saved hopen).of_partOf hcache
  | false =>
      rw [b.rollback_refused _ _ hok]
      exact hs.current.of_partOf hcache

theorem close_fresh (hknown : b.Known known) {s : State η σ} (hs : b.Fresh known s)
    (hopen : s.own.inTransaction = true) (ending : Except Stop α) :
    let done := ((db.close ending).run s).2
    b.Fresh known done ∧ done.own.inTransaction = false := by
  intro done
  rcases ending with (e | _) | a
  · exact rollback_fresh hs hopen
  · rcases (fresh_reporting hknown).report {
      level := .warn
      message := "transaction closure panicked, rolling back" } s hs with ⟨hreported, hflag⟩
    exact rollback_fresh hreported (hflag.trans hopen)
  · have hcommit := commit_fresh hs
    have hdone : done = _ := congrArg Prod.snd (db.close_ok_run a s)
    rcases hrun : db.commit.run.run s with ⟨result, t⟩
    rw [hrun] at hcommit hdone
    rcases hcommit with ⟨hfresh, ⟨hresult, hflag⟩ | ⟨⟨stop, hresult⟩, hflag⟩⟩
    · rw [show result = .ok () from hresult] at hdone
      rw [hdone]
      exact ⟨hfresh, hflag⟩
    · rw [show result = .error stop from hresult] at hdone
      rw [hdone]
      exact rollback_fresh hfresh (hflag.trans hopen)

theorem enter_fresh {s entered : State η σ} {outer : Bool} (hs : b.Fresh known s)
    (h : db.enter.run.run s = (.ok outer, entered)) : b.Fresh known entered := by
  cases hflag : s.own.inTransaction with
  | true =>
      rw [db.enter_inside s hflag] at h
      cases h
      exact hs
  | false =>
      have hbegin := begin_fresh hs hflag
      rw [db.enter_outside s hflag] at h
      rcases hrun : db.begin.run.run s with ⟨stop | _, t⟩
      · rw [hrun] at h
        cases h
      · rw [hrun] at h hbegin
        cases h
        exact hbegin.1

/-- A transaction keeps what is cached right if its body does, however it ends. -/
theorem transaction_fresh (hknown : b.Known known) {s : State η σ} (hs : b.Fresh known s)
    (body : Attempt η σ α)
    (hbody : ∀ outer entered, db.enter.run.run s = (.ok outer, entered) →
      (b.fresh known).rel entered (body.run.run entered).2) :
    let done := (db.transaction body).run.run s
    b.Fresh known done.2 ∧ done.2.own.inTransaction = s.own.inTransaction := by
  intro done
  cases hflag : s.own.inTransaction with
  | true =>
      have hdone : done = _ := db.transaction_inside body s hflag
      rw [hdone, ← hflag]
      exact hbody false s (db.enter_inside s hflag) hs
  | false =>
      have hdone : done = _ := db.transaction_outside body s hflag
      have henter := db.enter_outside s hflag
      have hbegin := begin_fresh hs hflag
      rcases hrun : db.begin.run.run s with ⟨result, t⟩
      rw [hrun] at hdone henter hbegin
      rcases hbegin with ⟨hfresh, ⟨hresult, hopen⟩ | ⟨⟨stop, hresult⟩, hclosed⟩⟩
      · rw [show result = .ok () from hresult] at hdone henter
        rcases hbody true t henter hfresh with ⟨hafter, hstill⟩
        rw [hdone]
        exact close_fresh hknown hafter (hstill.trans hopen) _
      · rw [show result = .error stop from hresult] at hdone
        rw [hdone]
        exact ⟨hfresh, hclosed⟩

end Backing

namespace Routine

variable {db : Database η σ} {b : Backing db κ} {known : Statement → Prop}

/-- What is cached is right at every call of a run, and when the run has ended. -/
theorem fresh (hknown : b.Known known) {α : Type} {r : Routine α} :
    ∀ {s : State η σ}, b.Fresh known s →
      (∀ c ∈ r.calls db s, b.Allows c.op ∧ ∀ read, c.op.reading? = some read → known read) →
      (∀ c ∈ r.calls db s, b.Fresh known c.before)
        ∧ b.Fresh known ((r.run db).run.run s).2
        ∧ ((r.run db).run.run s).2.own.inTransaction = s.own.inTransaction := by
  induction r with
  | ending result =>
      intro s hs _
      exact ⟨fun c hc => absurd hc List.not_mem_nil, hs, rfl⟩
  | call op next ih =>
      intro s hs hcalls
      let done := (op.perform db).run.run s
      rcases hcalls _ List.mem_cons_self with ⟨hallows, hreads⟩
      rcases Backing.perform_fresh hknown hallows hreads s hs with ⟨hfresh, hflag⟩
      rcases ih done.1 hfresh fun c hc => hcalls c (List.mem_cons_of_mem _ hc) with
        ⟨hbefore, hafter, hstill⟩
      refine ⟨fun c hc => ?_, hafter, hstill.trans hflag⟩
      rcases List.mem_cons.mp hc with rfl | hc
      · exact hs
      · exact hbefore c hc
  | transaction body next ihBody ihNext =>
      intro s hs hcalls
      let done := (db.transaction (body.run db)).run.run s
      -- The calls of the body are calls of the whole, if the body is run.
      have hinner : ∀ {outer entered}, db.enter.run.run s = (.ok outer, entered) →
          ∀ c ∈ body.calls db entered, c ∈ (Routine.transaction body next).calls db s := by
        intro outer entered henter c hc
        simp only [calls, henter, List.mem_append]
        exact Or.inl hc
      have hrest : ∀ c ∈ (next done.1).calls db done.2,
          c ∈ (Routine.transaction body next).calls db s := by
        intro c hc
        simp only [calls, List.mem_append]
        exact Or.inr hc
      rcases Backing.transaction_fresh hknown hs (body.run db) (fun outer entered henter hentered =>
        (ihBody hentered fun c hc => hcalls c (hinner henter c hc)).2) with ⟨hfresh, hflag⟩
      rcases ihNext done.1 hfresh fun c hc => hcalls c (hrest c hc) with ⟨hbefore, hafter, hstill⟩
      refine ⟨fun c hc => ?_, hafter, hstill.trans hflag⟩
      simp only [calls, List.mem_append] at hc
      rcases hc with hc | hc
      · split at hc
        · rename_i outer entered henter
          have hentered := Backing.enter_fresh hs henter
          exact (ihBody hentered fun c hc => hcalls c (hinner henter c hc)).1 c hc
        · exact absurd hc List.not_mem_nil
      · exact hbefore c hc

end Routine

/-- Whether a read would yield rows if it were sent in some state, on whatever session. -/
def Database.WouldYield (db : Database η σ) (r : Statement) (s : State η σ) (rows : List Row) :
    Prop :=
  ∃ h, ((db.client.query h r.sql r.binds).run s.around.world).1.outcome = .ok rows

/-- Reads are never stale: a read that succeeds yields the answer of the store, which is what it
    would yield if it were sent at that moment, whether it was answered from the cache or not. -/
theorem reads_are_fresh (db : Database η σ) (b : Backing db κ) {α : Type} (r : Routine α)
    (s : State η σ) (hempty : ∀ table, s.around.cache.Clear table)
    (hallows : ∀ c ∈ r.calls db s, b.Allows c.op)
    (hkeys : ∀ c ∈ r.calls db s, ∀ c' ∈ r.calls db s, ∀ q q' table table',
      c.op.reading? = some q → c'.op.reading? = some q' → q.tables = [table] →
      q'.tables = [table'] → queryKey table q.sql q.binds = queryKey table' q'.sql q'.binds →
      q.sql = q'.sql ∧ q.binds = q'.binds) :
    ∀ c ∈ r.calls db s, ∀ q, c.op = .run q → q.readonly = true →
      ∀ answer, c.result = .ok answer →
        answer = .outcome (.rows (b.answer q.sql q.binds (b.contents c.before.around.world)))
          ∧ ∀ rows, db.WouldYield q c.before rows ∨ db.WouldYield q c.after rows →
            answer = .outcome (.rows rows) := by
  intro c hc q hop hread answer hanswer
  -- The reads that occur are those of the run.
  let known : Statement → Prop := fun q => ∃ c ∈ r.calls db s, c.op.reading? = some q
  have hknown : b.Known known := by
    refine ⟨?_, ?_⟩
    · rintro q ⟨c, hc, hreading⟩
      exact Backing.reads_of_allows (hallows c hc) hreading
    · rintro q q' table table' ⟨c, hc, hq⟩ ⟨c', hc', hq'⟩
      exact hkeys c hc c' hc' q q' table table' hq hq'
  have hstart : b.Fresh known s := by
    refine ⟨?_, fun _ => ?_⟩
    · exact fun _ _ _ _ _ hcaches => absurd hcaches (hempty _).not_caches
    · exact fun _ _ _ _ _ hcaches => absurd hcaches (hempty _).not_caches
  have hbefore := (Routine.fresh hknown hstart fun c hc =>
    ⟨hallows c hc, fun q hq => ⟨c, hc, hq⟩⟩).1 c hc
  have hq : known q := ⟨c, hc, by simp only [hop, Operation.reading?, if_pos hread]⟩
  have hanswered := Backing.readCached_answered hknown hbefore hq
  -- The call is this read, with its outcome as the answer.
  have hperform := Routine.perform_of_mem_calls c hc
  rw [hop, Operation.perform, Database.run, if_pos hread, Attempt.run_map] at hperform
  have hresult : ((db.readCached q).run.run c.before).1.map Answer.outcome = c.result :=
    congrArg Prod.fst hperform
  have hafter : ((db.readCached q).run.run c.before).2 = c.after := congrArg Prod.snd hperform
  have hcontents := hanswered.contents
  rw [hafter] at hcontents
  have hanswer : answer
      = .outcome (.rows (b.answer q.sql q.binds (b.contents c.before.around.world))) := by
    cases houtcome : ((db.readCached q).run.run c.before).1 with
    | error stop =>
        rw [houtcome, hanswer] at hresult
        cases hresult
    | ok outcome =>
        rw [houtcome, hanswer] at hresult
        cases hresult
        rw [hanswered.rows outcome houtcome]
  refine ⟨hanswer, ?_⟩
  have hreads := hknown.reads q hq
  rintro rows (⟨h, hrows⟩ | ⟨h, hrows⟩)
  · rw [hanswer, hreads.rows h _ rows hrows]
  · rw [hanswer, hreads.rows h _ rows hrows, hcontents]

/-- A store with one table, whose rows are only counted. -/
structure Shelf where
  -- How many rows there are.
  rows : Nat
  -- How many a rollback brings back.
  saved : Nat

/-- Every read counts the rows, and every write adds one. -/
def Shelf.client : Client Unit Shelf where
  connect := fun _ _ w => (.ok (), w)
  query := fun _ _ _ w => ({ outcome := .ok (List.replicate w.rows { cells := [] }) }, w)
  execute := fun _ _ _ w => ({ outcome := .ok 1 }, { w with rows := w.rows + 1 })
  begin := fun _ w => ({ outcome := .ok () }, { w with saved := w.rows })
  commit := fun _ w => ({ outcome := .ok () }, w)
  rollback := fun _ w => ({ outcome := .ok () }, { w with rows := w.saved })
  lastInsertId := fun _ _ => none

/-- A connection to such a store. -/
def Database.shelf : Database Unit Shelf where
  client := Shelf.client
  dialect := .sqlite
  config := .sqlite "file"
  options := { }

/-- The store behind it, all of whose rows are in one table. -/
def Shelf.backing : Backing Database.shelf Nat where
  contents w table := if table = "a" then w.rows else 0
  saved w table := if table = "a" then w.saved else 0
  answer _ _ contents := List.replicate (contents "a") { cells := [] }
  connect_contents _ := rfl
  begin_contents _ _ := rfl
  begin_saved _ _ _ := rfl
  commit_contents _ _ := rfl
  commit_saved _ _ _ := rfl
  rollback_contents _ _ _ := rfl
  rollback_refused _ _ h := absurd (show true = false from h) (by decide)

/-- A read of the table. -/
def Statement.readShelf : Statement where
  sql := "SELECT * FROM `a`;"
  binds := ∅
  tables := ["a"]
  readonly := true

/-- A write of the table. -/
def Statement.fillShelf : Statement where
  sql := "INSERT INTO `a` VALUES (1);"
  binds := ∅
  tables := ["a"]
  readonly := false

/-- A read, a write and a read in a transaction that breaks off, and a read. -/
def Routine.undone : Routine Unit :=
  .call (.run .readShelf) fun _ =>
    .transaction
      (.call (.run .fillShelf) fun _ => .call (.run .readShelf) fun _ =>
        (.ending (.error .aborted) : Routine Unit))
      fun _ => .call (.run .readShelf) fun _ => .ending (.ok ())

theorem Shelf.reads : Shelf.backing.Reads "SELECT * FROM `a`;" ∅ ["a"] where
  contents _ _ := rfl
  saved _ _ := rfl
  rows _ _ _ h := (Except.ok.inj h).symm
  depends table htable c d h := by
    rw [← List.singleton_inj.mp htable] at h
    exact congrArg (fun n => List.replicate n _) h

theorem Shelf.writes : Shelf.backing.Writes "INSERT INTO `a` VALUES (1);" ∅ ["a"] where
  contents _ w table htable := by
    rw [List.mem_singleton] at htable
    show (if table = "a" then w.rows + 1 else 0) = if table = "a" then w.rows else 0
    rw [if_neg htable, if_neg htable]
  saved _ _ := rfl

/-- A connection to a store with one row, before any call. -/
def State.shelf : State Unit Shelf where
  around := { world := { rows := 1, saved := 0 } }
  own := { handle := () }

theorem reads_are_fresh_undone :
    (∀ table, State.shelf.around.cache.Clear table)
      ∧ ∀ c ∈ Routine.undone.calls .shelf .shelf, ∀ q, c.op = .run q → q.readonly = true →
        ∀ answer, c.result = .ok answer →
          answer = .outcome (.rows (List.replicate c.before.around.world.rows { cells := [] }))
            ∧ ∀ rows, Database.shelf.WouldYield q c.before rows
              ∨ Database.shelf.WouldYield q c.after rows → answer = .outcome (.rows rows) := by
  -- What is assumed holds of each call that the routine may make.
  have hread : Shelf.backing.Allows (.run .readShelf)
      ∧ ∀ q, (Operation.run .readShelf).reading? = some q → q = .readShelf := by
    refine ⟨?_, fun q h => (Option.some.inj h).symm⟩
    have hreadonly : Statement.readShelf.readonly = true := rfl
    rw [Backing.Allows, Backing.AllowsStatement, if_pos hreadonly]
    exact Shelf.reads
  have hwrite : Shelf.backing.Allows (.run .fillShelf)
      ∧ ∀ q, (Operation.run .fillShelf).reading? = some q → q = .readShelf := by
    refine ⟨?_, fun q h => by cases h⟩
    have hwrites : ¬ Statement.fillShelf.readonly = true := Bool.false_ne_true
    rw [Backing.Allows, Backing.AllowsStatement, if_neg hwrites]
    exact Shelf.writes
  have huses : Routine.undone.Uses fun op =>
      Shelf.backing.Allows op ∧ ∀ q, op.reading? = some q → q = .readShelf :=
    ⟨hread, fun _ => ⟨⟨hwrite, fun _ => ⟨hread, fun _ => trivial⟩⟩,
      fun _ => ⟨hread, fun _ => trivial⟩⟩⟩
  have hcalls := fun c (hc : c ∈ Routine.undone.calls .shelf .shelf) => huses.of_mem_calls c hc
  refine ⟨fun _ _ _ => rfl, ?_⟩
  refine reads_are_fresh .shelf Shelf.backing Routine.undone .shelf (fun _ _ _ => rfl)
    (fun c hc => (hcalls c hc).1) ?_
  intro c hc c' hc' q q' table table' hq hq' _ _ _
  rw [(hcalls c hc).2 q hq, (hcalls c' hc').2 q' hq']
  exact ⟨rfl, rfl⟩

end SqlMapper
