import SqlMapper.Proofs.Cache.Reads
import SqlMapper.Proofs.Client.Backing

/-!
# Freshness

Cached reads are what the store would answer.

A cached read is right as long as its table is the same, and a write drops the
cached reads of its tables before anything else happens. While a transaction is
open there are two sets of contents to be right about, those that statements see
and those that a rollback brings back. Nothing is cached meanwhile, so what is
left in the cache is right about both: it is about tables that the transaction
did not write. This is the invariant `Fresh`, and it survives every call,
whether it succeeds or not, and every end of a transaction.

Two reads may only lie under one key if they are the same read. As keys are
digests this is an assumption, and it is made for the reads that are known to
occur.

## Main definitions

* `Cache.Caches`: What is cached under a key.
* `Backing.Known`: The reads that occur, and what is assumed of them.
* `Backing.Matches`: What is cached is the answer to some contents.
* `Backing.Fresh`: What is cached is what the store would answer.
* `Backing.Answered`: A read was answered by the store, or as the store would.

## Theorems

* `Fresh.of_touches`: Dropping the reads of what was touched leaves the rest right.
* `write_fresh`: A write keeps what is cached right if it drops the reads of its tables.
* `Fresh.storeIfCurrent`: So does storing an answer that was not overtaken.
* `readCached_answered`: A read through the cache is right, whoever answers it.
-/

namespace SqlMapper

variable {η σ κ α : Type}

namespace Cache

/-- Whether rows are cached under a key. -/
def Caches (c : Cache) (key : String) (rows : List Row) : Prop :=
  ∃ e, c.get? key = some e ∧ e.value = .rows rows

theorem Caches.of_partOf {c d : Cache} {key : String} {rows : List Row} (h : c.Caches key rows)
    (hpart : c.PartOf d) : d.Caches key rows := by
  rcases h with ⟨e, hentry, hvalue⟩
  exact ⟨e, hpart key e hentry, hvalue⟩

theorem Clear.not_caches {c : Cache} {table sql : String} {binds : Binds} {rows : List Row}
    (h : c.Clear table) : ¬ c.Caches (queryKey table sql binds) rows := by
  rintro ⟨e, hentry, -⟩
  rw [h sql binds] at hentry
  cases hentry

end Cache

namespace Backing

variable {db : Database η σ} (b : Backing db κ)

/-- The reads that occur, and what is assumed of them: they are reads, and those that lie under one
    key are the same. -/
structure Known (known : Statement → Prop) : Prop where
  -- They are reads.
  reads : ∀ r, known r → b.Reads r.sql r.binds r.tables
  -- Different ones lie under different keys.
  keys : ∀ r r' table table', known r → known r' → r.tables = [table] → r'.tables = [table'] →
    queryKey table r.sql r.binds = queryKey table' r'.sql r'.binds →
    r.sql = r'.sql ∧ r.binds = r'.binds

/-- What is cached of the reads that occur is the answer to some contents. -/
def Matches (known : Statement → Prop) (cache : Cache) (contents : String → κ) : Prop :=
  ∀ r table rows, known r → r.tables = [table] →
    cache.Caches (queryKey table r.sql r.binds) rows → rows = b.answer r.sql r.binds contents

/-- What is cached is what the store would answer, now and after a rollback. -/
structure Fresh (known : Statement → Prop) (s : State η σ) : Prop where
  -- It is what the store would answer now.
  current : b.Matches known s.around.cache (b.contents s.around.world)
  -- While a transaction is open, it is what the store would answer after a rollback.
  saved : s.own.inTransaction = true → b.Matches known s.around.cache (b.saved s.around.world)

variable {b} {known : Statement → Prop}

theorem Matches.of_partOf {c d : Cache} {contents : String → κ} (h : b.Matches known d contents)
    (hpart : c.PartOf d) : b.Matches known c contents :=
  fun r table rows hr htable hcaches => h r table rows hr htable (hcaches.of_partOf hpart)

/-- Dropping the reads of the tables that were touched leaves the rest right. -/
theorem Fresh.of_touches {tables : List String} {s t : State η σ} (hknown : b.Known known)
    (hs : b.Fresh known s) (htouches : b.Touches tables s t)
    (hclear : ∀ table ∈ tables, t.around.cache.Clear table) : b.Fresh known t := by
  refine ⟨?_, ?_⟩
  · intro r table rows hr htable hcaches
    by_cases hmem : table ∈ tables
    · exact absurd hcaches (hclear table hmem).not_caches
    · rw [hs.current r table rows hr htable (hcaches.of_partOf htouches.cache)]
      exact (hknown.reads r hr).depends table htable _ _ (htouches.contents table hmem).symm
  · intro hopen
    rw [htouches.inTransaction] at hopen
    rw [htouches.saved hopen]
    exact (hs.saved hopen).of_partOf htouches.cache

variable (b known) in
/-- Keeping what is cached right, and the transaction open or closed. -/
def fresh : Frame η σ where
  rel s t := b.Fresh known s → b.Fresh known t ∧ t.own.inTransaction = s.own.inTransaction
  refl _ := fun h => ⟨h, rfl⟩
  trans := by
    intro s t u hst htu hs
    rcases hst hs with ⟨ht, hflag⟩
    rcases htu ht with ⟨hu, hflag'⟩
    exact ⟨hu, hflag'.trans hflag⟩

theorem fresh_of_touches (hknown : b.Known known) {s t : State η σ} (h : b.Touches [] s t) :
    (b.fresh known).rel s t := fun hs =>
  ⟨hs.of_touches hknown h fun _ hmem => absurd hmem List.not_mem_nil, h.inTransaction⟩

theorem fresh_reporting (hknown : b.Known known) : Reporting (b.fresh known) where
  reporting _ _ := fresh_of_touches hknown ⟨fun _ _ => rfl, rfl, fun _ => rfl, .refl _⟩

/-- A write keeps what is cached right if the reads of what it may write are dropped behind it. -/
theorem write_fresh (hknown : b.Known known) {sql : String} {binds : Binds} {tables : List String}
    (hwrites : b.Writes sql binds tables) {last : Action η σ Unit}
    (hkept : (Kept.frame η σ).Holds last)
    (hclear : ∀ s, ∀ table ∈ tables, (last.run s).2.around.cache.Clear table) :
    (b.fresh known).Holds ((db.executeDirect sql binds false).thereafter last).run := by
  intro s hs
  let written := ((db.executeDirect sql binds false).run.run s).2
  have htouches := (b.executeDirect_touches hwrites.send_touches s).1
  rcases hkept written with ⟨hlast, hworld⟩
  have hdone := htouches.trans (Touches.of_kept hlast hworld)
  exact ⟨hs.of_touches hknown hdone (hclear written), hdone.inTransaction⟩

/-- Caching the answer to a read keeps what is cached right, outside transactions. -/
theorem Fresh.store (hknown : b.Known known) {s : State η σ} (hs : b.Fresh known s)
    (hclosed : s.own.inTransaction = false) {r : Statement} {table : String} (hr : known r)
    (htable : r.tables = [table]) (ttl : Option UInt64) :
    let value := CacheValue.rows (b.answer r.sql r.binds (b.contents s.around.world))
    let done := ((SqlMapper.store (queryKey table r.sql r.binds) value ttl).run.run s).2
    b.Fresh known done ∧ done.own.inTransaction = s.own.inTransaction
      ∧ done.around.world = s.around.world := by
  intro value done
  have hdone : done = _ := congrArg Prod.snd (store_run (queryKey table r.sql r.binds) value ttl s)
  cases hset : s.around.cache.set? s.around.now (queryKey table r.sql r.binds) value ttl with
  | none =>
      rw [hset] at hdone
      rw [hdone]
      exact ⟨hs, rfl, rfl⟩
  | some cache =>
      rw [hset] at hdone
      rw [hdone]
      refine ⟨⟨?_, fun hopen => absurd (hclosed.symm.trans hopen) Bool.false_ne_true⟩, rfl, rfl⟩
      rintro r' table' rows hr' htable' ⟨e, hentry, hvalue⟩
      rcases Cache.get?_of_set? hset hentry with ⟨hkey, hnew⟩ | hold
      · -- The read under this key is the one that was just answered.
        rcases hknown.keys r' r table' table hr' hr htable' htable hkey with ⟨hsql, hbinds⟩
        rw [hnew] at hvalue
        rw [hsql, hbinds]
        exact (CacheValue.rows.inj hvalue).symm
      · exact hs.current r' table' rows hr' htable' ⟨e, hold, hvalue⟩

variable (b known) in
/-- A read was answered with what the store would answer, if it was answered. -/
structure Answered (r : Statement) (s : State η σ) (done : Except Stop Outcome × State η σ) :
    Prop where
  -- What is cached is still right.
  fresh : b.Fresh known done.2
  -- A transaction is open if one was.
  inTransaction : done.2.own.inTransaction = s.own.inTransaction
  -- Nothing was changed.
  contents : b.contents done.2.around.world = b.contents s.around.world
  -- The answer is that of the store.
  rows : ∀ outcome, done.1 = .ok outcome →
    outcome = .rows (b.answer r.sql r.binds (b.contents s.around.world))

theorem Answered.of_touches (hknown : b.Known known) {r : Statement} {s t : State η σ}
    {done : Except Stop Outcome × State η σ} (hs : b.Fresh known s) (htouches : b.Touches [] s t)
    (h : b.Fresh known t → b.Answered known r t done) : b.Answered known r s done := by
  rcases fresh_of_touches hknown htouches hs with ⟨ht, hflag⟩
  have hdone := h ht
  have hcontents := htouches.contents_eq
  refine ⟨hdone.fresh, hdone.inTransaction.trans hflag, hdone.contents.trans hcontents, ?_⟩
  rw [← hcontents]
  exact hdone.rows

theorem executeDirect_answered (hknown : b.Known known) {s : State η σ} (hs : b.Fresh known s)
    {r : Statement} (hr : known r) :
    b.Answered known r s ((db.executeDirect r.sql r.binds true).run.run s) := by
  have hreads := hknown.reads r hr
  have htouches := (b.executeDirect_touches hreads.send_touches s).1
  rcases fresh_of_touches hknown htouches hs with ⟨hfresh, hflag⟩
  exact ⟨hfresh, hflag, htouches.contents_eq, hreads.executeDirect_rows s⟩

/-- An answer is only cached as long as it is right. -/
theorem Fresh.storeIfCurrent (hknown : b.Known known) {s : State η σ} (hs : b.Fresh known s)
    (hclosed : s.own.inTransaction = false) {r : Statement} {table : String} (hr : known r)
    (htable : r.tables = [table]) (started : Nat) (ttl : UInt64) :
    let value := CacheValue.rows (b.answer r.sql r.binds (b.contents s.around.world))
    let done := ((Database.storeIfCurrent table started (queryKey table r.sql r.binds) value
      ttl).run.run s).2
    b.Fresh known done ∧ done.own.inTransaction = s.own.inTransaction
      ∧ done.around.world = s.around.world := by
  intro value done
  have hdone : done = _ := congrArg Prod.snd (Database.storeIfCurrent_run s table started
    (queryKey table r.sql r.binds) value ttl)
  rw [hdone]
  by_cases hcurrent : s.generation table = started
  · rw [if_pos hcurrent]
    exact hs.store hknown hclosed hr htable (some ttl)
  · rw [if_neg hcurrent]
    rcases (fresh_reporting hknown).report _ s hs with ⟨hfresh, hflag⟩
    exact ⟨hfresh, hflag, rfl⟩

theorem readThrough_answered (hknown : b.Known known) {s : State η σ} (hs : b.Fresh known s)
    (hclosed : s.own.inTransaction = false) {r : Statement} {table : String} (hr : known r)
    (htable : r.tables = [table]) (ttl : UInt64) :
    b.Answered known r s
      ((db.readThrough r table ttl (queryKey table r.sql r.binds)).run.run s) := by
  have hanswered := executeDirect_answered hknown hs hr
  rw [Database.readThrough, Attempt.run_always_bind, generation_run, Attempt.run_bind]
  rcases hrun : (db.executeDirect r.sql r.binds true).run.run s with ⟨stop | outcome, t⟩
  · rw [hrun] at hanswered
    exact ⟨hanswered.fresh, hanswered.inTransaction, hanswered.contents, fun _ hok => by cases hok⟩
  · rw [hrun] at hanswered
    have hfresh : b.Fresh known t := hanswered.fresh
    have hflag : t.own.inTransaction = s.own.inTransaction := hanswered.inTransaction
    have hcontents : b.contents t.around.world = b.contents s.around.world := hanswered.contents
    have houtcome : outcome = .rows (b.answer r.sql r.binds (b.contents t.around.world)) := by
      rw [hcontents]
      exact hanswered.rows outcome rfl
    rcases hfresh.storeIfCurrent hknown (hflag.trans hclosed) hr htable (s.generation table) ttl
      with ⟨hstored, hstill, hworld⟩
    rw [houtcome]
    dsimp only
    rw [Attempt.run_bind_pure]
    refine ⟨hstored, hstill.trans hflag, (congrArg b.contents hworld).trans hcontents, ?_⟩
    intro outcome' hok
    -- The answer is the result unless the deadline of the entry cannot be shown.
    rw [← hcontents]
    exact Attempt.eq_of_map_eq_ok hok

theorem lookup_touches (b : Backing db κ) (key : String) (s : State η σ) :
    b.Touches [] s ((around (Surroundings.lookup key)).run s).2 :=
  ⟨fun _ _ => rfl, rfl, fun _ => rfl, Cache.get_partOf _ _ _⟩

/-- A read through the cache is right, whether it is answered by the cache or by the store. -/
theorem readCached_answered (hknown : b.Known known) {s : State η σ} (hs : b.Fresh known s)
    {r : Statement} (hr : known r) :
    b.Answered known r s ((db.readCached r).run.run s) := by
  rw [Database.readCached_run]
  split
  · rename_i table ttl hslot hclosed
    have htable := Database.tables_of_cacheSlot? hslot
    let key := queryKey table r.sql r.binds
    let looked := (around (Surroundings.lookup key)).run s
    have hworld : looked.2.around.world = s.around.world := rfl
    have hown : looked.2.own = s.own := rfl
    refine Answered.of_touches hknown hs (b.lookup_touches key s) fun ht => ?_
    split
    · rename_i rows t hlooked
      have hfound : (s.around.cache.get s.around.now key).1 = some (.rows rows) :=
        congrArg Prod.fst hlooked
      rcases Cache.exists_entry_of_get hfound with ⟨e, hentry, hvalue⟩
      have hrows := hs.current r table rows hr htable ⟨e, hentry, hvalue⟩
      rw [show looked = _ from hlooked] at hworld
      rw [hlooked] at ht ⊢
      rcases (fresh_reporting hknown).report _ _ ht with ⟨hfresh, hflag⟩
      refine ⟨hfresh, hflag, rfl, fun outcome hok => ?_⟩
      cases hok
      rw [hrows, ← hworld]
    · rename_i found t _ hlooked
      rw [show looked = _ from hlooked] at hown
      rw [hlooked] at ht ⊢
      have hstill : t.own.inTransaction = false := by rw [show t.own = s.own from hown, hclosed]
      exact readThrough_answered hknown ht hstill hr htable ttl
  · exact executeDirect_answered hknown hs hr

end Backing

end SqlMapper
