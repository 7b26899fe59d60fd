import SqlMapper.Proofs.Cache.Freshness
import SqlMapper.Proofs.Select.Evaluation
import SqlMapper.Proofs.Statement.Kinds

/-!
# Pages

What a page says about the query behind it.

A selection is put together call by call, and a page is one of these calls. It
sets the limit of the query and is noted beside it; what is set behind it replaces
the limit and leaves the note as it is. So it is the last call that sets a limit
that decides which rows are shown, and the last page that decides which numbers
are shown with them. Only if these are the same call does the page hold the rows
at its places.

Two statements are sent for a page. What each of them yields is assumed of the
client, `Evaluates`, for these two queries and nothing else. The first of them
goes past the cache; the second may be answered by it, so what is cached of it
has to be what it would yield, `Ready`. The page is then what the two queries
mean. The one that counts removes no duplicates, so the number it yields is that
of the rows of the whole query only if the query removes none either.

## Main definitions

* `Refinement.limit?`, `Refinement.page?`: What a call sets.
* `Undisturbed`: What a read leaves alone.
* `Database.Evaluates`: The client answers a query with its rows.
* `Database.Ready`: A query can be read through the cache.
* `Database.answering`: A connection to tables of which one query is asked.

## Theorems

* `Selection.build_page`, `Selection.build_limit`: The page and the limit that calls leave.
* `SelectQuery.compile_aggregate_count`: What can be compiled can be counted.
* `Evaluates.executeDirect`, `Evaluates.readCached`: A query yields its rows.
* `Evaluates.page`: A page yields the rows of its query, and their number.
* `page_of_calls`: What a page shows, whatever the calls before and behind it are.
* `page_beside_its_places`: It need not show the rows at its places, nor the number of all rows.
-/

namespace SqlMapper

variable {η σ α : Type}

/-! ### What calls make of a selection -/

/-- The limit that a call sets; a page sets one, too. -/
def Refinement.limit? : Refinement → Option Limit
  | .limit l => some l
  | .page number size => some (.window (SelectQuery.pageOffset number size) size)
  | _ => none

/-- The page that a call asks for. -/
def Refinement.page? : Refinement → Option (UInt64 × UInt64)
  | .page number size => some (number, size)
  | _ => none

namespace Selection

/-- What each call may set anew is in the end what the last of them has set that did. -/
theorem foldl_refine {f : Selection → Option α} {g : Refinement → Option α}
    (h : ∀ s r, f (s.refine r) = (g r).or (f s)) (calls : List Refinement) (s : Selection) :
    f (calls.foldl refine s) = (calls.filterMap g).getLast?.or (f s) := by
  induction calls generalizing s with
  | nil => rfl
  | cons r calls ih =>
      rw [List.foldl_cons, ih, h]
      cases hset : g r with
      | none => rw [List.filterMap_cons_none hset, Option.none_or]
      | some a =>
          rw [List.filterMap_cons_some hset, List.getLast?_cons]
          cases (calls.filterMap g).getLast? <;> rfl

theorem limit_foldl (calls : List Refinement) (s : Selection) :
    (calls.foldl refine s).query.limit
      = (calls.filterMap Refinement.limit?).getLast?.or s.query.limit :=
  foldl_refine (f := fun s => s.query.limit) (fun _ r => by cases r <;> rfl) calls s

theorem page_foldl (calls : List Refinement) (s : Selection) :
    (calls.foldl refine s).page = (calls.filterMap Refinement.page?).getLast?.or s.page :=
  foldl_refine (f := fun s => s.page) (fun _ r => by cases r <;> rfl) calls s

theorem build_plain (table : String) (calls : List Refinement) :
    (build table calls).query.projection.isAggregate = false := by
  refine calls.foldlRecOn refine (motive := fun s => s.query.projection.isAggregate = false)
    (b := { query := { tables := [table] } }) rfl fun s hs r _ => ?_
  cases r with
  | fields names => rfl
  | _ => exact hs

theorem build_undistinct (table : String) {calls : List Refinement} (h : .distinct ∉ calls) :
    (build table calls).query.distinct = false := by
  refine calls.foldlRecOn refine (motive := fun s => s.query.distinct = false)
    (b := { query := { tables := [table] } }) rfl fun s hs r hr => ?_
  cases r with
  | distinct => exact absurd hr h
  | _ => exact hs

section

variable (table : String) (before : List Refinement) (number size : UInt64)
  {after : List Refinement}

/-- The page that is asked for last is the one that is asked for. -/
theorem build_page (hlast : ∀ number size, .page number size ∉ after) :
    (build table (before ++ .page number size :: after)).page = some (number, size) := by
  have hnone : after.filterMap Refinement.page? = [] := by
    refine List.filterMap_eq_nil_iff.mpr fun r hr => ?_
    cases r with
    | page number size => exact absurd hr (hlast number size)
    | _ => rfl
  rw [build, List.foldl_append, List.foldl_cons, page_foldl, hnone]
  rfl

/-- The limit is that of the page, or one that is set behind it. -/
theorem build_limit :
    (build table (before ++ .page number size :: after)).query.limit
      = some ((after.filterMap Refinement.limit?).getLast?.getD
        (.window (SelectQuery.pageOffset number size) size)) := by
  rw [build, List.foldl_append, List.foldl_cons, limit_foldl]
  cases (after.filterMap Refinement.limit?).getLast? <;> rfl

/-- Without a limit behind the page, it is that of the page. -/
theorem build_limit_unlimited (hlast : ∀ number size, .page number size ∉ after)
    (hunlimited : ∀ l, .limit l ∉ after) :
    (build table (before ++ .page number size :: after)).query.limit
      = some (.window (SelectQuery.pageOffset number size) size) := by
  have hnone : after.filterMap Refinement.limit? = [] := by
    refine List.filterMap_eq_nil_iff.mpr fun r hr => ?_
    cases r with
    | limit l => exact absurd hr (hunlimited l)
    | page number size => exact absurd hr (hlast number size)
    | _ => rfl
  rw [build_limit, hnone]
  rfl

end

end Selection

/-! ### Reading what is evaluated -/

/-- What can be compiled can be counted: counting leaves out checks and adds none. -/
theorem SelectQuery.compile_aggregate_count {q : SelectQuery} {r : Statement}
    (h : q.compile = .ok r) : ∃ counting, (q.aggregate .count).compile = .ok counting := by
  unfold compile at h
  by_cases hempty : q.tables.isEmpty = true
  · rw [if_pos hempty] at h
    cases h
  · rcases exists_of_bind_ok (of_check_ok h) with ⟨tables, htables, h⟩
    rcases exists_of_bind_ok h with ⟨projection, -, h⟩
    rcases exists_of_bind_ok h with ⟨⟨conditions, binds⟩, hconditions, h⟩
    rcases exists_of_bind_ok h with ⟨groups, hgroups, -⟩
    unfold compile
    rw [aggregate, if_neg hempty]
    dsimp only
    rw [htables, hconditions, hgroups]
    exact ⟨_, rfl⟩

/-- What a read leaves alone. -/
structure Undisturbed (contents : σ → String → List Row) (s t : State η σ) : Prop where
  -- What the tables hold.
  contents : contents t.around.world = contents s.around.world
  -- Whether a transaction is open.
  inTransaction : t.own.inTransaction = s.own.inTransaction
  -- What is cached was cached before.
  cache : t.around.cache.PartOf s.around.cache
  -- The clock.
  now : t.around.now = s.around.now

theorem Undisturbed.trans {contents : σ → String → List Row} {s t u : State η σ}
    (hst : Undisturbed contents s t) (htu : Undisturbed contents t u) :
    Undisturbed contents s u where
  contents := htu.contents.trans hst.contents
  inTransaction := htu.inTransaction.trans hst.inTransaction
  cache := htu.cache.trans hst.cache
  now := htu.now.trans hst.now

/-- Keeping the clock. -/
def clockwork (η σ : Type) : Frame η σ where
  rel s t := t.around.now = s.around.now
  refl _ := rfl
  trans hst htu := htu.trans hst

theorem clockwork_send (db : Database η σ) (sql : String) (binds : Binds) :
    (clockwork η σ).Holds (db.send sql binds true) := by
  have hcleared : ∀ tables, (clockwork η σ).Holds (invalidateAll tables) :=
    Frame.holds_forM fun _ _ => rfl
  exact fun s => hcleared _ _

namespace Database

/-- The client answers a query with its rows, and changes no tables. -/
def Evaluates (db : Database η σ) (m : Semantics) (contents : σ → String → List Row)
    (q : SelectQuery) : Prop :=
  ∀ r, q.compile = .ok r → ∀ handle world,
    let answered := (db.client.query handle r.sql r.binds).run world
    answered.1.outcome = .ok (m.evaluate (contents world) q)
      ∧ contents answered.2 = contents world

section

variable {db : Database η σ} {m : Semantics} {contents : σ → String → List Row} {q : SelectQuery}
  {r : Statement}

theorem Evaluates.send (h : db.Evaluates m contents q) (hcompile : q.compile = .ok r)
    (s : State η σ) :
    let sent := (db.send r.sql r.binds true).run s
    sent.1 = .ok (.rows (m.evaluate (contents s.around.world) q))
      ∧ Undisturbed contents s sent.2 := by
  intro sent
  rcases h r hcompile s.own.handle s.around.world with ⟨hanswer, hcontents⟩
  rcases db.send_kept r.sql r.binds true s with ⟨hresult, hworld, hkept⟩
  refine ⟨hresult.trans (congrArg (Except.map Outcome.rows) hanswer),
    (congrArg contents hworld).trans hcontents, hkept.inTransaction, hkept.cache, ?_⟩
  exact clockwork_send db r.sql r.binds s

/-- Past the cache, a query yields its rows. -/
theorem Evaluates.executeDirect (h : db.Evaluates m contents q) (hcompile : q.compile = .ok r)
    (s : State η σ) :
    ∃ t, (db.executeDirect r.sql r.binds true).run.run s
        = (.ok (.rows (m.evaluate (contents s.around.world) q)), t)
      ∧ Undisturbed contents s t := by
  rcases h.send hcompile s with ⟨hanswer, hundisturbed⟩
  have hlast : callsForRetry s.own.inTransaction ((db.send r.sql r.binds true).run s).1 = none := by
    rw [hanswer]
    rfl
  rcases db.conclude_run r.sql r.binds 1 s.own.inTransaction
    ((db.send r.sql r.binds true).run s).1 ((db.send r.sql r.binds true).run s).2 with ⟨log, hlog⟩
  rw [executeDirect_run, sendRetrying,
    sendFrom_stop_run db r.sql r.binds true 1 s (Or.inl hlast), hlog, hanswer]
  -- Concluding writes the log at most.
  exact ⟨_, rfl, hundisturbed.contents, hundisturbed.inTransaction, hundisturbed.cache,
    hundisturbed.now⟩

/-- What is cached of a query is what it yields, and the clock can show how long that would be
    kept. -/
structure Ready (db : Database η σ) (m : Semantics) (contents : σ → String → List Row)
    (q : SelectQuery) (s : State η σ) : Prop where
  -- What is cached is what the query yields.
  cached : ∀ r table ttl rows, q.compile = .ok r → db.cacheSlot? r = some (table, ttl) →
    s.around.cache.Caches (queryKey table r.sql r.binds) rows →
      rows = m.evaluate (contents s.around.world) q
  -- The clock can show the deadline of what is put there.
  clock : ∀ r table ttl, q.compile = .ok r → db.cacheSlot? r = some (table, ttl) →
    (deadline? s.around.now ttl).isSome = true

theorem Ready.of_undisturbed {s t : State η σ} (h : db.Ready m contents q s)
    (hst : Undisturbed contents s t) : db.Ready m contents q t where
  cached r table ttl rows hcompile hslot hcaches := by
    rw [hst.contents]
    exact h.cached r table ttl rows hcompile hslot (hcaches.of_partOf hst.cache)
  clock r table ttl hcompile hslot := by
    rw [hst.now]
    exact h.clock r table ttl hcompile hslot

/-- Storing an answer goes well if the clock can show its deadline. -/
theorem storeIfCurrent_ok {s : State η σ} {ttl : UInt64}
    (hclock : (deadline? s.around.now ttl).isSome = true) (table : String) (started : Nat)
    (key : String) (value : CacheValue) :
    ((storeIfCurrent table started key value ttl).run.run s).1 = .ok () := by
  rcases Option.isSome_iff_exists.mp hclock with ⟨deadline, hdeadline⟩
  have hset : s.around.cache.set? s.around.now key value (some ttl)
      = some (s.around.cache.insert key { value, deadline := some deadline }) := by
    rw [Cache.set?, hdeadline]
    rfl
  rw [storeIfCurrent_run]
  split
  · rw [store_run, hset]
  · rfl

/-- Through the cache, a query yields its rows as well. -/
theorem Evaluates.readCached (h : db.Evaluates m contents q) (hcompile : q.compile = .ok r)
    {s : State η σ} (hready : db.Ready m contents q s) :
    ((db.readCached r).run.run s).1
      = .ok (.rows (m.evaluate (contents s.around.world) q)) := by
  rw [readCached_run]
  split
  · rename_i table ttl hslot _
    let key := queryKey table r.sql r.binds
    have hlooked : Undisturbed contents s ((around (Surroundings.lookup key)).run s).2 :=
      ⟨rfl, rfl, Cache.get_partOf _ _ _, rfl⟩
    split
    · rename_i rows t hfound
      rcases Cache.exists_entry_of_get (congrArg Prod.fst hfound) with ⟨e, hentry, hvalue⟩
      rw [hready.cached r table ttl rows hcompile hslot ⟨e, hentry, hvalue⟩]
    · rename_i found t _ hmissed
      rw [hmissed] at hlooked
      rcases h.executeDirect hcompile t with ⟨u, hsent, hundisturbed⟩
      have hclock := (hready.of_undisturbed (hlooked.trans hundisturbed)).clock r table ttl
        hcompile hslot
      rw [readThrough, Attempt.run_always_bind, generation_run, Attempt.run_bind, hsent]
      dsimp only
      rw [Attempt.run_bind_pure, storeIfCurrent_ok hclock, hlooked.contents]
      rfl
  · rcases h.executeDirect hcompile s with ⟨t, hsent, -⟩
    rw [hsent]

theorem Evaluates.rows (h : db.Evaluates m contents q) (hcompile : q.compile = .ok r)
    {s : State η σ} (hready : db.Ready m contents q s) :
    ((db.rows q).run.run s).1 = .ok (m.evaluate (contents s.around.world) q) := by
  have hread : db.run r = db.readCached r := if_pos (SelectQuery.kind hcompile).1
  have hrows : db.rows q = Outcome.rowList <$> db.readCached r := by
    rw [Database.rows, hcompile, ← hread]
    rfl
  rw [hrows, Attempt.run_map, h.readCached hcompile hready]
  rfl

theorem Evaluates.total (h : db.Evaluates m contents (q.aggregate .count))
    (hcompile : (q.aggregate .count).compile = .ok r)
    (hplain : q.projection.isAggregate = false) (s : State η σ)
    (hfew : (m.unlimited (contents s.around.world) { q with distinct := false }).length
      < countedBelow) :
    ∃ t, (db.total q).run.run s = (.ok (UInt64.ofNat
        (m.unlimited (contents s.around.world) { q with distinct := false }).length), t)
      ∧ Undisturbed contents s t := by
  rcases h.executeDirect hcompile s with ⟨t, hsent, hundisturbed⟩
  have htotal : db.total q = (do
      let outcome ← db.executeDirect r.sql r.binds true
      Attempt.check (countedRows (q.aggregate .count) outcome.rowList)) := by
    rw [Database.total, hcompile]
    rfl
  refine ⟨t, ?_, hundisturbed⟩
  rw [htotal, Attempt.run_bind, hsent]
  dsimp only [Outcome.rowList]
  rw [m.countedRows_evaluate _ hplain hfew]
  rfl

/-- A page yields the rows of its query, and the number of them all before duplicates are
    removed. -/
theorem Evaluates.page {s : Selection} {number size : UInt64} (h : db.Evaluates m contents s.query)
    (hcounting : db.Evaluates m contents (s.query.aggregate .count))
    (hpage : s.page = some (number, size)) (hcompile : s.query.compile = .ok r)
    (hplain : s.query.projection.isAggregate = false) {t : State η σ}
    (hready : db.Ready m contents s.query t)
    (hfew : (m.unlimited (contents t.around.world) { s.query with distinct := false }).length
      < countedBelow) :
    ((db.page s).run.run t).1 = .ok {
      items := m.evaluate (contents t.around.world) s.query
      total := UInt64.ofNat
        (m.unlimited (contents t.around.world) { s.query with distinct := false }).length
      page := number
      size := size } := by
  rcases SelectQuery.compile_aggregate_count hcompile with ⟨counting, hcount⟩
  rcases hcounting.total hcount hplain t hfew with ⟨u, htotal, hundisturbed⟩
  have hrows := h.rows hcompile (hready.of_undisturbed hundisturbed)
  rw [hundisturbed.contents] at hrows
  unfold Database.page
  rw [hpage]
  dsimp only
  rw [Attempt.run_bind, htotal]
  dsimp only
  rw [Attempt.run_bind]
  rcases hrun : (db.rows s.query).run.run u with ⟨result, v⟩
  rw [hrun] at hrows
  rw [show result = _ from hrows]
  rfl

end

end Database

/-- A page shows the rows at its places among all rows of the query, unless a limit is set behind
    it, and the number of all rows before duplicates are removed. -/
theorem page_of_calls (db : Database η σ) (m : Semantics) (contents : σ → String → List Row)
    (table : String) (before after : List Refinement) (number size : UInt64) (r : Statement)
    (s : State η σ) (hlast : ∀ number size, .page number size ∉ after) :
    let selection := Selection.build table (before ++ .page number size :: after)
    let all := m.unlimited (contents s.around.world) selection.query
    let repeated := m.unlimited (contents s.around.world)
      { selection.query with distinct := false }
    selection.query.compile = .ok r →
    db.Evaluates m contents selection.query →
    db.Evaluates m contents (selection.query.aggregate .count) →
    db.Ready m contents selection.query s →
    repeated.length < countedBelow →
    ∃ p, ((db.page selection).run.run s).1 = .ok p
      ∧ p.page = number ∧ p.size = size
      ∧ p.items = ((after.filterMap Refinement.limit?).getLast?.getD
          (.window (SelectQuery.pageOffset number size) size)).slice all
      ∧ ((∀ l, .limit l ∉ after) →
          p.items = (all.drop ((number.toNat - 1) * size.toNat)).take size.toNat)
      ∧ p.total.toNat = repeated.length
      ∧ (.distinct ∉ before ++ .page number size :: after → p.total.toNat = all.length) := by
  intro selection all repeated hcompile hrows hcounting hready hfew
  have hpage : selection.page = some (number, size) :=
    Selection.build_page table before number size hlast
  have hplain := Selection.build_plain table (before ++ .page number size :: after)
  have hfits : all.length < UInt64.size :=
    (m.length_unlimited_le _ selection.query).trans_lt (hfew.trans (by decide))
  have htotal : (UInt64.ofNat repeated.length).toNat = repeated.length :=
    UInt64.toNat_ofNat_of_lt' (hfew.trans (by decide))
  refine ⟨_, hrows.page hcounting hpage hcompile hplain hready hfew, rfl, rfl, ?_, ?_, htotal, ?_⟩
  · rw [Semantics.evaluate, Selection.build_limit]
    rfl
  · intro hunlimited
    rw [Semantics.evaluate,
      Selection.build_limit_unlimited table before number size hlast hunlimited]
    exact slice_page hfits number size
  · intro hdistinct
    have hsame : { selection.query with distinct := false } = selection.query := by
      rw [← show selection.query.distinct = false from Selection.build_undistinct table hdistinct]
    exact htotal.trans (congrArg (fun q => (m.unlimited _ q).length) hsame)

/-! ### Tables that are evaluated as they are -/

/-- Fields by their names, values that are equal counted as one, and integers by their size. -/
def Semantics.plain : Semantics where
  meets c a := c.clauses.all fun clause => match clause with
    | .equals field (.scalar v) => (Row.mk (a.flatMap Row.cells)).get? field == some v
    | _ => false
  value field a := ((Row.mk (a.flatMap Row.cells)).get? field).getD .null
  label field := field
  same v w := v == w
  atMost v w := match v, w with
    | .int n, .int k => decide (n ≤ k)
    | _, _ => true
  sum vs := .int (vs.foldl (fun total v => match v with
    | .int n => total + n
    | _ => total) 0)

/-- A client that answers one query and the one that counts its rows. -/
def Client.answering (q : SelectQuery) : Client Unit (String → List Row) where
  connect := fun _ _ tables => (.ok (), tables)
  query := fun _ sql _ tables =>
    let counts := (q.aggregate .count).compile.toOption.any fun r => r.sql == sql
    let asked := if counts then q.aggregate .count else q
    ({ outcome := .ok (Semantics.plain.evaluate tables asked) }, tables)
  execute := fun _ _ _ tables => ({ outcome := .ok 0 }, tables)
  begin := fun _ tables => ({ outcome := .ok () }, tables)
  commit := fun _ tables => ({ outcome := .ok () }, tables)
  rollback := fun _ tables => ({ outcome := .ok () }, tables)
  lastInsertId := fun _ _ => none

/-- A connection to it. -/
def Database.answering (q : SelectQuery) : Database Unit (String → List Row) where
  client := .answering q
  dialect := .sqlite
  config := .sqlite "file"
  options := { }

/-- A connection to tables that hold the same rows, before any call. -/
def State.holding (rows : List Row) : State Unit (String → List Row) where
  around := { world := fun _ => rows }
  own := { handle := () }

section

variable {q : SelectQuery} {rows : List Row}

theorem Database.answering_counts :
    (Database.answering q).Evaluates .plain id (q.aggregate .count) := by
  intro r hcompile handle world
  have hcounts : ((q.aggregate .count).compile.toOption.any fun c => c.sql == r.sql) = true := by
    rw [hcompile]
    exact beq_self_eq_true r.sql
  refine ⟨?_, rfl⟩
  show Except.ok (Semantics.plain.evaluate world (if _ then _ else _)) = _
  rw [hcounts, if_pos rfl]
  rfl

theorem Database.answering_shows {r : Statement} (hcompile : q.compile = .ok r)
    (hother : ((q.aggregate .count).compile.toOption.any fun c => c.sql == r.sql) = false) :
    (Database.answering q).Evaluates .plain id q := by
  intro r' hcompile' handle world
  cases hcompile.symm.trans hcompile'
  refine ⟨?_, rfl⟩
  show Except.ok (Semantics.plain.evaluate world (if _ then _ else _)) = _
  rw [hother, if_neg Bool.false_ne_true]
  rfl

/-- With the usual options nothing is cached before any call, and the clock is far from its end. -/
theorem Database.holding_ready {db : Database Unit (String → List Row)} (h : db.options = { })
    (m : Semantics) : db.Ready m id q (.holding rows) where
  cached _ _ _ _ _ _ hcaches := by
    rcases hcaches with ⟨e, hentry, -⟩
    cases hentry
  clock r table ttl _ hslot := by
    rw [cacheSlot?, h] at hslot
    split at hslot
    · rename_i ttl' _ hoption _
      cases hslot
      cases hoption
      show (deadline? 0 300).isSome = true
      decide
    · cases hslot

theorem Database.answering_ready :
    (Database.answering q).Ready .plain id q (.holding rows) :=
  Database.holding_ready rfl .plain

end

/-- Three notes, two of them of one kind. -/
def Row.notes : List Row :=
  [⟨[("id", .int 1), ("kind", .text "list")]⟩, ⟨[("id", .int 2), ("kind", .text "letter")]⟩,
    ⟨[("id", .int 3), ("kind", .text "list")]⟩]

set_option maxRecDepth 20000 in
/-- The second page of three notes, two to a page and the latest first, holds the first note. -/
theorem page_of_calls_second :
    let before : List Refinement := [.limit (.first 5), .fields ["id"]]
    let after : List Refinement := [.orderBy "id" .descending]
    let selection := Selection.build "notes" (before ++ .page 2 2 :: after)
    let db := Database.answering selection.query
    (∀ number size, .page number size ∉ after)
      ∧ (∃ r, selection.query.compile = .ok r)
      ∧ db.Evaluates .plain id selection.query
      ∧ db.Evaluates .plain id (selection.query.aggregate .count)
      ∧ db.Ready .plain id selection.query (.holding Row.notes)
      ∧ (Semantics.plain.unlimited (fun _ => Row.notes)
          { selection.query with distinct := false }).length < countedBelow
      ∧ ∃ p, ((db.page selection).run.run (.holding Row.notes)).1 = .ok p
        ∧ p.items = [⟨[("id", .int 1)]⟩] ∧ p.total.toNat = 3 := by
  intro before after selection db
  have hlast : ∀ number size, Refinement.page number size ∉ after := by
    intro number size hmem
    cases List.mem_singleton.mp hmem
  have hcompile : selection.query.compile = .ok _ := rfl
  have hshows := Database.answering_shows hcompile rfl
  have hcounts := @Database.answering_counts selection.query
  have hready := @Database.answering_ready selection.query Row.notes
  have hlength : (Semantics.plain.unlimited (fun _ => Row.notes)
      { selection.query with distinct := false }).length = 3 := by decide
  have hfew := hlength.trans_lt (show 3 < countedBelow by decide)
  refine ⟨hlast, ⟨_, hcompile⟩, hshows, hcounts, hready, hfew, ?_⟩
  rcases page_of_calls db .plain id "notes" before after 2 2 _ (.holding Row.notes) hlast
    hcompile hshows hcounts hready hfew with ⟨p, hrun, -, -, -, hitems, htotal, -⟩
  refine ⟨p, hrun, (hitems ?_).trans (by decide), htotal.trans hlength⟩
  intro l hmem
  cases List.mem_singleton.mp hmem

set_option maxRecDepth 20000 in
/-- A limit behind a page takes its place, and duplicates that no page shows are counted. -/
theorem page_beside_its_places :
    let limited := Selection.build "notes" [.page 2 1, .limit (.first 2)]
    let repeated := Selection.build "notes" [.fields ["kind"], .distinct, .page 1 1]
    (∃ p, (((Database.answering limited.query).page limited).run.run (.holding Row.notes)).1
          = .ok p
        ∧ p.items ≠ ((Semantics.plain.unlimited (fun _ => Row.notes) limited.query).drop
          ((2 - 1) * 1)).take 1)
      ∧ ∃ p, (((Database.answering repeated.query).page repeated).run.run
            (.holding Row.notes)).1 = .ok p
        ∧ p.total.toNat
          ≠ (Semantics.plain.unlimited (fun _ => Row.notes) repeated.query).length := by
  intro limited repeated
  have hlimited := (Database.answering_shows (q := limited.query) rfl rfl).page
    Database.answering_counts (s := limited) rfl rfl rfl
    (@Database.answering_ready limited.query Row.notes) (by decide)
  have hrepeated := (Database.answering_shows (q := repeated.query) rfl rfl).page
    Database.answering_counts (s := repeated) rfl rfl rfl
    (@Database.answering_ready repeated.query Row.notes) (by decide)
  exact ⟨⟨_, hlimited, by decide⟩, ⟨_, hrepeated, by decide⟩⟩

end SqlMapper
