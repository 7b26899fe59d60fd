import SqlMapper.Engine.Transaction
import SqlMapper.Program.Basic
import SqlMapper.Proofs.Statement.Kinds

/-!
# Laws

What holds of a whole operation, from what holds of its parts.

A computation on a connection is put together from a few calls, and most facts
about it are facts about every one of them. Some are about one run: the session
is the same afterwards, an invariant still holds. Others compare two: from states
that look the same, the results are the same. All that is asked of such a fact
is that it holds of doing nothing, and that it carries over from one computation
to the next. A `Law` is a fact of this kind.

The rules below follow the ways in which computations are combined, so that a
fact about an operation of the engine follows its definition. What an operation
adds of its own is little: statements are sent, a transaction may be opened, and
books are kept, in the cache, the journal, the log and the counts of writes.
`Obeys` lists these parts, and `Obeys.perform` draws the conclusion for every
operation at once. What is sent and what is cached are the parts that are not the
same for all: an operation sends few texts, asks for few keys, stores under few
and drops few, and they are told by what it is. Only rebuilding the session on
request and looking at the log are left out, which nothing else does.

## Main definitions

* `Law`: A property of computations that composes.
* `Client.Offers`: The calls that a client offers.
* `Event.sent?`: The text that a call sends.
* `Talks`: The parts of which sending a statement is made obey a law.
* `Operation.Sends`: The texts that an operation may send.
* `Database.StoresUnder`, `Operation.StoresUnder`: The keys under which a read, and an operation,
  may cache.
* `Operation.AsksFor`: The keys that an operation may ask the cache for.
* `IsReadOf`: A key under which a read of some tables may be cached.
* `Database.DropsMigrating`, `Operation.Drops`: The keys that a migration, and an operation, may
  take out of the cache.
* `Operation.Apart`: An operation that is not made of the common parts.
* `Obeys`: The parts of every operation obey a law, as far as it sends some texts only, and caches
  under some keys only.

## Theorems

* `Action.run_bind`, `Attempt.run_bind`: One computation after another.
* `Obeys.perform`: Every operation obeys a law that its parts obey.
-/

namespace SqlMapper

variable {η σ α β : Type}

theorem Action.run_bind (x : Action η σ α) (f : α → Action η σ β) (s : State η σ) :
    (x >>= f).run s = (f (x.run s).1).run (x.run s).2 := rfl

theorem Attempt.run_bind (x : Attempt η σ α) (f : α → Attempt η σ β) (s : State η σ) :
    (x >>= f).run.run s = match x.run.run s with
      | (.ok a, t) => (f a).run.run t
      | (.error stop, t) => (.error stop, t) := by
  simp only [ExceptT.run_bind, StateT.run_bind]
  rcases x.run.run s with ⟨r, t⟩
  cases r <;> rfl

/-- An error that is raised ends what comes behind it. -/
theorem Attempt.raise_bind (e : Error) (f : α → Attempt η σ β) :
    (Attempt.raise e >>= f) = Attempt.raise e := rfl

/-- A property of computations. It holds of doing nothing, and it carries over from one computation
    to the next. -/
structure Law (η σ : Type) where
  -- The property.
  Holds : ∀ {α : Type}, Action η σ α → Prop
  -- Doing nothing has it.
  pure : ∀ {α : Type} (a : α), Holds (Pure.pure a)
  -- One computation after another has it.
  bind : ∀ {α β : Type} {x : Action η σ α} {f : α → Action η σ β},
    Holds x → (∀ a, Holds (f a)) → Holds (x >>= f)

namespace Law

variable {L : Law η σ}

theorem forM {act : α → Action η σ Unit} (h : ∀ a, L.Holds (act a)) (list : List α) :
    L.Holds (list.forM act) := by
  induction list with
  | nil => exact L.pure ()
  | cons a rest ih => exact L.bind (h a) fun _ => ih

theorem attempt_pure (a : α) : L.Holds (Pure.pure a : Attempt η σ α).run := L.pure _

theorem attempt_bind {x : Attempt η σ α} {f : α → Attempt η σ β} (hx : L.Holds x.run)
    (hf : ∀ a, L.Holds (f a).run) : L.Holds (x >>= f).run := by
  rw [ExceptT.run_bind]
  refine L.bind hx fun r => ?_
  cases r with
  | ok a => exact hf a
  | error stop => exact L.pure _

theorem map {x : Attempt η σ α} (f : α → β) (hx : L.Holds x.run) : L.Holds (f <$> x).run :=
  attempt_bind hx fun a => attempt_pure (f a)

theorem always {act : Action η σ α} (h : L.Holds act) : L.Holds (Attempt.always act).run :=
  L.bind h fun _ => L.pure _

theorem thereafter {act : Attempt η σ α} {last : Action η σ Unit} (hact : L.Holds act.run)
    (hlast : L.Holds last) : L.Holds (act.thereafter last).run :=
  L.bind hact fun _ => L.bind hlast fun _ => L.pure _

theorem settled {act : Attempt η σ α} (h : L.Holds act.run) : L.Holds act.settled.run := by
  refine L.bind h fun r => ?_
  rcases r with (e | _) | a
  · exact L.pure _
  · exact L.pure _
  · exact L.pure _

theorem raise (h : ∀ r, L.Holds (report r)) (e : Error) :
    L.Holds (Attempt.raise e : Attempt η σ α).run := by
  refine L.bind ?_ fun _ => L.pure _
  rw [Surroundings.reportError]
  cases e.record? with
  | none => exact L.pure ()
  | some r => exact h r

theorem runInsert {db : Database η σ} {s : Statement} (hlast : L.Holds db.lastInsertId)
    (hrun : L.Holds (db.run s).run) : L.Holds (db.runInsert s).run := by
  refine attempt_bind hrun fun outcome => ?_
  by_cases hcount : outcome.count = 0
  · simpa only [if_pos hcount] using attempt_pure none
  · simpa only [if_neg hcount] using always hlast

end Law

/-- A call that a client offers on its sessions. -/
inductive Client.Offers (c : Client η σ) : {α : Type} → (η → StateM σ (Reply α)) → Prop where
  | query (sql : String) (binds : Binds) : c.Offers fun h => c.query h sql binds
  | execute (sql : String) (binds : Binds) : c.Offers fun h => c.execute h sql binds
  | begin : c.Offers c.begin
  | commit : c.Offers c.commit
  | rollback : c.Offers c.rollback

/-- The text that a call sends, if it sends one. -/
def Event.sent? : Event → Option String
  | .query sql _ | .execute sql _ => some sql
  | _ => none

/-- The words that begin and end a transaction. -/
def transactionWords : List String :=
  ["BEGIN", "COMMIT", "ROLLBACK"]

/-- The parts of which sending statements and transactions are made obey a law, as far as some texts
    are sent. -/
structure Talks (db : Database η σ) (L : Law η σ) (sent : String → Prop) : Prop where
  -- Reporting does.
  report : ∀ r, L.Holds (SqlMapper.report r)
  -- Asking whether a transaction is open does.
  inTransaction : L.Holds SqlMapper.inTransaction
  -- So does taking that down.
  setTransaction : ∀ opened, L.Holds (modifyOwn fun c => { c with inTransaction := opened })
  -- A call does, if it sends one of these texts.
  exchange : ∀ {α : Type} (shown : Event) {call : η → StateM σ (Reply α)},
    (∀ sql, shown.sent? = some sql → sent sql) → db.client.Offers call →
      L.Holds (Database.exchange shown call)
  -- What begins and ends a transaction is one of them.
  words : ∀ word ∈ transactionWords, sent word
  -- Rebuilding the session does.
  reconnect : L.Holds db.reconnect
  -- Waiting does.
  pause : ∀ ms, L.Holds (around (Surroundings.pause ms))

namespace Talks

open SqlMapper.Law

variable {db : Database η σ} {L : Law η σ} {sent : String → Prop}

theorem send (h : Talks db L sent) {sql : String} (hsent : sent sql) (binds : Binds)
    (readonly : Bool) : L.Holds (db.send sql binds readonly) := by
  have hshown : ∀ text, some sql = some text → sent text := fun _ hsame =>
    Option.some.inj hsame ▸ hsent
  cases readonly with
  | true => exact L.bind (h.exchange _ hshown (.query sql binds)) fun _ => L.pure _
  | false => exact L.bind (h.exchange _ hshown (.execute sql binds)) fun _ => L.pure _

theorem conclude (h : Talks db L sent) (sql : String) (binds : Binds) (attempt : UInt32)
    (transactional : Bool) (result : Except ClientFailure Outcome) :
    L.Holds (db.conclude sql binds attempt transactional result) := by
  unfold Database.conclude
  cases result with
  | ok outcome =>
      by_cases hdebug : db.options.debug = true
      · simpa only [if_pos hdebug] using L.bind (h.report _) fun _ => L.pure _
      · simpa only [if_neg hdebug] using L.pure _
  | error failure =>
      by_cases htransient : failure.isTransient = true
      · simpa only [if_pos htransient] using L.bind (h.report _) fun _ => L.pure _
      · simpa only [if_neg htransient] using L.pure _

theorem sendFrom (h : Talks db L sent) {sql : String} (hsent : sent sql) (binds : Binds)
    (readonly : Bool) (attempt : UInt32) :
    L.Holds (db.sendFrom sql binds readonly attempt) := by
  -- By induction on how many more attempts the policy allows.
  induction hleft : db.options.retry.maxAttempts.toNat - attempt.toNat using
    Nat.strongRecOn generalizing attempt with
  | _ left ih =>
      rw [Database.sendFrom]
      refine L.bind h.inTransaction fun transactional => ?_
      refine L.bind (h.send hsent binds readonly) fun result => ?_
      cases hcalls : Database.callsForRetry transactional result with
      | none => exact h.conclude sql binds attempt transactional result
      | some failure =>
          by_cases hallows : db.options.retry.allows attempt = true
          · have hadd := RetryPolicy.toNat_add_one_of_allows hallows
            have hlt := RetryPolicy.lt_of_allows hallows
            have hagain := ih _ (by omega) (attempt + 1) rfl
            have hrecover : L.Holds (db.recover attempt failure) :=
              L.bind (h.report _) fun _ => L.bind h.reconnect fun _ => h.pause _
            simpa only [if_pos hallows] using L.bind hrecover fun _ => hagain
          · simpa only [if_neg hallows] using h.conclude sql binds attempt transactional result

theorem exchange_word (h : Talks db L sent) {word : String} (hword : word ∈ transactionWords)
    {call : η → StateM σ (Reply Unit)} (hcall : db.client.Offers call) :
    L.Holds (Database.exchange (.execute word ∅) call) :=
  h.exchange _ (fun _ hsame => Option.some.inj hsame ▸ h.words word hword) hcall

theorem switch (h : Talks db L sent) {word : String} (hword : word ∈ transactionWords)
    {call : η → StateM σ (Reply Unit)} (hcall : db.client.Offers call) (opened : Bool)
    (message : String) : L.Holds (Database.switch word call opened message).run := by
  refine attempt_bind (always (h.exchange_word hword hcall)) fun r => ?_
  cases r with
  | error failure => exact L.raise h.report _
  | ok _ =>
      exact attempt_bind (always (h.setTransaction opened)) fun _ => always (h.report _)

theorem rollback (h : Talks db L sent) : L.Holds db.rollback := by
  refine L.bind (h.setTransaction false) fun _ => ?_
  refine L.bind (h.exchange_word (by decide) .rollback) fun r => ?_
  cases r with
  | ok _ => exact h.report _
  | error failure => exact h.report _

theorem enter (h : Talks db L sent) : L.Holds db.enter.run := by
  refine attempt_bind (always h.inTransaction) fun inside => ?_
  cases inside with
  | true => exact attempt_pure false
  | false => exact attempt_bind (h.switch (by decide) .begin true _) fun _ => attempt_pure true

theorem close (h : Talks db L sent) (ending : Except Stop α) : L.Holds (db.close ending) := by
  rcases ending with (e | _) | a
  · exact L.bind h.rollback fun _ => L.pure _
  · exact L.bind (h.report _) fun _ => L.bind h.rollback fun _ => L.pure _
  · refine L.bind (h.switch (by decide) .commit false _) fun r => ?_
    cases r with
    | ok _ => exact L.pure _
    | error stop => exact L.bind h.rollback fun _ => L.pure _

theorem leave (h : Talks db L sent) (outermost : Bool) (ending : Except Stop α) :
    L.Holds (db.leave outermost ending) := by
  cases outermost with
  | true => exact h.close ending
  | false => exact L.pure ending

theorem transaction (h : Talks db L sent) (body : Attempt η σ α) (hbody : L.Holds body.run) :
    L.Holds (db.transaction body).run :=
  attempt_bind h.enter fun outermost => L.bind hbody fun ending => h.leave outermost ending

end Talks

/-- A read may be cached under a key. -/
def Database.StoresUnder (db : Database η σ) (s : Statement) (key : String) : Prop :=
  ∃ table ttl, db.cacheSlot? s = some (table, ttl) ∧ key = queryKey table s.sql s.binds

/-- The query that is sent to read a selection. -/
def Reading.query (q : SelectQuery) : Reading → SelectQuery
  | .count => q.aggregate .count
  | .sum field => q.aggregate (.sum field)
  | _ => q

namespace Operation

/-- An operation may cache something under a key. -/
def StoresUnder (db : Database η σ) (key : String) : Operation → Prop
  | .run s | .runInsert s => s.readonly = true ∧ db.StoresUnder s key
  | .read s use => ∃ statement, (use.query s.query).compile = .ok statement
      ∧ db.StoresUnder statement key
  | .initTable table _ | .migrate table _ => key = versionKey table
  | .cachePut other _ => key = other
  | _ => False

/-- An operation may ask the cache for a key. -/
def AsksFor (db : Database η σ) (key : String) : Operation → Prop
  | .recorded table => key = versionKey table
  | .cacheGet other => key = other
  | .cachePut _ _ => False
  | op => op.StoresUnder db key

end Operation

/-- Bringing a table to the version of a schema may send a text. -/
def Database.SendsMigrating (db : Database η σ) (schema : Schema) (table sql : String) : Prop :=
  sql = probeStatement table
    ∨ sql = db.dialect.createTable schema table db.config.charset
    ∨ ∃ before statements, schema.upgradePath before schema.version = .ok statements
      ∧ sql ∈ statements

/-- Whether a selection is counted before it is read. -/
def Reading.counts : Reading → Bool
  | .page | .recordPage _ => true
  | _ => false

namespace Operation

/-- An operation may send a text. -/
def Sends (db : Database η σ) (sql : String) : Operation → Prop
  | .execute text _ _ => sql = text
  | .run s | .runInsert s => sql = s.sql
  | .read s use => ∃ q statement,
      (q = use.query s.query ∨ use.counts = true ∧ q = s.query.aggregate .count)
        ∧ q.compile = .ok statement ∧ sql = statement.sql
  | .insert q => ∃ statement, q.compile db.dialect = .ok statement ∧ sql = statement.sql
  | .update q => ∃ statement, q.compile = .ok statement ∧ sql = statement.sql
  | .delete q => ∃ statement, q.compile = .ok statement ∧ sql = statement.sql
  | .probe table => sql = probeStatement table
  | .truncate table => sql = db.dialect.truncate table
  | .drop table => sql = dropStatement table
  | .initTable table entity | .migrate table entity => ∃ schema, entity.schema = .ok schema
      ∧ db.SendsMigrating schema table sql
  | _ => False

end Operation

/-- A key is that of a cached read of one of some tables. -/
def IsReadOf (tables : List String) (key : String) : Prop :=
  ∃ table ∈ tables, Text.startsWith key (tablePrefix table) = true

theorem IsReadOf.of_subset {tables others : List String} {key : String} (h : IsReadOf tables key)
    (hsubset : tables ⊆ others) : IsReadOf others key := by
  rcases h with ⟨table, htable, hkey⟩
  exact ⟨table, hsubset htable, hkey⟩

/-- Bringing a table to the version of a schema may take a key out of the cache. -/
def Database.DropsMigrating (db : Database η σ) (schema : Schema) (table key : String) : Prop :=
  IsReadOf [table] key
    ∨ IsReadOf (writtenTables (db.dialect.createTable schema table db.config.charset)) key
    ∨ ∃ before statements, schema.upgradePath before schema.version = .ok statements
      ∧ ∃ sql ∈ statements, IsReadOf (writtenTables sql) key

namespace Operation

/-- An operation may take a key out of the cache. -/
def Drops (db : Database η σ) (key : String) : Operation → Prop
  | .execute sql _ readonly => readonly = false ∧ IsReadOf (writtenTables sql) key
  | .run s | .runInsert s => s.readonly = false ∧ IsReadOf s.tables key
  | .insert q => IsReadOf [q.table] key
  | .update q => IsReadOf [q.table] key
  | .delete q => IsReadOf [q.table] key
  | .truncate table | .invalidate table => IsReadOf [table] key
  | .drop table => IsReadOf [table] key ∨ key = versionKey table
  | .initTable table entity | .migrate table entity => ∃ schema, entity.schema = .ok schema
      ∧ db.DropsMigrating schema table key
  | _ => False

/-- An operation that is not made of the parts that others are made of. -/
def Apart : Operation → Prop
  | .reconnect | .takeLog | .searchLog _ _ _ => True
  | _ => False

end Operation

/-- The parts of which operations are made obey a law, as far as texts are sent, and keys are asked
    for, stored under and dropped, of some kinds. -/
structure Obeys (db : Database η σ) (L : Law η σ) (sent asked stored dropped : String → Prop) :
    Prop where
  -- Reporting does.
  report : ∀ r, L.Holds (SqlMapper.report r)
  -- Asking whether a transaction is open does.
  inTransaction : L.Holds SqlMapper.inTransaction
  -- Asking how often a table was written to does.
  generation : ∀ table, L.Holds (SqlMapper.generation table)
  -- Asking for the key that the latest insert generated does.
  lastInsertId : L.Holds db.lastInsertId
  -- Asking the cache does.
  lookup : ∀ {key}, asked key → L.Holds (around (Surroundings.lookup key))
  -- So does putting something into it,
  store : ∀ {key} value ttl, stored key → L.Holds (around (Surroundings.store key value ttl))
  -- and taking something out of it.
  forget : ∀ {key}, dropped key → L.Holds (around (Surroundings.forget key))
  -- Counting a write does, if the reads of the table may be dropped.
  invalidate : ∀ {table}, (∀ key, IsReadOf [table] key → dropped key) →
    L.Holds (SqlMapper.invalidate table)
  -- Sending a statement does.
  sending : ∀ {sql} binds readonly, sent sql → L.Holds (db.sendRetrying sql binds readonly)
  -- A transaction does if its body does.
  transaction : ∀ {α : Type} (body : Attempt η σ α), L.Holds body.run →
    L.Holds (db.transaction body).run

namespace Obeys

open SqlMapper.Law

variable {db : Database η σ} {L : Law η σ}
  {sent asked stored dropped : String → Prop}

/-- What comes behind a check matters only for results that pass it. -/
theorem check_bind (h : Obeys db L sent asked stored dropped) {r : Except Error α}
    {act : α → Attempt η σ β} (hact : ∀ a, r = .ok a → L.Holds (act a).run) :
    L.Holds (Attempt.check r >>= act).run := by
  cases r with
  | ok a => exact hact a rfl
  | error e =>
      rw [show Attempt.check (.error e) = Attempt.raise e from rfl, Attempt.raise_bind]
      exact L.raise h.report e

theorem check (h : Obeys db L sent asked stored dropped) (r : Except Error α) :
    L.Holds (Attempt.check r : Attempt η σ α).run := by
  cases r with
  | ok a => exact attempt_pure a
  | error e => exact L.raise h.report e

theorem keep (h : Obeys db L sent asked stored dropped) {key : String} (hkey : stored key)
    (value : CacheValue) (ttl : Option UInt64) :
    L.Holds (SqlMapper.store key value ttl : Attempt η σ Unit).run := by
  refine L.bind (h.store value ttl hkey) fun done => ?_
  cases done with
  | true => exact L.pure _
  | false => exact L.pure _

theorem invalidateAll (h : Obeys db L sent asked stored dropped) {tables : List String}
    (hdrops : ∀ key, IsReadOf tables key → dropped key) :
    L.Holds (SqlMapper.invalidateAll tables) := by
  induction tables with
  | nil => exact L.pure ()
  | cons table rest ih =>
      refine L.bind (h.invalidate fun key hkey => hdrops key ?_) fun _ =>
        ih fun key hkey => hdrops key ?_
      · exact hkey.of_subset (List.cons_subset_cons table (List.nil_subset rest))
      · exact hkey.of_subset (List.subset_cons_self table rest)

theorem executeDirect (h : Obeys db L sent asked stored dropped) {sql : String} (hsent : sent sql)
    (binds : Binds) (readonly : Bool) : L.Holds (db.executeDirect sql binds readonly).run := by
  refine attempt_bind (always (h.sending binds readonly hsent)) fun r => ?_
  cases r with
  | ok outcome => exact attempt_pure outcome
  | error failure => exact L.raise h.report _

theorem execute (h : Obeys db L sent asked stored dropped) {sql : String} (hsent : sent sql)
    (binds : Binds) (readonly : Bool)
    (hdrops : readonly = false → ∀ key, IsReadOf (writtenTables sql) key → dropped key) :
    L.Holds (db.execute sql binds readonly).run := by
  cases readonly with
  | true => exact h.executeDirect hsent binds true
  | false => exact thereafter (h.executeDirect hsent binds false) (h.invalidateAll (hdrops rfl))

theorem storeIfCurrent (h : Obeys db L sent asked stored dropped) (table : String) (started : Nat)
    {key : String} (hkey : stored key) (value : CacheValue) (ttl : UInt64) :
    L.Holds (Database.storeIfCurrent table started key value ttl : Attempt η σ Unit).run := by
  refine attempt_bind (always (h.generation table)) fun current => ?_
  by_cases hcurrent : current = started
  · simpa only [if_pos hcurrent] using h.keep hkey value (some ttl)
  · simpa only [if_neg hcurrent] using always (h.report _)

theorem readThrough (h : Obeys db L sent asked stored dropped) {s : Statement} (hsent : sent s.sql)
    (table : String) (ttl : UInt64) {key : String} (hkey : stored key) :
    L.Holds (db.readThrough s table ttl key).run := by
  refine attempt_bind (always (h.generation table)) fun started => ?_
  refine attempt_bind (h.executeDirect hsent s.binds true) fun outcome => ?_
  exact attempt_bind (h.storeIfCurrent table started hkey _ ttl) fun _ => attempt_pure outcome

theorem readCached (h : Obeys db L sent asked stored dropped) {s : Statement} (hsent : sent s.sql)
    (hasks : ∀ key, db.StoresUnder s key → asked key)
    (hstores : ∀ key, db.StoresUnder s key → stored key) : L.Holds (db.readCached s).run := by
  refine attempt_bind (always h.inTransaction) fun transactional => ?_
  split
  · rename_i table ttl hslot
    have hunder : db.StoresUnder s (queryKey table s.sql s.binds) := ⟨table, ttl, hslot, rfl⟩
    refine attempt_bind (always (h.lookup (hasks _ hunder))) fun found => ?_
    split
    · exact attempt_bind (always (h.report _)) fun _ => attempt_pure _
    · exact h.readThrough hsent table ttl (hstores _ hunder)
  · exact h.executeDirect hsent s.binds true

theorem run (h : Obeys db L sent asked stored dropped) {s : Statement} (hsent : sent s.sql)
    (hasks : ∀ key, s.readonly = true → db.StoresUnder s key → asked key)
    (hstores : ∀ key, s.readonly = true → db.StoresUnder s key → stored key)
    (hdrops : ∀ key, s.readonly = false → IsReadOf s.tables key → dropped key) :
    L.Holds (db.run s).run := by
  unfold Database.run
  by_cases hread : s.readonly = true
  · rw [if_pos hread]
    exact h.readCached hsent (fun key => hasks key hread) fun key => hstores key hread
  · rw [if_neg hread]
    exact thereafter (h.executeDirect hsent s.binds false)
      (h.invalidateAll fun key => hdrops key (Bool.not_eq_true _ ▸ hread))

theorem write (h : Obeys db L sent asked stored dropped) {s : Statement} (hsent : sent s.sql)
    (hwrite : s.readonly = false) (hdrops : ∀ key, IsReadOf s.tables key → dropped key) :
    L.Holds (db.run s).run :=
  h.run hsent (fun _ hread => absurd (hwrite.symm.trans hread) Bool.false_ne_true)
    (fun _ hread => absurd (hwrite.symm.trans hread) Bool.false_ne_true) fun key _ => hdrops key

theorem probe (h : Obeys db L sent asked stored dropped) {table : String}
    (hsent : sent (probeStatement table)) : L.Holds (db.probe table) := by
  unfold Database.probe
  by_cases hname : isIdentifier table = true
  · rw [if_pos hname]
    refine L.bind (h.sending _ _ hsent) fun r => ?_
    cases r with
    | ok outcome => exact L.pure true
    | error failure => exact L.bind (h.report _) fun _ => L.pure false
  · rw [if_neg hname]
    exact L.pure false

theorem truncate (h : Obeys db L sent asked stored dropped) {table : String}
    (hsent : sent (db.dialect.truncate table))
    (hdrops : ∀ key, IsReadOf [table] key → dropped key) : L.Holds (db.truncate table).run := by
  refine attempt_bind (h.check _) fun _ => ?_
  exact attempt_bind (thereafter (h.executeDirect hsent _ _) (h.invalidate hdrops))
    fun emptied => attempt_pure emptied.count

theorem dropTable (h : Obeys db L sent asked stored dropped) {table : String}
    (hsent : sent (dropStatement table))
    (hdrops : ∀ key, IsReadOf [table] key → dropped key) (hforgets : dropped (versionKey table)) :
    L.Holds (db.dropTable table).run := by
  refine attempt_bind (h.check _) fun _ => map _ (thereafter (h.executeDirect hsent _ _) ?_)
  exact L.bind (h.invalidate hdrops) fun _ => h.forget hforgets

theorem rows (h : Obeys db L sent asked stored dropped) {q : SelectQuery}
    (hsends : ∀ s, q.compile = .ok s → sent s.sql)
    (hasks : ∀ key s, q.compile = .ok s → db.StoresUnder s key → asked key)
    (hstores : ∀ key s, q.compile = .ok s → db.StoresUnder s key → stored key) :
    L.Holds (db.rows q).run := by
  refine h.check_bind fun s hs => map _ (h.run (hsends s hs) ?_ ?_ fun key hwrite => ?_)
  · exact fun key _ => hasks key s hs
  · exact fun key _ => hstores key s hs
  · exact absurd ((SelectQuery.kind hs).1.symm.trans hwrite) Bool.noConfusion

theorem records (h : Obeys db L sent asked stored dropped) (entity : Entity) {q : SelectQuery}
    (hrows : L.Holds (db.rows q).run) : L.Holds (db.records entity q).run :=
  attempt_bind hrows fun _ => h.check _

theorem total (h : Obeys db L sent asked stored dropped) {q : SelectQuery}
    (hsends : ∀ s, (q.aggregate .count).compile = .ok s → sent s.sql) :
    L.Holds (db.total q).run :=
  h.check_bind fun s hs =>
    attempt_bind (h.execute (hsends s hs) s.binds true Bool.noConfusion) fun _ => h.check _

theorem page (h : Obeys db L sent asked stored dropped) {s : Selection}
    (hsends : ∀ st, (s.query.aggregate .count).compile = .ok st → sent st.sql)
    (hrows : L.Holds (db.rows s.query).run) : L.Holds (db.page s).run := by
  unfold Database.page
  cases s.page with
  | none => exact L.raise h.report _
  | some wanted =>
      exact attempt_bind (h.total hsends) fun _ =>
        attempt_bind hrows fun _ => attempt_pure _

theorem recordPage (h : Obeys db L sent asked stored dropped) (entity : Entity) {s : Selection}
    (hpage : L.Holds (db.page s).run) : L.Holds (db.recordPage entity s).run :=
  attempt_bind hpage fun _ => attempt_bind (h.check _) fun _ => attempt_pure _

theorem insert (h : Obeys db L sent asked stored dropped) {q : InsertQuery}
    (hsends : ∀ s, q.compile db.dialect = .ok s → sent s.sql)
    (hdrops : ∀ key, IsReadOf [q.table] key → dropped key) : L.Holds (db.insert q).run := by
  refine h.check_bind fun s hs => L.runInsert h.lastInsertId
    (h.write (hsends s hs) (InsertQuery.kind hs).1 ?_)
  rwa [(InsertQuery.kind hs).2]

theorem update (h : Obeys db L sent asked stored dropped) {q : UpdateQuery}
    (hsends : ∀ s, q.compile = .ok s → sent s.sql)
    (hdrops : ∀ key, IsReadOf [q.table] key → dropped key) : L.Holds (db.update q).run := by
  refine h.check_bind fun s hs => map _ (h.write (hsends s hs) (UpdateQuery.kind hs).1 ?_)
  rwa [(UpdateQuery.kind hs).2]

theorem delete (h : Obeys db L sent asked stored dropped) {q : DeleteQuery}
    (hsends : ∀ s, q.compile = .ok s → sent s.sql)
    (hdrops : ∀ key, IsReadOf [q.table] key → dropped key) : L.Holds (db.delete q).run := by
  refine h.check_bind fun s hs => map _ (h.write (hsends s hs) (DeleteQuery.kind hs).1 ?_)
  rwa [(DeleteQuery.kind hs).2]

theorem reading (h : Obeys db L sent asked stored dropped) (s : Selection) {use : Reading}
    (hsends : use.counts = true →
      ∀ st, (s.query.aggregate .count).compile = .ok st → sent st.sql)
    (hrows : L.Holds (db.rows (use.query s.query)).run) : L.Holds (use.perform db s).run := by
  cases use with
  | rows => exact map _ hrows
  | records entity => exact map _ (h.records entity hrows)
  | page => exact map _ (h.page (hsends rfl) hrows)
  | recordPage entity => exact map _ (h.recordPage entity (h.page (hsends rfl) hrows))
  | count => exact map _ (attempt_bind hrows fun _ => h.check _)
  | sum field => exact map _ (attempt_bind hrows fun _ => h.check _)

theorem recordedVersion (h : Obeys db L sent asked stored dropped) {table : String}
    (hasks : asked (versionKey table)) : L.Holds (SqlMapper.recordedVersion table) := by
  refine L.bind (h.lookup hasks) fun found => ?_
  split
  · exact L.pure _
  · exact L.pure _

theorem createTable (h : Obeys db L sent asked stored dropped) {schema : Schema} {table : String}
    (hsends : ∀ sql, db.SendsMigrating schema table sql → sent sql)
    (hstores : stored (versionKey table))
    (hdrops : ∀ key, db.DropsMigrating schema table key → dropped key) :
    L.Holds (db.createTable schema table).run := by
  have hcreate := h.execute (hsends _ (Or.inr (Or.inl rfl))) ∅ false
    fun _ key hkey => hdrops key (Or.inr (Or.inl hkey))
  refine attempt_bind (settled hcreate) fun r => ?_
  cases r with
  | ok outcome =>
      refine attempt_bind (h.keep hstores _ _) fun _ => ?_
      refine attempt_bind (always ?_) fun _ => attempt_pure _
      exact L.bind (h.invalidate fun key hkey => hdrops key (Or.inl hkey)) fun _ => h.report _
  | error e => exact attempt_bind (always (h.report _)) fun _ => attempt_pure _

theorem runUpgrade (h : Obeys db L sent asked stored dropped) {schema : Schema} {table : String}
    (before : UInt32) (hsends : ∀ sql, db.SendsMigrating schema table sql → sent sql)
    (hdrops : ∀ key, db.DropsMigrating schema table key → dropped key) :
    L.Holds (db.runUpgrade schema before schema.version).run := by
  unfold Database.runUpgrade
  cases hpath : schema.upgradePath before schema.version with
  | error key => exact L.raise h.report _
  | ok statements =>
      have hall : ∀ rest : List String, (∀ sql ∈ rest, sql ∈ statements) →
          L.Holds (rest.forM fun sql => do
            let _ ← db.execute sql ∅ false : Attempt η σ Unit).run := by
        intro rest
        induction rest with
        | nil => exact fun _ => attempt_pure ()
        | cons sql rest ih =>
            intro hmem
            have hscript := hmem sql List.mem_cons_self
            have hsent := hsends sql (Or.inr (Or.inr ⟨before, statements, hpath, hscript⟩))
            refine attempt_bind (map _ (h.execute hsent ∅ false fun _ key hkey => ?_)) fun _ =>
              ih fun other hother => hmem other (List.mem_cons_of_mem _ hother)
            exact hdrops key (Or.inr (Or.inr ⟨before, statements, hpath, sql, hscript, hkey⟩))
      exact attempt_bind (hall statements fun _ => id) fun _ => attempt_pure _

theorem upgradeTable (h : Obeys db L sent asked stored dropped) {schema : Schema} {table : String}
    (before : UInt32) (hsends : ∀ sql, db.SendsMigrating schema table sql → sent sql)
    (hstores : stored (versionKey table))
    (hdrops : ∀ key, db.DropsMigrating schema table key → dropped key) :
    L.Holds (db.upgradeTable schema table before schema.version).run := by
  refine attempt_bind (always (h.report _)) fun _ => ?_
  have hupgrade := h.transaction _ (h.runUpgrade before hsends hdrops)
  refine attempt_bind (settled hupgrade) fun r => ?_
  cases r with
  | ok applied =>
      refine attempt_bind (h.keep hstores _ _) fun _ => ?_
      refine attempt_bind (always ?_) fun _ => attempt_pure _
      exact L.bind (h.invalidate fun key hkey => hdrops key (Or.inl hkey)) fun _ => h.report _
  | error e => exact attempt_bind (always (h.report _)) fun _ => attempt_pure _

theorem bringUp (h : Obeys db L sent asked stored dropped) {schema : Schema} {table : String}
    (recorded : Option UInt32) (hsends : ∀ sql, db.SendsMigrating schema table sql → sent sql)
    (hstores : stored (versionKey table))
    (hdrops : ∀ key, db.DropsMigrating schema table key → dropped key) :
    L.Holds (db.bringUp schema table recorded).run := by
  unfold Database.bringUp
  by_cases hrecent : schema.version ≤ recorded.getD 1
  · simp only [if_pos hrecent]
    by_cases hnone : recorded.isNone = true
    · simp only [if_pos hnone]
      exact attempt_bind (h.keep hstores _ _) fun _ => attempt_pure _
    · simp only [if_neg hnone]
      exact attempt_pure _
  · simp only [if_neg hrecent]
    exact h.upgradeTable _ hsends hstores hdrops

theorem migrate (h : Obeys db L sent asked stored dropped) {schema : Schema} {table : String}
    (hsends : ∀ sql, db.SendsMigrating schema table sql → sent sql)
    (hasks : asked (versionKey table)) (hstores : stored (versionKey table))
    (hdrops : ∀ key, db.DropsMigrating schema table key → dropped key) :
    L.Holds (db.migrate schema table).run := by
  refine attempt_bind (always (h.recordedVersion hasks)) fun recorded => ?_
  by_cases hprobe : (recorded.isNone || db.options.debug) = true
  · simp only [if_pos hprobe]
    refine attempt_bind (always (h.probe (hsends _ (Or.inl rfl)))) fun present => ?_
    cases present with
    | true => exact h.bringUp recorded hsends hstores hdrops
    | false => exact h.createTable hsends hstores hdrops
  · simp only [if_neg hprobe]
    exact h.bringUp recorded hsends hstores hdrops

/-- Every operation obeys a law that its parts obey, if it sends no other texts, and asks for,
    stores under and drops no other keys. -/
theorem perform (h : Obeys db L sent asked stored dropped) {op : Operation} (hop : ¬ op.Apart)
    (hsends : ∀ sql, op.Sends db sql → sent sql) (hasks : ∀ key, op.AsksFor db key → asked key)
    (hstores : ∀ key, op.StoresUnder db key → stored key)
    (hdrops : ∀ key, op.Drops db key → dropped key) : L.Holds (op.perform db).run := by
  have hrun : ∀ s, (op = .run s ∨ op = .runInsert s) → L.Holds (db.run s).run := by
    intro s hs
    have hsent : sent s.sql := by
      rcases hs with rfl | rfl
      · exact hsends _ rfl
      · exact hsends _ rfl
    refine h.run hsent (fun key hread hunder => hasks key ?_)
      (fun key hread hunder => hstores key ?_) fun key hwrite hkey => hdrops key ?_
    all_goals rcases hs with rfl | rfl
    · exact ⟨hread, hunder⟩
    · exact ⟨hread, hunder⟩
    · exact ⟨hread, hunder⟩
    · exact ⟨hread, hunder⟩
    · exact ⟨hwrite, hkey⟩
    · exact ⟨hwrite, hkey⟩
  cases op with
  | execute sql binds readonly =>
      exact map _ (h.execute (hsends sql rfl) binds readonly fun hwrite key hkey =>
        hdrops key ⟨hwrite, hkey⟩)
  | run s => exact map _ (hrun s (Or.inl rfl))
  | runInsert s => exact map _ (L.runInsert h.lastInsertId (hrun s (Or.inr rfl)))
  | compile q => exact map _ (h.check _)
  | read s use =>
      refine h.reading s (fun hcounts st hst => hsends _ ?_) (h.rows (fun st hst => hsends _ ?_)
        (fun key statement hcompile hunder => hasks key ?_)
        fun key statement hcompile hunder => hstores key ?_)
      · exact ⟨_, st, Or.inr ⟨hcounts, rfl⟩, hst, rfl⟩
      · exact ⟨_, st, Or.inl rfl, hst, rfl⟩
      · exact ⟨statement, hcompile, hunder⟩
      · exact ⟨statement, hcompile, hunder⟩
  | insert q => exact map _ (h.insert (fun s hs => hsends _ ⟨s, hs, rfl⟩) hdrops)
  | update q => exact map _ (h.update (fun s hs => hsends _ ⟨s, hs, rfl⟩) hdrops)
  | delete q => exact map _ (h.delete (fun s hs => hsends _ ⟨s, hs, rfl⟩) hdrops)
  | probe table => exact map _ (always (h.probe (hsends _ rfl)))
  | truncate table => exact map _ (h.truncate (hsends _ rfl) hdrops)
  | drop table =>
      exact map _ (h.dropTable (hsends _ rfl) (fun key hkey => hdrops key (Or.inl hkey))
        (hdrops _ (Or.inr rfl)))
  | invalidate table => exact map _ (always (h.invalidate hdrops))
  | lastId => exact map _ (always h.lastInsertId)
  | inTransaction => exact map _ (always h.inTransaction)
  | recorded table => exact map _ (always (h.recordedVersion (hasks _ rfl)))
  | initTable table entity =>
      refine map _ (attempt_bind (h.check _) fun _ => h.check_bind fun schema hschema => ?_)
      exact h.migrate (fun sql hsql => hsends sql ⟨schema, hschema, hsql⟩) (hasks _ rfl)
        (hstores _ rfl) fun key hkey => hdrops key ⟨schema, hschema, hkey⟩
  | migrate table entity =>
      refine h.check_bind fun schema hschema => map _ ?_
      exact h.migrate (fun sql hsql => hsends sql ⟨schema, hschema, hsql⟩) (hasks _ rfl)
        (hstores _ rfl) fun key hkey => hdrops key ⟨schema, hschema, hkey⟩
  | cachePut key value => exact map _ (h.keep (hstores key rfl) value none)
  | cacheGet key => exact map _ (always (h.lookup (hasks key rfl)))
  | describe => exact attempt_pure _
  | summary => exact attempt_pure _
  | reconnect => exact absurd trivial hop
  | takeLog => exact absurd trivial hop
  | searchLog level part field => exact absurd trivial hop

end Obeys

end SqlMapper
