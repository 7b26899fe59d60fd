import SqlMapper.Engine.Registry
import SqlMapper.Proofs.Cache.Reads
import SqlMapper.Proofs.Migration.Record

/-!
# Separation

What keeps two connections apart that share a cache.

Two sets of parameters name different databases. What happens in one of them
cannot be seen in the other, and that much is up to the client: a view of the
world shows the database behind one of the connections, the calls on its
sessions depend on that alone, and the calls on the other sessions leave it as
it is. The engine adds the rest. Between the two stand the clock, the log, the
journal and the cache, and of these only the cache finds its way into results.

So keys decide. `Alike` compares two states of a connection that differ in what
it never asks for, and every operation that keeps to those keys does the same
from both. `Unseen` says that what the other connection does makes no difference
to such a state, as long as it stays away from these keys.

## Main definitions

* `Sees`, `Spares`: A call depends on a view of the world alone, or leaves it as it is.
* `Client.Separates`: Two sets of parameters name different databases.
* `Operation.ReadsLog`: An operation that looks at the log of every connection.
* `Operation.Touches`: The keys under which an operation may do something to what is cached.
* `KeyOf`: The keys under which something of a table is cached.
* `Cache.Agree`: Two caches hold the same under some keys.
* `Surroundings.Alike`, `Alike`: States that look the same to a connection.
* `lockstep`: From such states a computation does the same.
* `Surroundings.Unseen`: What a connection does not see of others.
* `unseen`: The frame of what it does not see.
* `Client.Secludes`: No write while a call of others ran reaches what is asked for.

## Theorems

* `lockstep_perform`: Operations that ask for no other keys do the same.
* `unseen_perform`: Operations that stay away from these keys are not seen.
-/

namespace SqlMapper

variable {η σ ν α β : Type}

/-- A call depends on a view of the world alone, and changes the view accordingly. -/
def Sees (view : σ → ν) (call : StateM σ α) : Prop :=
  ∀ w w', view w = view w' →
    (call.run w).1 = (call.run w').1 ∧ view (call.run w).2 = view (call.run w').2

/-- A call leaves a view of the world as it is. -/
def Spares (view : σ → ν) (call : StateM σ α) : Prop :=
  ∀ w, view (call.run w).2 = view w

/-- Two sets of parameters name different databases, one of which is seen in a view of the world.
    Its sessions are told from the others. -/
structure Client.Separates (c : Client η σ) (ours theirs : Config) (view : σ → ν)
    (mine : η → Prop) : Prop where
  -- Sessions for our parameters depend on the view alone, from the first.
  dialOurs : ∀ tag, Sees view (c.connect tag ours)
  givesOurs : ∀ tag w h, ((c.connect tag ours).run w).1 = .ok h → mine h
  callOurs : ∀ {α : Type} {call : η → StateM σ (Reply α)}, c.Offers call → ∀ h, mine h →
    Sees view (call h)
  lastInsertId : ∀ h, mine h → ∀ w w', view w = view w' →
    c.lastInsertId h w = c.lastInsertId h w'
  -- Sessions for theirs leave it as it is.
  dialTheirs : ∀ tag, Spares view (c.connect tag theirs)
  givesTheirs : ∀ tag w h, ((c.connect tag theirs).run w).1 = .ok h → ¬ mine h
  callTheirs : ∀ {α : Type} {call : η → StateM σ (Reply α)}, c.Offers call → ∀ h, ¬ mine h →
    Spares view (call h)

namespace Operation

/-- An operation looks at the log, which is that of every connection. -/
def ReadsLog : Operation → Prop
  | .takeLog | .searchLog _ _ _ => True
  | _ => False

/-- An operation may do something to what is cached under a key. -/
def Touches (db : Database η σ) (key : String) (op : Operation) : Prop :=
  op.AsksFor db key ∨ op.StoresUnder db key ∨ op.Drops db key

end Operation

/-- A key is that of something cached of a table: of a read, or of the version of its schema. -/
def KeyOf (table key : String) : Prop :=
  key = versionKey table ∨ Text.startsWith key (tablePrefix table) = true

/-- Tables that their digests tell apart have no key in common. -/
theorem KeyOf.apart {table other key : String} (hne : tablePrefix table ≠ tablePrefix other)
    (h : KeyOf table key) : ¬ KeyOf other key := by
  rintro (hversion | hread)
  · rcases h with hsame | hstarts
    · exact hne (congrArg tablePrefix (versionKey_inj (hsame.symm.trans hversion)))
    · rw [hversion, startsWith_versionKey] at hstarts
      cases hstarts
  · rcases h with hversion | hstarts
    · rw [hversion, startsWith_versionKey] at hread
      cases hread
    · -- Both prefixes are as long as a digest.
      have hlength : ∀ t, (tablePrefix t).toList.length = 69 := by
        intro t
        simp only [tablePrefix, String.toList_append, List.length_append, digestHex_length]
        rfl
      have hfirst := List.isPrefixOf_iff_prefix.mp hstarts
      have hsecond := List.isPrefixOf_iff_prefix.mp hread
      have hsame := (hlength table).trans (hlength other).symm
      have hlists := List.prefix_of_prefix_length_le hfirst hsecond (Nat.le_of_eq hsame)
      exact hne (String.toList_inj.mp (hlists.eq_of_length hsame))

namespace Cache

variable {asked : String → Prop}

/-- Two caches hold the same under some keys. -/
def Agree (asked : String → Prop) (c d : Cache) : Prop :=
  ∀ key, asked key → c.get? key = d.get? key

namespace Agree

variable {c d : Cache}

theorem refl (c : Cache) : Agree asked c c := fun _ _ => rfl

theorem trans {e : Cache} (hcd : Agree asked c d) (hde : Agree asked d e) : Agree asked c e :=
  fun key hkey => (hcd key hkey).trans (hde key hkey)

theorem insert (h : Agree asked c d) (key : String) (e : CacheEntry) :
    Agree asked (OrderedMap.insert c key e) (OrderedMap.insert d key e) := by
  intro other hother
  by_cases hsame : other = key
  · rw [hsame, OrderedMap.get?_insert_self, OrderedMap.get?_insert_self]
  · rw [OrderedMap.get?_insert_ne c hsame, OrderedMap.get?_insert_ne d hsame]
    exact h other hother

theorem erase (h : Agree asked c d) (key : String) :
    Agree asked (OrderedMap.erase c key) (OrderedMap.erase d key) := by
  intro other hother
  by_cases hsame : other = key
  · rw [hsame, OrderedMap.get?_erase_self, OrderedMap.get?_erase_self]
  · rw [OrderedMap.get?_erase_ne c hsame, OrderedMap.get?_erase_ne d hsame]
    exact h other hother

theorem deletePrefix (h : Agree asked c d) (start : String) :
    Agree asked (c.deletePrefix start) (d.deletePrefix start) := by
  intro key hkey
  rw [get?_deletePrefix, get?_deletePrefix, h key hkey]

/-- Where a key is found alike, it is answered alike. -/
theorem get (h : Agree asked c d) {key : String} (hkey : asked key) (now : Nat) :
    (c.get now key).1 = (d.get now key).1
      ∧ Agree asked (c.get now key).2 (d.get now key).2 := by
  unfold Cache.get
  rw [h key hkey]
  cases d.get? key with
  | none => exact ⟨rfl, h⟩
  | some e =>
      dsimp only
      by_cases halive : e.alive now = true
      · rw [if_pos halive, if_pos halive]
        exact ⟨rfl, h⟩
      · rw [if_neg halive, if_neg halive]
        exact ⟨rfl, h.erase key⟩

/-- An entry is put into both or into none. -/
theorem set? (h : Agree asked c d) (now : Nat) (key : String) (value : CacheValue)
    (ttl : Option UInt64) :
    (c.set? now key value ttl = none ∧ d.set? now key value ttl = none)
      ∨ ∃ c' d', c.set? now key value ttl = some c' ∧ d.set? now key value ttl = some d'
        ∧ Agree asked c' d' := by
  cases ttl with
  | none => exact Or.inr ⟨_, _, rfl, rfl, h.insert key _⟩
  | some seconds =>
      simp only [Cache.set?]
      cases deadline? now seconds with
      | none => exact Or.inl ⟨rfl, rfl⟩
      | some deadline => exact Or.inr ⟨_, _, rfl, rfl, h.insert key _⟩

/-- Under other keys a cache may be changed. -/
theorem of_insert (c : Cache) {key : String} (hkey : ¬ asked key) (e : CacheEntry) :
    Agree asked c (OrderedMap.insert c key e) := by
  intro other hother
  have hne : other ≠ key := fun h => hkey (h ▸ hother)
  exact (OrderedMap.get?_insert_ne c hne e).symm

theorem of_erase (c : Cache) {key : String} (hkey : ¬ asked key) :
    Agree asked c (OrderedMap.erase c key) := by
  intro other hother
  have hne : other ≠ key := fun h => hkey (h ▸ hother)
  exact (OrderedMap.get?_erase_ne c hne).symm

theorem of_get (c : Cache) (now : Nat) {key : String} (hkey : ¬ asked key) :
    Agree asked c (c.get now key).2 := by
  unfold Cache.get
  split
  · exact refl c
  · split
    · exact refl c
    · exact of_erase c hkey

theorem of_set? (c : Cache) {now : Nat} {key : String} {value : CacheValue}
    {ttl : Option UInt64} {cache : Cache} (hkey : ¬ asked key)
    (hset : c.set? now key value ttl = some cache) : Agree asked c cache := by
  cases ttl with
  | none =>
      rw [← Option.some.inj hset]
      exact of_insert c hkey _
  | some seconds =>
      simp only [Cache.set?, Option.bind_eq_bind, Option.bind_eq_some_iff, Option.pure_def,
        Option.some.injEq] at hset
      rcases hset with ⟨deadline, -, rfl⟩
      exact of_insert c hkey _

theorem of_deletePrefix (c : Cache) {start : String}
    (hkeys : ∀ key, Text.startsWith key start = true → ¬ asked key) :
    Agree asked c (c.deletePrefix start) := by
  intro key hkey
  rw [get?_deletePrefix, if_neg fun hstarts => hkeys key hstarts hkey]

end Agree

end Cache

section

variable (view : σ → ν) (mine : η → Prop) (asked : String → Prop)

/-- Surroundings that look the same to a connection. -/
structure Surroundings.Alike (s t : Surroundings σ) : Prop where
  -- Its database does.
  world : view s.world = view t.world
  -- It is the same time.
  now : s.now = t.now
  -- The cache holds the same of what it asks for.
  cache : s.cache.Agree asked t.cache

/-- States that look the same to a connection. -/
structure Alike (s t : State η σ) : Prop where
  around : s.around.Alike view asked t.around
  own : s.own = t.own
  -- The session is one for its database.
  mine : mine s.own.handle

/-- From states that look the same to a connection, a computation does the same. -/
def lockstep : Law η σ where
  Holds act := ∀ s t, Alike view mine asked s t →
    (act.run s).1 = (act.run t).1 ∧ Alike view mine asked (act.run s).2 (act.run t).2
  pure _ _ _ h := ⟨rfl, h⟩
  bind := by
    intro _ _ x f hx hf s t h
    rcases hx s t h with ⟨hresult, hafter⟩
    rw [Action.run_bind, Action.run_bind, ← hresult]
    exact hf _ _ _ hafter

/-- What a connection does not see of others. -/
structure Surroundings.Unseen (s t : Surroundings σ) : Prop where
  -- Its database is the same.
  world : view t.world = view s.world
  -- The clock may have moved on.
  now : s.now ≤ t.now
  -- The cache holds the same of what it asks for.
  cache : s.cache.Agree asked t.cache

theorem Surroundings.Unseen.refl (s : Surroundings σ) : s.Unseen view asked s :=
  ⟨rfl, Nat.le_refl _, .refl _⟩

theorem Surroundings.Unseen.trans {s t u : Surroundings σ} (hst : s.Unseen view asked t)
    (htu : t.Unseen view asked u) : s.Unseen view asked u :=
  ⟨htu.world.trans hst.world, Nat.le_trans hst.now htu.now, hst.cache.trans htu.cache⟩

/-- States that look the same still do when others have been at work, if as much time passes. -/
theorem Surroundings.Alike.later {view : σ → ν} {asked : String → Prop} {s t u : Surroundings σ}
    (h : s.Alike view asked t) (hunseen : s.Unseen view asked u) :
    u.Alike view asked { t with now := t.now + (u.now - s.now) } where
  world := hunseen.world.trans h.world
  now := by
    have hlater := hunseen.now
    have hnow := h.now
    show u.now = t.now + (u.now - s.now)
    omega
  cache key hkey := (hunseen.cache key hkey).symm.trans (h.cache key hkey)

/-- On the session of another, nothing is done that a connection sees. -/
def unseen : Frame η σ where
  rel s t := ¬ mine s.own.handle →
    ¬ mine t.own.handle ∧ s.around.Unseen view asked t.around
  refl s h := ⟨h, .refl view asked s.around⟩
  trans := by
    intro s t u hst htu h
    rcases hst h with ⟨hthere, hfirst⟩
    rcases htu hthere with ⟨hlast, hsecond⟩
    exact ⟨hlast, .trans view asked hfirst hsecond⟩

end

section Ours

variable {view : σ → ν} {mine : η → Prop} {asked : String → Prop}

/-- What only looks at what is the connection's own. -/
theorem lockstep_own (f : Connection η → α) :
    (lockstep view mine asked).Holds (do return f (← get).own : Action η σ α) :=
  fun _ _ h => ⟨congrArg f h.own, h⟩

theorem lockstep_report (r : LogRecord) : (lockstep view mine asked).Holds (report r) :=
  fun _ _ h => ⟨rfl, ⟨⟨h.around.world, h.around.now, h.around.cache⟩, h.own, h.mine⟩⟩

theorem lockstep_forgetAll (start : String) :
    (lockstep view mine asked).Holds (around (Surroundings.forgetAll start) : Action η σ Unit) :=
  fun _ _ h =>
    ⟨rfl, ⟨⟨h.around.world, h.around.now, h.around.cache.deletePrefix start⟩, h.own, h.mine⟩⟩

theorem lockstep_invalidate (table : String) :
    (lockstep view mine asked).Holds (invalidate table : Action η σ Unit) := by
  refine (lockstep view mine asked).bind
    (lockstep_own fun c => (c.generations.get? table).getD 0) fun count => ?_
  refine (lockstep view mine asked).bind (fun s t h => ⟨rfl, ⟨h.around, ?_, h.mine⟩⟩) fun _ =>
    lockstep_forgetAll _
  exact congrArg (fun c : Connection η =>
    { c with generations := c.generations.insert table (count + 1) }) h.own

theorem lockstep_lookup {key : String} (hkey : asked key) :
    (lockstep view mine asked).Holds
      (around (Surroundings.lookup key) : Action η σ (Option CacheValue)) := by
  intro s t h
  rcases h.around.cache.get hkey t.around.now with ⟨hfound, hcache⟩
  have hrun : ∀ u : State η σ, (around (Surroundings.lookup key)).run u
      = ((u.around.cache.get u.around.now key).1, { u with around := { u.around with
        cache := (u.around.cache.get u.around.now key).2
        journal := u.around.journal
          ++ [.lookup key (u.around.cache.get u.around.now key).1.isSome] } }) := fun _ => rfl
  rw [hrun, hrun, h.around.now]
  exact ⟨hfound, ⟨⟨h.around.world, h.around.now, hcache⟩, h.own, h.mine⟩⟩

theorem lockstep_store (key : String) (value : CacheValue) (ttl : Option UInt64) :
    (lockstep view mine asked).Holds
      (around (Surroundings.store key value ttl) : Action η σ Bool) := by
  intro s t h
  have hrun : ∀ u : State η σ, (around (Surroundings.store key value ttl)).run u
      = (((Surroundings.store key value ttl).run u.around).1,
        { u with around := ((Surroundings.store key value ttl).run u.around).2 }) := fun _ => rfl
  rw [hrun, hrun, Surroundings.store_run, Surroundings.store_run, h.around.now]
  rcases h.around.cache.set? t.around.now key value ttl with
    ⟨hs, ht⟩ | ⟨c, d, hs, ht, hagree⟩
  · rw [hs, ht]
    exact ⟨rfl, h⟩
  · rw [hs, ht]
    exact ⟨rfl, ⟨⟨h.around.world, rfl, hagree⟩, h.own, h.mine⟩⟩

theorem lockstep_exchange (shown : Event) {call : η → StateM σ (Reply α)}
    (hcall : ∀ h, mine h → Sees view (call h)) :
    (lockstep view mine asked).Holds (Database.exchange shown call) := by
  intro s t h
  -- The same reply comes of both calls, and behind it the same reads are dropped.
  let called (u : State η σ) : State η σ :=
    { u with around := { u.around with
      world := ((call u.own.handle).run u.around.world).2
      journal := u.around.journal ++ [shown] } }
  have hrun : ∀ u : State η σ, (Database.exchange shown call).run u
      = (invalidateAll ((call u.own.handle).run u.around.world).1.meanwhile >>= fun _ =>
        pure ((call u.own.handle).run u.around.world).1.outcome).run (called u) := fun _ => rfl
  rcases hcall _ h.mine _ _ h.around.world with ⟨hreply, hworld⟩
  have hcalled : Alike view mine asked (called s) (called t) := by
    refine ⟨⟨?_, h.around.now, h.around.cache⟩, h.own, h.mine⟩
    rw [show (called t).around.world = ((call s.own.handle).run t.around.world).2 by rw [h.own]]
    exact hworld
  rw [hrun, hrun, ← h.own, ← hreply]
  exact (lockstep view mine asked).bind ((lockstep view mine asked).forM lockstep_invalidate _)
    (fun _ => (lockstep view mine asked).pure _) _ _ hcalled

/-- A session is asked for alike, and one that is given is for the connection's database. -/
theorem dial_alike {db : Database η σ} {theirs : Config}
    (hclient : db.client.Separates db.config theirs view mine) {s t : Surroundings σ}
    (h : s.Alike view asked t) :
    (db.dial.run s).1 = (db.dial.run t).1
      ∧ (db.dial.run s).2.Alike view asked (db.dial.run t).2
      ∧ ∀ session, (db.dial.run s).1 = .ok session → mine session := by
  rcases hclient.dialOurs db.dialect.tag _ _ h.world with ⟨hdialed, hworld⟩
  have hgives := hclient.givesOurs db.dialect.tag s.world
  rw [Database.dial_run, Database.dial_run, ← hdialed]
  cases hs : ((db.client.connect db.dialect.tag db.config).run s.world).1 with
  | error failure => exact ⟨rfl, ⟨hworld, h.now, h.cache⟩, fun _ hok => nomatch hok⟩
  | ok session =>
      refine ⟨rfl, ⟨hworld, h.now, h.cache⟩, fun _ hok => ?_⟩
      rw [← Except.ok.inj hok]
      exact hgives session hs

theorem lockstep_reconnect {db : Database η σ} {theirs : Config}
    (hclient : db.client.Separates db.config theirs view mine) :
    (lockstep view mine asked).Holds db.reconnect := by
  intro s t h
  rcases dial_alike hclient h.around with ⟨hdialed, halike, hmine⟩
  refine ⟨rfl, ?_⟩
  rw [db.reconnect_run s, db.reconnect_run t]
  rcases hs : db.dial.run s.around with ⟨e | session, a⟩
  · rcases ht : db.dial.run t.around with ⟨e' | session', a'⟩
    · rw [hs, ht] at halike
      exact ⟨⟨halike.world, halike.now, halike.cache⟩, h.own, h.mine⟩
    · rw [hs, ht] at hdialed
      cases hdialed
  · rcases ht : db.dial.run t.around with ⟨e' | session', a'⟩
    · rw [hs, ht] at hdialed
      cases hdialed
    · rw [hs, ht] at halike hdialed
      rw [hs] at hmine
      cases hdialed
      refine ⟨⟨halike.world, halike.now, halike.cache⟩, ?_, hmine session rfl⟩
      exact congrArg (fun c : Connection η => { c with handle := session }) h.own

variable {db : Database η σ} {theirs : Config}

theorem lockstep_talks (hclient : db.client.Separates db.config theirs view mine) :
    Talks db (lockstep view mine asked) fun _ => True where
  report := lockstep_report
  inTransaction := lockstep_own _
  setTransaction opened _ _ h :=
    ⟨rfl, ⟨h.around, congrArg (fun c : Connection η => { c with inTransaction := opened }) h.own,
      h.mine⟩⟩
  exchange shown _ _ hcall := lockstep_exchange shown (hclient.callOurs hcall)
  words _ _ := trivial
  reconnect := lockstep_reconnect hclient
  pause ms _ _ h :=
    ⟨rfl, ⟨⟨h.around.world, congrArg (· + ms.toNat) h.around.now, h.around.cache⟩, h.own, h.mine⟩⟩

theorem lockstep_obeys (hclient : db.client.Separates db.config theirs view mine) :
    Obeys db (lockstep view mine asked) (fun _ => True) asked (fun _ => True) fun _ => True where
  report := lockstep_report
  inTransaction := lockstep_own _
  generation table := lockstep_own fun c => (c.generations.get? table).getD 0
  lastInsertId := by
    intro s t h
    refine ⟨?_, h⟩
    show db.client.lastInsertId s.own.handle s.around.world
      = db.client.lastInsertId t.own.handle t.around.world
    rw [← h.own]
    exact hclient.lastInsertId _ h.mine _ _ h.around.world
  lookup := lockstep_lookup
  store value ttl _ := lockstep_store _ value ttl
  forget _ _ _ h :=
    ⟨rfl, ⟨⟨h.around.world, h.around.now, h.around.cache.erase _⟩, h.own, h.mine⟩⟩
  invalidate _ := lockstep_invalidate _
  sending binds readonly hsent := (lockstep_talks hclient).sendFrom hsent binds readonly 1
  transaction := (lockstep_talks hclient).transaction

/-- An operation that asks for no other keys does the same from states that look the same. The log
    is not the connection's own. -/
theorem lockstep_perform (hclient : db.client.Separates db.config theirs view mine)
    {op : Operation} (hlog : ¬ op.ReadsLog) (hasks : ∀ key, op.AsksFor db key → asked key) :
    (lockstep view mine asked).Holds (op.perform db).run := by
  by_cases hapart : op.Apart
  · cases op with
    | reconnect => exact Law.map _ (Law.always (lockstep_reconnect hclient))
    | _ => exact absurd hapart hlog
  · exact (lockstep_obeys hclient).perform hapart (fun _ _ => trivial) hasks (fun _ _ => trivial)
      fun _ _ => trivial

end Ours

section Theirs

variable {view : σ → ν} {mine : η → Prop} {asked : String → Prop}

open SqlMapper.Frame

theorem unseen_report (r : LogRecord) : (unseen view mine asked).Holds (report r) :=
  fun _ h => ⟨h, ⟨rfl, Nat.le_refl _, .refl _⟩⟩

theorem unseen_invalidate {table : String} (hkeys : ∀ key, IsReadOf [table] key → ¬ asked key) :
    (unseen view mine asked).Holds (invalidate table : Action η σ Unit) := by
  intro s h
  refine ⟨h, ⟨rfl, Nat.le_refl _, .of_deletePrefix s.around.cache fun key hstarts => ?_⟩⟩
  exact hkeys key ⟨table, List.mem_singleton_self table, hstarts⟩

theorem unseen_invalidateAll {tables : List String}
    (hkeys : ∀ key, IsReadOf tables key → ¬ asked key) :
    (unseen view mine asked).Holds (invalidateAll tables : Action η σ Unit) := by
  induction tables with
  | nil => exact holds_pure ()
  | cons table rest ih =>
      refine holds_bind (unseen_invalidate fun key hkey => hkeys key ?_) fun _ =>
        ih fun key hkey => hkeys key ?_
      · exact hkey.of_subset (List.cons_subset_cons table (List.nil_subset rest))
      · exact hkey.of_subset (List.subset_cons_self table rest)

theorem unseen_exchange (shown : Event) {call : η → StateM σ (Reply α)}
    (hcall : ∀ h, ¬ mine h → Spares view (call h))
    (hmeanwhile : ∀ h, ¬ mine h → ∀ w key, IsReadOf ((call h).run w).1.meanwhile key →
      ¬ asked key) : (unseen view mine asked).Holds (Database.exchange shown call) := by
  intro s h
  let called : State η σ :=
    { s with around := { s.around with
      world := ((call s.own.handle).run s.around.world).2
      journal := s.around.journal ++ [shown] } }
  have hrun : ((Database.exchange shown call).run s).2
      = ((invalidateAll ((call s.own.handle).run s.around.world).1.meanwhile).run called).2 := rfl
  have hcalled : s.around.Unseen view asked called.around :=
    ⟨hcall _ h _, Nat.le_refl _, .refl _⟩
  rcases unseen_invalidateAll (hmeanwhile _ h _) called h with ⟨hafter, hunseen⟩
  rw [hrun]
  exact ⟨hafter, hcalled.trans view asked hunseen⟩

theorem dial_unseen {db : Database η σ} {ours : Config} (asked : String → Prop)
    (hclient : db.client.Separates ours db.config view mine) (s : Surroundings σ) :
    s.Unseen view asked (db.dial.run s).2
      ∧ ∀ session, (db.dial.run s).1 = .ok session → ¬ mine session := by
  have hspares := hclient.dialTheirs db.dialect.tag s.world
  have hgives := hclient.givesTheirs db.dialect.tag s.world
  rw [Database.dial_run]
  cases hs : ((db.client.connect db.dialect.tag db.config).run s.world).1 with
  | error failure => exact ⟨⟨hspares, Nat.le_refl _, .refl _⟩, fun _ hok => nomatch hok⟩
  | ok session =>
      refine ⟨⟨hspares, Nat.le_refl _, .refl _⟩, fun _ hok => ?_⟩
      rw [← Except.ok.inj hok]
      exact hgives session hs

theorem unseen_reconnect {db : Database η σ} {ours : Config}
    (hclient : db.client.Separates ours db.config view mine) :
    (unseen view mine asked).Holds db.reconnect := by
  intro s h
  rcases dial_unseen asked hclient s.around with ⟨hunseen, hgives⟩
  rw [db.reconnect_run s]
  rcases hdial : db.dial.run s.around with ⟨e | session, a⟩
  · rw [hdial] at hunseen
    exact ⟨h, ⟨hunseen.world, hunseen.now, hunseen.cache⟩⟩
  · rw [hdial] at hunseen hgives
    exact ⟨hgives session rfl, ⟨hunseen.world, hunseen.now, hunseen.cache⟩⟩

variable {db : Database η σ} {ours : Config}

/-- Nothing that is asked for is read of a table that others wrote to while a call of theirs ran. -/
def Client.Secludes (c : Client η σ) (mine : η → Prop) (asked : String → Prop) : Prop :=
  ∀ {α : Type} {call : η → StateM σ (Reply α)}, c.Offers call → ∀ h, ¬ mine h → ∀ w key,
    IsReadOf ((call h).run w).1.meanwhile key → ¬ asked key

theorem unseen_talks (hclient : db.client.Separates ours db.config view mine)
    (hsecludes : db.client.Secludes mine asked) :
    Talks db (unseen view mine asked).law fun _ => True where
  report := unseen_report
  inTransaction := holds_bind holds_get fun _ => holds_pure _
  setTransaction _ s h := ⟨h, .refl view asked s.around⟩
  exchange shown _ _ hcall := unseen_exchange shown (hclient.callTheirs hcall) (hsecludes hcall)
  words _ _ := trivial
  reconnect := unseen_reconnect hclient
  pause _ _ h := ⟨h, ⟨rfl, Nat.le_add_right _ _, .refl _⟩⟩

theorem unseen_obeys (hclient : db.client.Separates ours db.config view mine)
    (hsecludes : db.client.Secludes mine asked) :
    Obeys db (unseen view mine asked).law (fun _ => True) (fun key => ¬ asked key)
      (fun key => ¬ asked key) fun key => ¬ asked key where
  report := unseen_report
  inTransaction := holds_bind holds_get fun _ => holds_pure _
  generation _ := holds_bind holds_get fun _ => holds_pure _
  lastInsertId := holds_bind holds_get fun _ => holds_pure _
  lookup hkey s h := ⟨h, ⟨rfl, Nat.le_refl _, .of_get s.around.cache s.around.now hkey⟩⟩
  store value ttl hkey s h := by
    show ¬ mine s.own.handle
      ∧ s.around.Unseen view asked ((Surroundings.store _ value ttl).run s.around).2
    rw [Surroundings.store_run]
    cases hset : s.around.cache.set? s.around.now _ value ttl with
    | none => exact ⟨h, .refl view asked s.around⟩
    | some cache => exact ⟨h, ⟨rfl, Nat.le_refl _, .of_set? s.around.cache hkey hset⟩⟩
  forget hkey s h := ⟨h, ⟨rfl, Nat.le_refl _, .of_erase s.around.cache hkey⟩⟩
  invalidate := unseen_invalidate
  sending binds readonly hsent := (unseen_talks hclient hsecludes).sendFrom hsent binds readonly 1
  transaction := (unseen_talks hclient hsecludes).transaction

/-- An operation that stays away from some keys is not seen by a connection that asks for no
    others. -/
theorem unseen_perform (hclient : db.client.Separates ours db.config view mine)
    (hsecludes : db.client.Secludes mine asked) {op : Operation}
    (hkeys : ∀ key, op.Touches db key → ¬ asked key) :
    (unseen view mine asked).Holds (op.perform db).run := by
  by_cases hapart : op.Apart
  · cases op with
    | reconnect => exact holds_map _ (holds_always (unseen_reconnect hclient))
    | takeLog => exact holds_map _ (holds_always fun s h => ⟨h, ⟨rfl, Nat.le_refl _, .refl _⟩⟩)
    | searchLog level part field =>
        exact holds_attempt_bind (holds_always holds_get) fun _ => holds_attempt_pure _
    | _ => exact absurd hapart id
  · exact (unseen_obeys hclient hsecludes).perform hapart (fun _ _ => trivial)
      (fun key hkey => hkeys key (Or.inl hkey))
      (fun key hkey => hkeys key (Or.inr (Or.inl hkey)))
      fun key hkey => hkeys key (Or.inr (Or.inr hkey))

end Theirs

end SqlMapper
