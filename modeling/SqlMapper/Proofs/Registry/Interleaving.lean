import SqlMapper.Proofs.Registry.Separation

/-!
# Interleaving

Two connections of one registry, used in turns.

A registry whose connections share a cache is asked for two of them in any order:
operations on the one and on the other, each in or out of transactions that stay
open over the turns of the other, and time passing in between. What one
connection yields is compared with what it yields when the turns of the other
are left out, and only the time that they took has passed.

The keys of a shared cache are made of tables and statements, and say nothing of
the database. So the two are apart only as far as their keys are: if one never
touches what is cached under a key that the other asks for, leaving it out
changes nothing. Otherwise the rows of one database answer a read of the other.

## Main definitions

* `Registry.sharing`: A registry whose connections share a cache.
* `Move`, `Yield`: What is asked of a connection in one turn, and what comes of it.
* `Turn`: A turn of one of two connections, or time that passes.
* `course`: What the turns of one connection yield.
* `alone`: The turns without those of the other.
* `Asked`, `Touched`: The keys that the turns of one ask for, and that those of the other touch.
* `Registry.Kin`: Registries that differ in their connections alone.
* `Registry.Paired`: Registries that hold the same for one of the connections.

## Theorems

* `opening_run`, `on_run`: Opening a connection, and a computation on it.
* `Paired.onOurs`, `Paired.onTheirs`: What a turn of either does to two runs.
* `connections_separate`: What one yields does not depend on the other if their keys are apart.
* `rows_of_another`: The rows of one database answer a read of the other.
-/

namespace SqlMapper

variable {η σ ν α : Type}

namespace Registry

/-- A registry whose connections share a cache. -/
def sharing (client : Client η σ) (dialects : DialectCatalog) (options : Options) :
    Registry η σ where
  client := client
  dialects := dialects
  options := options
  sharesCache := true

/-- The fixed parts of the connection that a registry opens for parameters. -/
def opens (r : Registry η σ) (config : Config) : Except Error (Database η σ) :=
  (r.dialects.find config.dialect).map fun dialect =>
    { client := r.client, dialect, config, options := r.options }

theorem client_of_opens {r : Registry η σ} {config : Config} {db : Database η σ}
    (h : r.opens config = .ok db) : db.client = r.client ∧ db.config = config := by
  unfold opens at h
  cases hfind : r.dialects.find config.dialect with
  | error e =>
      rw [hfind] at h
      cases h
  | ok dialect =>
      rw [hfind] at h
      cases h
      exact ⟨rfl, rfl⟩

theorem separates_ours {base : Registry η σ} {ours theirs : Config} {view : σ → ν}
    {mine : η → Prop} (hclient : base.client.Separates ours theirs view mine) {db : Database η σ}
    (hopens : base.opens ours = .ok db) : db.client.Separates db.config theirs view mine := by
  rcases client_of_opens hopens with ⟨hsame, hconfig⟩
  rwa [hsame, hconfig]

theorem separates_theirs {base : Registry η σ} {ours theirs : Config} {view : σ → ν}
    {mine : η → Prop} (hclient : base.client.Separates ours theirs view mine) {db : Database η σ}
    (hopens : base.opens theirs = .ok db) : db.client.Separates ours db.config view mine := by
  rcases client_of_opens hopens with ⟨hsame, hconfig⟩
  rwa [hsame, hconfig]

/-- A connection is opened on a session for its parameters, in a dialect that is found. -/
theorem establish_run (r : Registry η σ) (config : Config) (s : Surroundings σ) :
    (Database.establish r.client r.dialects config r.options).run s = match r.opens config with
      | .error e => (.error e, { s with log := s.log ++ e.record?.toList })
      | .ok db =>
        match db.dial.run s with
        | (.error e, t) => (.error e, t)
        | (.ok handle, t) => (.ok (db, { handle }), { t with log := t.log ++ [{
            level := .info
            message := "database connected"
            fields := [("dialect", db.dialect.tag), ("host", config.host),
              ("database", config.database)] }] }) := by
  unfold Database.establish opens
  cases r.dialects.find config.dialect with
  | error e =>
      have hreport := Surroundings.reportError_run e s
      show (_, ((Surroundings.reportError e).run s).2) = _
      rw [hreport]
      rfl
  | ok dialect =>
      dsimp only [Except.map]
      rw [StateT.run_bind]
      generalize { client := r.client, dialect, config, options := r.options : Database η σ } = db
      rcases db.dial.run s with ⟨e | handle, t⟩ <;> rfl

/-- Our connection is opened alike. -/
theorem establish_alike {base : Registry η σ} {ours theirs : Config} {view : σ → ν}
    {mine : η → Prop} {asked : String → Prop}
    (hclient : base.client.Separates ours theirs view mine) {s t : Surroundings σ}
    (h : s.Alike view asked t) :
    let done := (Database.establish base.client base.dialects ours base.options).run s
    let done' := (Database.establish base.client base.dialects ours base.options).run t
    done.1 = done'.1 ∧ done.2.Alike view asked done'.2
      ∧ ∀ db connection, done.1 = .ok (db, connection) →
        base.opens ours = .ok db ∧ mine connection.handle := by
  intro done done'
  have hdone : done = _ := base.establish_run ours s
  have hdone' : done' = _ := base.establish_run ours t
  cases hopens : base.opens ours with
  | error e =>
      rw [hopens] at hdone hdone'
      rw [hdone, hdone']
      exact ⟨rfl, ⟨h.world, h.now, h.cache⟩, fun _ _ hok => nomatch hok⟩
  | ok db =>
      rw [hopens] at hdone hdone'
      dsimp only at hdone hdone'
      rcases dial_alike (separates_ours hclient hopens) h with ⟨hdialed, halike, hmine⟩
      rcases hs : db.dial.run s with ⟨result, u⟩
      rcases ht : db.dial.run t with ⟨result', u'⟩
      rw [hs, ht] at hdialed halike
      rw [hs] at hdone hmine
      rw [ht, ← show result = result' from hdialed] at hdone'
      rw [hdone, hdone']
      cases result with
      | error e => exact ⟨rfl, halike, fun _ _ hok => nomatch hok⟩
      | ok handle =>
          refine ⟨rfl, ⟨halike.world, halike.now, halike.cache⟩, fun _ _ hok => ?_⟩
          cases hok
          exact ⟨rfl, hmine handle rfl⟩

/-- Theirs is opened unseen. -/
theorem establish_unseen {base : Registry η σ} {ours theirs : Config} {view : σ → ν}
    {mine : η → Prop} (asked : String → Prop)
    (hclient : base.client.Separates ours theirs view mine) (s : Surroundings σ) :
    let done := (Database.establish base.client base.dialects theirs base.options).run s
    s.Unseen view asked done.2 ∧ ∀ db connection, done.1 = .ok (db, connection) →
      base.opens theirs = .ok db ∧ ¬ mine connection.handle := by
  intro done
  have hdone : done = _ := base.establish_run theirs s
  cases hopens : base.opens theirs with
  | error e =>
      rw [hopens] at hdone
      rw [hdone]
      exact ⟨⟨rfl, Nat.le_refl _, .refl _⟩, fun _ _ hok => nomatch hok⟩
  | ok db =>
      rw [hopens] at hdone
      dsimp only at hdone
      rcases dial_unseen asked (separates_theirs hclient hopens) s with ⟨hunseen, hgives⟩
      rcases hs : db.dial.run s with ⟨e | handle, u⟩
      · rw [hs] at hdone hunseen
        rw [hdone]
        exact ⟨hunseen, fun _ _ hok => nomatch hok⟩
      · rw [hs] at hdone hunseen hgives
        rw [hdone]
        refine ⟨⟨hunseen.world, hunseen.now, hunseen.cache⟩, fun _ _ hok => ?_⟩
        cases hok
        exact ⟨rfl, hgives handle rfl⟩

/-- The report that a connection is opened. -/
def openingRecord (config : Config) : LogRecord where
  level := .debug
  message := "opening registry connection"
  fields := [("dialect", config.dialect), ("database", config.database)]

/-- A connection that is opened is kept. -/
theorem opening_run (r : Registry η σ) (config : Config) (s : Surroundings σ) :
    (r.opening config).run s = match (Database.establish r.client r.dialects config r.options).run
        { s with log := s.log ++ [openingRecord config] } with
      | (.error e, t) => ((.error e, r), t)
      | (.ok (database, connection), t) =>
        let c : Registered η σ := { number := r.opened, database, connection }
        ((.ok c, { r with opened := r.opened + 1 }.keep c), t) := by
  have hreport : (Surroundings.report (openingRecord config)).run s
      = ((), { s with log := s.log ++ [openingRecord config] }) := rfl
  unfold opening
  rw [StateT.run_bind]
  show (StateT.run _ ((Surroundings.report (openingRecord config)).run s).2) = _
  rw [hreport, StateT.run_bind]
  rcases (Database.establish r.client r.dialects config r.options).run
    { s with log := s.log ++ [openingRecord config] } with ⟨e | ⟨database, connection⟩, t⟩ <;>
    rfl

theorem obtain_of_some {r : Registry η σ} {config : Config} {c : Registered η σ}
    (h : r.connections.get? config.fingerprint = some c) : r.obtain config = pure (.ok c, r) := by
  rw [obtain, h]

theorem obtain_of_none {r : Registry η σ} {config : Config}
    (h : r.connections.get? config.fingerprint = none) : r.obtain config = r.opening config := by
  rw [obtain, h]

/-- Where connections share a cache, a computation runs on the one that is around. -/
theorem runOn_run {r : Registry η σ} (hshares : r.sharesCache = true) (c : Registered η σ)
    (act : Database η σ → Action η σ α) (s : Surroundings σ) :
    (r.runOn c act).run s =
      let done := (act c.database).run { around := s, own := c.connection }
      ((done.1, r.keep { c with connection := done.2.own }), done.2.around) :=
  if_pos hshares

/-- Where connections share a cache, a computation runs on the connection that was obtained. -/
theorem on_run (r : Registry η σ) (config : Config) (act : Database η σ → Action η σ α)
    (s : Surroundings σ) (hshares : ((r.obtain config).run s).1.2.sharesCache = true) :
    (r.on config act).run s = match (r.obtain config).run s with
      | ((.error e, r), t) => ((.error e, r), t)
      | ((.ok c, r), t) =>
        let done := (act c.database).run { around := t, own := c.connection }
        ((.ok (c.number, done.1), r.keep { c with connection := done.2.own }),
          done.2.around) := by
  unfold on
  rw [StateT.run_bind]
  rcases hobtained : (r.obtain config).run s with ⟨⟨e | c, kept⟩, t⟩
  · rfl
  · rw [hobtained] at hshares
    show ((Except.ok (c.number, ((kept.runOn c act).run t).1.1), ((kept.runOn c act).run t).1.2),
      ((kept.runOn c act).run t).2) = _
    rw [runOn_run hshares]

/-- A registry that differs from another in its connections alone. -/
def Kin (base r : Registry η σ) : Prop :=
  r = { base with connections := r.connections, opened := r.opened }

theorem Kin.keep {base r : Registry η σ} (h : base.Kin r) (c : Registered η σ) :
    base.Kin (r.keep c) := by
  rw [Kin] at h
  rw [h]
  rfl

theorem Kin.count {base r : Registry η σ} (h : base.Kin r) (n : Nat) :
    base.Kin { r with opened := n } := by
  rw [Kin] at h
  rw [h]
  rfl

theorem Kin.establish {base r : Registry η σ} (h : base.Kin r) (config : Config) :
    Database.establish r.client r.dialects config r.options
      = Database.establish base.client base.dialects config base.options := by
  rw [h]

theorem Kin.shares {base r : Registry η σ} (h : base.Kin r) :
    r.sharesCache = base.sharesCache := by
  rw [h]

end Registry

/-- What the results of a connection depend on. -/
def Registered.link (c : Registered η σ) : Database η σ × Connection η :=
  (c.database, c.connection)

namespace Registry

/-- Registries that hold the same for our parameters. The first may hold a connection for theirs as
    well. -/
structure Paired (base : Registry η σ) (ours theirs : Config) (mine : η → Prop)
    (r r' : Registry η σ) : Prop where
  kin : base.Kin r
  kin' : base.Kin r'
  -- What they hold for our parameters is a connection to our database,
  same : (r.connections.get? ours.fingerprint).map Registered.link
    = (r'.connections.get? ours.fingerprint).map Registered.link
  ours : ∀ c, r.connections.get? ours.fingerprint = some c →
    base.opens ours = .ok c.database ∧ mine c.connection.handle
  -- and what the first holds for theirs is one to another.
  theirs : ∀ c, r.connections.get? theirs.fingerprint = some c →
    base.opens theirs = .ok c.database ∧ ¬ mine c.connection.handle

namespace Paired

variable {base r r' : Registry η σ} {ours theirs : Config} {view : σ → ν} {mine : η → Prop}
  {asked : String → Prop} {s s' : Surroundings σ}

theorem get?_keep {r : Registry η σ} {c : Registered η σ} {config : Config}
    (hopens : base.opens config = .ok c.database) :
    (r.keep c).connections.get? config.fingerprint = some c
      ∧ ∀ key, key ≠ config.fingerprint →
        (r.keep c).connections.get? key = r.connections.get? key := by
  rw [Registry.keep, (client_of_opens hopens).2]
  exact ⟨OrderedMap.get?_insert_self _ _ _, fun key hkey => OrderedMap.get?_insert_ne _ hkey _⟩

/-- However many connections they have opened. -/
theorem count (h : Paired base ours theirs mine r r') (n n' : Nat) :
    Paired base ours theirs mine { r with opened := n } { r' with opened := n' } :=
  ⟨h.kin.count n, h.kin'.count n', h.same, h.ours, h.theirs⟩

/-- Our connection may be kept in both. -/
theorem keepOurs (h : Paired base ours theirs mine r r')
    (hne : ours.fingerprint ≠ theirs.fingerprint) {c c' : Registered η σ}
    (hlink : c.link = c'.link) (hopens : base.opens ours = .ok c.database)
    (hmine : mine c.connection.handle) :
    Paired base ours theirs mine (r.keep c) (r'.keep c') := by
  have hopens' : base.opens ours = .ok c'.database := by
    rw [hopens, show c.database = c'.database from congrArg Prod.fst hlink]
  rcases get?_keep (r := r) hopens with ⟨hget, hothers⟩
  rcases get?_keep (r := r') hopens' with ⟨hget', -⟩
  refine ⟨h.kin.keep c, h.kin'.keep c', ?_, fun d hd => ?_, fun d hd => ?_⟩
  · rw [hget, hget']
    exact congrArg some hlink
  · rw [hget] at hd
    rw [← Option.some.inj hd]
    exact ⟨hopens, hmine⟩
  · rw [hothers _ hne.symm] at hd
    exact h.theirs d hd

/-- Theirs may be kept in the first. -/
theorem keepTheirs (h : Paired base ours theirs mine r r')
    (hne : ours.fingerprint ≠ theirs.fingerprint) {c : Registered η σ}
    (hopens : base.opens theirs = .ok c.database) (hmine : ¬ mine c.connection.handle) :
    Paired base ours theirs mine (r.keep c) r' := by
  rcases get?_keep (r := r) hopens with ⟨hget, hothers⟩
  refine ⟨h.kin.keep c, h.kin', ?_, fun d hd => ?_, fun d hd => ?_⟩
  · rw [hothers _ hne]
    exact h.same
  · rw [hothers _ hne] at hd
    exact h.ours d hd
  · rw [hget] at hd
    rw [← Option.some.inj hd]
    exact ⟨hopens, hmine⟩

/-- Our connection is opened alike. -/
theorem openOurs (h : Paired base ours theirs mine r r')
    (hne : ours.fingerprint ≠ theirs.fingerprint)
    (hclient : base.client.Separates ours theirs view mine) (hs : s.Alike view asked s') :
    let done := (r.opening ours).run s
    let done' := (r'.opening ours).run s'
    done.1.1.map Registered.link = done'.1.1.map Registered.link
      ∧ (∀ c, done.1.1 = .ok c → base.opens ours = .ok c.database ∧ mine c.connection.handle)
      ∧ done.2.Alike view asked done'.2 ∧ Paired base ours theirs mine done.1.2 done'.1.2 := by
  intro done done'
  have hdone : done = _ := r.opening_run ours s
  have hdone' : done' = _ := r'.opening_run ours s'
  let noted (u : Surroundings σ) : Surroundings σ :=
    { u with log := u.log ++ [openingRecord ours] }
  have hnoted : (noted s).Alike view asked (noted s') := ⟨hs.world, hs.now, hs.cache⟩
  rcases establish_alike hclient hnoted with ⟨hresult, halike, hopened⟩
  rw [h.kin.establish] at hdone
  rw [h.kin'.establish] at hdone'
  rcases hfirst : (Database.establish base.client base.dialects ours base.options).run
    (noted s) with ⟨result, t⟩
  rcases hsecond : (Database.establish base.client base.dialects ours base.options).run
    (noted s') with ⟨result', t'⟩
  rw [hfirst] at hresult halike hopened hdone
  rw [hsecond] at hresult halike hdone'
  rw [← show result = result' from hresult] at hdone'
  rw [hdone, hdone']
  rcases result with e | ⟨db, connection⟩
  · refine ⟨rfl, fun c hc => ?_, halike, h⟩
    cases hc
  · have hserves := hopened db connection rfl
    refine ⟨rfl, fun c hc => ?_, halike, (h.count _ _).keepOurs hne rfl hserves.1 hserves.2⟩
    cases hc
    exact hserves

/-- Our connection is obtained alike. -/
theorem obtainOurs (h : Paired base ours theirs mine r r')
    (hne : ours.fingerprint ≠ theirs.fingerprint)
    (hclient : base.client.Separates ours theirs view mine) (hs : s.Alike view asked s') :
    let done := (r.obtain ours).run s
    let done' := (r'.obtain ours).run s'
    done.1.1.map Registered.link = done'.1.1.map Registered.link
      ∧ (∀ c, done.1.1 = .ok c → base.opens ours = .ok c.database ∧ mine c.connection.handle)
      ∧ done.2.Alike view asked done'.2 ∧ Paired base ours theirs mine done.1.2 done'.1.2 := by
  have hsame := h.same
  cases hget : r.connections.get? ours.fingerprint with
  | some c =>
      rw [hget] at hsame
      rcases Option.map_eq_some_iff.mp hsame.symm with ⟨c', hget', hlink⟩
      rw [obtain_of_some hget, obtain_of_some hget']
      refine ⟨congrArg Except.ok hlink.symm, fun d hd => ?_, hs, h⟩
      cases hd
      exact h.ours c hget
  | none =>
      rw [hget] at hsame
      rw [obtain_of_none hget, obtain_of_none (Option.map_eq_none_iff.mp hsame.symm)]
      exact h.openOurs hne hclient hs

/-- Theirs is opened unseen. -/
theorem openTheirs (h : Paired base ours theirs mine r r')
    (hne : ours.fingerprint ≠ theirs.fingerprint) (asked : String → Prop)
    (hclient : base.client.Separates ours theirs view mine) (s : Surroundings σ) :
    let done := (r.opening theirs).run s
    (∀ c, done.1.1 = .ok c → base.opens theirs = .ok c.database ∧ ¬ mine c.connection.handle)
      ∧ s.Unseen view asked done.2 ∧ Paired base ours theirs mine done.1.2 r' := by
  intro done
  have hdone : done = _ := r.opening_run theirs s
  let noted : Surroundings σ := { s with log := s.log ++ [openingRecord theirs] }
  rcases establish_unseen asked hclient noted with ⟨hunseen, hopened⟩
  rw [h.kin.establish] at hdone
  rcases hfirst : (Database.establish base.client base.dialects theirs base.options).run noted
    with ⟨result, t⟩
  rw [hfirst] at hunseen hopened hdone
  have hthere : s.Unseen view asked t := ⟨hunseen.world, hunseen.now, hunseen.cache⟩
  rw [hdone]
  rcases result with e | ⟨db, connection⟩
  · refine ⟨fun c hc => ?_, hthere, h⟩
    cases hc
  · have hserves := hopened db connection rfl
    refine ⟨fun c hc => ?_, hthere, (h.count _ _).keepTheirs hne hserves.1 hserves.2⟩
    cases hc
    exact hserves

/-- Theirs is obtained unseen. -/
theorem obtainTheirs (h : Paired base ours theirs mine r r')
    (hne : ours.fingerprint ≠ theirs.fingerprint) (asked : String → Prop)
    (hclient : base.client.Separates ours theirs view mine) (s : Surroundings σ) :
    let done := (r.obtain theirs).run s
    (∀ c, done.1.1 = .ok c → base.opens theirs = .ok c.database ∧ ¬ mine c.connection.handle)
      ∧ s.Unseen view asked done.2 ∧ Paired base ours theirs mine done.1.2 r' := by
  cases hget : r.connections.get? theirs.fingerprint with
  | some c =>
      rw [obtain_of_some hget]
      refine ⟨fun d hd => ?_, .refl view asked s, h⟩
      cases hd
      exact h.theirs c hget
  | none =>
      rw [obtain_of_none hget]
      exact h.openTheirs hne asked hclient s

/-- What is done on our connection is done alike in both runs. -/
theorem onOurs (h : Paired base ours theirs mine r r') (hshares : base.sharesCache = true)
    (hne : ours.fingerprint ≠ theirs.fingerprint)
    (hclient : base.client.Separates ours theirs view mine) (hs : s.Alike view asked s')
    {act : Database η σ → Action η σ α}
    (hact : ∀ db, base.opens ours = .ok db → (lockstep view mine asked).Holds (act db)) :
    let done := (r.on ours act).run s
    let done' := (r'.on ours act).run s'
    done.1.1.map Prod.snd = done'.1.1.map Prod.snd
      ∧ done.2.Alike view asked done'.2 ∧ Paired base ours theirs mine done.1.2 done'.1.2 := by
  intro done done'
  rcases h.obtainOurs hne hclient hs with ⟨hsame, hserves, halike, hpaired⟩
  have hdone : done = _ := r.on_run ours act s (hpaired.kin.shares.trans hshares)
  have hdone' : done' = _ := r'.on_run ours act s' (hpaired.kin'.shares.trans hshares)
  rcases hfirst : (r.obtain ours).run s with ⟨⟨result, kept⟩, t⟩
  rcases hsecond : (r'.obtain ours).run s' with ⟨⟨result', kept'⟩, t'⟩
  rw [hfirst] at hsame hserves halike hpaired hdone
  rw [hsecond] at hsame halike hpaired hdone'
  rcases result with e | c <;> rcases result' with e' | c'
  · rw [hdone, hdone', show e = e' from Except.error.inj hsame]
    exact ⟨rfl, halike, hpaired⟩
  · cases hsame
  · cases hsame
  · -- The two connections differ in their numbers at most.
    rcases hserves c rfl with ⟨hopens, hmine⟩
    rcases c' with ⟨number', database', connection', cache'⟩
    rcases Prod.mk.inj (Except.ok.inj hsame) with ⟨rfl, rfl⟩
    rcases hact c.database hopens { around := t, own := c.connection }
      { around := t', own := c.connection } ⟨halike, rfl, hmine⟩ with ⟨hresult, hafter⟩
    rw [hdone, hdone']
    refine ⟨congrArg Except.ok hresult, hafter.around, hpaired.keepOurs hne ?_ hopens hafter.mine⟩
    exact congrArg (Prod.mk c.database) hafter.own

/-- What is done on theirs is not seen, and may be left out. -/
theorem onTheirs (h : Paired base ours theirs mine r r') (hshares : base.sharesCache = true)
    (hne : ours.fingerprint ≠ theirs.fingerprint)
    (hclient : base.client.Separates ours theirs view mine) (s : Surroundings σ)
    {act : Database η σ → Action η σ α}
    (hact : ∀ db, base.opens theirs = .ok db → (unseen view mine asked).Holds (act db)) :
    let done := (r.on theirs act).run s
    s.Unseen view asked done.2 ∧ Paired base ours theirs mine done.1.2 r' := by
  intro done
  rcases h.obtainTheirs hne asked hclient s with ⟨hserves, hunseen, hpaired⟩
  have hdone : done = _ := r.on_run theirs act s (hpaired.kin.shares.trans hshares)
  rcases hfirst : (r.obtain theirs).run s with ⟨⟨result, kept⟩, t⟩
  rw [hfirst] at hserves hunseen hpaired hdone
  rcases result with e | c
  · rw [hdone]
    exact ⟨hunseen, hpaired⟩
  · rcases hserves c rfl with ⟨hopens, hmine⟩
    rcases hact c.database hopens { around := t, own := c.connection } hmine with
      ⟨hthere, hafter⟩
    rw [hdone]
    exact ⟨hunseen.trans view asked hafter, hpaired.keepTheirs hne hopens hthere⟩

end Paired

end Registry

/-- What is asked of a connection in one turn. -/
inductive Move where
  -- An operation is performed.
  | perform (op : Operation)
  -- A transaction is entered.
  | enter
  -- One is left, given whether it is the outermost and how its body ended.
  | leave (outermost : Bool) (ending : Except Stop Unit)

/-- What comes of a move. -/
inductive Yield where
  -- The answer of an operation.
  | answer (result : Except Stop Answer)
  -- Whether the transaction that was entered is the outermost.
  | entered (result : Except Stop Bool)
  -- How the transaction that was left has ended.
  | left (result : Except Stop Unit)

namespace Move

/-- The computation that a move stands for. -/
def run (db : Database η σ) : Move → Action η σ Yield
  | .perform op => do return .answer (← (op.perform db).run)
  | .enter => do return .entered (← db.enter.run)
  | .leave outermost ending => do return .left (← db.leave outermost ending)

/-- A move may ask the cache for a key. -/
def AsksFor (db : Database η σ) (key : String) : Move → Prop
  | .perform op => op.AsksFor db key
  | _ => False

/-- A move may do something to what is cached under a key. -/
def Touches (db : Database η σ) (key : String) : Move → Prop
  | .perform op => op.Touches db key
  | _ => False

/-- A move looks at the log. -/
def ReadsLog : Move → Prop
  | .perform op => op.ReadsLog
  | _ => False

variable {view : σ → ν} {mine : η → Prop} {asked : String → Prop} {db : Database η σ}

theorem lockstep_run {theirs : Config}
    (hclient : db.client.Separates db.config theirs view mine) {move : Move}
    (hlog : ¬ move.ReadsLog) (hasks : ∀ key, move.AsksFor db key → asked key) :
    (lockstep view mine asked).Holds (move.run db) := by
  cases move with
  | perform op => exact Law.bind _ (lockstep_perform hclient hlog hasks) fun _ => Law.pure _ _
  | enter => exact Law.bind _ (lockstep_talks hclient).enter fun _ => Law.pure _ _
  | leave outermost ending =>
      exact Law.bind _ ((lockstep_talks hclient).leave outermost ending) fun _ => Law.pure _ _

theorem unseen_run {ours : Config} (hclient : db.client.Separates ours db.config view mine)
    (hsecludes : db.client.Secludes mine asked) {move : Move}
    (hkeys : ∀ key, move.Touches db key → ¬ asked key) :
    (unseen view mine asked).Holds (move.run db) := by
  cases move with
  | perform op =>
      exact Frame.holds_bind (unseen_perform hclient hsecludes hkeys) fun _ => Frame.holds_pure _
  | enter =>
      exact Frame.holds_bind (unseen_talks hclient hsecludes).enter fun _ => Frame.holds_pure _
  | leave outermost ending =>
      exact Frame.holds_bind ((unseen_talks hclient hsecludes).leave outermost ending)
        fun _ => Frame.holds_pure _

end Move

/-- A turn of one of two connections, or time that passes. -/
inductive Turn where
  -- Something is asked of ours.
  | ours (move : Move)
  -- Something is asked of theirs.
  | theirs (move : Move)
  -- So many milliseconds pass.
  | wait (ms : Nat)

section

variable (ours theirs : Config)

/-- Takes a turn, and yields what came of it if it was ours. -/
def Turn.run (r : Registry η σ) :
    Turn → StateM (Surroundings σ) (List (Except Error Yield) × Registry η σ)
  | .ours move => do
    let (result, r) ← r.on ours fun db => move.run db
    return ([result.map Prod.snd], r)
  | .theirs move => do
    let (_, r) ← r.on theirs fun db => move.run db
    return ([], r)
  | .wait ms => do
    modify fun s => { s with now := s.now + ms }
    return ([], r)

/-- What our turns yield, in order. -/
def course : List Turn → Registry η σ → Surroundings σ → List (Except Error Yield)
  | [], _, _ => []
  | turn :: rest, r, s =>
    let done := (turn.run ours theirs r).run s
    done.1.1 ++ course rest done.1.2 done.2

theorem course_ours (move : Move) (rest : List Turn) (r : Registry η σ) (s : Surroundings σ) :
    let done := (r.on ours fun db => move.run db).run s
    course ours theirs (.ours move :: rest) r s
      = done.1.1.map Prod.snd :: course ours theirs rest done.1.2 done.2 := rfl

/-- The turns without theirs, which are replaced by the time that they took. -/
def alone : List Turn → Registry η σ → Surroundings σ → List Turn
  | [], _, _ => []
  | turn :: rest, r, s =>
    let done := (turn.run ours theirs r).run s
    let kept := match turn with
      | .theirs _ => .wait (done.2.now - s.now)
      | turn => turn
    kept :: alone rest done.1.2 done.2

end

/-- A key that our turns ask for. -/
def Asked (r : Registry η σ) (ours : Config) (turns : List Turn) (key : String) : Prop :=
  ∃ move, .ours move ∈ turns ∧ ∃ db, r.opens ours = .ok db ∧ move.AsksFor db key

/-- A key under which their turns may do something to what is cached. -/
def Touched (r : Registry η σ) (theirs : Config) (turns : List Turn) (key : String) : Prop :=
  ∃ move, .theirs move ∈ turns ∧ ∃ db, r.opens theirs = .ok db ∧ move.Touches db key

/-- From registries that hold the same for our parameters, our turns yield the same with theirs and
    without them. -/
theorem Registry.Paired.course {base : Registry η σ} {ours theirs : Config} {view : σ → ν}
    {mine : η → Prop} {asked : String → Prop} (hshares : base.sharesCache = true)
    (hne : ours.fingerprint ≠ theirs.fingerprint)
    (hclient : base.client.Separates ours theirs view mine)
    (hsecludes : base.client.Secludes mine asked) {turns : List Turn}
    (hlog : ∀ move, .ours move ∈ turns → ¬ move.ReadsLog)
    (hasks : ∀ key, Asked base ours turns key → asked key)
    (htouches : ∀ key, Touched base theirs turns key → ¬ asked key) :
    ∀ (r r' : Registry η σ) (s s' : Surroundings σ), Paired base ours theirs mine r r' →
      s.Alike view asked s' →
        SqlMapper.course ours theirs (alone ours theirs turns r s) r' s'
          = SqlMapper.course ours theirs turns r s := by
  induction turns with
  | nil => exact fun _ _ _ _ _ _ => rfl
  | cons turn rest ih =>
      have hrest := ih (fun move hmove => hlog move (List.mem_cons_of_mem _ hmove))
        (fun key ⟨move, hmove, hasked⟩ => hasks key ⟨move, List.mem_cons_of_mem _ hmove, hasked⟩)
        fun key ⟨move, hmove, htouched⟩ =>
          htouches key ⟨move, List.mem_cons_of_mem _ hmove, htouched⟩
      intro r r' s s' hpaired hs
      cases turn with
      | ours move =>
          have hmove : ∀ db, base.opens ours = .ok db →
              (lockstep view mine asked).Holds (move.run db) := fun db hopens =>
            Move.lockstep_run (separates_ours hclient hopens) (hlog move List.mem_cons_self)
              fun key hkey => hasks key ⟨move, List.mem_cons_self, db, hopens, hkey⟩
          rcases hpaired.onOurs hshares hne hclient hs hmove with ⟨hresult, halike, hafter⟩
          show SqlMapper.course ours theirs (.ours move :: _) r' s' = _
          rw [course_ours, course_ours, hresult]
          exact congrArg (List.cons _) (hrest _ _ _ _ hafter halike)
      | theirs move =>
          have hmove : ∀ db, base.opens theirs = .ok db →
              (unseen view mine asked).Holds (move.run db) := fun db hopens =>
            Move.unseen_run (separates_theirs hclient hopens)
              (by rwa [(client_of_opens hopens).1])
              fun key hkey => htouches key ⟨move, List.mem_cons_self, db, hopens, hkey⟩
          rcases hpaired.onTheirs hshares hne hclient s hmove with ⟨hunseen, hafter⟩
          exact hrest _ _ _ _ hafter (hs.later hunseen)
      | wait ms =>
          exact hrest _ _ _ _ hpaired ⟨hs.world, congrArg (· + ms) hs.now, hs.cache⟩

/-- Where two connections share a cache, what one of them yields does not depend on the other as far
    as their databases are different and their keys are: it is the same when the other is left out,
    and only the time passes that it took. -/
theorem connections_separate (client : Client η σ) (dialects : DialectCatalog) (options : Options)
    (ours theirs : Config) (view : σ → ν) (mine : η → Prop) (turns : List Turn)
    (s : Surroundings σ) (hclient : client.Separates ours theirs view mine)
    (hne : ours.fingerprint ≠ theirs.fingerprint)
    (hlog : ∀ move, .ours move ∈ turns → ¬ move.ReadsLog)
    (hapart : let r := Registry.sharing client dialects options
      ∀ key, Asked r ours turns key → ¬ Touched r theirs turns key)
    (hsecludes : client.Secludes mine
      (Asked (Registry.sharing client dialects options) ours turns)) :
    let r := Registry.sharing client dialects options
    course ours theirs (alone ours theirs turns r s) r s = course ours theirs turns r s := by
  intro r
  have hpaired : r.Paired ours theirs mine r r := by
    refine ⟨rfl, rfl, rfl, fun c hc => ?_, fun c hc => ?_⟩
    · cases hc
    · cases hc
  exact Registry.Paired.course rfl hne hclient hsecludes hlog (fun _ => id)
    (fun key htouched hasked => hapart key hasked htouched) r r s s hpaired ⟨rfl, rfl, .refl _⟩

/-- Two databases, each with a number in it, and sessions for the one or the other. -/
def twins : Client Bool (Nat × Nat) where
  connect _ config := pure (.ok (config.database == "a"))
  query first _ _ w :=
    ({ outcome := .ok [⟨[("n", .int (Int64.ofNat (if first then w.1 else w.2)))]⟩] }, w)
  execute first _ _ w :=
    ({ outcome := .ok 1 }, if first then (w.1 + 1, w.2) else (w.1, w.2 + 1))
  begin _ := pure { outcome := .ok () }
  commit _ := pure { outcome := .ok () }
  rollback _ := pure { outcome := .ok () }
  lastInsertId _ _ := none

namespace Twins

theorem separates : twins.Separates (.sqlite "a") (.sqlite "b") Prod.fst (· = true) where
  dialOurs _ _ _ h := ⟨rfl, h⟩
  givesOurs _ _ h hok := by
    rw [← Except.ok.inj hok]
    rfl
  callOurs := by
    rintro α call (⟨sql, binds⟩ | ⟨sql, binds⟩ | _ | _ | _) _ rfl ⟨a, b⟩ ⟨_, b'⟩ rfl
    all_goals exact ⟨rfl, rfl⟩
  lastInsertId _ _ _ _ _ := rfl
  dialTheirs _ _ := rfl
  givesTheirs _ _ h hok := by
    rw [← Except.ok.inj hok]
    decide
  callTheirs := by
    rintro α call (⟨sql, binds⟩ | ⟨sql, binds⟩ | _ | _ | _) (_ | _) hmine w
    all_goals first | rfl | exact absurd rfl hmine

theorem secludes (asked : String → Prop) : twins.Secludes (· = true) asked := by
  rintro α call (⟨sql, binds⟩ | ⟨sql, binds⟩ | _ | _ | _) h - w key ⟨table, htable, -⟩
  all_goals cases htable

/-- A registry of connections to both. -/
def registry : Registry Bool (Nat × Nat) :=
  .sharing twins .standard { }

/-- A read of a table. -/
def reading (table : String) : Move :=
  .perform (.read { query := { tables := [table] } } .rows)

/-- A write to a table. -/
def emptying (table : String) : Move :=
  .perform (.delete { table := table })

theorem keyOf_reading {db : Database Bool (Nat × Nat)} {table key : String}
    (h : (reading table).AsksFor db key) : KeyOf table key := by
  rcases h with ⟨statement, hcompile, one, ttl, hslot, rfl⟩
  have htables := (SelectQuery.kind hcompile).2
  rw [Database.tables_of_cacheSlot? hslot] at htables
  rw [List.singleton_inj.mp htables]
  exact Or.inr (startsWith_queryKey _ _ _)

theorem keyOf_emptying {db : Database Bool (Nat × Nat)} {table key : String}
    (h : (emptying table).Touches db key) : KeyOf table key := by
  rcases h with hasks | hstores | ⟨other, hother, hstarts⟩
  · exact absurd hasks not_false
  · exact absurd hstores not_false
  · rw [List.mem_singleton.mp hother] at hstarts
    exact Or.inr hstarts

end Twins

set_option maxRecDepth 20000 in
/-- A table is read before and behind a write to another table of the other database, which is in a
    transaction all the while. -/
theorem connections_separate_tables :
    let ours := Config.sqlite "a"
    let theirs := Config.sqlite "b"
    let turns := [.theirs .enter, .ours (Twins.reading "t"),
      .theirs (Twins.emptying "u"), .wait 5, .ours (Twins.reading "t"),
      .theirs (.leave true (.ok ()))]
    (twins.Separates ours theirs Prod.fst (· = true) ∧ ours.fingerprint ≠ theirs.fingerprint)
      ∧ (∀ move, .ours move ∈ turns → ¬ move.ReadsLog)
      ∧ (∀ key, Asked Twins.registry ours turns key → ¬ Touched Twins.registry theirs turns key)
      ∧ twins.Secludes (· = true) (Asked Twins.registry ours turns)
      ∧ course ours theirs (alone ours theirs turns Twins.registry { world := (1, 2) })
          Twins.registry { world := (1, 2) }
        = course ours theirs turns Twins.registry { world := (1, 2) } := by
  intro ours theirs turns
  have hne : ours.fingerprint ≠ theirs.fingerprint := by decide +kernel
  have hours : ∀ move, .ours move ∈ turns → move = Twins.reading "t" := by
    intro move hmove
    simpa [turns] using hmove
  have hlog : ∀ move, .ours move ∈ turns → ¬ move.ReadsLog := by
    intro move hmove
    rw [hours move hmove]
    exact not_false
  have hapart : ∀ key, Asked Twins.registry ours turns key →
      ¬ Touched Twins.registry theirs turns key := by
    rintro key ⟨move, hmove, db, -, hasks⟩ ⟨other, hother, db', -, htouches⟩
    rw [hours move hmove] at hasks
    have hprefix : tablePrefix "t" ≠ tablePrefix "u" := by decide +kernel
    refine (Twins.keyOf_reading hasks).apart hprefix ?_
    have htheirs : other = .enter ∨ other = Twins.emptying "u"
        ∨ other = .leave true (.ok ()) := by simpa [turns] using hother
    rcases htheirs with rfl | rfl | rfl
    · exact absurd htouches not_false
    · exact Twins.keyOf_emptying htouches
    · exact absurd htouches not_false
  exact ⟨⟨Twins.separates, hne⟩, hlog, hapart, Twins.secludes _,
    connections_separate twins .standard { } ours theirs Prod.fst (· = true) turns _
      Twins.separates hne hlog hapart (Twins.secludes _)⟩

/-- The rows that a read has yielded. -/
def Yield.rows? : Except Error Yield → Option (List Row)
  | .ok (.answer (.ok (.rows rows))) => some rows
  | _ => none

set_option maxRecDepth 20000 in
/-- The rows of one database answer a read of the other. -/
theorem rows_of_another :
    let ours := Config.sqlite "a"
    let theirs := Config.sqlite "b"
    let turns := [.theirs (Twins.reading "t"), .ours (Twins.reading "t")]
    let s : Surroundings (Nat × Nat) := { world := (1, 2) }
    twins.Separates ours theirs Prod.fst (· = true) ∧ ours.fingerprint ≠ theirs.fingerprint
      ∧ (course ours theirs turns Twins.registry s).map Yield.rows?
        = [some [⟨[("n", .int 2)]⟩]]
      ∧ (course ours theirs (alone ours theirs turns Twins.registry s) Twins.registry s).map
          Yield.rows?
        = [some [⟨[("n", .int 1)]⟩]] := by
  intro ours theirs turns s
  exact ⟨Twins.separates, by decide +kernel, by decide +kernel, by decide +kernel⟩

end SqlMapper
