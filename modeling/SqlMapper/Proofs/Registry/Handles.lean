import Mathlib.Logic.Relation
import SqlMapper.Client.Scripted
import SqlMapper.Proofs.Registry.Interleaving

/-!
# Handles

One connection for each set of parameters, whatever is asked of a registry.

A registry is asked for connections, uses them and takes them out again, in any
order and for any parameters, and each attempt to open a connection may fail.
Whatever the call, it does little to the registry. It keeps a new connection
where there was none, it keeps one in place that was there, or it takes one out,
and all of it under the digest of the parameters that the call is about. `Change`
lists these cases, so that what is said about every run of calls is checked once
for each of them.

Parameters with one digest would share a connection. So where it matters that
two sets of parameters are not the same, their digests are assumed not to be.

## Main definitions

* `Registry.Call`: A call on a registry.
* `Registry.after`: The registry behind several calls.
* `Registry.attempt`: The attempt to connect that opening a connection makes.
* `Registry.Change`: What a call can do to a registry.
* `Registry.Orderly`: Each connection is kept under its own digest and has its own number.
* `Config.Apart`: Parameters that their digests tell apart.
* `Registry.Shares`: A registry has one connection for parameters, and shares it.

## Theorems

* `obtain_cases`: What comes of asking for a connection.
* `Call.changes`: Every call is made of changes.
* `Orderly.after`: Every registry is orderly.
* `connections_shared`: Every registry shares its connections.
-/

namespace SqlMapper

variable {η σ : Type}

/-- Parameters that their digests tell apart. -/
def Config.Apart (configs : List Config) : Prop :=
  ∀ c ∈ configs, ∀ d ∈ configs, c.fingerprint = d.fingerprint → c = d

/-- What stays as it is however a connection is used: its number and its fixed parts. -/
def Registered.identity (c : Registered η σ) : Nat × Database η σ :=
  (c.number, c.database)

namespace Registry

/-- A call on a registry. -/
inductive Call (η σ : Type) where
  -- The connection for parameters is asked for.
  | obtain (config : Config)
  -- Something is done on it.
  | use (config : Config) (act : Database η σ → Action η σ Unit)
  -- It is taken out.
  | remove (config : Config)

/-- The parameters that a call is about. -/
def Call.config : Call η σ → Config
  | .obtain config | .use config _ | .remove config => config

/-- The registry behind a call. -/
def Call.run (r : Registry η σ) : Call η σ → StateM (Surroundings σ) (Registry η σ)
  | .obtain config => do return (← r.obtain config).2
  | .use config act => do return (← r.on config act).2
  | .remove config => return (r.remove config).2

/-- The registry behind several calls. -/
def after (r : Registry η σ) (calls : List (Call η σ)) :
    StateM (Surroundings σ) (Registry η σ) :=
  calls.foldlM (fun r call => call.run r) r

theorem after_cons (r : Registry η σ) (call : Call η σ) (rest : List (Call η σ))
    (s : Surroundings σ) :
    (r.after (call :: rest)).run s
      = (((call.run r).run s).1.after rest).run ((call.run r).run s).2 := rfl

/-- The attempt to connect that is made when a connection is opened; none if there is no dialect
    for it. -/
def attempt (r : Registry η σ) (config : Config) : List Event :=
  match r.opens config with
  | .ok db => [.connect db.dialect.tag config.host config.database]
  | .error _ => []

/-- Opening a connection makes one attempt to connect. The connection is kept if that succeeds, and
    nothing is if it fails. -/
theorem opening_cases (r : Registry η σ) (config : Config) (s : Surroundings σ) :
    let done := (r.opening config).run s
    done.2.journal = s.journal ++ r.attempt config
      ∧ ((∃ e, done.1 = (.error e, r))
        ∨ ∃ c, c.number = r.opened ∧ r.opens config = .ok c.database
          ∧ done.1 = (.ok c, { r with opened := r.opened + 1 }.keep c)) := by
  intro done
  have hdone : done = _ := r.opening_run config s
  rw [establish_run] at hdone
  rw [attempt]
  cases hopens : r.opens config with
  | error e =>
      rw [hopens] at hdone
      rw [hdone]
      exact ⟨(List.append_nil _).symm, Or.inl ⟨e, rfl⟩⟩
  | ok db =>
      rw [hopens] at hdone
      dsimp only at hdone
      have hconfig := (client_of_opens hopens).2
      rw [Database.dial_run, hconfig] at hdone
      rw [hdone]
      rcases ((db.client.connect db.dialect.tag config).run s.world).1 with failure | handle
      · exact ⟨rfl, Or.inl ⟨_, rfl⟩⟩
      · exact ⟨rfl, Or.inr ⟨_, rfl, rfl, rfl⟩⟩

/-- A connection that is there is found, and nothing else happens. Otherwise it is opened. -/
theorem obtain_cases (r : Registry η σ) (config : Config) (s : Surroundings σ) :
    let done := (r.obtain config).run s
    (∃ c, r.connections.get? config.fingerprint = some c ∧ done = ((.ok c, r), s))
      ∨ (r.connections.get? config.fingerprint = none
        ∧ done.2.journal = s.journal ++ r.attempt config
        ∧ ((∃ e, done.1 = (.error e, r))
          ∨ ∃ c, c.number = r.opened ∧ r.opens config = .ok c.database
            ∧ done.1 = (.ok c, { r with opened := r.opened + 1 }.keep c))) := by
  intro done
  cases hget : r.connections.get? config.fingerprint with
  | some c =>
      have hdone : done = _ := congrArg (·.run s) (obtain_of_some hget)
      exact Or.inl ⟨c, rfl, hdone⟩
  | none =>
      have hdone : done = _ := congrArg (·.run s) (obtain_of_none hget)
      rw [hdone]
      exact Or.inr ⟨rfl, r.opening_cases config s⟩

/-- What is done on a connection keeps it in its place. -/
theorem runOn_cases (r : Registry η σ) (c : Registered η σ)
    (act : Database η σ → Action η σ Unit) (s : Surroundings σ) :
    ∃ connection cache,
      ((r.runOn c act).run s).1.2 = r.keep { c with connection := connection, cache := cache } := by
  by_cases hshares : r.sharesCache = true
  · rw [runOn_run hshares]
    exact ⟨_, c.cache, rfl⟩
  · have hrun : (r.runOn c act).run s = _ := if_neg hshares
    rw [hrun]
    exact ⟨_, _, rfl⟩

/-- The connection that is there for parameters. -/
def registered (r : Registry η σ) (config : Config) : Option (Registered η σ) :=
  r.connections.get? config.fingerprint

/-- What a call about parameters can do to a registry, unless it takes a connection out. -/
inductive Change (config : Config) (r : Registry η σ) : Registry η σ → Prop where
  -- A new connection is kept where there was none.
  | opened (c : Registered η σ) (hnone : r.connections.get? config.fingerprint = none)
      (hnumber : c.number = r.opened) (hopens : r.opens config = .ok c.database) :
      Change config r ({ r with opened := r.opened + 1 }.keep c)
  -- A connection that is there is kept in place.
  | used (c : Registered η σ) (connection : Connection η) (cache : Cache)
      (hget : r.connections.get? config.fingerprint = some c) :
      Change config r (r.keep { c with connection := connection, cache := cache })

/-- What a call about parameters can do to a registry, one change after the other. -/
abbrev Changes (config : Config) : Registry η σ → Registry η σ → Prop :=
  Relation.ReflTransGen (Change config)

theorem obtain_changes (r : Registry η σ) (config : Config) (s : Surroundings σ) :
    Changes config r ((r.obtain config).run s).1.2 := by
  rcases r.obtain_cases config s with ⟨c, -, hdone⟩ | ⟨hnone, -, ⟨e, hdone⟩ | ⟨c, hnumber, hopens,
    hdone⟩⟩
  · rw [hdone]
  · rw [hdone]
  · rw [hdone]
    exact .single (.opened c hnone hnumber hopens)

/-- A call takes the connection for its parameters out, or it is made of changes. -/
theorem Call.changes (r : Registry η σ) (call : Call η σ) (s : Surroundings σ) :
    let done := ((call.run r).run s).1
    (call = .remove call.config ∧ done = (r.remove call.config).2)
      ∨ (call ≠ .remove call.config ∧ Changes call.config r done) := by
  cases call with
  | obtain config =>
      exact Or.inr ⟨nofun, r.obtain_changes config s⟩
  | remove config => exact Or.inl ⟨rfl, rfl⟩
  | use config act =>
      refine Or.inr ⟨nofun, ?_⟩
      show Changes config r ((r.on config act).run s).1.2
      have hobtained := r.obtain_changes config s
      have hcases := r.obtain_cases config s
      unfold on
      rw [StateT.run_bind]
      rcases hrun : (r.obtain config).run s with ⟨⟨e | c, kept⟩, t⟩
      · rw [hrun] at hobtained
        exact hobtained
      · rw [hrun] at hobtained hcases
        have hget : kept.connections.get? config.fingerprint = some c := by
          rcases hcases with ⟨c, hget, hdone⟩ | ⟨-, -, ⟨e, hdone⟩ | ⟨c, -, hopens, hdone⟩⟩
          · cases hdone
            exact hget
          · cases hdone
          · cases hdone
            exact (Paired.get?_keep hopens).1
        rcases kept.runOn_cases c act t with ⟨connection, cache, hkept⟩
        show Changes config r ((kept.runOn c act).run t).1.2
        rw [hkept]
        exact hobtained.tail (.used c connection cache hget)

theorem Change.kin {config : Config} {r r' : Registry η σ} (h : Change config r r') : r.Kin r' := by
  cases h with
  | opened c => exact ((show r.Kin r from rfl).count _).keep c
  | used c connection cache => exact (show r.Kin r from rfl).keep _

theorem Kin.trans {r r' r'' : Registry η σ} (h : r.Kin r') (h' : r'.Kin r'') : r.Kin r'' := by
  rw [Kin] at h h' ⊢
  rw [h', h]

theorem Changes.kin {config : Config} {r r' : Registry η σ} (h : Changes config r r') :
    r.Kin r' := by
  induction h with
  | refl => rfl
  | tail _ hchange ih => exact ih.trans hchange.kin

theorem Kin.attempt {r r' : Registry η σ} (h : r.Kin r') (config : Config) :
    r'.attempt config = r.attempt config := by
  rw [h]
  rfl

/-- Calls change nothing but the connections. -/
theorem after_kin (r : Registry η σ) (calls : List (Call η σ)) (s : Surroundings σ) :
    r.Kin ((r.after calls).run s).1 := by
  induction calls generalizing r s with
  | nil => rfl
  | cons call rest ih =>
      have hcall : r.Kin ((call.run r).run s).1 := by
        rcases call.changes r s with ⟨-, hremoved⟩ | ⟨-, hchanges⟩
        · rw [hremoved]
          rfl
        · exact hchanges.kin
      exact hcall.trans (ih _ _)

/-- Each connection is kept under the digest of its parameters, which are among some, and has a
    number of its own. -/
structure Orderly (known : Config → Prop) (r : Registry η σ) : Prop where
  nodup : r.connections.keys.Nodup
  keyed : ∀ key c, r.connections.get? key = some c → c.database.config.fingerprint = key
  known : ∀ key c, r.connections.get? key = some c → known c.database.config
  numbered : ∀ key c, r.connections.get? key = some c → c.number < r.opened
  distinct : ∀ key c key' c', r.connections.get? key = some c →
    r.connections.get? key' = some c' → c.number = c'.number → key = key'

namespace Orderly

variable {known : Config → Prop} {r r' : Registry η σ} {config : Config}

theorem empty {r : Registry η σ} (h : r.connections = ∅) : r.Orderly known := by
  have hget : ∀ key c, r.connections.get? key ≠ some c := by
    intro key c
    rw [h]
    exact nofun
  exact ⟨h ▸ List.nodup_nil, fun key c hc => absurd hc (hget key c),
    fun key c hc => absurd hc (hget key c), fun key c hc => absurd hc (hget key c),
    fun key c _ _ hc => absurd hc (hget key c)⟩

/-- What is found after a connection was kept. -/
theorem get?_keep_cases {c : Registered η σ} {key : String} {found : Registered η σ}
    (h : (r.keep c).connections.get? key = some found) :
    (key = c.database.config.fingerprint ∧ found = c)
      ∨ (key ≠ c.database.config.fingerprint ∧ r.connections.get? key = some found) := by
  by_cases hkey : key = c.database.config.fingerprint
  · rw [hkey, keep, OrderedMap.get?_insert_self, Option.some.injEq] at h
    exact Or.inl ⟨hkey, h.symm⟩
  · rw [keep, OrderedMap.get?_insert_ne _ hkey] at h
    exact Or.inr ⟨hkey, h⟩

/-- A connection can be kept if no connection elsewhere has its number. -/
theorem kept (h : r.Orderly known) {c : Registered η σ} {opened : Nat}
    (hknown : known c.database.config) (hnumber : c.number < opened) (hopened : r.opened ≤ opened)
    (hown : ∀ key found, r.connections.get? key = some found → found.number = c.number →
      key = c.database.config.fingerprint) :
    ({ r with opened := opened }.keep c).Orderly known where
  nodup := OrderedMap.nodup_insert h.nodup _ _
  keyed key found hfound := by
    rcases get?_keep_cases hfound with ⟨hkey, rfl⟩ | ⟨-, hthere⟩
    · exact hkey.symm
    · exact h.keyed key found hthere
  known key found hfound := by
    rcases get?_keep_cases hfound with ⟨-, rfl⟩ | ⟨-, hthere⟩
    · exact hknown
    · exact h.known key found hthere
  numbered key found hfound := by
    rcases get?_keep_cases hfound with ⟨-, rfl⟩ | ⟨-, hthere⟩
    · exact hnumber
    · exact Nat.lt_of_lt_of_le (h.numbered key found hthere) hopened
  distinct key found key' found' hfound hfound' hsame := by
    rcases get?_keep_cases hfound with ⟨hkey, rfl⟩ | ⟨-, hthere⟩
    · rcases get?_keep_cases hfound' with ⟨hkey', -⟩ | ⟨-, hthere'⟩
      · rw [hkey, hkey']
      · rw [hkey, hown key' found' hthere' hsame.symm]
    · rcases get?_keep_cases hfound' with ⟨hkey', rfl⟩ | ⟨-, hthere'⟩
      · rw [hkey', hown key found hthere hsame]
      · exact h.distinct key found key' found' hthere hthere' hsame

theorem change (h : r.Orderly known) (hknown : known config) (hchange : Change config r r') :
    r'.Orderly known := by
  cases hchange with
  | opened c hnone hnumber hopens =>
      refine h.kept ((client_of_opens hopens).2 ▸ hknown) (by omega) (Nat.le_succ _)
        fun key found hthere hsame => ?_
      -- The number is new.
      have hbelow := h.numbered key found hthere
      omega
  | used c connection cache hget =>
      show ({ r with opened := r.opened }.keep _).Orderly known
      refine h.kept (h.known _ c hget) (h.numbered _ c hget) (Nat.le_refl _)
        fun key found hthere hsame => ?_
      exact (h.distinct key found _ c hthere hget hsame).trans (h.keyed _ c hget).symm

theorem changes (h : r.Orderly known) (hknown : known config) (hchanges : Changes config r r') :
    r'.Orderly known := by
  induction hchanges with
  | refl => exact h
  | tail _ hchange ih => exact ih.change hknown hchange

/-- What is found after a connection was taken out was there before. -/
theorem get?_remove {key : String} {found : Registered η σ}
    (h : (r.remove config).2.connections.get? key = some found) :
    r.connections.get? key = some found := by
  by_cases hkey : key = config.fingerprint
  · rw [hkey, remove, OrderedMap.get?_erase_self] at h
    cases h
  · rwa [remove, OrderedMap.get?_erase_ne _ hkey] at h

theorem remove (h : r.Orderly known) (config : Config) : (r.remove config).2.Orderly known where
  nodup := OrderedMap.nodup_erase h.nodup _
  keyed key c hc := h.keyed key c (get?_remove hc)
  known key c hc := h.known key c (get?_remove hc)
  numbered key c hc := h.numbered key c (get?_remove hc)
  distinct key c key' c' hc hc' := h.distinct key c key' c' (get?_remove hc) (get?_remove hc')

theorem call (h : r.Orderly known) {call : Call η σ} (hknown : known call.config)
    (s : Surroundings σ) : ((call.run r).run s).1.Orderly known := by
  rcases call.changes r s with ⟨-, hremoved⟩ | ⟨-, hchanges⟩
  · rw [hremoved]
    exact h.remove call.config
  · exact h.changes hknown hchanges

/-- Every registry is orderly. -/
theorem after (h : r.Orderly known) {calls : List (Call η σ)}
    (hknown : ∀ call ∈ calls, known call.config) (s : Surroundings σ) :
    ((r.after calls).run s).1.Orderly known := by
  induction calls generalizing r s with
  | nil => exact h
  | cons call rest ih =>
      rw [after_cons]
      exact ih (h.call (hknown call List.mem_cons_self) s)
        (fun other hother => hknown other (List.mem_cons_of_mem call hother)) _

/-- A change leaves what is kept for other parameters as it is. -/
theorem change_others (h : r.Orderly known) {other : Config}
    (hne : config.fingerprint ≠ other.fingerprint) (hchange : Change other r r') :
    r'.registered config = r.registered config := by
  cases hchange with
  | opened c hnone hnumber hopens => exact (Paired.get?_keep hopens).2 _ hne
  | used c connection cache hget =>
      refine OrderedMap.get?_insert_ne _ ?_ _
      rwa [h.keyed _ c hget]

/-- A change leaves each connection that is there in place. -/
theorem change_identity (h : r.Orderly known) {other : Config} {identity : Nat × Database η σ}
    (hthere : (r.registered config).map Registered.identity = some identity)
    (hchange : Change other r r') :
    (r'.registered config).map Registered.identity = some identity := by
  by_cases hne : config.fingerprint = other.fingerprint
  · cases hchange with
    | opened c hnone hnumber hopens =>
        rw [registered, hne, hnone] at hthere
        cases hthere
    | used c connection cache hget =>
        rw [registered, hne, hget] at hthere
        rw [registered, hne, ← h.keyed _ c hget, keep, OrderedMap.get?_insert_self]
        exact hthere
  · rwa [h.change_others hne hchange]

theorem changes_others (h : r.Orderly known) {other : Config} (hknown : known other)
    (hne : config.fingerprint ≠ other.fingerprint) (hchanges : Changes other r r') :
    r'.registered config = r.registered config := by
  induction hchanges with
  | refl => rfl
  | tail hbefore hchange ih => rw [(h.changes hknown hbefore).change_others hne hchange, ih]

theorem changes_identity (h : r.Orderly known) {other : Config} (hknown : known other)
    {identity : Nat × Database η σ}
    (hthere : (r.registered config).map Registered.identity = some identity)
    (hchanges : Changes other r r') :
    (r'.registered config).map Registered.identity = some identity := by
  induction hchanges with
  | refl => exact hthere
  | tail hbefore hchange ih => exact (h.changes hknown hbefore).change_identity ih hchange

theorem call_others (h : r.Orderly known) {call : Call η σ} (hknown : known call.config)
    (hne : config.fingerprint ≠ call.config.fingerprint) (s : Surroundings σ) :
    ((call.run r).run s).1.registered config = r.registered config := by
  rcases call.changes r s with ⟨-, hremoved⟩ | ⟨-, hchanges⟩
  · rw [hremoved]
    exact OrderedMap.get?_erase_ne _ hne
  · exact h.changes_others hknown hne hchanges

theorem call_identity (h : r.Orderly known) {call : Call η σ} (hknown : known call.config)
    (hkept : call = .remove call.config → config.fingerprint ≠ call.config.fingerprint)
    {identity : Nat × Database η σ}
    (hthere : (r.registered config).map Registered.identity = some identity)
    (s : Surroundings σ) :
    (((call.run r).run s).1.registered config).map Registered.identity = some identity := by
  rcases call.changes r s with ⟨hcall, -⟩ | ⟨-, hchanges⟩
  · rwa [h.call_others hknown (hkept hcall)]
  · exact h.changes_identity hknown hthere hchanges

/-- Calls for other parameters leave a connection as it is, and its absence too. -/
theorem after_others (h : r.Orderly known) {calls : List (Call η σ)}
    (hknown : ∀ call ∈ calls, known call.config)
    (hne : ∀ call ∈ calls, config.fingerprint ≠ call.config.fingerprint) (s : Surroundings σ) :
    ((r.after calls).run s).1.registered config = r.registered config := by
  induction calls generalizing r s with
  | nil => rfl
  | cons call rest ih =>
      have hcall := hknown call List.mem_cons_self
      rw [after_cons, ih (h.call hcall s)
        (fun other hother => hknown other (List.mem_cons_of_mem call hother))
        (fun other hother => hne other (List.mem_cons_of_mem call hother))]
      exact h.call_others hcall (hne call List.mem_cons_self) s

/-- A connection stays the same one until it is taken out. -/
theorem after_identity (h : r.Orderly known) {calls : List (Call η σ)}
    (hknown : ∀ call ∈ calls, known call.config)
    (hkept : ∀ call ∈ calls, call = .remove call.config →
      config.fingerprint ≠ call.config.fingerprint)
    {identity : Nat × Database η σ}
    (hthere : (r.registered config).map Registered.identity = some identity)
    (s : Surroundings σ) :
    (((r.after calls).run s).1.registered config).map Registered.identity = some identity := by
  induction calls generalizing r s with
  | nil => exact hthere
  | cons call rest ih =>
      have hcall := hknown call List.mem_cons_self
      exact ih (h.call hcall s)
        (fun other hother => hknown other (List.mem_cons_of_mem call hother))
        (fun other hother => hkept other (List.mem_cons_of_mem call hother))
        (h.call_identity hcall (hkept call List.mem_cons_self) hthere s) _

end Orderly

/-- A connection that was given is there. -/
theorem registered_obtain (r : Registry η σ) (config : Config) (s : Surroundings σ)
    {c : Registered η σ} (hok : ((r.obtain config).run s).1.1 = .ok c) :
    ((r.obtain config).run s).1.2.registered config = some c := by
  rcases r.obtain_cases config s with ⟨c', hget, hdone⟩ |
    ⟨-, -, ⟨e, hdone⟩ | ⟨c', -, hopens, hdone⟩⟩
  · rw [hdone] at hok ⊢
    cases hok
    exact hget
  · rw [hdone] at hok
    cases hok
  · rw [hdone] at hok ⊢
    cases hok
    exact (Paired.get?_keep hopens).1

/-- An attempt to connect is made if and only if there is no connection. -/
theorem journal_obtain (r : Registry η σ) (config : Config) (s : Surroundings σ) :
    ((r.obtain config).run s).2.journal
      = s.journal ++ if (r.registered config).isSome then [] else r.attempt config := by
  rw [registered]
  rcases r.obtain_cases config s with ⟨c, hget, hdone⟩ | ⟨hnone, hjournal, -⟩
  · rw [hdone, hget]
    exact (List.append_nil _).symm
  · rw [hjournal, hnone]
    rfl

/-- A failed attempt leaves the registry as it was, without a connection. -/
theorem obtain_failed (r : Registry η σ) (config : Config) (s : Surroundings σ) {e : Error}
    (herror : ((r.obtain config).run s).1.1 = .error e) :
    ((r.obtain config).run s).1.2 = r ∧ r.registered config = none := by
  rcases r.obtain_cases config s with ⟨c, -, hdone⟩ | ⟨hnone, -, ⟨e', hdone⟩ | ⟨c, -, -, hdone⟩⟩
  · rw [hdone] at herror
    cases herror
  · exact ⟨by rw [hdone], hnone⟩
  · rw [hdone] at herror
    cases herror

/-- A registry has at most one connection for each set of parameters, gives whoever asks for some
    the same one until it is taken out, and tries to open one only where there is none. -/
structure Shares (r : Registry η σ) (config : Config) (between : List (Call η σ))
    (s : Surroundings σ) : Prop where
  -- No two connections have the same parameters, or the same number.
  once : r.connections.entries.Pairwise fun c d =>
    c.2.database.config ≠ d.2.database.config ∧ c.2.number ≠ d.2.number
  -- Calls for other parameters leave what is there for these as it is.
  others : (∀ call ∈ between, call.config ≠ config) →
    ((r.after between).run s).1.registered config = r.registered config
  -- An attempt to connect is made if and only if there is no connection.
  attempts : ((r.obtain config).run s).2.journal
    = s.journal ++ if (r.registered config).isSome then [] else r.attempt config
  -- If it fails, nothing has changed, and the next call makes one again.
  failed : ∀ e, ((r.obtain config).run s).1.1 = .error e →
    ((r.obtain config).run s).1.2 = r ∧ r.registered config = none
      ∧ ((∀ call ∈ between, call.config ≠ config) →
        let later := (r.after between).run ((r.obtain config).run s).2
        ((later.1.obtain config).run later.2).2.journal = later.2.journal ++ r.attempt config)
  -- The connection that is given is one for these parameters,
  own : ∀ c, ((r.obtain config).run s).1.1 = .ok c → c.database.config = config
  -- and it is given again, and nothing else is done, until it is taken out.
  again : ∀ c, ((r.obtain config).run s).1.1 = .ok c → (∀ call ∈ between, call ≠ .remove config) →
    let later := (((r.obtain config).run s).1.2.after between).run ((r.obtain config).run s).2
    ∃ c', (later.1.obtain config).run later.2 = ((.ok c', later.1), later.2)
      ∧ c'.identity = c.identity

/-- An orderly registry has one connection for each set of parameters. -/
theorem Orderly.pairwise {known : Config → Prop} {r : Registry η σ} (h : r.Orderly known) :
    r.connections.entries.Pairwise fun c d =>
      c.2.database.config ≠ d.2.database.config ∧ c.2.number ≠ d.2.number := by
  have hkeys : r.connections.entries.Pairwise fun c d => c.1 ≠ d.1 := List.pairwise_map.mp h.nodup
  refine hkeys.imp_of_mem fun {c d} hc hd hne => ?_
  have hc := (OrderedMap.mem_entries_iff h.nodup).mp hc
  have hd := (OrderedMap.mem_entries_iff h.nodup).mp hd
  refine ⟨fun hsame => hne ?_, fun hsame => hne (h.distinct _ _ _ _ hc hd hsame)⟩
  rw [← h.keyed _ _ hc, ← h.keyed _ _ hd, hsame]

/-- Every registry whose parameters have digests of their own shares its connections. -/
theorem Orderly.shares {known : Config → Prop} {r : Registry η σ} (h : r.Orderly known)
    {config : Config} (hknown : known config)
    (hapart : ∀ c d, known c → known d → c.fingerprint = d.fingerprint → c = d)
    {between : List (Call η σ)} (hbetween : ∀ call ∈ between, known call.config)
    (s : Surroundings σ) : r.Shares config between s := by
  have hne : ∀ call ∈ between, call.config ≠ config →
      config.fingerprint ≠ call.config.fingerprint := fun call hcall hother hsame =>
    hother (hapart _ _ hknown (hbetween call hcall) hsame).symm
  have hothers : (∀ call ∈ between, call.config ≠ config) → ∀ t,
      ((r.after between).run t).1.registered config = r.registered config := fun hall t =>
    h.after_others hbetween (fun call hcall => hne call hcall (hall call hcall)) t
  have hafter := h.changes hknown (r.obtain_changes config s)
  refine ⟨h.pairwise, fun hall => hothers hall s, r.journal_obtain config s, fun e herror => ?_,
    fun c hok => ?_, fun c hok hkept => ?_⟩
  · have hfailed := r.obtain_failed config s herror
    refine ⟨hfailed.1, hfailed.2, fun hall => ?_⟩
    intro later
    have hnone : later.1.registered config = none := (hothers hall _).trans hfailed.2
    rw [later.1.journal_obtain config later.2, hnone, (r.after_kin between _).attempt]
    rfl
  · have hfound := r.registered_obtain config s hok
    exact hapart _ _ (hafter.known _ c hfound) hknown (hafter.keyed _ c hfound)
  · intro later
    have hfound := r.registered_obtain config s hok
    have hstays : (later.1.registered config).map Registered.identity = some c.identity :=
      hafter.after_identity hbetween
        (fun call hcall hremoves => hne call hcall fun hsame =>
          hkept call hcall (hsame ▸ hremoves))
        (congrArg (Option.map Registered.identity) hfound) _
    rcases Option.map_eq_some_iff.mp hstays with ⟨c', hc', hidentity⟩
    exact ⟨c', congrArg (·.run later.2) (obtain_of_some hc'), hidentity⟩

end Registry

/-- However a registry came about, out of calls for any parameters of which each attempt to connect
    may have failed, it shares its connections. -/
theorem connections_shared (base : Registry η σ) (calls between : List (Registry.Call η σ))
    (config : Config) (s : Surroundings σ) (hempty : base.connections = ∅)
    (hapart : Config.Apart (config :: (calls ++ between).map Registry.Call.config)) :
    let r := (base.after calls).run s
    r.1.Shares config between r.2 := by
  intro r
  have hknown : ∀ call ∈ calls ++ between,
      call.config ∈ config :: (calls ++ between).map Registry.Call.config := fun call hcall =>
    List.mem_cons_of_mem _ (List.mem_map_of_mem hcall)
  have horderly : r.1.Orderly (· ∈ config :: (calls ++ between).map Registry.Call.config) :=
    (Registry.Orderly.empty hempty).after
      (fun call hcall => hknown call (List.mem_append_left _ hcall)) s
  exact horderly.shares List.mem_cons_self (fun c d hc hd => hapart c hc d hd)
    (fun call hcall => hknown call (List.mem_append_right _ hcall)) r.2

set_option maxRecDepth 20000 in
/-- The first attempt to connect is refused, the second is not; another connection is opened and
    taken out. -/
theorem connections_shared_refused :
    let base : Registry Unit Script := { client := scriptedClient }
    let calls := [.obtain (.sqlite "a"), .obtain (.sqlite "a"), .obtain (.sqlite "b"),
      .remove (.sqlite "b")]
    let between := [.obtain (.sqlite "b"), .use (.sqlite "b") fun db => db.reconnect]
    let refused : ClientFailure := { code := some 1045, message := "Access denied" }
    let s : Surroundings Script := { world := { connects := [some refused] } }
    let r := (base.after calls).run s
    base.connections = ∅
      ∧ Config.Apart (.sqlite "a" :: (calls ++ between).map Registry.Call.config)
      ∧ r.2.journal.length = 3 ∧ r.1.size = 1
      ∧ r.1.Shares (.sqlite "a") between r.2 := by
  intro base calls between refused s r
  have hapart : Config.Apart (.sqlite "a" :: (calls ++ between).map Registry.Call.config) := by
    unfold Config.Apart
    decide +kernel
  exact ⟨rfl, hapart, by decide +kernel, by decide +kernel,
    connections_shared base calls between (.sqlite "a") s rfl hapart⟩

end SqlMapper
