import SqlMapper.Proofs.Crowd.Basic

/-!
# Alone in a Crowd

Turns that nobody interrupts are a call of the engine.

The steps that a crowd takes are those of the engine: whoever gets every turn
from its first to its last leaves the connection as the engine does. A reader
leaves it as a read through the cache, and a writer as a write with the dropping
of its tables behind it. Asking is by induction on the attempts that are left,
and dropping by induction on the tables.

## Main definitions

* `Database.executeFrom`: Running a statement past the cache, from some attempt on.
* `Party.Leads`: Where the turns of a party lead that nobody interrupts.

## Theorems

* `tryOnce_cases`: An attempt is the last one, or the rest is done after recovering.
* `Party.leads_sending`: Attempts with recovering in between run a statement past the cache.
* `Crowd.reader_alone`: A reader alone is a read through the cache.
* `Crowd.writer_alone`: A writer alone is a write.
-/

namespace SqlMapper

variable {η σ ι : Type}

namespace Database

variable (db : Database η σ) (sql : String) (binds : Binds) (readonly : Bool) (attempt : UInt32)

/-- Running a statement past the cache, from some attempt on; from the first one it is the whole. -/
def executeFrom : Attempt η σ Outcome := do
  match ← Attempt.always (db.sendFrom sql binds readonly attempt) with
  | .ok outcome => return outcome
  | .error failure => Attempt.raise (.execute sql failure.text)

theorem tryOnce_run (s : State η σ) :
    (db.tryOnce sql binds readonly attempt).run s =
      let settled := (db.settle sql binds attempt s.own.inTransaction
        ((db.send sql binds readonly).run s).1).run.run ((db.send sql binds readonly).run s).2
      match callsForRetry s.own.inTransaction ((db.send sql binds readonly).run s).1 with
      | some failure =>
        if db.options.retry.allows attempt then
          (.error failure, ((db.send sql binds readonly).run s).2)
        else
          (.ok settled.1, settled.2)
      | none => (.ok settled.1, settled.2) := by
  show (match callsForRetry s.own.inTransaction ((db.send sql binds readonly).run s).1 with
    | some _ => if db.options.retry.allows attempt = true then _ else _
    | none => _ : Action η σ (Except ClientFailure (Except Stop Outcome))).run _ = _
  cases callsForRetry s.own.inTransaction ((db.send sql binds readonly).run s).1 with
  | none => rfl
  | some failure => cases db.options.retry.allows attempt <;> rfl

/-- An attempt is the last one, or the rest is done after recovering from its failure. -/
theorem tryOnce_cases (s : State η σ) :
    (∃ failure t, (db.tryOnce sql binds readonly attempt).run s = (.error failure, t)
      ∧ db.options.retry.allows attempt = true
      ∧ (db.executeFrom sql binds readonly attempt).run.run s
        = (db.executeFrom sql binds readonly (attempt + 1)).run.run
            ((db.recover attempt failure).run t).2)
    ∨ ∃ ended t, (db.tryOnce sql binds readonly attempt).run s = (.ok ended, t)
      ∧ (db.executeFrom sql binds readonly attempt).run.run s = (ended, t) := by
  let sent := (db.send sql binds readonly).run s
  let settled := (db.settle sql binds attempt s.own.inTransaction sent.1).run.run sent.2
  have hfrom := db.sendFrom_run sql binds readonly attempt s
  have htry := db.tryOnce_run sql binds readonly attempt s
  -- If this attempt is the last one, what concludes it is what settles it.
  have hsettled : (db.sendFrom sql binds readonly attempt).run s
      = (db.conclude sql binds attempt s.own.inTransaction sent.1).run sent.2 →
      (db.executeFrom sql binds readonly attempt).run.run s = settled := by
    intro hlast
    rw [executeFrom, Attempt.run_always_bind, hlast]
    rfl
  cases hcall : callsForRetry s.own.inTransaction sent.1 with
  | none =>
      rw [hcall] at hfrom htry
      exact Or.inr ⟨settled.1, settled.2, htry, hsettled hfrom⟩
  | some failure =>
      rw [hcall] at hfrom htry
      by_cases hallows : db.options.retry.allows attempt = true
      · simp only [if_pos hallows] at htry
        refine Or.inl ⟨failure, sent.2, htry, hallows, ?_⟩
        have hagain := db.sendFrom_of_retry sql binds readonly attempt s hcall hallows
        rw [executeFrom, Attempt.run_always_bind, hagain]
        rfl
      · simp only [if_neg hallows] at hfrom htry
        exact Or.inr ⟨settled.1, settled.2, htry, hsettled hfrom⟩

end Database

/-- Turns of a party that nobody interrupts. -/
inductive Party.Leads (db : Database η σ) (party : Party) :
    Phase → State η σ → Phase → State η σ → Prop where
  -- No turn.
  | here (phase : Phase) (s : State η σ) : Leads db party phase s phase s
  -- One turn, and the rest.
  | turn {phase next last : Phase} {deed : Deed} {s t u : State η σ}
      (hturn : (party.turn db phase).run s = ((next, deed), t))
      (hrest : Leads db party next t last u) : Leads db party phase s last u

theorem Party.Leads.trans {db : Database η σ} {party : Party} {p q r : Phase} {s t u : State η σ}
    (hst : Leads db party p s q t) (htu : Leads db party q t r u) : Leads db party p s r u := by
  induction hst with
  | here phase s => exact htu
  | turn hturn hrest ih => exact .turn hturn (ih htu)

/-- Where a reader stands once it has been answered. -/
def Phase.answered (started : Nat) : Except Stop Outcome → Phase
  | .ok outcome => .storing started outcome
  | .error _ => .finished

namespace Party

variable (db : Database η σ)

/-- Turns that send a statement, and recover in between, are running it past the cache. Readers and
    writers have phases of their own for this. -/
theorem leads_sending {party : Party} {sql : String} {binds : Binds} {readonly : Bool}
    (asking : UInt32 → Phase) (recovering : UInt32 → ClientFailure → Phase)
    (answered : Except Stop Outcome → Phase)
    (hask : ∀ attempt s, ∃ deed, (party.turn db (asking attempt)).run s
      = match (db.tryOnce sql binds readonly attempt).run s with
        | (.error failure, t) => ((recovering attempt failure, deed), t)
        | (.ok ended, t) => ((answered ended, deed), t))
    (hrecover : ∀ attempt failure s, ∃ deed, (party.turn db (recovering attempt failure)).run s
      = ((asking (attempt + 1), deed), ((db.recover attempt failure).run s).2))
    (attempt : UInt32) (s : State η σ) :
    let done := (db.executeFrom sql binds readonly attempt).run.run s
    Leads db party (asking attempt) s (answered done.1) done.2 := by
  -- By induction on how many more attempts the policy allows.
  induction hleft : db.options.retry.maxAttempts.toNat - attempt.toNat using
    Nat.strongRecOn generalizing attempt s with
  | _ left ih =>
      intro done
      rcases hask attempt s with ⟨deed, hturn⟩
      rcases db.tryOnce_cases sql binds readonly attempt s with
        ⟨failure, t, htried, hallows, hagain⟩ | ⟨ended, t, htried, hended⟩
      · let recovered := ((db.recover attempt failure).run t).2
        have hnext := RetryPolicy.toNat_add_one_of_allows hallows
        have hlt := RetryPolicy.lt_of_allows hallows
        have hrest := ih _ (by omega) (attempt + 1) recovered rfl
        rcases hrecover attempt failure t with ⟨deed', hturn'⟩
        rw [htried] at hturn
        rw [show done = _ from hagain]
        exact .turn hturn (.turn hturn' hrest)
      · rw [htried] at hturn
        rw [show done = _ from hended]
        exact .turn hturn (.here _ _)

section

variable {r : Statement} {table : String} {ttl : UInt64}

theorem leads_asking (started : Nat) (s : State η σ) :
    let done := (db.executeDirect r.sql r.binds true).run.run s
    Leads db (.reader r table ttl) (.asking started 1) s (.answered started done.1) done.2 := by
  refine leads_sending db (.asking started) (.recovering started) (.answered started)
    (fun attempt s => ?_) (fun attempt failure s => ⟨_, rfl⟩) 1 s
  have hturn : ((reader r table ttl).turn db (.asking started attempt)).run s = _ :=
    Action.run_bind (db.tryOnce r.sql r.binds true attempt) _ s
  rw [hturn]
  rcases (db.tryOnce r.sql r.binds true attempt).run s with ⟨failure | (stop | outcome), t⟩ <;>
    exact ⟨_, rfl⟩

theorem leads_missed (s : State η σ) :
    Leads db (.reader r table ttl) .missed s .finished
      ((db.readThrough r table ttl (queryKey table r.sql r.binds)).run.run s).2 := by
  have hasking : Leads db (.reader r table ttl) (.asking (s.generation table) 1) s _ _ :=
    leads_asking db (s.generation table) s
  refine .turn rfl ?_
  rw [Database.readThrough, Attempt.run_always_bind, generation_run, Attempt.run_bind]
  rcases hrun : (db.executeDirect r.sql r.binds true).run.run s with ⟨stop | outcome, t⟩ <;>
    rw [hrun] at hasking
  · exact hasking
  · dsimp only
    rw [Attempt.run_bind_pure]
    exact hasking.trans (.turn rfl (.here _ _))

/-- The turns of a reader are a read through the cache. -/
theorem leads_reader (hslot : db.cacheSlot? r = some (table, ttl)) {s : State η σ}
    (houtside : s.own.inTransaction = false) :
    Leads db (.reader r table ttl) .looking s .finished ((db.readCached r).run.run s).2 := by
  let key := queryKey table r.sql r.binds
  have hturn : ((reader r table ttl).turn db .looking).run s = _ :=
    Action.run_bind (around (Surroundings.lookup key)) _ s
  rw [Database.readCached_run, hslot, houtside]
  dsimp only
  split
  · rename_i rows t hlooked
    rw [hlooked] at hturn
    exact .turn hturn (.here _ _)
  · rename_i found t hmissed hlooked
    rw [hlooked] at hturn
    have hmiss : ((reader r table ttl).turn db .looking).run s = ((.missed, .looked), t) := by
      rw [hturn]
      rcases found with _ | rows | count | version
      · rfl
      · exact absurd rfl (hmissed rows)
      · rfl
      · rfl
    exact .turn hmiss (leads_missed db t)

end

theorem leads_writing (sql : String) (binds : Binds) (tables : List String) (s : State η σ) :
    Leads db (.writer sql binds tables) (.writing 1) s (.dropping tables)
      ((db.executeDirect sql binds false).run.run s).2 := by
  refine leads_sending db .writing .mending (fun _ => .dropping tables)
    (fun attempt s => ?_) (fun attempt failure s => ⟨_, rfl⟩) 1 s
  have hturn : ((writer sql binds tables).turn db (.writing attempt)).run s = _ :=
    Action.run_bind (db.tryOnce sql binds false attempt) _ s
  rw [hturn]
  rcases (db.tryOnce sql binds false attempt).run s with ⟨failure | ended, t⟩ <;>
    exact ⟨_, rfl⟩

theorem leads_dropping (sql : String) (binds : Binds) (own tables : List String)
    (s : State η σ) :
    Leads db (.writer sql binds own) (.dropping tables) s .finished
      ((invalidateAll tables).run s).2 := by
  induction tables generalizing s with
  | nil => exact .turn rfl (.here _ _)
  | cons table rest ih => exact .turn rfl (ih ((invalidate table).run s).2)

/-- The turns of a writer are a write, with the dropping of its tables behind it. -/
theorem leads_writer (sql : String) (binds : Binds) (tables : List String) (s : State η σ) :
    Leads db (.writer sql binds tables) (.writing 1) s .finished
      (((db.executeDirect sql binds false).thereafter (invalidateAll tables)).run.run s).2 := by
  have hwriting := leads_writing db sql binds tables s
  exact hwriting.trans (leads_dropping db sql binds tables tables _)

end Party

namespace Crowd

variable [DecidableEq ι] {db : Database η σ} {parties : ι → Party}

theorem run_of_leads {c : Crowd ι η σ} {i : ι} {phase : Phase} {t : State η σ}
    (h : Party.Leads db (parties i) (c.phase i) c.state phase t) :
    ∃ n, let d := c.run db parties (List.replicate n i)
      d.phase i = phase ∧ d.state = t := by
  generalize hphase : c.phase i = p at h
  generalize hstate : c.state = s at h
  induction h generalizing c with
  | here phase s => exact ⟨0, hphase, hstate⟩
  | turn hturn hrest ih =>
      subst hphase hstate
      have hnext : (c.step db parties i).phase i = _ := if_pos rfl
      rw [hturn] at hnext
      have hthere : (c.step db parties i).state = _ := congrArg Prod.snd hturn
      rcases ih hnext hthere with ⟨n, hn⟩
      exact ⟨n + 1, hn⟩

/-- Whoever is alone with a read to do leaves the connection as reading through the cache does,
    whatever the others did before. -/
theorem reader_alone {c : Crowd ι η σ} {i : ι} {r : Statement} {table : String} {ttl : UInt64}
    (hparty : parties i = .reader r table ttl) (hphase : c.phase i = .looking)
    (hslot : db.cacheSlot? r = some (table, ttl)) (houtside : c.state.own.inTransaction = false) :
    ∃ n, let d := c.run db parties (List.replicate n i)
      d.phase i = .finished ∧ d.state = ((db.readCached r).run.run c.state).2 := by
  refine run_of_leads ?_
  rw [hparty, hphase]
  exact Party.leads_reader db hslot houtside

/-- Whoever is alone with a write to do leaves the connection as running it does. -/
theorem writer_alone {c : Crowd ι η σ} {i : ι} {w : Statement}
    (hparty : parties i = .writer w.sql w.binds w.tables) (hphase : c.phase i = .writing 1)
    (hwrites : w.readonly = false) :
    ∃ n, let d := c.run db parties (List.replicate n i)
      d.phase i = .finished ∧ d.state = ((db.run w).run.run c.state).2 := by
  refine run_of_leads ?_
  rw [hparty, hphase, Database.run, hwrites]
  exact Party.leads_writer db w.sql w.binds w.tables c.state

end Crowd

end SqlMapper
