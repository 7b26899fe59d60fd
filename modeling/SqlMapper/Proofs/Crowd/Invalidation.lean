import SqlMapper.Proofs.Cache.Reads
import SqlMapper.Proofs.Client.Recorded
import SqlMapper.Proofs.Crowd.Basic

/-!
# Invalidation in a Crowd

No write is missed by the cache, whoever runs when.

A reader that asks before a write and stores after the cached reads were dropped
would bring back what the write has overtaken. It does not, because dropping the
reads of a table counts up its generation, and an answer is only stored if the
generation is the one taken down before asking. So as long as the generation is
the same, no reads of the table were dropped since the database was asked, and
what is in the cache was asked for after all of them.

## Main definitions

* `Calm`: Nothing is cached, and writes are counted up.
* `Turned`: What a turn can do.
* `Did`: A party did something at some time.
* `Over`: Every dropping of a table's reads came before some time.
* `Traced`: What is cached was asked for after every dropping of its table's reads.
* `Sound`: The invariant of a crowd.

## Theorems

* `Party.turned`: What a turn can do, by cases on whose it is.
* `Sound.step`: The invariant survives a turn.
* `no_lost_invalidation`: Every cached read was asked for after every write whose table it is of.
-/

namespace SqlMapper

variable {η σ ι : Type}

/-- Nothing is cached, and writes are counted up. -/
structure Calm (s t : State η σ) : Prop where
  -- What is cached was cached before.
  cache : t.around.cache.PartOf s.around.cache
  -- No write is forgotten.
  generation : ∀ table, s.generation table ≤ t.generation table

theorem Kept.calm {s t : State η σ} (h : Kept s t) : Calm s t := ⟨h.cache, h.generation⟩

/-- Staying calm. -/
def calm (η σ : Type) : Frame η σ where
  rel := Calm
  refl _ := ⟨.refl _, fun _ => Nat.le_refl _⟩
  trans hst htu := ⟨htu.cache.trans hst.cache, fun table =>
    Nat.le_trans (hst.generation table) (htu.generation table)⟩

theorem calm_reporting : Reporting (calm η σ) :=
  ⟨fun _ _ => ⟨.refl _, fun _ => Nat.le_refl _⟩⟩

theorem calm_lookup (key : String) : (calm η σ).Holds (around (Surroundings.lookup key)) :=
  fun _ => ⟨Cache.get_partOf _ _ _, fun _ => Nat.le_refl _⟩

namespace Database

variable (db : Database η σ)

theorem recover_calm (attempt : UInt32) (failure : ClientFailure) :
    (calm η σ).Holds (db.recover attempt failure) := by
  intro s
  rcases db.recover_rebuilt attempt failure s with ⟨hrebuilt, -⟩
  refine ⟨fun key e he => ?_, fun table => ?_⟩
  · rw [hrebuilt.cache] at he
    exact he
  · have hsame : ((db.recover attempt failure).run s).2.generation table = s.generation table := by
      rw [State.generation, State.generation, hrebuilt.generations]
    exact Nat.le_of_eq hsame.symm

theorem settle_calm (sql : String) (binds : Binds) (attempt : UInt32) (transactional : Bool)
    (result : Except ClientFailure Outcome) :
    (calm η σ).Holds (db.settle sql binds attempt transactional result).run := by
  refine Frame.holds_attempt_bind (Frame.holds_always fun s => ?_) fun r => ?_
  · exact (db.conclude_kept sql binds attempt transactional result s).2.1.calm
  · cases r with
    | ok outcome => exact Frame.holds_attempt_pure outcome
    | error failure => exact calm_reporting.raise _

theorem tryOnce_calm (sql : String) (binds : Binds) (readonly : Bool) (attempt : UInt32) :
    (calm η σ).Holds (db.tryOnce sql binds readonly attempt) := by
  have hflag : (calm η σ).Holds inTransaction :=
    Frame.holds_bind Frame.holds_get fun _ => Frame.holds_pure _
  refine Frame.holds_bind hflag fun flag => ?_
  refine Frame.holds_bind (fun s => (db.send_kept sql binds readonly s).2.2.calm) fun result => ?_
  have hsettle := Frame.holds_bind (db.settle_calm sql binds attempt flag result) fun ended =>
    Frame.holds_pure (F := calm η σ) (Except.ok (ε := ClientFailure) ended)
  split
  · split
    · exact Frame.holds_pure _
    · exact hsettle
  · exact hsettle

end Database

/-- Storing an answer counts nothing, and caches nothing else. -/
theorem Database.storeIfCurrent_cache (table : String) (started : Nat) (key : String)
    (value : CacheValue) (ttl : UInt64) (s : State η σ) :
    let done := ((storeIfCurrent table started key value ttl : Attempt η σ Unit).run.run s).2
    (∀ other, done.generation other = s.generation other)
      ∧ ∀ other e, done.around.cache.get? other = some e → s.around.cache.get? other = some e
        ∨ (other = key ∧ e.value = value ∧ s.generation table = started) := by
  intro done
  have hdone : done = _ := congrArg Prod.snd (storeIfCurrent_run s table started key value ttl)
  rw [hdone]
  by_cases hcurrent : s.generation table = started
  · rw [if_pos hcurrent, store_run]
    cases hset : s.around.cache.set? s.around.now key value (some ttl) with
    | none => exact ⟨fun _ => rfl, fun _ _ he => Or.inl he⟩
    | some cache =>
        refine ⟨fun _ => rfl, fun other e he => ?_⟩
        rcases Cache.get?_of_set? hset he with ⟨hkey, hvalue⟩ | hold
        · exact Or.inr ⟨hkey, hvalue, hcurrent⟩
        · exact Or.inl hold
  · rw [if_neg hcurrent]
    exact ⟨fun _ => rfl, fun _ _ he => Or.inl he⟩

theorem invalidate_generation (table : String) (s : State η σ) :
    ((invalidate table).run s).2.generation table = s.generation table + 1 := by
  show ((s.own.generations.insert table (s.generation table + 1)).get? table).getD 0 = _
  rw [OrderedMap.get?_insert_self, Option.getD_some]

/-- Whether a party may still write. -/
def Phase.isWriting : Phase → Bool
  | .writing _ | .mending _ _ => true
  | _ => false

/-- The generation that a party has taken down. -/
def Phase.started? : Phase → Option Nat
  | .asking started _ | .recovering started _ _ | .storing started _ => some started
  | _ => none

/-- What a turn can do. -/
structure Turned (party : Party) (phase : Phase) (s : State η σ) (next : Phase) (deed : Deed)
    (t : State η σ) : Prop where
  -- Writes are counted up.
  generation : ∀ table, s.generation table ≤ t.generation table
  -- Nothing is cached unless an answer is stored.
  cache : deed ≠ .stored → t.around.cache.PartOf s.around.cache
  -- An answer is stored only if nothing was counted since a generation was taken down.
  stored : deed = .stored → ∃ r table ttl started outcome, party = .reader r table ttl
    ∧ phase = .storing started outcome
    ∧ ∀ key e, t.around.cache.get? key = some e → s.around.cache.get? key = some e
      ∨ (key = queryKey table r.sql r.binds ∧ e.value = outcome.cached
        ∧ s.generation table = started)
  -- Where the reads of a table are dropped, that is counted.
  dropped : ∀ table, deed = .dropped table →
    t.generation table = s.generation table + 1 ∧ t.around.cache.Clear table
  -- Only who may write does.
  executed : deed = .executed → phase.isWriting = true
  -- Who drops reads does not write any more.
  writing : next.isWriting = true → phase.isWriting = true ∧ ∀ table, deed ≠ .dropped table
  -- A reader takes down the generation of its table.
  started : ∀ r table ttl n, party = .reader r table ttl → next.started? = some n →
    phase.started? = some n ∨ n = s.generation table
  -- A reader stores the answer that it was given in the turn before.
  storing : ∀ r table ttl n outcome, party = .reader r table ttl → next = .storing n outcome →
    deed = .asked (some outcome)

/-- A turn in which nothing is stored, dropped or written. -/
theorem Turned.of_calm {party : Party} {phase next : Phase} {deed : Deed} {s t : State η σ}
    (hcalm : Calm s t) (hstored : deed ≠ .stored) (hdropped : ∀ table, deed ≠ .dropped table)
    (hexecuted : deed = .executed → phase.isWriting = true)
    (hwriting : next.isWriting = true → phase.isWriting = true)
    (hstarted : ∀ r table ttl n, party = .reader r table ttl → next.started? = some n →
      phase.started? = some n ∨ n = s.generation table)
    (hstoring : ∀ r table ttl n outcome, party = .reader r table ttl → next = .storing n outcome →
      deed = .asked (some outcome)) :
    Turned party phase s next deed t where
  generation := hcalm.generation
  cache _ := hcalm.cache
  stored h := absurd h hstored
  dropped table h := absurd h (hdropped table)
  executed := hexecuted
  writing h := ⟨hwriting h, hdropped⟩
  started := hstarted
  storing := hstoring

/-- A turn of a party that has nothing to do. -/
theorem Turned.rested {party : Party} {phase : Phase} (s : State η σ)
    (h : ∀ r table ttl n outcome, party = .reader r table ttl → phase ≠ .storing n outcome) :
    Turned party phase s phase .rested s :=
  .of_calm ((calm η σ).refl s) nofun nofun nofun id (fun _ _ _ _ _ hstarted => Or.inl hstarted)
    fun r table ttl n outcome hparty hphase => absurd hphase (h r table ttl n outcome hparty)

namespace Party

variable (db : Database η σ)

/-- What a reader does in a turn. -/
theorem reader_turned (r : Statement) (table : String) (ttl : UInt64) (phase : Phase)
    (s : State η σ) :
    let done := ((Party.reader r table ttl).turn db phase).run s
    Turned (.reader r table ttl) phase s done.1.1 done.1.2 done.2 := by
  intro done
  cases phase with
  | looking =>
      have hcalm := calm_lookup (queryKey table r.sql r.binds) s
      have hdone : done = _ :=
        Action.run_bind (around (Surroundings.lookup (queryKey table r.sql r.binds))) _ s
      rw [hdone]
      split
      · have hhit := (calm η σ).trans hcalm (calm_reporting.report {
          level := .debug
          message := "cache hit"
          fields := [("table", table)] } _)
        exact .of_calm hhit nofun nofun nofun nofun nofun nofun
      · exact .of_calm hcalm nofun nofun nofun nofun nofun nofun
  | missed =>
      refine .of_calm ((calm η σ).refl s) nofun nofun nofun nofun ?_ nofun
      intro r' table' ttl' n hparty hstarted
      cases hparty
      exact Or.inr (Option.some.inj hstarted).symm
  | asking started attempt =>
      have hcalm := db.tryOnce_calm r.sql r.binds true attempt s
      have hdone : done = _ := Action.run_bind (db.tryOnce r.sql r.binds true attempt) _ s
      rw [hdone]
      rcases htried : (db.tryOnce r.sql r.binds true attempt).run s with
        ⟨failure | (stop | outcome), t⟩ <;> rw [htried] at hcalm
      · refine .of_calm hcalm nofun nofun nofun nofun ?_ nofun
        exact fun _ _ _ _ _ hstarted => Or.inl hstarted
      · exact .of_calm hcalm nofun nofun nofun nofun nofun nofun
      · refine .of_calm hcalm nofun nofun nofun nofun ?_ ?_
        · exact fun _ _ _ _ _ hstarted => Or.inl hstarted
        · intro _ _ _ _ _ _ hstoring
          cases hstoring
          rfl
  | recovering started attempt failure =>
      refine .of_calm (db.recover_calm attempt failure s) nofun nofun nofun nofun ?_ nofun
      exact fun _ _ _ _ _ hstarted => Or.inl hstarted
  | storing started outcome =>
      rcases Database.storeIfCurrent_cache table started (queryKey table r.sql r.binds)
        outcome.cached ttl s with ⟨hgeneration, hcache⟩
      exact {
        generation := fun other => Nat.le_of_eq (hgeneration other).symm
        cache := fun h => absurd rfl h
        stored := fun _ => ⟨r, table, ttl, started, outcome, rfl, rfl, hcache⟩
        dropped := nofun
        executed := nofun
        writing := nofun
        started := nofun
        storing := nofun }
  | _ => exact .rested s nofun

/-- What a writer does in a turn. -/
theorem writer_turned (sql : String) (binds : Binds) (tables : List String) (phase : Phase)
    (s : State η σ) :
    let done := ((Party.writer sql binds tables).turn db phase).run s
    Turned (.writer sql binds tables) phase s done.1.1 done.1.2 done.2 := by
  intro done
  cases phase with
  | writing attempt =>
      have hcalm := db.tryOnce_calm sql binds false attempt s
      have hdone : done = _ := Action.run_bind (db.tryOnce sql binds false attempt) _ s
      rw [hdone]
      rcases htried : (db.tryOnce sql binds false attempt).run s with ⟨failure | ended, t⟩ <;>
        rw [htried] at hcalm
      · exact .of_calm hcalm nofun nofun (fun _ => rfl) (fun _ => rfl) nofun nofun
      · exact .of_calm hcalm nofun nofun (fun _ => rfl) nofun nofun nofun
  | mending attempt failure =>
      exact .of_calm (db.recover_calm attempt failure s) nofun nofun nofun (fun _ => rfl) nofun
        nofun
  | dropping list =>
      cases list with
      | nil => exact .of_calm ((calm η σ).refl s) nofun nofun nofun nofun nofun nofun
      | cons table rest =>
          have hkept := (Kept.invalidate table s).1
          exact {
            generation := hkept.generation
            cache := fun _ => hkept.cache
            stored := nofun
            dropped := fun other hother => by
              cases hother
              exact ⟨invalidate_generation table s, invalidate_clear table s⟩
            executed := nofun
            writing := nofun
            started := nofun
            storing := nofun }
  | _ => exact .rested s nofun

theorem turned (party : Party) (phase : Phase) (s : State η σ) :
    let done := (party.turn db phase).run s
    Turned party phase s done.1.1 done.1.2 done.2 := by
  cases party with
  | reader r table ttl => exact reader_turned db r table ttl phase s
  | writer sql binds tables => exact writer_turned db sql binds tables phase s

end Party

/-- Whether a party did something at some time. -/
def Did (past : List (ι × Deed)) (time : Nat) (who : ι) (deed : Deed) : Prop :=
  past[time]? = some (who, deed)

/-- Whether every dropping of a table's reads came before some time. -/
def Over (past : List (ι × Deed)) (table : String) (time : Nat) : Prop :=
  ∀ n w, Did past n w (.dropped table) → n < time

/-- What is cached is the answer to a read of a table, and the database was asked for it after
    every dropping of the table's reads. -/
def Traced (parties : ι → Party) (past : List (ι × Deed)) (key : String) (value : CacheValue) :
    Prop :=
  ∃ p r table ttl outcome time, parties p = .reader r table ttl
    ∧ key = queryKey table r.sql r.binds ∧ value = outcome.cached
    ∧ Did past time p (.asked (some outcome)) ∧ Over past table time

section

variable {past : List (ι × Deed)} {table : String} {time n : Nat} {i w : ι} {deed other : Deed}

theorem Did.lt_length (h : Did past n w deed) : n < past.length :=
  (List.getElem?_eq_some_iff.mp h).1

/-- What was done is what was done before, or in the latest turn. -/
theorem did_concat : Did (past ++ [(i, other)]) n w deed
    ↔ Did past n w deed ∨ (n = past.length ∧ i = w ∧ other = deed) := by
  unfold Did
  rcases Nat.lt_trichotomy n past.length with hlt | rfl | hgt
  · rw [List.getElem?_append_left hlt]
    exact ⟨Or.inl, fun h => h.resolve_right fun h => absurd h.1 (by omega)⟩
  · rw [List.getElem?_concat_length, List.getElem?_eq_none (Nat.le_refl _)]
    simp only [Option.some.injEq, Prod.mk.injEq, reduceCtorEq, true_and, false_or]
  · rw [List.getElem?_eq_none (by simp only [List.length_append, List.length_singleton]; omega),
      List.getElem?_eq_none (by omega)]
    simp only [reduceCtorEq, false_or, false_iff, not_and]
    omega

theorem Did.concat (h : Did past n w deed) (a : ι × Deed) : Did (past ++ [a]) n w deed :=
  did_concat.mpr (Or.inl h)

/-- Now is after everything so far. -/
theorem Over.now (past : List (ι × Deed)) (table : String) : Over past table past.length :=
  fun _ _ h => h.lt_length

theorem Over.concat (h : Over past table time) (i : ι) (hdeed : deed ≠ .dropped table) :
    Over (past ++ [(i, deed)]) table time := by
  intro n w hdropped
  rcases did_concat.mp hdropped with hold | ⟨-, -, hnew⟩
  · exact h n w hold
  · exact absurd hnew hdeed

end

/-- The invariant of a crowd. -/
structure Sound (parties : ι → Party) (c : Crowd ι η σ) : Prop where
  -- A party writes before it drops reads.
  drops : ∀ w n table x, Did c.past n w (.dropped table) → Did c.past x w .executed → x < n
  -- Who may still write has not dropped any.
  writing : ∀ w n table, (c.phase w).isWriting = true → ¬ Did c.past n w (.dropped table)
  -- A generation that was taken down is not in the future.
  reading : ∀ p r table ttl started, parties p = .reader r table ttl →
    (c.phase p).started? = some started → started ≤ c.state.generation table
  -- An answer that will be stored was asked for, and if the generation is still the one that was
  -- taken down, no reads of the table were dropped since.
  storing : ∀ p r table ttl started outcome, parties p = .reader r table ttl →
    c.phase p = .storing started outcome → ∃ time, Did c.past time p (.asked (some outcome))
      ∧ (c.state.generation table = started → Over c.past table time)
  -- What is cached was asked for after every dropping of the table's reads.
  entries : ∀ table sql binds e, c.state.around.cache.get? (queryKey table sql binds) = some e →
    Traced parties c.past (queryKey table sql binds) e.value

namespace Sound

variable {parties : ι → Party}

section

variable {c : Crowd ι η σ} {i : ι} {next : Phase} {deed : Deed} {t : State η σ}

theorem drops_of_turned (h : Sound parties c)
    (hturned : Turned (parties i) (c.phase i) c.state next deed t) {w : ι} {n x : Nat}
    {table : String} (hdropped : Did (c.past ++ [(i, deed)]) n w (.dropped table))
    (hexecuted : Did (c.past ++ [(i, deed)]) x w .executed) : x < n := by
  rcases did_concat.mp hdropped with hbefore | ⟨rfl, rfl, rfl⟩
  · rcases did_concat.mp hexecuted with hwritten | ⟨rfl, rfl, rfl⟩
    · exact h.drops w n table x hbefore hwritten
    · -- Who writes in this turn has not dropped any reads before.
      exact absurd hbefore (h.writing i n table (hturned.executed rfl))
  · rcases did_concat.mp hexecuted with hwritten | ⟨-, -, hdeed⟩
    · exact hwritten.lt_length
    · cases hdeed

theorem storing_of_turned [DecidableEq ι] (h : Sound parties c)
    (hturned : Turned (parties i) (c.phase i) c.state next deed t) {p : ι} {r : Statement}
    {table : String} {ttl : UInt64} {started : Nat} {outcome : Outcome}
    (hparty : parties p = .reader r table ttl)
    (hphase : (if p = i then next else c.phase p) = .storing started outcome) :
    ∃ time, Did (c.past ++ [(i, deed)]) time p (.asked (some outcome))
      ∧ (t.generation table = started → Over (c.past ++ [(i, deed)]) table time) := by
  by_cases hp : p = i
  · subst hp
    rw [if_pos rfl] at hphase
    -- The answer was given in this turn.
    have hdeed := hturned.storing r table ttl started outcome hparty hphase
    subst hdeed
    refine ⟨c.past.length, did_concat.mpr (Or.inr ⟨rfl, rfl, rfl⟩), fun _ => ?_⟩
    exact (Over.now c.past table).concat p nofun
  · rw [if_neg hp] at hphase
    rcases h.storing p r table ttl started outcome hparty hphase with ⟨time, htime, hover⟩
    refine ⟨time, htime.concat _, fun hstarted => ?_⟩
    -- If the generation is the same after the turn it was the same before, as counts only grow, and
    -- then no reads of the table were dropped in this turn, since that is counted.
    have hbefore : started ≤ c.state.generation table :=
      h.reading p r table ttl started hparty (by rw [hphase]; rfl)
    have hafter := hturned.generation table
    refine (hover (by omega)).concat i fun hdropped => ?_
    have hcounted := (hturned.dropped table hdropped).1
    omega

theorem entries_of_turned (h : Sound parties c)
    (hturned : Turned (parties i) (c.phase i) c.state next deed t) {table sql : String}
    {binds : Binds} {e : CacheEntry}
    (hentry : t.around.cache.get? (queryKey table sql binds) = some e) :
    Traced parties (c.past ++ [(i, deed)]) (queryKey table sql binds) e.value := by
  by_cases hstored : deed = .stored
  · subst hstored
    rcases hturned.stored rfl with ⟨r, own, ttl, started, outcome, hparty, hphase, hcache⟩
    rcases hcache _ e hentry with hold | ⟨hkey, hvalue, hcurrent⟩
    · rcases h.entries table sql binds e hold with
        ⟨p, r', other, ttl', outcome', time, hparty', hkey, hvalue, htime, hover⟩
      exact ⟨p, r', other, ttl', outcome', time, hparty', hkey, hvalue, htime.concat _,
        hover.concat i nofun⟩
    · rcases h.storing i r own ttl started outcome hparty hphase with ⟨time, htime, hover⟩
      exact ⟨i, r, own, ttl, outcome, time, hparty, hkey, hvalue, htime.concat _,
        (hover hcurrent).concat i nofun⟩
  · have hold := hturned.cache hstored _ e hentry
    rcases h.entries table sql binds e hold with
      ⟨p, r, other, ttl, outcome, time, hparty, hkey, hvalue, htime, hover⟩
    refine ⟨p, r, other, ttl, outcome, time, hparty, hkey, hvalue, htime.concat _,
      hover.concat i fun hdropped => ?_⟩
    -- If the reads of this table were dropped in this turn, there would be no entry.
    rw [hkey, (hturned.dropped other hdropped).2 r.sql r.binds] at hentry
    cases hentry

end

theorem start {s : State η σ} (hempty : ∀ table, s.around.cache.Clear table) :
    Sound parties (Crowd.start parties s) where
  drops := nofun
  writing := nofun
  reading p r table ttl started hparty hstarted := by
    change (parties p).start.started? = some started at hstarted
    rw [hparty] at hstarted
    cases hstarted
  storing p r table ttl started outcome hparty hphase := by
    change (parties p).start = .storing started outcome at hphase
    rw [hparty] at hphase
    cases hphase
  entries table sql binds e hentry := by
    rw [show (Crowd.start parties s).state = s from rfl, hempty table sql binds] at hentry
    cases hentry

variable [DecidableEq ι] {db : Database η σ}

/-- The invariant survives a turn. -/
theorem step {c : Crowd ι η σ} (h : Sound parties c) (i : ι) :
    Sound parties (c.step db parties i) := by
  have hturned := Party.turned db (parties i) (c.phase i) c.state
  constructor
  case drops =>
    intro w n table x hdropped hexecuted
    exact h.drops_of_turned hturned hdropped hexecuted
  case writing =>
    intro w n table hwriting hdropped
    change (if w = i then _ else c.phase w).isWriting = true at hwriting
    by_cases hw : w = i
    · subst hw
      rw [if_pos rfl] at hwriting
      rcases hturned.writing hwriting with ⟨hbefore, hdeed⟩
      rcases did_concat.mp hdropped with hdropped | ⟨-, -, hnew⟩
      · exact h.writing w n table hbefore hdropped
      · exact hdeed table hnew
    · -- It was somebody else's turn.
      rw [if_neg hw] at hwriting
      rcases did_concat.mp hdropped with hdropped | ⟨-, hnew, -⟩
      · exact h.writing w n table hwriting hdropped
      · exact hw hnew.symm
  case reading =>
    intro p r table ttl started hparty hstarted
    change (if p = i then _ else c.phase p).started? = some started at hstarted
    -- The counts only grow, so it is enough that nothing was in the future before the turn.
    refine Nat.le_trans ?_ (hturned.generation table)
    by_cases hp : p = i
    · subst hp
      rw [if_pos rfl] at hstarted
      rcases hturned.started r table ttl started hparty hstarted with hbefore | hnow
      · exact h.reading p r table ttl started hparty hbefore
      · exact Nat.le_of_eq hnow
    · rw [if_neg hp] at hstarted
      exact h.reading p r table ttl started hparty hstarted
  case storing =>
    intro p r table ttl started outcome hparty hphase
    exact h.storing_of_turned hturned hparty hphase
  case entries =>
    intro table sql binds e hentry
    exact h.entries_of_turned hturned hentry

theorem run {c : Crowd ι η σ} (h : Sound parties c) (schedule : List ι) :
    Sound parties (c.run db parties schedule) := by
  induction schedule generalizing c with
  | nil => exact h
  | cons i rest ih => exact ih (h.step i)

end Sound

/-- No invalidation is lost: whatever the schedule, the database was asked for a cached read of a
    table after every write whose dropping of the table's reads is over. The table is the one that
    the reader names; another one under the same key would have the same digest. -/
theorem no_lost_invalidation [DecidableEq ι] (db : Database η σ) (parties : ι → Party)
    (s : State η σ) (hempty : ∀ table, s.around.cache.Clear table) (schedule : List ι)
    (table sql : String) (binds : Binds) (e : CacheEntry) :
    let c := (Crowd.start parties s).run db parties schedule
    c.state.around.cache.get? (queryKey table sql binds) = some e →
      ∃ p r own ttl outcome time, parties p = .reader r own ttl
        ∧ queryKey own r.sql r.binds = queryKey table sql binds ∧ digestHex own = digestHex table
        ∧ e.value = Outcome.cached outcome ∧ Did c.past time p (.asked (some outcome))
        ∧ ∀ w n, Did c.past n w (.dropped own) →
          n < time ∧ ∀ x, Did c.past x w .executed → x < time := by
  intro c hentry
  have hsound : Sound parties c := (Sound.start hempty).run schedule
  rcases hsound.entries table sql binds e hentry with
    ⟨p, r, own, ttl, outcome, time, hparty, hkey, hvalue, htime, hover⟩
  have hdigest := (queryKey_eq_iff.mp hkey.symm).1
  refine ⟨p, r, own, ttl, outcome, time, hparty, hkey.symm, hdigest, hvalue, htime, ?_⟩
  intro w n hdropped
  have hn := hover n w hdropped
  exact ⟨hn, fun x hexecuted => Nat.lt_trans (hsound.drops w n own x hdropped hexecuted) hn⟩

/-- A read of a table. -/
def Statement.listing : Statement where
  sql := "SELECT * FROM `a`;"
  binds := ∅
  tables := ["a"]
  readonly := true

/-- One writer, and readers of the table that it writes. -/
def Party.ofThree (i : Nat) : Party :=
  if i = 1 then .writer "DELETE FROM `a`;" ∅ ["a"] else .reader .listing "a" 300

/-- The table has a row before the write, and none afterwards. -/
def Script.emptied : Script where
  replies := [{ rows := [{ cells := [] }] }, { }, { rows := [] }]

/-- One reader is overtaken by the writer; another one comes later. -/
def Crowd.overtaken : Crowd Nat Unit (Recorded Unit Script) :=
  (Crowd.start Party.ofThree (.scripted .emptied)).run Database.scripted.recorded Party.ofThree
    [0, 0, 0, 1, 1, 0, 2, 2, 2, 2]

theorem no_lost_invalidation_overtaken :
    (∀ table, (State.scripted .emptied).around.cache.Clear table)
      ∧ Did Crowd.overtaken.past 5 0 .stored ∧ Did Crowd.overtaken.past 4 1 (.dropped "a")
      ∧ ∃ e, Crowd.overtaken.state.around.cache.get? (queryKey "a" Statement.listing.sql ∅) = some e
        ∧ e.value = .rows []
        ∧ ∃ p r own ttl outcome time, Party.ofThree p = .reader r own ttl
          ∧ queryKey own r.sql r.binds = queryKey "a" Statement.listing.sql ∅
          ∧ digestHex own = digestHex "a"
          ∧ e.value = Outcome.cached outcome
          ∧ Did Crowd.overtaken.past time p (.asked (some outcome))
          ∧ ∀ w n, Did Crowd.overtaken.past n w (.dropped own) →
            n < time ∧ ∀ x, Did Crowd.overtaken.past x w .executed → x < time := by
  have hclear : ∀ table, (State.scripted .emptied).around.cache.Clear table := fun _ _ _ => rfl
  have hcache : Crowd.overtaken.state.around.cache
      = OrderedMap.insert ∅ (queryKey "a" Statement.listing.sql ∅)
          { value := .rows [], deadline := some 300000 } := rfl
  have hentry := congrArg (OrderedMap.get? · (queryKey "a" Statement.listing.sql ∅)) hcache
  rw [OrderedMap.get?_insert_self] at hentry
  refine ⟨hclear, rfl, rfl, _, hentry, rfl, ?_⟩
  exact no_lost_invalidation Database.scripted.recorded Party.ofThree (.scripted .emptied) hclear
    [0, 0, 0, 1, 1, 0, 2, 2, 2, 2] "a" Statement.listing.sql ∅ _ hentry

end SqlMapper
