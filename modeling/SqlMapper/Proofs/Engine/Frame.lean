import SqlMapper.Proofs.Engine.Law

/-!
# Frames

What a whole computation keeps, from what its parts keep.

Most facts about a single run are facts about what it leaves alone: the session
is the same afterwards, the record of calls only grew, an invariant still holds.
Such a fact relates the state before to the state after, it holds of doing
nothing, and it carries over from one computation to the next. A `Frame` is such
a relation, and keeping to it is a law.

`Upholds` lists the parts of which operations are made as relations between
states, and `Upholds.perform` draws the conclusion for every operation at once.
Entries may always be taken out of the cache here; what is put in is told by its
key. A frame that does not care about keys is listed in `Respects`. Only
rebuilding the session on request is left out, since no other operation does it
outside of sending a statement.

## Main definitions

* `Frame`: A relation that composes.
* `Frame.Holds`: Every run of a computation keeps to a frame.
* `Frame.law`: Keeping to a frame as a law.
* `Reporting`, `Bookkeeping`: Keeping the log, or all of the books, keeps to a frame.
* `Respects`: The parts of every operation keep to a frame.
* `Upholds`: The parts of every operation keep to a frame, if it caches under some keys only.

## Theorems

* `holds_bind`, `holds_attempt_bind`: Frames compose.
* `Upholds.perform`, `Respects.perform`: Every operation keeps to a frame that its parts keep to.
-/

namespace SqlMapper

variable {η σ α β : Type}

theorem Attempt.run_always_bind (act : Action η σ α) (f : α → Attempt η σ β) (s : State η σ) :
    (Attempt.always act >>= f).run.run s = (f (act.run s).1).run.run (act.run s).2 := rfl

theorem Attempt.run_map (f : α → β) (x : Attempt η σ α) (s : State η σ) :
    (f <$> x).run.run s = ((x.run.run s).1.map f, (x.run.run s).2) := by
  simp only [ExceptT.run_map, StateT.run_map]
  rfl

/-- An attempt whose result does not matter, and then a result. -/
theorem Attempt.run_bind_pure (x : Attempt η σ α) (b : β) (s : State η σ) :
    (x >>= fun _ => pure b).run.run s = ((x.run.run s).1.map fun _ => b, (x.run.run s).2) := by
  rw [Attempt.run_bind]
  rcases x.run.run s with ⟨r, t⟩
  cases r <;> rfl

theorem Attempt.eq_of_map_eq_ok {r : Except Stop α} {b c : β} (h : (r.map fun _ => b) = .ok c) :
    c = b := by
  cases r with
  | ok a => exact (Except.ok.inj h).symm
  | error stop => cases h

theorem Surroundings.reportError_run (e : Error) (s : Surroundings σ) :
    (Surroundings.reportError e).run s = ((), { s with log := s.log ++ e.record?.toList }) := by
  unfold Surroundings.reportError
  cases e.record? with
  | none =>
      rw [Option.toList_none, List.append_nil]
      rfl
  | some r => rfl

theorem Attempt.raise_run (e : Error) (s : State η σ) :
    (Attempt.raise e : Attempt η σ α).run.run s
      = (.error (.failed e),
        { s with around := { s.around with log := s.around.log ++ e.record?.toList } }) := by
  have hraise : (Attempt.raise e : Attempt η σ α).run.run s
      = (.error (.failed e),
        { s with around := ((Surroundings.reportError e).run s.around).2 }) := rfl
  rw [hraise, Surroundings.reportError_run]

theorem Surroundings.store_run (key : String) (value : CacheValue) (ttl : Option UInt64)
    (s : Surroundings σ) :
    (Surroundings.store key value ttl).run s = match s.cache.set? s.now key value ttl with
      | some cache =>
        (true, { s with cache := cache, journal := s.journal ++ [.store key value ttl] })
      | none => (false, s) := by
  show (match s.cache.set? s.now key value ttl with
    | some cache => _
    | none => _ : StateM (Surroundings σ) Bool).run s = _
  cases s.cache.set? s.now key value ttl <;> rfl

theorem store_run (key : String) (value : CacheValue) (ttl : Option UInt64) (s : State η σ) :
    (store key value ttl : Attempt η σ Unit).run.run s
      = match s.around.cache.set? s.around.now key value ttl with
        | some cache =>
          (.ok (), { s with around := { s.around with
            cache := cache, journal := s.around.journal ++ [.store key value ttl] } })
        | none => (.error .aborted, s) := by
  have hrun := Surroundings.store_run key value ttl s.around
  have hstore : (store key value ttl : Attempt η σ Unit).run.run s
      = (if ((Surroundings.store key value ttl).run s.around).1 then pure (.ok ())
          else pure (.error .aborted) : Action η σ (Except Stop Unit)).run
        { s with around := ((Surroundings.store key value ttl).run s.around).2 } := rfl
  rw [hstore, hrun]
  cases s.around.cache.set? s.around.now key value ttl <;> rfl

/-- A relation between the states before and after a computation. It holds of doing nothing, and
    it carries over from one computation to the next. -/
structure Frame (η σ : Type) where
  -- The relation.
  rel : State η σ → State η σ → Prop
  -- Doing nothing keeps to it.
  refl : ∀ s, rel s s
  -- One computation after another keeps to it.
  trans : ∀ {s t u}, rel s t → rel t u → rel s u

namespace Frame

variable {F : Frame η σ}

/-- Every run of a computation keeps to a frame. -/
def Holds (F : Frame η σ) (act : Action η σ α) : Prop :=
  ∀ s, F.rel s (act.run s).2

theorem holds_pure (a : α) : F.Holds (pure a) := fun s => F.refl s

theorem holds_bind {x : Action η σ α} {f : α → Action η σ β} (hx : F.Holds x)
    (hf : ∀ a, F.Holds (f a)) : F.Holds (x >>= f) := by
  intro s
  rw [Action.run_bind]
  exact F.trans (hx s) (hf _ _)

theorem holds_get : F.Holds (get : Action η σ (State η σ)) := fun s => F.refl s

/-- Keeping to a frame is a law. -/
def law (F : Frame η σ) : Law η σ where
  Holds := F.Holds
  pure := holds_pure
  bind := holds_bind

theorem holds_forM {act : α → Action η σ Unit} (h : ∀ a, F.Holds (act a)) (list : List α) :
    F.Holds (list.forM act) :=
  F.law.forM h list

theorem holds_attempt_pure (a : α) : F.Holds (pure a : Attempt η σ α).run := F.law.attempt_pure a

theorem holds_attempt_bind {x : Attempt η σ α} {f : α → Attempt η σ β} (hx : F.Holds x.run)
    (hf : ∀ a, F.Holds (f a).run) : F.Holds (x >>= f).run :=
  F.law.attempt_bind hx hf

theorem holds_map {x : Attempt η σ α} (f : α → β) (hx : F.Holds x.run) : F.Holds (f <$> x).run :=
  F.law.map f hx

theorem holds_always {act : Action η σ α} (h : F.Holds act) : F.Holds (Attempt.always act).run :=
  F.law.always h

end Frame

/-- Reports keep to a frame. -/
structure Reporting (F : Frame η σ) : Prop where
  -- Changes of the log do.
  reporting : ∀ (s : State η σ) (log : Log),
    F.rel s { s with around := { s.around with log := log } }

namespace Reporting

open SqlMapper.Frame

variable {F : Frame η σ}

theorem report (h : Reporting F) (r : LogRecord) : F.Holds (SqlMapper.report r) :=
  fun s => h.reporting s _

theorem raise (h : Reporting F) (e : Error) : F.Holds (Attempt.raise e : Attempt η σ α).run := by
  intro s
  rw [Attempt.raise_run]
  exact h.reporting s _

theorem check (h : Reporting F) (r : Except Error α) :
    F.Holds (Attempt.check r : Attempt η σ α).run := by
  cases r with
  | ok a => exact holds_attempt_pure a
  | error e => exact h.raise e

end Reporting

/-- Bookkeeping keeps to a frame: what is cached, noted, reported and counted. -/
structure Bookkeeping (F : Frame η σ) : Prop where
  -- Changes of the cache, the journal and the log do.
  quiet : ∀ (s : State η σ) (cache : Cache) (journal : List Event) (log : Log),
    F.rel s { s with around := { s.around with cache := cache, journal := journal, log := log } }
  -- Counting writes does.
  counting : ∀ (s : State η σ) (generations : OrderedMap String Nat),
    F.rel s { s with own := { s.own with generations := generations } }

/-- The parts of which every operation is made keep to a frame. -/
structure Respects (db : Database η σ) (F : Frame η σ) : Prop extends Bookkeeping F where
  -- Sending a statement does.
  sending : ∀ sql binds readonly, F.Holds (db.sendRetrying sql binds readonly)
  -- A transaction does if its body does.
  transaction : ∀ {α : Type} (body : Attempt η σ α), F.Holds body.run →
    F.Holds (db.transaction body).run

/-- The parts of which every operation is made keep to a frame, if it caches under some keys
    only. -/
structure Upholds (db : Database η σ) (F : Frame η σ) (allowed : String → Prop) : Prop
    extends Reporting F where
  -- Taking entries out of the cache does.
  dropping : ∀ (s : State η σ) (cache : Cache) (journal : List Event),
    cache.PartOf s.around.cache →
      F.rel s { s with around := { s.around with cache := cache, journal := journal } }
  -- So does putting one in, under one of these keys.
  storing : ∀ (s : State η σ) (key : String) (value : CacheValue) (ttl : Option UInt64)
    (cache : Cache) (journal : List Event), allowed key →
      s.around.cache.set? s.around.now key value ttl = some cache →
        F.rel s { s with around := { s.around with cache := cache, journal := journal } }
  -- Counting writes does.
  counting : ∀ (s : State η σ) (generations : OrderedMap String Nat),
    F.rel s { s with own := { s.own with generations := generations } }
  -- Sending a statement does.
  sending : ∀ sql binds readonly, F.Holds (db.sendRetrying sql binds readonly)
  -- A transaction does if its body does.
  transaction : ∀ {α : Type} (body : Attempt η σ α), F.Holds body.run →
    F.Holds (db.transaction body).run

namespace Upholds

open SqlMapper.Frame

variable {db : Database η σ} {F : Frame η σ} {allowed : String → Prop}

theorem lookup (h : Upholds db F allowed) (key : String) :
    F.Holds (around (Surroundings.lookup key)) :=
  fun s => h.dropping s _ _ (Cache.get_partOf s.around.cache s.around.now key)

theorem forget (h : Upholds db F allowed) (key : String) :
    F.Holds (around (Surroundings.forget key)) :=
  fun s => h.dropping s _ _ (Cache.erase_partOf s.around.cache key)

theorem forgetAll (h : Upholds db F allowed) (start : String) :
    F.Holds (around (Surroundings.forgetAll start)) :=
  fun s => h.dropping s _ _ (Cache.deletePrefix_partOf s.around.cache start)

theorem invalidate (h : Upholds db F allowed) (table : String) :
    F.Holds (SqlMapper.invalidate table) := by
  refine holds_bind (holds_bind holds_get fun _ => holds_pure _) fun count => ?_
  exact holds_bind (fun s => h.counting s _) fun _ => h.forgetAll _

theorem store (h : Upholds db F allowed) {key : String} (hkey : allowed key) (value : CacheValue)
    (ttl : Option UInt64) : F.Holds (around (Surroundings.store key value ttl)) := by
  intro s
  show F.rel s { s with around := ((Surroundings.store key value ttl).run s.around).2 }
  rw [Surroundings.store_run]
  cases hset : s.around.cache.set? s.around.now key value ttl with
  | none => exact F.refl s
  | some cache => exact h.storing s key value ttl cache _ hkey hset

theorem obeys (h : Upholds db F allowed) :
    Obeys db F.law (fun _ => True) (fun _ => True) allowed fun _ => True where
  report := h.report
  inTransaction := holds_bind holds_get fun _ => holds_pure _
  generation _ := holds_bind holds_get fun _ => holds_pure _
  lastInsertId := holds_bind holds_get fun _ => holds_pure _
  lookup _ := h.lookup _
  store value ttl hkey := h.store hkey value ttl
  forget _ := h.forget _
  invalidate _ := h.invalidate _
  sending binds readonly _ := h.sending _ binds readonly
  transaction := h.transaction

theorem runInsert {s : Statement} (hrun : F.Holds (db.run s).run) :
    F.Holds (db.runInsert s).run :=
  F.law.runInsert (fun s => F.refl s) hrun

/-- Every operation keeps to a frame that its parts keep to, if it caches under no other keys and
    does not rebuild the session. -/
theorem perform (h : Upholds db F allowed) {op : Operation} (hop : op ≠ .reconnect)
    (hkeys : ∀ key, op.StoresUnder db key → allowed key) : F.Holds (op.perform db).run := by
  by_cases hapart : op.Apart
  · cases op with
    | reconnect => exact absurd rfl hop
    | takeLog => exact holds_map _ (holds_always fun s => h.reporting s [])
    | searchLog level part field =>
        exact holds_attempt_bind (holds_always holds_get) fun _ => holds_attempt_pure _
    | _ => exact absurd hapart id
  · exact h.obeys.perform hapart (fun _ _ => trivial) (fun _ _ => trivial) hkeys fun _ _ => trivial

end Upholds

namespace Respects

variable {db : Database η σ} {F : Frame η σ}

/-- A frame to which all bookkeeping keeps does not care about keys. -/
theorem upholds (h : Respects db F) : Upholds db F fun _ => True where
  reporting s log := h.quiet s s.around.cache s.around.journal log
  dropping s cache journal _ := h.quiet s cache journal s.around.log
  storing s _ _ _ cache journal _ _ := h.quiet s cache journal s.around.log
  counting := h.counting
  sending := h.sending
  transaction := h.transaction

/-- Every operation keeps to a frame that its parts keep to, unless it rebuilds the session. -/
theorem perform (h : Respects db F) {op : Operation} (hop : op ≠ .reconnect) :
    F.Holds (op.perform db).run :=
  h.upholds.perform hop fun _ _ => trivial

end Respects

end SqlMapper
