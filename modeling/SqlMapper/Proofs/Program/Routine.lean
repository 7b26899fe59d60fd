import SqlMapper.Proofs.Engine.Frame

/-!
# Routines

What a host does with a connection.

A host calls the engine, looks at what came of it, and decides what to call
next; it opens transactions whose bodies do the same; and it ends with a result,
with an error or abruptly. A `Routine` is such a course of action as a tree: at
each call it branches over everything that may come of the call. A host that
does not handle an error is the branch that ends with it, and one that catches
an abrupt end goes on from there. Every path of the tree is finite, and that is
all that is asked of it.

`Routine.run` is the computation of the engine that a routine stands for. What
is to be said about every call in it is said about `Routine.calls`, the calls
that were really made, in order and at any depth of transactions, each with the
state in which it was made and the state that it left.

## Main definitions

* `Routine`: A host's course of action.
* `Routine.run`: The computation it stands for.
* `Call`: A call that was made.
* `Routine.calls`: Every call of a run, in order.
* `Routine.returns`: The states in which the transactions of a run return.
* `Routine.Uses`: Every call that a routine may make is of some kind.
* `Encloses`: Beginning and ending a transaction keep to a frame.
* `Routine.Spans`: A run keeps to a frame, from its start to each moment and from there to its end.

## Theorems

* `Routine.Uses.of_mem_calls`: Calls that were made are calls that may be made.
* `Routine.perform_of_mem_calls`: What a call was answered is what performing it yields.
* `Respects.routine`: A routine keeps to a frame that its calls keep to.
* `Encloses.routine`: The same for one run, from the calls that it makes.
-/

namespace SqlMapper

variable {η σ α β : Type}

/-- What a host does with a connection, call by call. -/
inductive Routine : Type → Type 1 where
  -- Ends with a result, an error or abruptly.
  | ending {α : Type} (result : Except Stop α) : Routine α
  -- Calls the engine, and goes on as the answer suggests.
  | call {α : Type} (op : Operation) (next : Except Stop Answer → Routine α) : Routine α
  -- Runs a body in a transaction, and goes on as its end suggests.
  | transaction {α β : Type} (body : Routine β) (next : Except Stop β → Routine α) : Routine α

/-- A call that was made. -/
structure Call (η σ : Type) where
  -- What was called.
  op : Operation
  -- The state in which it was called.
  before : State η σ
  -- What came of it.
  result : Except Stop Answer
  -- The state that it left.
  after : State η σ

namespace Routine

/-- The computation that a routine stands for. -/
def run {α : Type} (db : Database η σ) : Routine α → Attempt η σ α
  | .ending result => ExceptT.mk (pure result)
  | .call op next => ExceptT.mk do
    let result ← (op.perform db).run
    ((next result).run db).run
  | .transaction body next => ExceptT.mk do
    let result ← (db.transaction (body.run db)).run
    ((next result).run db).run

/-- The calls that a run of a routine makes, in order. -/
def calls {α : Type} (db : Database η σ) : Routine α → State η σ → List (Call η σ)
  | .ending _, _ => []
  | .call op next, s =>
    let done := (op.perform db).run.run s
    { op := op, before := s, result := done.1, after := done.2 }
      :: (next done.1).calls db done.2
  | .transaction body next, s =>
    -- The body runs only if the transaction can be entered, and in the state that this leaves.
    let inner :=
      match db.enter.run.run s with
      | (.ok _, entered) => body.calls db entered
      | (.error _, _) => []
    let done := (db.transaction (body.run db)).run.run s
    inner ++ (next done.1).calls db done.2

/-- The states in which the transactions of a run return, at any depth. -/
def returns {α : Type} (db : Database η σ) : Routine α → State η σ → List (State η σ)
  | .ending _, _ => []
  | .call op next, s =>
    let done := (op.perform db).run.run s
    (next done.1).returns db done.2
  | .transaction body next, s =>
    let inner :=
      match db.enter.run.run s with
      | (.ok _, entered) => body.returns db entered
      | (.error _, _) => []
    let done := (db.transaction (body.run db)).run.run s
    inner ++ done.2 :: (next done.1).returns db done.2

/-- Every call that a routine may make has some property. -/
def Uses {α : Type} (p : Operation → Prop) : Routine α → Prop
  | .ending _ => True
  | .call op next => p op ∧ ∀ result, (next result).Uses p
  | .transaction body next => body.Uses p ∧ ∀ result, (next result).Uses p

/-- Calls that were made are calls that may be made. -/
theorem Uses.of_mem_calls {p : Operation → Prop} {db : Database η σ} {α : Type} {r : Routine α} :
    ∀ {s : State η σ}, r.Uses p → ∀ c ∈ r.calls db s, p c.op := by
  induction r with
  | ending result =>
      intro s _ c hc
      simp only [calls, List.not_mem_nil] at hc
  | call op next ih =>
      intro s huses c hc
      simp only [calls, List.mem_cons] at hc
      rcases hc with rfl | hc
      · exact huses.1
      · exact ih _ (huses.2 _) c hc
  | transaction body next ihBody ihNext =>
      intro s huses c hc
      simp only [calls, List.mem_append] at hc
      rcases hc with hc | hc
      · split at hc
        · exact ihBody huses.1 c hc
        · simp only [List.not_mem_nil] at hc
      · exact ihNext _ (huses.2 _) c hc

/-- Calls that were made are performed in the state in which they were made. -/
theorem perform_of_mem_calls {db : Database η σ} {α : Type} {r : Routine α} :
    ∀ {s : State η σ}, ∀ c ∈ r.calls db s,
      (c.op.perform db).run.run c.before = (c.result, c.after) := by
  induction r with
  | ending result =>
      intro s c hc
      simp only [calls, List.not_mem_nil] at hc
  | call op next ih =>
      intro s c hc
      simp only [calls, List.mem_cons] at hc
      rcases hc with rfl | hc
      · rfl
      · exact ih _ c hc
  | transaction body next ihBody ihNext =>
      intro s c hc
      simp only [calls, List.mem_append] at hc
      rcases hc with hc | hc
      · split at hc
        · exact ihBody c hc
        · simp only [List.not_mem_nil] at hc
      · exact ihNext _ c hc

end Routine

/-- A routine keeps to a frame that the parts of its calls keep to. -/
theorem Respects.routine {db : Database η σ} {F : Frame η σ} (h : Respects db F) {α : Type}
    {r : Routine α} (huses : r.Uses (· ≠ .reconnect)) : F.Holds (r.run db).run := by
  induction r with
  | ending result => exact Frame.holds_pure result
  | call op next ih =>
      exact Frame.holds_bind (h.perform huses.1) fun result => ih result (huses.2 result)
  | transaction body next ihBody ihNext =>
      refine Frame.holds_bind (h.transaction _ (ihBody huses.1)) fun result => ?_
      exact ihNext result (huses.2 result)

/-- A body runs only if the transaction can be entered, and then the transaction is left. -/
theorem Database.transaction_run (db : Database η σ) (body : Attempt η σ α) (s : State η σ) :
    (db.transaction body).run.run s = match db.enter.run.run s with
      | (.ok outermost, entered) =>
        (db.leave outermost (body.run.run entered).1).run (body.run.run entered).2
      | (.error stop, refused) => (.error stop, refused) := by
  rw [Database.transaction, Attempt.run_bind]
  rcases db.enter.run.run s with ⟨stop | outermost, t⟩ <;> rfl

/-- Beginning and ending a transaction keep to a frame, whatever comes of the body. -/
structure Encloses (db : Database η σ) (F : Frame η σ) : Prop where
  -- Beginning one does, if it has to be begun.
  enter : F.Holds db.enter.run
  -- Ending one does.
  close : ∀ {α : Type} (ending : Except Stop α), F.Holds (db.close ending)

/-- A run keeps to a frame, from its start to each moment and from each call to its end. -/
structure Routine.Spans {α : Type} (r : Routine α) (db : Database η σ) (F : Frame η σ)
    (s : State η σ) : Prop where
  -- The whole does.
  whole : F.rel s ((r.run db).run.run s).2
  -- What comes before a call does.
  before : ∀ c ∈ r.calls db s, F.rel s c.before
  -- What comes behind it does.
  after : ∀ c ∈ r.calls db s, F.rel c.after ((r.run db).run.run s).2
  -- What comes before a transaction returns does.
  returns : ∀ t ∈ r.returns db s, F.rel s t

namespace Encloses

variable {db : Database η σ} {F : Frame η σ}

theorem leave (h : Encloses db F) (outermost : Bool) (ending : Except Stop α) :
    F.Holds (db.leave outermost ending) := by
  cases outermost with
  | true => exact h.close ending
  | false => exact Frame.holds_pure ending

/-- A transaction keeps to the frame if its body does. -/
theorem transaction (h : Encloses db F) (body : Attempt η σ α) (hbody : F.Holds body.run) :
    F.Holds (db.transaction body).run := by
  intro s
  have henter := h.enter s
  rw [db.transaction_run body s]
  rcases hentered : db.enter.run.run s with ⟨stop | outermost, t⟩
  · rw [hentered] at henter
    exact henter
  · rw [hentered] at henter
    exact F.trans henter (F.trans (hbody t) (h.leave _ _ _))

/-- A run keeps to the frame if the calls that it makes do. -/
theorem routine (h : Encloses db F) {α : Type} {r : Routine α} :
    ∀ {s : State η σ}, (∀ c ∈ r.calls db s, F.rel c.before c.after) → r.Spans db F s := by
  induction r with
  | ending result =>
      intro s _
      refine ⟨F.refl s, fun c hc => ?_, fun c hc => ?_, fun t ht => ?_⟩
      · exact absurd hc List.not_mem_nil
      · exact absurd hc List.not_mem_nil
      · exact absurd ht List.not_mem_nil
  | call op next ih =>
      intro s hcalls
      have hdone := hcalls _ List.mem_cons_self
      have hrest := ih _ fun c hc => hcalls c (List.mem_cons_of_mem _ hc)
      refine ⟨F.trans hdone hrest.whole, fun c hc => ?_, fun c hc => ?_, fun t ht => ?_⟩
      · rcases List.mem_cons.mp hc with rfl | hc
        · exact F.refl s
        · exact F.trans hdone (hrest.before c hc)
      · rcases List.mem_cons.mp hc with rfl | hc
        · exact hrest.whole
        · exact hrest.after c hc
      · exact F.trans hdone (hrest.returns t ht)
  | transaction body next ihBody ihNext =>
      intro s hcalls
      let done := (db.transaction (body.run db)).run.run s
      have hentered := h.enter s
      have hdone : done = _ := db.transaction_run (body.run db) s
      simp only [Routine.calls] at hcalls
      have hrest := ihNext done.1 fun c hc => hcalls c (List.mem_append_right _ hc)
      rcases henter : db.enter.run.run s with ⟨stop | outermost, entered⟩
      · -- The body is not run.
        rw [henter] at hentered hdone hcalls
        have hwhole : F.rel s done.2 := by
          rw [hdone]
          exact hentered
        refine ⟨F.trans hwhole hrest.whole, fun c hc => ?_, fun c hc => ?_, fun t ht => ?_⟩
        · simp only [Routine.calls, henter, List.nil_append] at hc
          exact F.trans hwhole (hrest.before c hc)
        · simp only [Routine.calls, henter, List.nil_append] at hc
          exact hrest.after c hc
        · simp only [Routine.returns, henter, List.nil_append, List.mem_cons] at ht
          rcases ht with rfl | ht
          · exact hwhole
          · exact F.trans hwhole (hrest.returns t ht)
      · rw [henter] at hentered hdone hcalls
        have hentered : F.rel s entered := hentered
        have hbody := ihBody (s := entered) fun c hc => hcalls c (List.mem_append_left _ hc)
        have hleave : F.rel ((body.run db).run.run entered).2 done.2 := by
          rw [hdone]
          exact h.leave _ _ _
        have hwhole := F.trans hentered (F.trans hbody.whole hleave)
        refine ⟨F.trans hwhole hrest.whole, fun c hc => ?_, fun c hc => ?_, fun t ht => ?_⟩
        · simp only [Routine.calls, henter, List.mem_append] at hc
          rcases hc with hc | hc
          · exact F.trans hentered (hbody.before c hc)
          · exact F.trans hwhole (hrest.before c hc)
        · simp only [Routine.calls, henter, List.mem_append] at hc
          rcases hc with hc | hc
          · exact F.trans (hbody.after c hc) (F.trans hleave hrest.whole)
          · exact hrest.after c hc
        · simp only [Routine.returns, henter, List.mem_append, List.mem_cons] at ht
          rcases ht with ht | rfl | ht
          · exact F.trans hentered (hbody.returns t ht)
          · exact hwhole
          · exact F.trans hwhole (hrest.returns t ht)

end Encloses

end SqlMapper
