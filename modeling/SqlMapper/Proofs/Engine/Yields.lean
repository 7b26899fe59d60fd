import SqlMapper.Proofs.Engine.Frame

/-!
# What an Attempt Yields

Two postconditions for an attempt that is not aborted.

An attempt that works on a connection ends with a result or with an error, and
callers go on differently after either: a bind passes errors through, and a
settled attempt turns them into results. `Attempt.Yields` states what holds in
both cases, and that there is no third. The rules below follow the ways in which
attempts are combined, so that a fact about an operation of the engine is put
together from facts about its parts, without opening its runs.

Where it matters which error it was, `Attempt.Ends` has one postcondition for
results and errors alike.

## Main definitions

* `Attempt.Yields`: A postcondition for results, and one for errors.
* `Attempt.Ends`: A postcondition for both that sees the error.

## Theorems

* `Yields.bind`, `Yields.settled_bind`: One attempt after another.
* `Yields.ok_of_infallible`: An attempt that cannot fail returns.
* `Ends.settled_bind`: Going on after a result or an error.
-/

namespace SqlMapper

variable {η σ α β : Type}

/-- An attempt ends with a result and in a state such that `P`, or with an error and in a state
    such that `Q`. It is not aborted. -/
def Attempt.Yields (x : Attempt η σ α) (s : State η σ) (P : α → State η σ → Prop)
    (Q : State η σ → Prop) : Prop :=
  match x.run.run s with
  | (.ok a, t) => P a t
  | (.error (.failed _), t) => Q t
  | (.error .aborted, _) => False

namespace Attempt.Yields

variable {x : Attempt η σ α} {f : α → Attempt η σ β} {s t : State η σ}
  {P P' : α → State η σ → Prop} {Q Q' : State η σ → Prop} {R : β → State η σ → Prop}

theorem of_run_eq {y : Attempt η σ α} (hrun : x.run.run s = y.run.run t) (h : y.Yields t P Q) :
    x.Yields s P Q := by
  rw [Yields, hrun]
  exact h

theorem of_run_ok {a : α} (hrun : x.run.run s = (.ok a, t)) (h : P a t) : x.Yields s P Q := by
  rw [Yields, hrun]
  exact h

theorem of_run_failed {e : Error} (hrun : x.run.run s = (.error (.failed e), t)) (h : Q t) :
    x.Yields s P Q := by
  rw [Yields, hrun]
  exact h

theorem cases (h : x.Yields s P Q) :
    (∃ a t, x.run.run s = (.ok a, t) ∧ P a t)
      ∨ ∃ e t, x.run.run s = (.error (.failed e), t) ∧ Q t := by
  rw [Yields] at h
  rcases hrun : x.run.run s with ⟨(e | _) | a, t⟩
  · rw [hrun] at h
    exact Or.inr ⟨e, t, rfl, h⟩
  · rw [hrun] at h
    exact absurd h not_false
  · rw [hrun] at h
    exact Or.inl ⟨a, t, rfl, h⟩

theorem mono (h : x.Yields s P Q) (hP : ∀ a t, P a t → P' a t) (hQ : ∀ t, Q t → Q' t) :
    x.Yields s P' Q' := by
  rcases h.cases with ⟨a, t, hrun, ha⟩ | ⟨e, t, hrun, ht⟩
  · exact of_run_ok hrun (hP a t ha)
  · exact of_run_failed hrun (hQ t ht)

/-- What holds of the state at the end holds of it in both cases. -/
theorem also {R : State η σ → Prop} (h : x.Yields s P Q) (hR : R (x.run.run s).2) :
    x.Yields s (fun a t => P a t ∧ R t) fun t => Q t ∧ R t := by
  rcases h.cases with ⟨a, t, hrun, ha⟩ | ⟨e, t, hrun, ht⟩
  · rw [hrun] at hR
    exact of_run_ok hrun ⟨ha, hR⟩
  · rw [hrun] at hR
    exact of_run_failed hrun ⟨ht, hR⟩

theorem pure {a : α} (h : P a s) : (Pure.pure a : Attempt η σ α).Yields s P Q := h

theorem raise {e : Error} (h : ∀ log, Q { s with around := { s.around with log := log } }) :
    (Attempt.raise e : Attempt η σ α).Yields s P Q :=
  of_run_failed (Attempt.raise_run e s) (h _)

/-- An error ends the whole. -/
theorem bind (h : x.Yields s P Q) (hf : ∀ a t, P a t → (f a).Yields t R Q') (hQ : ∀ t, Q t → Q' t) :
    (x >>= f).Yields s R Q' := by
  rcases h.cases with ⟨a, t, hrun, ha⟩ | ⟨e, t, hrun, ht⟩
  · rw [Yields, Attempt.run_bind, hrun]
    exact hf a t ha
  · rw [Yields, Attempt.run_bind, hrun]
    exact hQ t ht

theorem always {act : Action η σ α} (h : P (act.run s).1 (act.run s).2) :
    (Attempt.always act).Yields s P Q := h

theorem always_bind {act : Action η σ α} (h : (f (act.run s).1).Yields (act.run s).2 R Q') :
    (Attempt.always act >>= f).Yields s R Q' := h

/-- What keeps to a frame leaves a state that is related to the one before. -/
theorem framed_bind {F : Frame η σ} {act : Action η σ α} (hact : F.Holds act)
    (h : ∀ a t, F.rel s t → (f a).Yields t R Q') : (Attempt.always act >>= f).Yields s R Q' :=
  h _ _ (hact s)

/-- A settled attempt goes on after an error. -/
theorem settled_bind {g : Except Error α → Attempt η σ β} (h : x.Yields s P Q)
    (hok : ∀ a t, P a t → (g (.ok a)).Yields t R Q')
    (herror : ∀ e t, Q t → (g (.error e)).Yields t R Q') :
    (x.settled >>= g).Yields s R Q' := by
  have hsettled : x.settled.run.run s = _ := Action.run_bind x.run _ s
  rcases h.cases with ⟨a, t, hrun, ha⟩ | ⟨e, t, hrun, ht⟩
  · rw [hrun] at hsettled
    rw [Yields, Attempt.run_bind, hsettled]
    exact hok a t ha
  · rw [hrun] at hsettled
    rw [Yields, Attempt.run_bind, hsettled]
    exact herror e t ht

/-- What is done at last is done in either case. -/
theorem thereafter {last : Action η σ Unit} (h : x.Yields s P Q)
    (hP : ∀ a t, P a t → P' a (last.run t).2) (hQ : ∀ t, Q t → Q' (last.run t).2) :
    (x.thereafter last).Yields s P' Q' := by
  have hrun : (x.thereafter last).run.run s
      = ((x.run.run s).1, (last.run (x.run.run s).2).2) := rfl
  rcases h.cases with ⟨a, t, hx, ha⟩ | ⟨e, t, hx, ht⟩
  · rw [hx] at hrun
    exact of_run_ok hrun (hP a t ha)
  · rw [hx] at hrun
    exact of_run_failed hrun (hQ t ht)

/-- An attempt that cannot fail returns. -/
theorem ok_of_infallible (h : x.Yields s P fun _ => False) :
    ∃ a t, x.run.run s = (.ok a, t) ∧ P a t := by
  rcases h.cases with hok | ⟨e, t, -, hfalse⟩
  · exact hok
  · exact absurd hfalse not_false

end Attempt.Yields

/-- An attempt ends with a result or an error and in a state such that `R`. It is not aborted. -/
def Attempt.Ends (x : Attempt η σ α) (s : State η σ) (R : Except Error α → State η σ → Prop) :
    Prop :=
  ∃ r t, x.run.run s = (r.mapError Stop.failed, t) ∧ R r t

namespace Attempt.Ends

variable {x : Attempt η σ α} {s t : State η σ} {R : Except Error α → State η σ → Prop}

theorem of_run_ok {a : α} (hrun : x.run.run s = (.ok a, t)) (h : R (.ok a) t) : x.Ends s R :=
  ⟨.ok a, t, hrun, h⟩

theorem of_run_failed {e : Error} (hrun : x.run.run s = (.error (.failed e), t))
    (h : R (.error e) t) : x.Ends s R :=
  ⟨.error e, t, hrun, h⟩

theorem of_yields {P : α → State η σ → Prop} {Q : State η σ → Prop} (h : x.Yields s P Q)
    (hP : ∀ a t, P a t → R (.ok a) t) (hQ : ∀ e t, Q t → R (.error e) t) : x.Ends s R := by
  rcases h.cases with ⟨a, t, hrun, ha⟩ | ⟨e, t, hrun, ht⟩
  · exact of_run_ok hrun (hP a t ha)
  · exact of_run_failed hrun (hQ e t ht)

theorem yields (h : x.Ends s R) :
    x.Yields s (fun a t => R (.ok a) t) fun t => ∃ e, R (.error e) t := by
  rcases h with ⟨e | a, t, hrun, hR⟩
  · exact .of_run_failed hrun ⟨e, hR⟩
  · exact .of_run_ok hrun hR

theorem raise {e : Error}
    (h : ∀ log, R (.error e) { s with around := { s.around with log := log } }) :
    (Attempt.raise e : Attempt η σ α).Ends s R :=
  of_run_failed (Attempt.raise_run e s) (h _)

/-- A settled attempt goes on after a result or an error. -/
theorem settled_bind {g : Except Error α → Attempt η σ β} {P : β → State η σ → Prop}
    {Q : State η σ → Prop} (h : x.Ends s R) (hg : ∀ r t, R r t → (g r).Yields t P Q) :
    (x.settled >>= g).Yields s P Q := by
  have hsettled : x.settled.run.run s = _ := Action.run_bind x.run _ s
  rcases h with ⟨r, t, hrun, hR⟩
  rw [hrun] at hsettled
  rw [Yields, Attempt.run_bind, hsettled]
  rcases r with e | a
  · exact hg (.error e) t hR
  · exact hg (.ok a) t hR

end Attempt.Ends

end SqlMapper
