import SqlMapper.Proofs.Engine.Sending

/-!
# Switching

What the calls do that open and close a transaction.

Beginning, committing and rolling back are calls of the client like any other,
and whether they succeed decides whether a transaction is open afterwards. A
rollback is the exception: it closes the transaction in any case. From these
calls it follows how a whole transaction goes where none was open, as a matter
of what came of its beginning and of its body.

## Theorems

* `switch_run`, `rollback_run`: The calls that open and close a transaction.
* `close_ok_run`: The end of a transaction whose body succeeded.
* `transaction_outside`: A body runs only in a transaction that could be begun.
-/

namespace SqlMapper

variable {η σ α : Type}

namespace Database

/-- A call that opens or closes a transaction does so if it succeeds. -/
theorem switch_run (word : String) (call : η → StateM σ (Reply Unit)) (opened : Bool)
    (message : String) (s : State η σ) :
    let reply := (call s.own.handle).run s.around.world
    let done := (switch word call opened message).run.run s
    done.2.around.world = reply.2 ∧ done.2.own.handle = s.own.handle
      ∧ done.2.around.cache.PartOf s.around.cache
      ∧ ((reply.1.outcome.isOk = true ∧ done.1 = .ok () ∧ done.2.own.inTransaction = opened)
        ∨ (reply.1.outcome.isOk = false ∧ (∃ e, done.1 = .error (.failed e))
          ∧ done.2.own.inTransaction = s.own.inTransaction)) := by
  intro reply done
  rcases exchange_kept (.execute word ∅) rfl call s with ⟨hresult, hworld, hkept⟩
  have hdone : done = _ := Attempt.run_always_bind (exchange (.execute word ∅) call) _ s
  rw [hdone]
  rcases hsent : (exchange (.execute word ∅) call).run s with ⟨result, t⟩
  rw [hsent] at hresult hworld hkept
  rw [show result = reply.1.outcome from hresult]
  cases hreply : reply.1.outcome with
  | ok _ => exact ⟨hworld, hkept.handle, hkept.cache, Or.inl ⟨rfl, rfl, rfl⟩⟩
  | error failure =>
      rw [Attempt.raise_run]
      exact ⟨hworld, hkept.handle, hkept.cache, Or.inr ⟨rfl, ⟨_, rfl⟩, hkept.inTransaction⟩⟩

/-- Rolling back is one call, with the flag cleared before it, and a report. -/
theorem rollback_reports (db : Database η σ) (s : State η σ) :
    let closed : State η σ := { s with own := { s.own with inTransaction := false } }
    let sent := (exchange (.execute "ROLLBACK" ∅) db.client.rollback).run closed
    ∃ r, db.rollback.run s = (SqlMapper.report r).run sent.2 := by
  intro closed
  have hclosed : ((modifyOwn fun c => { c with inTransaction := false } : Action η σ Unit).run s).2
      = closed := rfl
  rw [rollback, Action.run_bind, Action.run_bind, hclosed]
  rcases (exchange (.execute "ROLLBACK" ∅) db.client.rollback).run closed with ⟨failure | _, t⟩
  · exact ⟨_, rfl⟩
  · exact ⟨_, rfl⟩

/-- After a transaction was rolled back none is open, even if the client refused. -/
theorem rollback_run (db : Database η σ) (s : State η σ) :
    let reply := (db.client.rollback s.own.handle).run s.around.world
    let done := (db.rollback.run s).2
    done.around.world = reply.2 ∧ done.own.handle = s.own.handle
      ∧ done.around.cache.PartOf s.around.cache
      ∧ done.own.inTransaction = false := by
  intro reply done
  let closed : State η σ := { s with own := { s.own with inTransaction := false } }
  rcases exchange_kept (.execute "ROLLBACK" ∅) rfl db.client.rollback closed with
    ⟨-, hworld, hkept⟩
  rcases db.rollback_reports s with ⟨r, hreport⟩
  rw [show done = _ from congrArg Prod.snd hreport]
  exact ⟨hworld, hkept.handle, hkept.cache, hkept.inTransaction⟩

/-- Outside a transaction entering one begins it. -/
theorem enter_outside (db : Database η σ) (s : State η σ) (h : s.own.inTransaction = false) :
    db.enter.run.run s = match db.begin.run.run s with
      | (.ok _, opened) => (.ok true, opened)
      | (.error stop, refused) => (.error stop, refused) := by
  have henter : db.enter.run.run s = (if s.own.inTransaction then pure false else do
      db.begin
      return true : Attempt η σ Bool).run.run s := rfl
  rw [henter, h]
  simp only [Bool.false_eq_true, if_false]
  rw [Attempt.run_bind]
  rcases db.begin.run.run s with ⟨stop | _, t⟩ <;> rfl

/-- A body runs only if the transaction could be begun, and then the transaction is ended. -/
theorem transaction_outside (db : Database η σ) (body : Attempt η σ α) (s : State η σ)
    (h : s.own.inTransaction = false) :
    (db.transaction body).run.run s = match db.begin.run.run s with
      | (.ok _, opened) => (db.close (body.run.run opened).1).run (body.run.run opened).2
      | (.error stop, refused) => (.error stop, refused) := by
  rw [transaction, Attempt.run_bind, db.enter_outside s h]
  rcases db.begin.run.run s with ⟨stop | _, t⟩ <;> rfl

theorem close_ok_run (db : Database η σ) (a : α) (s : State η σ) :
    (db.close (.ok a)).run s = match db.commit.run.run s with
      | (.ok _, t) => (.ok a, t)
      | (.error stop, t) => (.error stop, (db.rollback.run t).2) := by
  rw [close, Action.run_bind]
  rcases db.commit.run.run s with ⟨stop | _, t⟩ <;> rfl

end Database

end SqlMapper
