import SqlMapper.Engine.Execute

/-!
# Transactions

Statements that take effect together or not at all.

A body runs between a beginning and an end. If it succeeds its work is
committed; if it ends early in any way, or the commit fails, everything is
rolled back. A transaction inside another joins it: only the outermost one
begins and ends anything. Once the outermost has ended no transaction is open,
whatever the database answered.

## Main definitions

* `Database.enter`: The beginning of a transaction.
* `Database.leave`: Its end.
* `Database.transaction`: A body between the two.

## Theorems

* `enter_inside`: Entering a transaction in a transaction does nothing.
* `transaction_inside`: A transaction in a transaction is its body.
-/

namespace SqlMapper

namespace Database

variable {η σ α : Type}

/-- A call that opens or closes a transaction if it succeeds. -/
def switch (word : String) (call : η → StateM σ (Reply Unit)) (opened : Bool) (message : String) :
    Attempt η σ Unit := do
  match ← Attempt.always (exchange (.execute word ∅) call) with
  | .error failure => Attempt.raise (.execute word failure.text)
  | .ok _ =>
    Attempt.always (modifyOwn fun c => { c with inTransaction := opened })
    Attempt.always (report { level := .debug, message })

/-- Begins a transaction. -/
def begin (db : Database η σ) : Attempt η σ Unit :=
  switch "BEGIN" db.client.begin true "transaction started"

/-- Commits the transaction. -/
def commit (db : Database η σ) : Attempt η σ Unit :=
  switch "COMMIT" db.client.commit false "transaction committed"

/-- Rolls the transaction back. It counts as closed even if the database refuses. -/
def rollback (db : Database η σ) : Action η σ Unit := do
  modifyOwn fun c => { c with inTransaction := false }
  match ← exchange (.execute "ROLLBACK" ∅) db.client.rollback with
  | .ok _ => report { level := .debug, message := "transaction rolled back" }
  | .error failure =>
    report { level := .warn, message := "rollback failed", fields := [("error", failure.text)] }

/-- Enters a transaction; yields whether it is the outermost one, which is begun. -/
def enter (db : Database η σ) : Attempt η σ Bool := do
  if ← Attempt.always inTransaction then
    return false
  else
    db.begin
    return true

/-- Ends the outermost transaction, given how its body ended: committed after a success, rolled
    back otherwise, and also if it cannot be committed. -/
def close (db : Database η σ) : Except Stop α → Action η σ (Except Stop α)
  | .ok a => do
    match ← db.commit.run with
    | .ok () => return .ok a
    -- The commit has failed, so what the body did must not stay half done.
    | .error stop =>
      db.rollback
      return .error stop
  | .error (.failed e) => do
    db.rollback
    return .error (.failed e)
  | .error .aborted => do
    report { level := .warn, message := "transaction closure panicked, rolling back" }
    db.rollback
    return .error .aborted

/-- Leaves a transaction, given how its body ended; only the outermost one is ended. -/
def leave (db : Database η σ) (outermost : Bool) (ending : Except Stop α) :
    Action η σ (Except Stop α) :=
  if outermost then db.close ending else pure ending

/-- Runs a body in a transaction. -/
def transaction (db : Database η σ) (body : Attempt η σ α) : Attempt η σ α := do
  let outermost ← db.enter
  ExceptT.mk do
    db.leave outermost (← body.run)

theorem enter_inside (db : Database η σ) (s : State η σ) (h : s.own.inTransaction = true) :
    db.enter.run.run s = (.ok false, s) := by
  simp only [enter, Attempt.always, SqlMapper.inTransaction, ExceptT.run_bind, StateT.run_bind]
  simp [h]
  rfl

theorem transaction_inside (db : Database η σ) (body : Attempt η σ α) (s : State η σ)
    (h : s.own.inTransaction = true) :
    (db.transaction body).run.run s = body.run.run s := by
  -- Entering yields that the transaction is not the outermost, and leaving it then does nothing.
  have hin := enter_inside db s h
  simp only [transaction, ExceptT.run_bind, StateT.run_bind, hin]
  simp [leave]
  rfl

end Database

end SqlMapper
