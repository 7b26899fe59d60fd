import SqlMapper.Program.Basic

/-!
# Programs

Uses of a connection, with transactions in transactions.

A program is a list of steps. A step performs an operation, or runs further
steps in a transaction, or breaks off. Before each step the world may change in
any way. A step that fails ends the transaction it stands in, unless it is
tolerated; outside transactions the program goes on. Breaking off ends every
transaction on the way out, and then the program goes on as well.

Each step is reported with its result and with the calls that left the engine
since the step before.

## Main definitions

* `Step`: A step of a program.
* `Report`: What became of it.
* `Step.run`: Running a step.
* `runProgram`: Running a program.
-/

namespace SqlMapper

/-- A step of a program whose world is `σ`. -/
inductive Step (σ : Type) where
  /-- Performs an operation. -/
  | operation (before : σ → σ) (op : Operation) (tolerated : Bool)
  /-- Runs steps in a transaction, and perhaps refuses to commit it. -/
  | transaction (before : σ → σ) (steps : List (Step σ)) (refusal : Option (String × String))
      (tolerated : Bool)
  /-- Breaks off. -/
  | breakOff (before : σ → σ)

instance {σ : Type} : Inhabited (Step σ) where
  default := .breakOff id

/-- What became of a step. -/
inductive Report where
  /-- The result of an operation. -/
  | operation (result : Except Stop Answer) (events : List Event)
  /-- How a transaction ended, the reports about its steps, and whether one is still open. -/
  | transaction (ending : Except Stop Unit) (steps : List Report) (stillOpen : Bool)
      (events : List Event)

section

variable {η σ α : Type}

/-- Takes the journal, and leaves an empty one. -/
def takeJournal : Action η σ (List Event) := fun s =>
  (s.around.journal, { s with around := { s.around with journal := [] } })

/-- Changes the world. -/
def changeWorld (f : σ → σ) : Action η σ Unit :=
  around (Surroundings.inWorld (modify f))

/-- How steps end after one of them has ended: an error does not count if it is tolerated. -/
def afterStep (tolerated : Bool) : Except Stop α → Except Stop Unit
  | .ok _ => .ok ()
  | .error (.failed e) => if tolerated then .ok () else .error (.failed e)
  | .error .aborted => .error .aborted

/-- The refusal to commit steps that have succeeded. -/
def refuse (refusal : Option (String × String)) :
    Except Stop Unit → Action η σ (Except Stop Unit)
  | .ok () =>
    match refusal with
    | some (field, message) => (Attempt.raise (.field field message)).run
    | none => pure (.ok ())
  | stop => pure stop

/-- Reports an operation. -/
def reportOperation (tolerated : Bool) (result : Except Stop Answer) :
    Action η σ (List Report × Except Stop Unit) := do
  let events ← takeJournal
  return ([.operation result events], afterStep tolerated result)

/-- Reports a transaction. One that was broken off is only reported where it is the outermost, and
    the breaking off ends there. -/
def reportTransaction (outermost tolerated : Bool) (ending : Except Stop Unit)
    (steps : List Report) : Action η σ (List Report × Except Stop Unit) := do
  match ending, outermost with
  | .error .aborted, false => return ([], .error .aborted)
  | _, _ =>
    let stillOpen ← inTransaction
    let events ← takeJournal
    -- The outermost transaction is where breaking off is caught.
    let goingOn := if ending matches .error .aborted then .ok () else afterStep tolerated ending
    return ([.transaction ending steps stillOpen events], goingOn)

mutual

/-- Runs a step. Yields the report about it, if there is one, and whether steps behind it run. -/
def Step.run (db : Database η σ) : Step σ → Action η σ (List Report × Except Stop Unit)
  | .operation before op tolerated => do
    changeWorld before
    let result ← (op.perform db).run
    reportOperation tolerated result
  | .transaction before steps refusal tolerated => do
    changeWorld before
    match ← db.enter.run with
    | .error stop => reportTransaction true tolerated (.error stop) []
    | .ok outermost =>
      let (reports, ending) ← Step.runAll db steps
      let ending ← refuse refusal ending
      let ending ← db.leave outermost ending
      reportTransaction outermost tolerated ending reports
  | .breakOff before => do
    changeWorld before
    return ([], .error .aborted)

/-- Runs steps up to the first that ends them. -/
def Step.runAll (db : Database η σ) :
    List (Step σ) → Action η σ (List Report × Except Stop Unit)
  | [] => pure ([], .ok ())
  | step :: rest => do
    match ← Step.run db step with
    | (reports, .ok ()) =>
      let (others, ending) ← Step.runAll db rest
      return (reports ++ others, ending)
    | ended => return ended

end

/-- Runs every step of a program, whatever becomes of it. -/
def runProgram (db : Database η σ) (steps : List (Step σ)) : Action η σ (List Report) := do
  let reports ← steps.mapM fun step => do return (← Step.run db step).1
  return reports.flatten

end

end SqlMapper
