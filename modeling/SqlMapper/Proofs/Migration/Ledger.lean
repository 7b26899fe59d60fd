import SqlMapper.Proofs.Client.Recorded

/-!
# Ledgers

What the contacts of a connection come to for the database behind it.

A statement that succeeds counts where it is run. Outside of transactions it
counts at once. Inside it waits for the commit: a transaction that is committed
applies its statements in their order, one that is rolled back or cannot be
committed applies none. A call that fails has done nothing, except that a
rollback ends the transaction whatever the client says: what was not committed
by then never will be.

The ledger is read off the contacts, so it is a matter of what the client
answered and not of what the engine believes.

## Main definitions

* `Ledger`: The statements that a database has applied, and those that wait.
* `Ledger.take`: One more statement that succeeded.
* `Ledger.enter`: What a contact adds.
* `State.ledger`: The ledger of a connection's contacts.

## Theorems

* `ledger_of_contacts`: One more contact is one more entry.
* `Ledger.enter_statement`: A statement counts if it changes rows and succeeds.
-/

namespace SqlMapper

variable {η σ : Type}

/-- The statements that a database has applied, and those that wait. -/
structure Ledger where
  -- The statements of the transaction that is open, if one is.
  pending : Option (List String) := none
  -- The statements that were run outside of transactions.
  direct : List String := []
  -- The statements of the transactions that were committed.
  committed : List String := []
  deriving DecidableEq

namespace Ledger

/-- A transaction is open in which some statements have been run. -/
def holding (l : Ledger) (statements : List String) : Ledger :=
  { l with pending := some statements }

/-- The open transaction is committed. -/
def settled (l : Ledger) : Ledger :=
  { l with pending := none, committed := l.committed ++ l.pending.getD [] }

/-- The open transaction is given up. -/
def dropped (l : Ledger) : Ledger :=
  { l with pending := none }

/-- Some statements are applied together. -/
def applied (l : Ledger) (statements : List String) : Ledger :=
  { l with committed := l.committed ++ statements }

/-- One more statement succeeds. -/
def take (l : Ledger) (sql : String) : Ledger :=
  match l.pending with
  | some statements => { l with pending := some (statements ++ [sql]) }
  | none => { l with direct := l.direct ++ [sql] }

/-- What a contact adds. -/
def enter (l : Ledger) : Contact η → Ledger
  | .call _ (.execute sql _) true => l.take sql
  | .call _ .begin true => l.holding []
  | .call _ .commit true => l.settled
  | .call _ .rollback _ => l.dropped
  | _ => l

/-- What a statement adds that succeeds or not. -/
def ran (l : Ledger) (sql : String) (readonly succeeded : Bool) : Ledger :=
  if succeeded && !readonly then l.take sql else l

/-- A statement counts if it changes rows and succeeds. -/
theorem enter_statement (l : Ledger) (h : η) (sql : String) (binds : Binds)
    (readonly succeeded : Bool) :
    l.enter (.call h (Request.ofStatement sql binds readonly) succeeded)
      = l.ran sql readonly succeeded := by
  cases readonly <;> cases succeeded <;> rfl

theorem ran_readonly (l : Ledger) (sql : String) (succeeded : Bool) :
    l.ran sql true succeeded = l := by
  cases succeeded <;> rfl

theorem committed_take (l : Ledger) (sql : String) : (l.take sql).committed = l.committed := by
  rcases l with ⟨_ | statements, direct, committed⟩ <;> rfl

end Ledger

/-- The ledger of a connection's contacts so far. -/
def State.ledger (s : State η (Recorded η σ)) : Ledger :=
  s.contacts.foldl Ledger.enter {}

/-- One more contact is one more entry. -/
theorem ledger_of_contacts {s t : State η (Recorded η σ)} {c : Contact η}
    (h : t.contacts = s.contacts ++ [c]) : t.ledger = s.ledger.enter c := by
  rw [State.ledger, h, List.foldl_append]
  rfl

/-- Two statements are committed together; a third fails, and the rollback takes all back. -/
example :
    ([.call () .begin true, .call () (.execute "A" ∅) true, .call () (.execute "B" ∅) true,
      .call () .commit true, .call () .begin true, .call () (.execute "C" ∅) true,
      .call () (.execute "D" ∅) false, .call () .rollback false] : List (Contact Unit)).foldl
        Ledger.enter {} = { committed := ["A", "B"] } := by
  decide

end SqlMapper
