import SqlMapper.Proofs.Client.Recorded

/-!
# Fates

What becomes of a statement that has succeeded.

A statement that succeeds outside of transactions lasts. Inside it waits, and
what comes next on the connection decides: it lasts if the transaction is
committed, and it is undone if the transaction is rolled back or the session is
replaced by another, which is all that a database knows of it. Beginning a
transaction while one is open commits that, where it is not refused. A call that
fails decides nothing, not even a rollback.

None of this depends on what the engine believes. It is read off the contacts,
and what comes next may be anything.

## Main definitions

* `Fate`: What becomes of a statement.
* `Contact.verdict?`: What a contact decides about the open transaction.
* `hasOpen`: Whether a transaction is open behind some contacts.
* `fate`: What becomes of a statement, by what comes behind it.
* `accepted`: The statements that have succeeded.
* `fates`: What becomes of each of them.
* `Quiet`: Contacts that decide nothing.
* `Fruitless`: Contacts that leave nothing behind.
* `Ran`: Statements that were run in an open transaction.
* `Stands`: Statements that share the fate of what is run behind them.

## Theorems

* `fate_append_of_ne`: A fate that is decided is final.
* `hasOpen_of_waiting`: As long as a statement waits, its transaction is open.
* `fates_append`: Some contacts, and then others.
* `fates_quiet`: Statements that nothing comes in between share their fate.
* `fates_enclosed`: What becomes of the statements of a transaction, by its end.
-/

namespace SqlMapper

variable {η : Type}

/-- What becomes of a statement that has succeeded. -/
inductive Fate where
  -- Its transaction is still open.
  | waiting
  -- It has been committed.
  | lasting
  -- It has been given up.
  | undone
  deriving DecidableEq

namespace Contact

/-- What a contact decides about the transaction that is open: whether it is committed or given
    up. -/
def verdict? : Contact η → Option Fate
  | .call _ .commit true | .call _ .begin true => some .lasting
  | .call _ .rollback true | .connect (some _) => some .undone
  | _ => none

/-- The statement that was sent, if it changes something and has succeeded. -/
def accepted? : Contact η → Option String
  | .call _ (.execute sql _) true => some sql
  | _ => none

/-- Whether a transaction is open behind a contact. -/
def leavesOpen (before : Bool) : Contact η → Bool
  | .call _ .begin true => true
  | .call _ .commit true | .call _ .rollback true | .connect (some _) => false
  | _ => before

theorem leavesOpen_of_none {c : Contact η} (h : c.verdict? = none) (before : Bool) :
    c.leavesOpen before = before := by
  rcases c with (_ | _) | ⟨_, _ | _ | _ | _ | _, _ | _⟩
  all_goals first | rfl | cases h

end Contact

/-- Whether a transaction is open behind some contacts. -/
def hasOpen (before : Bool) (contacts : List (Contact η)) : Bool :=
  contacts.foldl Contact.leavesOpen before

/-- What becomes of a statement, by whether it was run in a transaction and by what comes next. -/
def fate (inTransaction : Bool) (later : List (Contact η)) : Fate :=
  if inTransaction then (later.findSome? Contact.verdict?).getD .waiting else .lasting

/-- The statements that have succeeded. -/
def accepted (contacts : List (Contact η)) : List String :=
  contacts.filterMap Contact.accepted?

/-- What becomes of the statements that have succeeded, by whether a transaction was open before
    them and by what comes next. -/
def fates (before : Bool) : List (Contact η) → List (Contact η) → List (String × Fate)
  | [], _ => []
  | c :: rest, later =>
    (c.accepted?.map fun sql => (sql, fate before (rest ++ later))).toList
      ++ fates (c.leavesOpen before) rest later

/-- Contacts that decide nothing. -/
def Quiet (contacts : List (Contact η)) : Prop :=
  ∀ c ∈ contacts, c.verdict? = none

section

variable (before : Bool) (first second later : List (Contact η))

theorem hasOpen_append :
    hasOpen before (first ++ second) = hasOpen (hasOpen before first) second :=
  List.foldl_append

theorem accepted_append : accepted (first ++ second) = accepted first ++ accepted second :=
  List.filterMap_append

/-- Some contacts, and then others. -/
theorem fates_append : fates before (first ++ second) later
    = fates before first (second ++ later) ++ fates (hasOpen before first) second later := by
  induction first generalizing before with
  | nil => rfl
  | cons c rest ih =>
      have hrest := ih (c.leavesOpen before)
      rw [List.cons_append, fates, fates, hrest, ← List.append_assoc, ← List.append_assoc]
      rfl

/-- A fate is known of every statement that has succeeded. -/
theorem map_fst_fates : (fates before first later).map Prod.fst = accepted first := by
  induction first generalizing before with
  | nil => rfl
  | cons c rest ih =>
      rw [fates, List.map_append, ih (c.leavesOpen before), accepted, accepted,
        List.filterMap_cons]
      cases c.accepted? <;> rfl

theorem fates_of_accepted_nil (h : accepted first = []) : fates before first later = [] := by
  have hnames := map_fst_fates before first later
  rw [h] at hnames
  exact List.map_eq_nil_iff.mp hnames

end

namespace Quiet

variable {contacts : List (Contact η)}

theorem append {others : List (Contact η)} (h : Quiet contacts) (hothers : Quiet others) :
    Quiet (contacts ++ others) := by
  intro c hc
  rcases List.mem_append.mp hc with hc | hc
  · exact h c hc
  · exact hothers c hc

theorem hasOpen (h : Quiet contacts) (before : Bool) : hasOpen before contacts = before := by
  induction contacts with
  | nil => rfl
  | cons c rest ih =>
      rw [SqlMapper.hasOpen, List.foldl_cons, Contact.leavesOpen_of_none (h c List.mem_cons_self)]
      exact ih fun d hd => h d (List.mem_cons_of_mem _ hd)

theorem fate (h : Quiet contacts) (inTransaction : Bool) (later : List (Contact η)) :
    fate inTransaction (contacts ++ later) = fate inTransaction later := by
  have hnone : contacts.findSome? Contact.verdict? = none := List.findSome?_eq_none_iff.mpr h
  rw [SqlMapper.fate, SqlMapper.fate, List.findSome?_append, hnone, Option.none_or]

end Quiet

/-- Statements that nothing comes in between share their fate, which is that of a statement that
    would be run behind them. -/
theorem fates_quiet {contacts : List (Contact η)} (h : Quiet contacts) (before : Bool)
    (later : List (Contact η)) :
    fates before contacts later = (accepted contacts).map fun sql => (sql, fate before later) := by
  induction contacts with
  | nil => rfl
  | cons c rest ih =>
      have hrest : Quiet rest := fun d hd => h d (List.mem_cons_of_mem _ hd)
      rw [fates, Contact.leavesOpen_of_none (h c List.mem_cons_self), ih hrest, hrest.fate,
        accepted, accepted, List.filterMap_cons]
      cases c.accepted? <;> rfl

/-- A contact that decides something decides it for what waits. -/
theorem fate_cons_of_verdict {c : Contact η} {verdict : Fate} (h : c.verdict? = some verdict)
    (later : List (Contact η)) : fate true (c :: later) = verdict := by
  rw [fate, if_pos rfl, List.findSome?_cons, h]
  rfl

/-- A fate that is decided is final. -/
theorem fate_append_of_ne {inTransaction : Bool} {later : List (Contact η)}
    (h : fate inTransaction later ≠ .waiting) (more : List (Contact η)) :
    fate inTransaction (later ++ more) = fate inTransaction later := by
  cases inTransaction with
  | false => rfl
  | true =>
      rw [fate, fate, if_pos rfl, if_pos rfl, List.findSome?_append]
      cases hverdict : later.findSome? Contact.verdict? with
      | none =>
          rw [fate, if_pos rfl, hverdict] at h
          exact absurd rfl h
      | some verdict => rfl

/-- As long as a statement waits, its transaction is open. -/
theorem hasOpen_of_waiting {before : Bool} {later : List (Contact η)}
    (h : fate before later = .waiting) : hasOpen before later = true := by
  cases before with
  | false => cases h
  | true =>
      rw [fate, if_pos rfl] at h
      cases hverdict : later.findSome? Contact.verdict? with
      | none => exact Quiet.hasOpen (List.findSome?_eq_none_iff.mp hverdict) true
      | some verdict =>
          -- A verdict is never that something waits.
          rw [hverdict] at h
          rcases List.exists_of_findSome?_eq_some hverdict with ⟨c, -, hc⟩
          rw [show verdict = .waiting from h] at hc
          rcases c with (_ | _) | ⟨_, _ | _ | _ | _ | _, _ | _⟩
          all_goals cases hc

/-- Contacts that leave nothing behind: no statement succeeds, and no transaction is begun. -/
structure Fruitless (made : List (Contact η)) : Prop where
  accepted : accepted made = []
  closed : hasOpen false made = false

namespace Fruitless

variable {first second : List (Contact η)}

theorem nil : Fruitless ([] : List (Contact η)) := ⟨rfl, rfl⟩

theorem append (hfirst : Fruitless first) (hsecond : Fruitless second) :
    Fruitless (first ++ second) where
  accepted := by rw [accepted_append, hfirst.accepted, hsecond.accepted, List.append_nil]
  closed := by rw [hasOpen_append, hfirst.closed, hsecond.closed]

theorem refused (h : η) (request : Request) : Fruitless [.call h request false] := by
  cases request <;> exact ⟨rfl, rfl⟩

theorem queried (h : η) (sql : String) (binds : Binds) (succeeded : Bool) :
    Fruitless [.call h (.query sql binds) succeeded] := by
  cases succeeded <;> exact ⟨rfl, rfl⟩

theorem dialed (session : Option η) : Fruitless [.connect session] := by
  cases session <;> exact ⟨rfl, rfl⟩

end Fruitless

/-- Statements that were run in an open transaction. -/
structure Ran (made : List (Contact η)) (statements : List String) : Prop where
  quiet : Quiet made
  accepted : accepted made = statements

namespace Ran

variable {first second : List (Contact η)} {statements others : List String}

theorem nil : Ran ([] : List (Contact η)) [] := ⟨fun _ hc => absurd hc List.not_mem_nil, rfl⟩

theorem append (hfirst : Ran first statements) (hsecond : Ran second others) :
    Ran (first ++ second) (statements ++ others) where
  quiet := hfirst.quiet.append hsecond.quiet
  accepted := by rw [accepted_append, hfirst.accepted, hsecond.accepted]

end Ran

/-- What becomes of the statements of a transaction, by its end. -/
theorem fates_enclosed {inner last : List (Contact η)} {statements : List String}
    (hinner : Ran inner statements) (hlast : accepted last = []) (first : η) (before : Bool)
    (later : List (Contact η)) :
    fates before (.call first .begin true :: inner ++ last) later
      = statements.map fun sql => (sql, fate true (last ++ later)) := by
  have hbegin : fates before (.call first .begin true :: inner ++ last) later
      = fates true (inner ++ last) later := rfl
  rw [hbegin, fates_append, fates_of_accepted_nil _ last later hlast, List.append_nil,
    fates_quiet hinner.quiet, hinner.accepted]

theorem hasOpen_enclosed {inner : List (Contact η)} (hinner : Quiet inner)
    (last : List (Contact η)) (first : η) (before : Bool) :
    hasOpen before (.call first .begin true :: inner ++ last) = hasOpen true last := by
  have hbegin : hasOpen before (.call first .begin true :: inner ++ last)
      = hasOpen true (inner ++ last) := rfl
  rw [hbegin, hasOpen_append, hinner.hasOpen]

/-- Statements share the fate of whatever is run behind them, and no transaction is left open for
    them. -/
structure Stands (before : Bool) (made : List (Contact η)) (statements : List String) : Prop where
  shared : ∀ later, fates before made later
    = statements.map fun sql => (sql, fate (hasOpen before made) later)
  closed : before = false → hasOpen before made = false

namespace Stands

variable {before : Bool} {first made : List (Contact η)} {statements : List String}

theorem of_fruitless (h : Fruitless made) : Stands before made [] where
  shared later := fates_of_accepted_nil before made later h.accepted
  closed := by
    rintro rfl
    exact h.closed

theorem of_ran (h : Ran made statements) : Stands before made statements where
  shared later := by rw [fates_quiet h.quiet, h.accepted, h.quiet.hasOpen]
  closed hbefore := by rw [h.quiet.hasOpen, hbefore]

-- A statement that succeeds behind attempts that fail.
theorem last (h : Fruitless first) (session : η) (sql : String) (binds : Binds) :
    Stands before (first ++ [.call session (.execute sql binds) true]) [sql] where
  shared later := by
    rw [fates_append, fates_of_accepted_nil before first _ h.accepted, hasOpen_append]
    rfl
  closed := by
    rintro rfl
    rw [hasOpen_append, h.closed]
    rfl

/-- What leaves nothing behind may come first. -/
theorem behind (hfirst : Fruitless first) (h : Stands (hasOpen before first) made statements) :
    Stands before (first ++ made) statements where
  shared later := by
    rw [fates_append, fates_of_accepted_nil before first _ hfirst.accepted, List.nil_append,
      h.shared later, hasOpen_append]
  closed := by
    rintro rfl
    rw [hasOpen_append]
    exact h.closed hfirst.closed

theorem committed (h : Ran made statements) (first last : η) :
    Stands before (.call first .begin true :: made ++ [.call last .commit true]) statements := by
  have hopen : hasOpen before (.call first .begin true :: made ++ [.call last .commit true])
      = false := hasOpen_enclosed h.quiet _ first before
  constructor
  · intro later
    have hfate : fate true ([.call last .commit true] ++ later) = .lasting :=
      fate_cons_of_verdict rfl later
    rw [fates_enclosed h rfl, hopen, hfate]
    rfl
  · exact fun _ => hopen

end Stands

/-- The fate of every statement that a connection has run so far. -/
def State.fates {σ : Type} (s : State η (Recorded η σ)) : List (String × Fate) :=
  SqlMapper.fates false s.contacts []

/-- Whether a connection has a transaction open. -/
def State.hasOpen {σ : Type} (s : State η (Recorded η σ)) : Bool :=
  SqlMapper.hasOpen false s.contacts

/-- A statement that is run at once, one that is rolled back, and one whose rollback is refused
    before the next transaction is begun. -/
example :
    fates false ([.call () (.execute "A" ∅) true, .call () .begin true,
      .call () (.execute "B" ∅) true, .call () .rollback true, .call () .begin true,
      .call () (.execute "C" ∅) true, .call () .rollback false, .call () .begin true] :
        List (Contact Unit)) [] = [("A", .lasting), ("B", .undone), ("C", .lasting)] := by
  decide

end SqlMapper
