import SqlMapper.Proofs.Cache.Tracking
import SqlMapper.Proofs.Statement.Refusals

/-!
# Invalid Queries

What becomes of a query that cannot be compiled.

A query is compiled before it is sent, so one that cannot be compiled is refused
with nothing but a report in the log: nothing is sent, nothing is looked up or
cached, and the session and the counts of writes are the same. This holds for
every query and for every way of executing it but one. A page is preceded by the
number of all rows, and the query that counts them leaves out the projection and
the order. If these are all that is wrong with the query, the rows are counted
on the database before the query is refused.

## Main definitions

* `Operation.query?`: The query that an operation executes.
* `Operation.CountsFirst`: Whether rows are counted before the query is compiled.
* `State.reported`: A state with the report about an error.

## Theorems

* `page_of_invalid`: A page of an invalid query is refused behind the counting.
* `invalid_query_refused`: Any other execution is refused at once.
* `invalid_page_counted`: Rows may be counted for a query that is refused.
-/

namespace SqlMapper

variable {η σ : Type}

/-- A state with the report about an error. -/
def State.reported (s : State η σ) (e : Error) : State η σ :=
  { s with around := { s.around with log := s.around.log ++ e.record?.toList } }

/-- The query that an operation executes. To count or to sum rows is to execute another query. -/
def Operation.query? : Operation → Option Query
  | .read s .rows | .read s (.records _) | .read s .page | .read s (.recordPage _) =>
    some (.select s.query)
  | .insert q => some (.insert q)
  | .update q => some (.update q)
  | .delete q => some (.delete q)
  | _ => none

/-- Whether an operation has rows counted before it compiles its query: it asks for a page, and the
    query that counts can be compiled. -/
def Operation.CountsFirst : Operation → Prop
  | .read s .page | .read s (.recordPage _) =>
    s.page.isSome = true ∧ ∃ counting, (s.query.aggregate .count).compile = .ok counting
  | _ => False

namespace Database

variable (db : Database η σ) {e : Error}

theorem rows_of_invalid {q : SelectQuery} (h : q.compile = .error e) :
    db.rows q = Attempt.raise e := by
  rw [rows, h]
  rfl

theorem total_of_invalid {q : SelectQuery} (h : (q.aggregate .count).compile = .error e) :
    db.total q = Attempt.raise e := by
  rw [total, h]
  rfl

/-- A page of an invalid query is refused, but only after the rows have been counted. -/
theorem page_of_invalid {s : Selection} (h : s.query.compile = .error e) {page : UInt64 × UInt64}
    (hpage : s.page = some page) :
    db.page s = (do
      let _ ← db.total s.query
      Attempt.raise e) := by
  unfold Database.page
  rw [hpage]
  dsimp only
  rw [db.rows_of_invalid h]
  rfl

/-- Without rows to count, a page of an invalid query is refused at once. -/
theorem page_refused {s : Selection} (h : s.query.compile = .error e)
    (hcount : ¬ (Operation.read s .page).CountsFirst) :
    ∃ e' : Error, e'.isField = true ∧ db.page s = Attempt.raise e' := by
  cases hpage : s.page with
  | none =>
      refine ⟨.field "page" "commit_paginated requires page()", rfl, ?_⟩
      unfold Database.page
      rw [hpage]
  | some page =>
      cases hcounting : (s.query.aggregate .count).compile with
      | error e' =>
          refine ⟨e', SelectQuery.refusing _ _ hcounting, ?_⟩
          rw [db.page_of_invalid h hpage, db.total_of_invalid hcounting]
          rfl
      | ok counting =>
          exact absurd ⟨hpage ▸ rfl, counting, hcounting⟩ hcount

end Database

theorem Query.refusing (d : Dialect) (q : Query) : Refusing (q.compile d) := by
  cases q with
  | select q => exact q.refusing
  | insert q => exact q.refusing d
  | update q => exact q.refusing
  | delete q => exact q.refusing

/-- Reading an invalid selection raises the refusal of a field. -/
theorem Reading.perform_of_invalid {db : Database η σ} {s : Selection} {use : Reading} {e : Error}
    (huse : (Operation.read s use).query? = some (.select s.query))
    (h : s.query.compile = .error e) (hcount : ¬ (Operation.read s use).CountsFirst) :
    ∃ e' : Error, e'.isField = true ∧ use.perform db s = Attempt.raise e' := by
  have hfield := s.query.refusing e h
  cases use with
  | count => cases huse
  | sum field => cases huse
  | rows =>
      refine ⟨e, hfield, ?_⟩
      rw [perform, db.rows_of_invalid h]
      rfl
  | records entity =>
      refine ⟨e, hfield, ?_⟩
      rw [perform, Database.records, db.rows_of_invalid h]
      rfl
  | page =>
      rcases db.page_refused h hcount with ⟨e', hfield', hpage⟩
      refine ⟨e', hfield', ?_⟩
      rw [perform, hpage]
      rfl
  | recordPage entity =>
      rcases db.page_refused h hcount with ⟨e', hfield', hpage⟩
      refine ⟨e', hfield', ?_⟩
      rw [perform, Database.recordPage, hpage]
      rfl

/-- An operation that executes an invalid query raises the refusal of a field. -/
theorem Operation.perform_of_invalid {db : Database η σ} {op : Operation} {q : Query} {e : Error}
    (hop : op.query? = some q) (h : q.compile db.dialect = .error e) (hcount : ¬ op.CountsFirst) :
    ∃ e' : Error, e'.isField = true ∧ op.perform db = Attempt.raise e' := by
  have hfield := q.refusing db.dialect e h
  cases op with
  | read s use =>
      have hq : q = .select s.query := by cases use <;> cases hop <;> rfl
      subst hq
      exact Reading.perform_of_invalid hop h hcount
  | insert q =>
      cases hop
      refine ⟨e, hfield, ?_⟩
      rw [perform, Database.insert, show q.compile db.dialect = _ from h]
      rfl
  | update q =>
      cases hop
      refine ⟨e, hfield, ?_⟩
      rw [perform, Database.update, show q.compile = _ from h]
      rfl
  | delete q =>
      cases hop
      refine ⟨e, hfield, ?_⟩
      rw [perform, Database.delete, show q.compile = _ from h]
      rfl
  | _ => cases hop

/-- An operation that executes an invalid query is refused with a report and nothing else, unless it
    counts rows first. -/
theorem invalid_query_refused (db : Database η σ) {op : Operation} {q : Query} {e : Error}
    (hop : op.query? = some q) (h : q.compile db.dialect = .error e) (hcount : ¬ op.CountsFirst)
    (s : State η σ) :
    ∃ e' : Error, e'.isField = true
      ∧ (op.perform db).run.run s = (.error (.failed e'), s.reported e') := by
  rcases op.perform_of_invalid hop h hcount with ⟨e', hfield, hraise⟩
  exact ⟨e', hfield, hraise ▸ Attempt.raise_run e' s⟩

/-- A page whose conditions are at fault is refused at once. -/
theorem invalid_page_refused :
    let s : Selection := ({ query := {
      tables := ["t"], conditions := some (({ } : Conditions).equals "a b" (.scalar (.int 1)))
      } } : Selection).paged 2 10
    let e := Error.field "a b" "disallowed field name"
    (Operation.read s .page).query? = some (.select s.query)
      ∧ (Query.select s.query).compile .sqlite = .error e
      ∧ ¬ (Operation.read s .page).CountsFirst
      ∧ ∃ e' : Error, e'.isField = true
        ∧ ((Operation.read s .page).perform Database.scripted.recorded).run.run (.scripted { })
          = (.error (.failed e'), (State.scripted { }).reported e') := by
  intro s e
  have hcount : ¬ (Operation.read s .page).CountsFirst := by
    rintro ⟨-, counting, hcounting⟩
    cases hcounting
  exact ⟨rfl, rfl, hcount, invalid_query_refused Database.scripted.recorded rfl rfl hcount _⟩

/-- The rows are counted for a page whose order is at fault: one statement reaches the session. -/
theorem invalid_page_counted :
    let s : Selection := ({ query := {
      tables := ["t"], orderBy := [("id desc; --", .ascending)] } } : Selection).paged 1 10
    (Query.select s.query).compile .sqlite
        = .error (.field "id desc; --" "disallowed field name")
      ∧ (((Operation.read s .page).perform Database.once.recorded).run.run
        (.scripted { })).2.contacts.length = 1 := by
  intro s
  refine ⟨rfl, ?_⟩
  have hpage := Database.once.recorded.page_of_invalid (s := s)
    (e := .field "id desc; --" "disallowed field name") rfl rfl
  rw [Operation.perform, Reading.perform, hpage]
  simp only [Database.total, Database.execute, Database.executeDirect, Database.once_sendRetrying]
  decide +kernel

end SqlMapper
