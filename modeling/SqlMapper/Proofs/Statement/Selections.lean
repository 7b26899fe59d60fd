import SqlMapper.Proofs.Statement.Checks
import SqlMapper.Proofs.Statement.Filtering

/-!
# Accepted Selections

What it takes for a selection to compile, and the text that it has then.

A selection has a table, and every name in it is an identifier; where fields are
shown or summed, a star may stand for all of them. Nothing else is asked: a field
need not be in a table, a group need not be shown, and a limit may be any number.
The conditions of a selection are compiled by themselves, and they stand in one
place of the text. Nothing around them depends on what they say.

## Main definitions

* `Projection.names`, `Projection.text`: The fields of a projection, and how it is written.
* `SelectQuery.IsSound`: What is asked of a selection.
* `SelectQuery.text`: The text of a selection that is accepted.
* `SelectQuery.Unconditional`: Nothing is demanded of the rows.

## Theorems

* `Projection.compile_eq_ok_iff`: What it takes for a projection to compile.
* `SelectQuery.compile_eq_ok_iff`: A sound selection has its text, if its conditions have theirs.
* `SelectQuery.compile_unconditional_iff`: The same without conditions.
-/

namespace SqlMapper

/-- The fields that a projection names. -/
def Projection.names : Projection → List String
  | .all | .count => []
  | .fields names => names
  | .sum field => [field]

/-- A projection as the statement writes it, if its fields are acceptable. -/
def Projection.text : Projection → String
  | .all | .fields [] => "*"
  | .fields names => ", ".intercalate (names.map fieldText)
  | .count => "COUNT(*) AS `total`"
  | .sum field => "SUM(" ++ fieldText field ++ ") AS `total`"

/-- A field and its direction as the statement writes them. -/
def orderText (o : String × Order) : String :=
  quotePath o.1 ++ " " ++ o.2.keyword

namespace SelectQuery

/-- Nothing is demanded of the rows. -/
def Unconditional (q : SelectQuery) : Prop :=
  ∀ c ∈ q.conditions, c.clauses = []

/-- What is asked of a selection, apart from its conditions. -/
structure IsSound (q : SelectQuery) : Prop where
  hasTables : q.tables ≠ []
  tables : ∀ table ∈ q.tables, isIdentifier table = true
  projection : ∀ field ∈ q.projection.names, isIdentifier field = true ∨ field = "*"
  groupBy : ∀ field ∈ q.groupBy, isIdentifier field = true
  orderBy : ∀ o ∈ q.orderBy, isIdentifier o.1 = true

/-- The text of a selection that is accepted, around the clause of its conditions. -/
def text (q : SelectQuery) (conditions : String) : String :=
  "SELECT " ++ (if q.distinct then "DISTINCT " else "") ++ q.projection.text ++ " FROM "
    ++ ", ".intercalate (q.tables.map quotePath) ++ conditions
    ++ fieldClause " GROUP BY " (q.groupBy.map quotePath)
    ++ fieldClause " ORDER BY " (q.orderBy.map orderText) ++ limitClause q.limit ++ ";"

end SelectQuery

theorem Projection.compile_eq_ok_iff (p : Projection) (text : String) :
    p.compile = .ok text
      ↔ (∀ field ∈ p.names, isIdentifier field = true ∨ field = "*") ∧ text = p.text := by
  have hplain : ∀ whole : String, (Except.ok whole : Except Error String) = .ok text
      ↔ (∀ field ∈ ([] : List String), isIdentifier field = true ∨ field = "*")
        ∧ text = whole := fun whole => by
    rw [Except.ok.injEq, eq_comm, and_iff_right nofun]
  cases p with
  | all => exact hplain "*"
  | fields names =>
      cases names with
      | nil => exact hplain "*"
      | cons name names =>
          exact bind_pure_eq_ok_iff (fun _ => mapM_eq_ok_iff projectedField_eq_ok_iff) _
  | count => exact hplain _
  | sum field =>
      rw [Projection.names, List.forall_mem_singleton]
      exact bind_pure_eq_ok_iff (projectedField_eq_ok_iff field) _

theorem quoteOrder_eq_ok_iff (o : String × Order) (text : String) :
    (do return (← quoteField o.1) ++ " " ++ o.2.keyword : Except Error String) = .ok text
      ↔ isIdentifier o.1 = true ∧ text = orderText o :=
  bind_pure_eq_ok_iff (quoteField_eq_ok_iff o.1) fun field => field ++ " " ++ o.2.keyword

namespace SelectQuery

/-- A sound selection has its text, if its conditions have theirs, and no other selection has
    one. -/
theorem compile_eq_ok_iff {q : SelectQuery} {s : Statement} :
    q.compile = .ok s
      ↔ q.IsSound ∧ ∃ w, whereClause q.conditions = .ok w
        ∧ s = { sql := q.text w.1, binds := w.2, tables := q.tables, readonly := true } := by
  unfold compile
  refine check_eq_ok_iff.trans ?_
  simp only [bind_eq_ok_iff, mapM_eq_ok_iff quoteTable_eq_ok_iff, Projection.compile_eq_ok_iff,
    mapM_eq_ok_iff quoteField_eq_ok_iff, mapM_eq_ok_iff quoteOrder_eq_ok_iff, List.isEmpty_iff]
  constructor
  · rintro ⟨hsome, _, ⟨htables, rfl⟩, _, ⟨hprojection, rfl⟩, w, hw, _, ⟨hgroups, rfl⟩, _,
      ⟨horders, rfl⟩, hs⟩
    cases hs
    exact ⟨⟨hsome, htables, hprojection, hgroups, horders⟩, w, hw, rfl⟩
  · rintro ⟨h, w, hw, rfl⟩
    exact ⟨h.hasTables, _, ⟨h.tables, rfl⟩, _, ⟨h.projection, rfl⟩, w, hw, _, ⟨h.groupBy, rfl⟩,
      _, ⟨h.orderBy, rfl⟩, rfl⟩

/-- Without conditions, being sound is all that it takes. -/
theorem compile_unconditional_iff {q : SelectQuery} {s : Statement} (h : q.Unconditional) :
    q.compile = .ok s
      ↔ q.IsSound ∧ s = { sql := q.text "", binds := ∅, tables := q.tables, readonly := true } := by
  have hwhere : whereClause q.conditions = .ok ("", ∅) := by
    rcases hconditions : q.conditions with _ | c
    · rfl
    · exact whereClause_no_clauses (h c hconditions)
  rw [compile_eq_ok_iff, hwhere]
  simp only [Except.ok.injEq, exists_eq_left']

end SelectQuery

end SqlMapper
