import SqlMapper.Statement.Basic

/-!
# Updating and Deleting

Statements that change or remove rows.

An update is a list of assignments, named or raw. A named assignment gets a
fresh placeholder; a raw one goes through as it is. The bindings of the
conditions join those of the assignments.

## Main definitions

* `Assignment`: One assignment.
* `UpdateQuery`: Rows to change.
* `UpdateQuery.compile`: The statement.
* `DeleteQuery`: Rows to remove.
* `DeleteQuery.compile`: The statement.
-/

namespace SqlMapper

/-- One assignment of an update. -/
inductive Assignment where
  /-- A column gets a value. -/
  | named (key : String) (value : Value)
  /-- A fragment of SQL. -/
  | raw (sql : String)
  deriving DecidableEq

/-- Rows to change. -/
structure UpdateQuery where
  /-- The table. -/
  table : String
  /-- The assignments. -/
  assignments : List Assignment := []
  /-- Which rows; every row without conditions. -/
  conditions : Option Conditions := none
  deriving DecidableEq

/-- Rows to remove. -/
structure DeleteQuery where
  /-- The table. -/
  table : String
  /-- Which rows; every row without conditions. -/
  conditions : Option Conditions := none
  deriving DecidableEq

/-- Assignments compiled so far. -/
structure AssignmentList where
  /-- The bindings. -/
  binds : Binds := ∅
  /-- The assignments as the statement writes them. -/
  sets : List String := []

/-- One more assignment. -/
def AssignmentList.add (l : AssignmentList) : Assignment → Except Error AssignmentList
  | .named key value => do
    checkIdentifier key
    let placeholder := freshPlaceholder (":_UPDATE_" ++ underscored key) l.binds
    return {
      binds := l.binds.insert placeholder value
      sets := l.sets ++ [quotePath key ++ " = " ++ placeholder] }
  | .raw sql => .ok { l with sets := l.sets ++ [sql] }

/-- The statement of an update. -/
def UpdateQuery.compile (q : UpdateQuery) : Except Error Statement := do
  let table ← quoteTable q.table
  if q.assignments.isEmpty then
    throw (.field "set" "update needs at least one assignment")
  let assigned ← q.assignments.foldlM AssignmentList.add { }
  let (conditions, binds) ← whereClause q.conditions
  return {
    sql := "UPDATE " ++ table ++ " SET " ++ ", ".intercalate assigned.sets ++ conditions ++ ";"
    binds := assigned.binds.extend binds
    tables := [q.table]
    readonly := false }

/-- The statement of a removal. -/
def DeleteQuery.compile (q : DeleteQuery) : Except Error Statement := do
  let table ← quoteTable q.table
  let (conditions, binds) ← whereClause q.conditions
  return {
    sql := "DELETE FROM " ++ table ++ conditions ++ ";"
    binds := binds
    tables := [q.table]
    readonly := false }

end SqlMapper
