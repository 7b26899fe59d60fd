import SqlMapper.Retry
import SqlMapper.Statement.Basic

/-!
# Reading

Statements that read rows.

A query names its tables and what to return of them; conditions, grouping, order
and a limit are optional. Counting and summing are projections of their own, so
that the query behind a page can be counted without being written twice. Pages
count from one, and arithmetic that would leave 64 bits stays at the largest
number.

## Main definitions

* `Projection`: What a query returns.
* `SelectQuery`: A query.
* `SelectQuery.compile`: The statement of a query.
* `SelectQuery.aggregate`: The same rows, counted or summed.
* `SelectQuery.page`: One page of a query.
* `totalPages`: How many pages there are.
-/

namespace SqlMapper

/-- A direction of sorting. -/
inductive Order where
  /-- From the least to the greatest. -/
  | ascending
  /-- From the greatest to the least. -/
  | descending
  deriving Repr, DecidableEq

/-- What a query returns. -/
inductive Projection where
  /-- Every column. -/
  | all
  /-- Some columns. -/
  | fields (names : List String)
  /-- The number of rows, as `total`. -/
  | count
  /-- The sum of a column, as `total`. -/
  | sum (field : String)
  deriving Repr, DecidableEq

/-- How many rows a query may return. -/
inductive Limit where
  /-- So many rows. -/
  | first (count : UInt64)
  /-- So many rows behind an offset. -/
  | window (offset : UInt64) (count : UInt64)
  deriving Repr, DecidableEq

/-- A query. -/
structure SelectQuery where
  /-- The tables; several are joined implicitly. -/
  tables : List String
  /-- What is returned. -/
  projection : Projection := .all
  /-- Whether equal rows are returned once. -/
  distinct : Bool := false
  /-- The conditions. -/
  conditions : Option Conditions := none
  /-- The fields rows are grouped by. -/
  groupBy : List String := []
  /-- The fields rows are sorted by. -/
  orderBy : List (String × Order) := []
  /-- How many rows are returned. -/
  limit : Option Limit := none
  deriving DecidableEq

/-- The keyword of a direction. -/
def Order.keyword : Order → String
  | .ascending => "ASC"
  | .descending => "DESC"

/-- A field of a projection: a star stands for every column. -/
def projectedField (field : String) : Except Error String :=
  if field = "*" then .ok "*" else quoteField field

/-- A projection as the statement writes it. -/
def Projection.compile : Projection → Except Error String
  | .all => .ok "*"
  | .fields [] => .ok "*"
  | .fields names => do return ", ".intercalate (← names.mapM projectedField)
  | .count => .ok "COUNT(*) AS `total`"
  | .sum field => do return "SUM(" ++ (← projectedField field) ++ ") AS `total`"

/-- A list of fields behind its keywords; nothing for an empty list. -/
def fieldClause (keywords : String) (fields : List String) : String :=
  if fields.isEmpty then "" else keywords ++ ", ".intercalate fields

/-- A limit as the statement writes it. -/
def limitClause : Option Limit → String
  | none => ""
  | some (.first count) => " LIMIT " ++ toString count.toNat
  | some (.window offset count) =>
    " LIMIT " ++ toString offset.toNat ++ "," ++ toString count.toNat

namespace SelectQuery

/-- The statement of a query. The tables are checked first, then the projection, the conditions,
    the grouping and the order. -/
def compile (q : SelectQuery) : Except Error Statement := do
  if q.tables.isEmpty then
    throw (.field "table" "select needs at least one table")
  -- The order of these steps decides which of two faults is reported.
  let tables ← q.tables.mapM quoteTable
  let projection ← q.projection.compile
  let (conditions, binds) ← whereClause q.conditions
  let groups ← q.groupBy.mapM quoteField
  let orders ← q.orderBy.mapM fun o => do return (← quoteField o.1) ++ " " ++ o.2.keyword
  return {
    sql := "SELECT " ++ (if q.distinct then "DISTINCT " else "") ++ projection ++ " FROM "
      ++ ", ".intercalate tables ++ conditions ++ fieldClause " GROUP BY " groups
      ++ fieldClause " ORDER BY " orders ++ limitClause q.limit ++ ";"
    binds := binds
    tables := q.tables
    readonly := true }

/-- The rows of a query counted or summed: neither duplicates, order nor limit matter. -/
def aggregate (q : SelectQuery) (projection : Projection) : SelectQuery :=
  { q with projection := projection, distinct := false, orderBy := [], limit := none }

/-- The offset of a page, counted from one; page zero is taken for the first. -/
def pageOffset (page size : UInt64) : UInt64 :=
  cappedProduct (if page = 0 then 0 else page - 1) size

/-- One page of a query, in place of any other limit. -/
def page (q : SelectQuery) (page size : UInt64) : SelectQuery :=
  { q with limit := some (.window (pageOffset page size) size) }

end SelectQuery

/-- How many pages of a size so many rows fill; none for pages without rows. -/
def totalPages (total size : UInt64) : UInt64 :=
  if size = 0 then 0 else total / size + (if total % size = 0 then 0 else 1)

/-- One page of results, and how many rows there are in all. -/
structure Page (α : Type) where
  /-- The rows of the page. -/
  items : List α
  /-- How many rows there are on all pages. -/
  total : UInt64
  /-- The number of the page, as it was asked for. -/
  page : UInt64
  /-- How many rows a page holds. -/
  size : UInt64

/-- How many pages there are. -/
def Page.totalPages {α : Type} (p : Page α) : UInt64 :=
  SqlMapper.totalPages p.total p.size

end SqlMapper
