import Mathlib.Data.List.Sort
import SqlMapper.Engine.Query

/-!
# Evaluating Queries

What a query means, given what its tables hold.

A query draws combinations of rows, one row of each of its tables, and keeps
those that meet its conditions. Grouping puts together the combinations that
agree on some fields; counting and summing without grouping put all of them
together, even if there are none. Each group becomes one row, duplicates are
removed if the query says so, the rows are sorted, and last of all a limit cuts
out some of them.

How a condition is read, and which values are the same or come before others, is
a matter of the database and its collations. These are the parameters of the
evaluation, collected in `Semantics`. What a group shows of its combinations
outside of counting and summing is shown of its first.

A page is a limit, so the rows of a page are the rows of the whole query at the
places of that page. The number that is asked for beside a page is the number of
rows of another query, without order, limit or duplicates removed; that it is the
number of groups if the query groups, and of combinations otherwise, makes it the
number of rows of the whole query but for its duplicates.

## Main definitions

* `Semantics`: What a database makes of conditions and values.
* `Semantics.unlimited`: The rows of a query but for its limit.
* `Limit.slice`: The rows that a limit leaves.
* `Semantics.evaluate`: The rows of a query.

## Theorems

* `length_firsts_le`: Removing duplicates adds no rows.
* `slice_page`: The rows that the limit of a page leaves.
* `length_unlimited`: Without duplicates removed there is a row for each group.
* `countedRows_evaluate`: The number that is asked for is the number of rows before that.
-/

namespace SqlMapper

variable {α : Type}

/-- A column can show numbers of rows below this. -/
def countedBelow : Nat := 0x8000000000000000

/-- Rows of the tables of a query, one of each. -/
abbrev Combination :=
  List Row

/-- What a database makes of conditions and values. -/
structure Semantics where
  -- Whether a combination meets conditions.
  meets : Conditions → Combination → Bool
  -- The value of a field.
  value : String → Combination → Value
  -- The name under which the value of a field is returned.
  label : String → String
  -- Whether two values count as one.
  same : Value → Value → Bool
  -- Whether a value comes before another, or may stand in its place.
  atMost : Value → Value → Bool
  -- The sum of values.
  sum : List Value → Value

/-- Whether a projection makes one row of many. -/
def Projection.isAggregate : Projection → Bool
  | .all | .fields _ => false
  | .count | .sum _ => true

/-- The groups with one more member: it joins the first group with whose members it belongs
    together, or stands behind the others on its own. -/
def place (together : α → α → Bool) (a : α) : List (List α) → List (List α)
  | [] => [[a]]
  | g :: gs => if g.any fun b => together b a then (g ++ [a]) :: gs else g :: place together a gs

/-- Each of several elements the first time. -/
def firsts (same : α → α → Bool) : List α → List α
  | [] => []
  | a :: as => a :: (firsts same as).filter fun b => !same a b

/-- The elements that a limit leaves. -/
def Limit.slice (as : List α) : Limit → List α
  | .first count => as.take count.toNat
  | .window offset count => (as.drop offset.toNat).take count.toNat

namespace Semantics

variable (m : Semantics) (tables : String → List Row)

/-- Every combination of rows of some tables. -/
def combinations : List String → List Combination
  | [] => [[]]
  | table :: rest => (tables table).flatMap fun row => (combinations rest).map (row :: ·)

/-- The combinations that meet the conditions of a query. -/
def matching (q : SelectQuery) : List Combination :=
  match q.conditions with
  | none => combinations tables q.tables
  | some c =>
    if c.isEmpty then combinations tables q.tables
    else (combinations tables q.tables).filter (m.meets c)

/-- Whether two combinations agree on some fields. -/
def together (fields : List String) (a b : Combination) : Bool :=
  fields.all fun field => m.same (m.value field a) (m.value field b)

/-- Combinations in groups, as a query puts them together. -/
def groups (q : SelectQuery) (found : List Combination) : List (List Combination) :=
  if q.groupBy.isEmpty then
    if q.projection.isAggregate then [found] else found.map ([·])
  else
    found.foldl (fun gs a => place (m.together q.groupBy) a gs) []

/-- What a projected field shows of a combination; a star shows every column. -/
def cells (a : Combination) (field : String) : List (String × Value) :=
  if field = "*" then a.flatMap Row.cells else [(m.label field, m.value field a)]

/-- The row that a projection makes of a group. -/
def row (g : List Combination) : Projection → Row
  | .all | .fields [] => ⟨m.cells (g.headD []) "*"⟩
  | .fields names => ⟨names.flatMap (m.cells (g.headD []))⟩
  | .count => ⟨[("total", .int (Int64.ofNat g.length))]⟩
  | .sum field => ⟨[("total", m.sum (g.map (m.value field)))]⟩

/-- Whether two rows show the same values. -/
def sameRow (r s : Row) : Bool :=
  r.cells.length == s.cells.length
    && (r.cells.zip s.cells).all fun c => m.same c.1.2 c.2.2

/-- Whether a combination may stand before another in an order. -/
def before : List (String × Order) → Combination → Combination → Bool
  | [], _, _ => true
  | (field, order) :: rest, a, b =>
    let ordered := match order with
      | .ascending => (m.value field a, m.value field b)
      | .descending => (m.value field b, m.value field a)
    m.atMost ordered.1 ordered.2 && (!m.atMost ordered.2 ordered.1 || before rest a b)

/-- A row for each group, behind the combination that it is sorted by. -/
def drawn (q : SelectQuery) : List (Combination × Row) :=
  (m.groups q (m.matching tables q)).map fun g => (g.headD [], m.row g q.projection)

/-- The same without duplicates, if a query removes them. -/
def shown (q : SelectQuery) : List (Combination × Row) :=
  if q.distinct then firsts (fun a b => m.sameRow a.2 b.2) (m.drawn tables q)
  else m.drawn tables q

/-- The rows of a query but for its limit. -/
def unlimited (q : SelectQuery) : List Row :=
  ((m.shown tables q).insertionSort fun a b => m.before q.orderBy a.1 b.1 = true).map (·.2)

/-- The rows of a query. -/
def evaluate (q : SelectQuery) : List Row :=
  q.limit.elim (m.unlimited tables q) (Limit.slice (m.unlimited tables q))

end Semantics

theorem length_firsts_le (same : α → α → Bool) (as : List α) :
    (firsts same as).length ≤ as.length := by
  induction as with
  | nil => exact Nat.le_refl 0
  | cons a as ih =>
      exact Nat.succ_le_succ (Nat.le_trans (List.length_filter_le _ _) ih)

theorem toNat_pageOffset (number size : UInt64) :
    (SelectQuery.pageOffset number size).toNat
      = min ((number.toNat - 1) * size.toNat) (UInt64.size - 1) := by
  have hfirst : (if number = 0 then 0 else number - 1 : UInt64).toNat = number.toNat - 1 := by
    by_cases hzero : number = 0
    · rw [if_pos hzero, hzero]
      rfl
    · have hone : (1 : UInt64) ≤ number := by
        have hpos : number.toNat ≠ 0 := fun h => hzero (UInt64.toNat_inj.mp h)
        rw [UInt64.le_iff_toNat_le, show (1 : UInt64).toNat = 1 from rfl]
        omega
      rw [if_neg hzero, UInt64.toNat_sub_of_le _ _ hone]
      rfl
  rw [SelectQuery.pageOffset, toNat_cappedProduct, hfirst]

/-- The limit of a page leaves the rows at the places of the page. An offset that does not fit is
    behind all rows, if they can be counted. -/
theorem slice_page {as : List α} (hfew : as.length < UInt64.size) (number size : UInt64) :
    (Limit.window (SelectQuery.pageOffset number size) size).slice as
      = (as.drop ((number.toNat - 1) * size.toNat)).take size.toNat := by
  rw [Limit.slice, toNat_pageOffset]
  by_cases hfits : (number.toNat - 1) * size.toNat ≤ UInt64.size - 1
  · rw [Nat.min_eq_left hfits]
  · rw [Nat.min_eq_right (by omega), List.drop_eq_nil_of_le (by omega),
      List.drop_eq_nil_of_le (by omega)]

theorem countedRows_grouped {q : SelectQuery} (h : q.groupBy ≠ []) (rows : List Row) :
    countedRows q rows = .ok (UInt64.ofNat rows.length) := by
  unfold countedRows
  rw [if_neg (by simpa only [List.isEmpty_iff] using h)]

/-- A single row that shows a number is read as this number, if a column can show it. -/
theorem countedRows_total {q : SelectQuery} (h : q.groupBy = []) {n : Nat}
    (hfew : n < countedBelow) :
    countedRows q [⟨[("total", .int (Int64.ofNat n))]⟩] = .ok (UInt64.ofNat n) := by
  have htotal : (⟨[("total", .int (Int64.ofNat n))]⟩ : Row).int "total" = .ok (Int64.ofNat n) := rfl
  rw [countedRows, h]
  simp only [List.isEmpty_nil, if_true, htotal]
  show Except.ok (UInt64.ofNat (Int64.ofNat n).toInt.toNat) = _
  rw [Int64.toInt_ofNat_of_lt hfew, Int.toNat_natCast]

namespace Semantics

variable (m : Semantics) (tables : String → List Row)

theorem length_unlimited_eq_shown (q : SelectQuery) :
    (m.unlimited tables q).length = (m.shown tables q).length := by
  rw [unlimited, List.length_map, List.length_insertionSort]

/-- Without duplicates removed there is a row for each group. -/
theorem length_unlimited {q : SelectQuery} (h : q.distinct = false) :
    (m.unlimited tables q).length = (m.groups q (m.matching tables q)).length := by
  rw [length_unlimited_eq_shown, shown, if_neg (ne_true_of_eq_false h), drawn, List.length_map]

/-- Removing duplicates adds no rows. -/
theorem length_unlimited_le (q : SelectQuery) :
    (m.unlimited tables q).length ≤ (m.unlimited tables { q with distinct := false }).length := by
  have hdrawn : (m.unlimited tables { q with distinct := false }).length
      = (m.drawn tables q).length := m.length_unlimited_eq_shown tables _
  rw [hdrawn, length_unlimited_eq_shown, shown]
  by_cases hdistinct : q.distinct = true
  · rw [if_pos hdistinct]
    exact length_firsts_le _ _
  · rw [if_neg hdistinct]

/-- Counting without grouping yields one row, which shows how many combinations were found. -/
theorem evaluate_count {q : SelectQuery} (h : q.groupBy = []) :
    m.evaluate tables (q.aggregate .count)
      = [⟨[("total", .int (Int64.ofNat (m.matching tables q).length))]⟩] := by
  have hdrawn : m.drawn tables (q.aggregate .count)
      = [((m.matching tables q).headD [],
        ⟨[("total", .int (Int64.ofNat (m.matching tables q).length))]⟩)] := by
    rw [drawn, groups, SelectQuery.aggregate, h]
    rfl
  show ((m.drawn tables (q.aggregate .count)).insertionSort _).map _ = _
  rw [hdrawn]
  rfl

/-- The number that is asked for beside a query is the number of its rows before duplicates are
    removed, as long as a column can show it. -/
theorem countedRows_evaluate {q : SelectQuery} (hplain : q.projection.isAggregate = false)
    (hfew : (m.unlimited tables { q with distinct := false }).length < countedBelow) :
    countedRows (q.aggregate .count) (m.evaluate tables (q.aggregate .count))
      = .ok (UInt64.ofNat (m.unlimited tables { q with distinct := false }).length) := by
  have hrows : (m.unlimited tables { q with distinct := false }).length
      = (m.groups q (m.matching tables q)).length := m.length_unlimited tables rfl
  rw [hrows] at hfew ⊢
  -- The counting query groups as the query does, or not at all.
  by_cases hgroup : q.groupBy = []
  · have hfound : (m.groups q (m.matching tables q)).length = (m.matching tables q).length := by
      rw [groups, hgroup, hplain]
      exact List.length_map _
    rw [hfound] at hfew ⊢
    rw [m.evaluate_count tables hgroup]
    exact countedRows_total hgroup hfew
  · have hsame : m.groups (q.aggregate .count) (m.matching tables q)
        = m.groups q (m.matching tables q) := by
      rw [groups, groups, SelectQuery.aggregate]
      simp only [List.isEmpty_iff, hgroup, if_false]
    have hcounted : (m.evaluate tables (q.aggregate .count)).length
        = (m.groups q (m.matching tables q)).length := by
      rw [← hsame]
      exact m.length_unlimited tables rfl
    have hcounting : (q.aggregate .count).groupBy ≠ [] := hgroup
    rw [countedRows_grouped hcounting, hcounted]

end Semantics

end SqlMapper
