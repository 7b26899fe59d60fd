import SqlMapper.Dialect.MySql
import SqlMapper.Dialect.Sqlite
import SqlMapper.Proofs.Condition.Names
import SqlMapper.Proofs.Statement.Checks

/-!
# Cells of an Insert

Which inserts are accepted, and which placeholder stands for which value.

An insert writes its rows as a table of placeholders. They are counted through all
rows, so the number of a cell is that of the cells in the rows above it and of those
to its left. This can only be right if every row is as long as the list of columns:
otherwise all rows below an odd one would be shifted against their columns. The
width is checked, and so an accepted insert has one placeholder for each cell. No two
cells share one, so nothing is set twice, and the bindings are the values of all rows
in their order.

## Main definitions

* `InsertQuery.IsSound`: What is asked of an insert.
* `InsertQuery.cell`: The placeholder of a cell.
* `InsertQuery.group`: The placeholders of a row, as the statement writes them.
* `InsertQuery.ending`: How the statement ends.
* `InsertQuery.layout`: The statement of an insert that is accepted.
* `InsertQuery.LaidOut`: Each cell of an insert stands in a statement and is bound there.

## Theorems

* `cellPlaceholder_inj`: A placeholder determines its number.
* `rowGroups_eq`: The groups of placeholders.
* `getElem?_flatten_of_even`: Where a cell stands among all of them.
* `InsertQuery.compile_eq_ok_iff`: A sound insert has its layout for a statement, and no other
  has one.
* `InsertQuery.compile_cells`: Inserts are accepted if they are sound, and are laid out then.
-/

namespace SqlMapper

/-! ### Placeholders -/

/-- A placeholder determines its number. -/
theorem cellPlaceholder_inj {m n : Nat} (h : cellPlaceholder m = cellPlaceholder n) : m = n := by
  have hchars := congrArg String.toList h
  rw [cellPlaceholder, cellPlaceholder, String.toList_append, String.toList_append,
    List.append_cancel_left_eq, String.toList_inj] at hchars
  exact toString_nat_inj hchars

theorem nodup_cellPlaceholders (start count : Nat) : (cellPlaceholders start count).Nodup := by
  refine List.pairwise_map.mpr (List.nodup_range.imp ?_)
  intro i j hne h
  exact hne (Nat.add_left_cancel (cellPlaceholder_inj h))

theorem length_cellPlaceholders (start count : Nat) :
    (cellPlaceholders start count).length = count := by
  rw [cellPlaceholders, List.length_map, List.length_range]

/-- The number of a cell gives its row and its column. -/
theorem cell_number_inj {width i j i' j' : Nat} (hj : j < width) (hj' : j' < width)
    (h : i * width + j = i' * width + j') : i = i' ∧ j = j' := by
  have hpos : 0 < width := Nat.zero_lt_of_lt hj
  have hrow : ∀ i j, j < width → (i * width + j) / width = i := fun i j hj => by
    rw [Nat.mul_comm, Nat.mul_add_div hpos, Nat.div_eq_of_lt hj, Nat.add_zero]
  have hi : i = i' := by rw [← hrow i j hj, h, hrow i' j' hj']
  subst hi
  exact ⟨rfl, Nat.add_left_cancel h⟩

/-! ### Rows of one width -/

section

variable {α : Type} {rows : List (List α)} {width : Nat}

theorem length_flatten_of_even (heven : ∀ row ∈ rows, row.length = width) :
    rows.flatten.length = rows.length * width := by
  induction rows with
  | nil => exact (Nat.zero_mul width).symm
  | cons row rows ih =>
      rw [List.forall_mem_cons] at heven
      rw [List.flatten_cons, List.length_append, heven.1, ih heven.2, List.length_cons,
        Nat.succ_mul, Nat.add_comm]

/-- Above a cell there are rows of one width, and to its left as many cells as its column says. -/
theorem getElem?_flatten_of_even (heven : ∀ row ∈ rows, row.length = width) {row : List α}
    {i j : Nat} (hrow : rows[i]? = some row) (hj : j < width) :
    rows.flatten[i * width + j]? = row[j]? := by
  induction rows generalizing i with
  | nil => cases hrow
  | cons first rows ih =>
      rw [List.forall_mem_cons] at heven
      rw [List.flatten_cons]
      cases i with
      | zero =>
          cases hrow
          rw [Nat.zero_mul, Nat.zero_add, List.getElem?_append_left (heven.1.symm ▸ hj)]
      | succ i =>
          have hnumber : (i + 1) * width + j = first.length + (i * width + j) := by
            rw [heven.1, Nat.succ_mul, Nat.add_comm (i * width), Nat.add_assoc]
          rw [hnumber, List.getElem?_append_right (Nat.le_add_right _ _), Nat.add_sub_cancel_left]
          exact ih heven.2 hrow

end

/-- The groups of placeholders, the width of a row further on with each row. -/
theorem rowGroups_eq (width start : Nat) (rows : List (List Value)) :
    rowGroups width start rows = (List.range rows.length).map fun i =>
      "(" ++ ", ".intercalate (cellPlaceholders (start + i * width) width) ++ ")" := by
  induction rows generalizing start with
  | nil => rfl
  | cons row rows ih =>
      rw [rowGroups, ih, List.length_cons, List.range_succ_eq_map, List.map_cons, List.map_map,
        Nat.zero_mul, Nat.add_zero]
      refine congrArg (List.cons _) (List.map_congr_left fun i _ => ?_)
      rw [Function.comp_apply, Nat.succ_mul, Nat.add_assoc, Nat.add_comm width]

namespace InsertQuery

/-- What is asked of an insert. -/
structure IsSound (q : InsertQuery) : Prop where
  table : isIdentifier q.table = true
  keys : ∀ key ∈ q.keys, isIdentifier key = true
  updateColumns : ∀ column ∈ q.updateColumns, isIdentifier column = true
  hasKeys : q.keys ≠ []
  hasRows : q.rows ≠ []
  even : ∀ row ∈ q.rows, row.length = q.keys.length
  overwrites : q.mode = .update → q.updateColumns ≠ []

/-- The placeholder of a cell, given its row and its column. -/
def cell (q : InsertQuery) (i j : Nat) : String :=
  cellPlaceholder (i * q.keys.length + j)

/-- The placeholders of a row, as the statement writes them. -/
def group (q : InsertQuery) (i : Nat) : String :=
  "(" ++ ", ".intercalate ((List.range q.keys.length).map (q.cell i)) ++ ")"

/-- How the statement ends, up to the semicolon. -/
def ending (d : Dialect) (q : InsertQuery) : String :=
  if q.mode = .update then d.upsert q.updateColumns else ""

/-- The statement of an insert that is accepted. -/
def layout (d : Dialect) (q : InsertQuery) : Statement where
  sql := d.insertPhrase q.mode ++ " " ++ quotePath q.table ++ " ("
    ++ ",".intercalate (q.keys.map quotePath) ++ ") VALUES "
    ++ ", ".intercalate ((List.range q.rows.length).map q.group) ++ q.ending d ++ ";"
  binds := ⟨(cellPlaceholders 0 (q.rows.length * q.keys.length)).zip q.rows.flatten⟩
  tables := [q.table]
  readonly := false

/-- Each cell of an insert stands in a statement, and it is bound there. -/
structure LaidOut (d : Dialect) (q : InsertQuery) (s : Statement) : Prop where
  -- There is a group for each row, with a placeholder for each column.
  sql : s.sql = d.insertPhrase q.mode ++ " " ++ quotePath q.table ++ " ("
    ++ ",".intercalate (q.keys.map quotePath) ++ ") VALUES "
    ++ ", ".intercalate ((List.range q.rows.length).map q.group) ++ q.ending d ++ ";"
  -- The bindings are the cells in their order, and nothing else.
  names : s.binds.keys = (List.range (q.rows.length * q.keys.length)).map cellPlaceholder
  size : s.binds.size = q.rows.length * q.keys.length
  -- Each cell is bound at its place to its value.
  bound : ∀ i j row v, q.rows[i]? = some row → row[j]? = some v →
    s.binds.entries[i * q.keys.length + j]? = some (q.cell i j, v)
      ∧ s.binds.get? (q.cell i j) = some v
  -- No two cells share a placeholder.
  apart : ∀ i j i' j', j < q.keys.length → j' < q.keys.length → q.cell i j = q.cell i' j' →
    i = i' ∧ j = j'

variable {d : Dialect} {q : InsertQuery} {s : Statement}

theorem rowGroups_eq_group (q : InsertQuery) :
    rowGroups q.keys.length 0 q.rows = (List.range q.rows.length).map q.group := by
  rw [rowGroups_eq]
  refine List.map_congr_left fun i _ => ?_
  rw [Nat.zero_add]
  rfl

theorem map_fst_layout (heven : ∀ row ∈ q.rows, row.length = q.keys.length) :
    (q.layout d).binds.keys = cellPlaceholders 0 (q.rows.length * q.keys.length) := by
  refine List.map_fst_zip (Nat.le_of_eq ?_)
  rw [length_cellPlaceholders, length_flatten_of_even heven]

/-- The bindings are set one after the other, and none of them is there before. -/
theorem ofList_cells (heven : ∀ row ∈ q.rows, row.length = q.keys.length) :
    OrderedMap.ofList ((cellPlaceholders 0 q.rows.flatten.length).zip q.rows.flatten)
      = (q.layout d).binds := by
  have hnodup : (q.layout d).binds.keys.Nodup :=
    map_fst_layout heven ▸ nodup_cellPlaceholders 0 _
  rw [length_flatten_of_even heven]
  exact congrArg OrderedMap.mk (OrderedMap.entries_insertAll hnodup nofun)

/-- A sound insert has its layout for a statement, and no other insert has one. -/
theorem compile_eq_ok_iff : q.compile d = .ok s ↔ q.IsSound ∧ s = q.layout d := by
  have hnames : ∀ {u}, (q.keys ++ q.updateColumns).forM checkIdentifier = .ok u
      ↔ (∀ key ∈ q.keys, isIdentifier key = true)
        ∧ ∀ column ∈ q.updateColumns, isIdentifier column = true :=
    (forM_eq_ok_iff checkIdentifier_eq_ok_iff).trans List.forall_mem_append
  unfold compile
  refine check_eq_ok_iff.trans ?_
  simp only [bind_eq_ok_iff, check_eq_ok_iff, quoteTable_eq_ok_iff, hnames, List.isEmpty_iff,
    rowGroups_eq_group]
  constructor
  · rintro ⟨hupdate, _, ⟨htable, rfl⟩, hkeys, hrows, _, ⟨hnames, hcolumns⟩, h⟩
    split at h
    · cases h
    · rename_i hnone
      have heven : ∀ row ∈ q.rows, row.length = q.keys.length := by
        simpa only [List.find?_eq_none, bne_iff_ne, ne_eq, Decidable.not_not] using hnone
      rw [ofList_cells (d := d) heven] at h
      cases h
      exact ⟨⟨htable, hnames, hcolumns, hkeys, hrows, heven, not_and.mp hupdate⟩, rfl⟩
  · rintro ⟨h, rfl⟩
    have hnone : q.rows.find? (fun row => row.length != q.keys.length) = none := by
      simpa only [List.find?_eq_none, bne_iff_ne, ne_eq, Decidable.not_not] using h.even
    refine ⟨not_and.mpr h.overwrites, _, ⟨h.table, rfl⟩, h.hasKeys, h.hasRows, (),
      ⟨h.keys, h.updateColumns⟩, ?_⟩
    rw [hnone, ofList_cells (d := d) h.even]
    rfl

/-- How an insert is laid out whose rows are as long as the list of columns. -/
theorem laidOut (heven : ∀ row ∈ q.rows, row.length = q.keys.length) :
    q.LaidOut d (q.layout d) where
  sql := rfl
  names := by
    rw [map_fst_layout heven, cellPlaceholders]
    simp only [Nat.zero_add]
  size := by
    rw [← length_cellPlaceholders 0 (q.rows.length * q.keys.length), ← map_fst_layout heven]
    exact (List.length_map _).symm
  bound i j row v hrow hv := by
    have hj : j < q.keys.length := by
      rw [← heven row (List.mem_of_getElem? hrow)]
      exact (List.getElem?_eq_some_iff.mp hv).1
    have hvalue : q.rows.flatten[i * q.keys.length + j]? = some v := by
      rw [getElem?_flatten_of_even heven hrow hj, hv]
    have hnumber : i * q.keys.length + j < q.rows.length * q.keys.length := by
      rw [← length_flatten_of_even heven]
      exact (List.getElem?_eq_some_iff.mp hvalue).1
    have hentry : (q.layout d).binds.entries[i * q.keys.length + j]? = some (q.cell i j, v) := by
      refine List.getElem?_zip_eq_some.mpr ⟨?_, hvalue⟩
      rw [cellPlaceholders, List.getElem?_map, List.getElem?_range hnumber, Option.map_some,
        Nat.zero_add]
      rfl
    have hnodup : (q.layout d).binds.keys.Nodup :=
      map_fst_layout heven ▸ nodup_cellPlaceholders 0 _
    exact ⟨hentry, (OrderedMap.mem_entries_iff hnodup).mp (List.mem_of_getElem? hentry)⟩
  apart i j i' j' hj hj' h := cell_number_inj hj hj' (cellPlaceholder_inj h)

/-- Both dialects write something about rows that are overwritten. -/
theorem upsert_ne_empty (h : d = .sqlite ∨ d = .mysql) (columns : List String) :
    d.upsert columns ≠ "" := by
  have hwords : ∀ words body : String, words ≠ "" → words ++ body ≠ "" :=
    fun words body hne hempty => hne (String.append_eq_empty_iff.mp hempty).1
  rcases h with rfl | rfl
  · exact hwords " ON CONFLICT DO UPDATE SET " _ (by decide)
  · exact hwords " ON DUPLICATE KEY UPDATE " _ (by decide)

theorem ending_ne_empty_iff (h : d = .sqlite ∨ d = .mysql) :
    q.ending d ≠ "" ↔ q.mode = .update := by
  rw [ending]
  by_cases hmode : q.mode = .update
  · rw [if_pos hmode]
    exact iff_of_true (upsert_ne_empty h q.updateColumns) hmode
  · rw [if_neg hmode]
    exact iff_of_false (fun hne => hne rfl) hmode

/-- An insert is accepted exactly if it is sound. Then its statement has a placeholder for each
    cell, the bindings are the cells in their order, and what is said about rows that are there
    already is said exactly if they are overwritten. -/
theorem compile_cells (d : Dialect) (q : InsertQuery) :
    ((∃ s, q.compile d = .ok s) ↔ q.IsSound)
      ∧ (∀ s, q.compile d = .ok s → q.LaidOut d s)
      ∧ (d = .sqlite ∨ d = .mysql → (q.ending d ≠ "" ↔ q.mode = .update)) := by
  refine ⟨⟨?_, fun h => ⟨_, compile_eq_ok_iff.mpr ⟨h, rfl⟩⟩⟩, fun s hs => ?_, ending_ne_empty_iff⟩
  · rintro ⟨s, hs⟩
    exact (compile_eq_ok_iff.mp hs).1
  · rcases compile_eq_ok_iff.mp hs with ⟨hsound, rfl⟩
    exact laidOut hsound.even

/-- Two rows with the same values, one of which overwrites what is there. -/
def alike : InsertQuery where
  table := "main.t"
  mode := .update
  keys := ["a.b", "a_b", "c"]
  rows := [[.int 1, .text ":_INSERT_3", .null], [.int 1, .text ":_INSERT_3", .null]]
  updateColumns := ["c"]

theorem compile_cells_alike :
    (∃ s, alike.compile .mysql = .ok s ∧ alike.LaidOut .mysql s)
      ∧ alike.ending .mysql = " ON DUPLICATE KEY UPDATE `c` = VALUES(`c`)"
      ∧ alike.cell 1 2 = ":_INSERT_5" := by
  have hcells := compile_cells .mysql alike
  have hsound : alike.IsSound := by constructor <;> decide
  rcases hcells.1.mpr hsound with ⟨s, hs⟩
  exact ⟨⟨s, hs, hcells.2.1 s hs⟩, by decide, by decide⟩

end InsertQuery

end SqlMapper
