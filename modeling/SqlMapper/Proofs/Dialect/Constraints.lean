import Mathlib.Data.List.Count
import SqlMapper.Proofs.Dialect.MySqlTables
import SqlMapper.Proofs.Dialect.SqliteTables
import SqlMapper.Proofs.Schema.Acceptance

/-!
# Declared Constraints

Which constraints of an entity get into the declaration of its table.

A constraint on one column is declared with the column, one on several columns
behind all of them. SQLite declares every one of them. MySQL declares a column
that counts up, and one that holds structured values, in a form of its own that
has no place for a constraint. So there a constraint on such a column is lost, and
rows may repeat that were not meant to.

## Main definitions

* `Declares`: A statement declares a table of some parts.
* `Flavor.columns`, `Flavor.constraints`: The columns that are declared and what stands behind them.
* `Flavor.marks`: Whether a column is declared with its constraint.

## Theorems

* `declares_createTable`: A table is declared by its columns and what stands behind them.
* `count_unique_columns`: How often a column is declared with its constraint.
* `unique_keys_declared`: Every constraint is declared once, on columns that are marked.
* `mysql_counting_repeats`: A column that counts up loses its constraint.
-/

namespace SqlMapper

namespace Ddl

/-- A statement declares a table of some parts: it is written so, and it is read so if the parts can
    be read back. -/
structure Declares (r : Rules) (sql table : String) (parts : List Part) : Prop where
  written : ∃ tail, sql.toList = spelled (tablePieces r table parts) ++ tail
  read : (∀ p ∈ parts, p.Writable r) → ∃ tail, read? r sql = some { name := table, parts, tail }

/-- The dialect whose declarations are read. -/
def Flavor.dialect : Flavor → Dialect
  | .sqlite => .sqlite
  | .mysql => .mysql

/-- What is declared of the columns of a table. -/
def Flavor.columns : Flavor → Schema → List ColumnDefinition
  | .sqlite, s =>
    Sqlite.declaredKey s :: s.others.map fun c => Sqlite.declaredColumn c (s.isUnique c.name)
  | .mysql, s => MySql.declaredColumns s

/-- What is declared behind the columns of a table. -/
def Flavor.constraints : Flavor → Schema → List Part
  | .sqlite, s =>
    (if Sqlite.hasInlineKey s then [] else [.primaryKey [s.primaryKey.name]])
      ++ s.compositeKeys.map .unique
  | .mysql, s =>
    .primaryKey [s.primaryKey.name] :: s.compositeKeys.map .unique
      ++ if s.fullText = [] then [] else [.fullText s.fullText "ngram"]

/-- Whether a column is declared with its constraint. On MySQL there are columns that are declared
    without any. -/
def Flavor.marks (f : Flavor) (c : Column) : Bool :=
  match f with
  | .sqlite => true
  | .mysql =>
    match c.kind with
    | .int => !c.autoIncrement
    | .float | .text | .boolean => true
    | .structured => false

variable {r : Rules} {sql table : String} {parts : List Part}

theorem declares_of_toList {tail : List Char}
    (h : sql.toList = spelled (tablePieces r table parts) ++ tail) (hne : parts ≠ []) :
    Declares r sql table parts where
  written := ⟨tail, h⟩
  read hparts := ⟨_, read?_text hparts hne h⟩

/-- A table is declared by its columns and what stands behind them. -/
theorem declares_createTable (f : Flavor) (isName : String → Bool) (s : Schema)
    (table charset : String) :
    Declares { flavor := f, isName } (f.dialect.createTable s table charset) table
      ((f.columns s).map .column ++ f.constraints s) := by
  cases f with
  | sqlite =>
      have hparts : (Flavor.sqlite.columns s).map Part.column ++ Flavor.sqlite.constraints s
          = Sqlite.declaredParts s := by
        simp only [Flavor.columns, Flavor.constraints, Sqlite.declaredParts, List.map_cons,
          List.map_map, List.cons_append, List.append_assoc]
        rfl
      rw [hparts]
      exact declares_of_toList (Sqlite.toList_createTable isName s table) (List.cons_ne_nil _ _)
  | mysql =>
      have hparts : (Flavor.mysql.columns s).map Part.column ++ Flavor.mysql.constraints s
          = MySql.declaredParts s := by
        simp only [Flavor.columns, Flavor.constraints, MySql.declaredParts, List.cons_append,
          List.append_assoc, List.nil_append]
      rw [hparts]
      exact declares_of_toList (MySql.toList_createTable s table charset) (List.cons_ne_nil _ _)

/-! ### Constraints on one column -/

theorem count_unique_marked (unique : Bool) :
    (if unique then [ColumnOption.unique] else []).count .unique
      = if unique = true then 1 else 0 := by
  cases unique <;> rfl

theorem count_unique_default (l : Literal) (options : List ColumnOption) :
    (.default l :: options).count .unique = options.count .unique :=
  List.count_cons_of_ne (by simp)

theorem count_unique_sqlite (c : Column) (unique : Bool) :
    (Sqlite.declaredColumn c unique).options.count .unique = if unique = true then 1 else 0 := by
  rw [Sqlite.declaredColumn, List.count_append, count_unique_marked]
  cases Sqlite.declaredDefault c with
  | none => exact Nat.zero_add _
  | some l => exact Nat.zero_add _

theorem count_unique_mysql (c : Column) (unique : Bool) :
    (MySql.declaredOptions c unique).count .unique
      = if Flavor.mysql.marks c = true ∧ unique = true then 1 else 0 := by
  have hmarked := count_unique_default (.ofValue c.default)
    (if unique then [ColumnOption.unique] else [])
  rw [count_unique_marked] at hmarked
  rw [MySql.declaredOptions, Flavor.marks]
  cases hkind : c.kind <;> simp only [true_and, false_and, if_false, Bool.false_eq_true]
  case int =>
    cases c.autoIncrement with
    | true => rfl
    | false => simpa only [Bool.not_false, true_and, Bool.false_eq_true, if_false] using hmarked
  case float => exact hmarked
  case boolean => exact hmarked
  case text =>
    rw [← hmarked]
    -- A text that has to be unique is bounded, so it is declared with its options.
    cases unique with
    | true => rfl
    | false =>
        rw [MySql.declaredLength]
        cases c.length <;> rfl
  case structured => rfl

/-- How often a column is declared with its constraint. -/
theorem count_unique_columns (f : Flavor) (e : Entity) :
    List.Forall₂ (fun c d => d.name = c.name ∧ d.options.count .unique =
        if f.marks c = true ∧ c.name ≠ e.primaryKey.name ∧ .single c.name ∈ e.unique then 1 else 0)
      e.layout.columns (f.columns e.layout) := by
  cases f with
  | sqlite =>
      refine .cons ⟨?_, ?_⟩ ?_
      · rw [Sqlite.declaredKey]
        split <;> rfl
      · rw [if_neg fun h => h.2.1 rfl, Sqlite.declaredKey]
        split
        · rfl
        · rw [count_unique_sqlite]
          rfl
      · rw [List.forall₂_map_right_iff, List.forall₂_same]
        intro c hc
        have hname : c.name ≠ e.primaryKey.name := bne_iff_ne.mp (List.mem_filter.mp hc).2
        refine ⟨rfl, (count_unique_sqlite c _).trans (if_congr ?_ rfl rfl)⟩
        rw [isUnique_iff]
        exact ⟨fun h => ⟨rfl, hname, h⟩, fun h => h.2.2⟩
  | mysql =>
      rw [Flavor.columns, MySql.declaredColumns, List.forall₂_map_right_iff, List.forall₂_same]
      intro c _
      refine ⟨rfl, ?_⟩
      rw [MySql.declaredColumn, count_unique_mysql]
      simp only [Bool.and_eq_true, isUnique_iff, bne_iff_ne]
      rfl

/-! ### Constraints on several columns -/

theorem column_not_mem_constraints (f : Flavor) (s : Schema) (d : ColumnDefinition) :
    .column d ∉ f.constraints s := by
  have hgroups : .column d ∉ s.compositeKeys.map Part.unique := by simp
  cases f with
  | sqlite =>
      rw [Flavor.constraints, List.mem_append, not_or]
      refine ⟨?_, hgroups⟩
      split <;> simp
  | mysql =>
      rw [Flavor.constraints, List.mem_append, List.mem_cons, not_or, not_or]
      refine ⟨by simp [hgroups], ?_⟩
      split <;> simp

/-- Constraints on several columns are declared as often as they are given. -/
theorem count_constraints (f : Flavor) (s : Schema) (names : List String) :
    (f.constraints s).count (.unique names) = s.unique.count (.composite names) := by
  have hgroups : (s.compositeKeys.map Part.unique).count (.unique names)
      = s.unique.count (.composite names) := by
    rw [List.count_map_of_injective _ _ fun _ _ => Part.unique.inj, count_compositeKeys]
  cases f with
  | sqlite =>
      rw [Flavor.constraints, List.count_append, hgroups]
      split <;> simp
  | mysql =>
      rw [Flavor.constraints, List.count_append, List.count_cons_of_ne (by simp), hgroups]
      split <;> simp

/-- Every constraint is declared: one on a column other than the key once with each column of its
    name that is marked, one on several columns behind the columns. -/
theorem unique_keys_declared (f : Flavor) {e : Entity} {s : Schema} (h : e.schema = .ok s)
    (isName : String → Bool) (table charset : String) :
    ∃ columns constraints,
      Declares { flavor := f, isName } (f.dialect.createTable s table charset) table
          (columns.map .column ++ constraints)
        ∧ List.Forall₂ (fun c d => d.name = c.name ∧ d.options.count .unique =
              if f.marks c = true ∧ c.name ≠ e.primaryKey.name ∧ .single c.name ∈ e.unique then 1
              else 0) s.columns columns
        ∧ (∀ name, .single name ∈ e.unique → s.HasColumn name)
        ∧ (∀ d, .column d ∉ constraints)
        ∧ ∀ names, constraints.count (.unique names) = e.unique.count (.composite names) := by
  rcases schema_eq_ok_iff.mp h with ⟨hconsistent, rfl⟩
  exact ⟨f.columns e.layout, f.constraints e.layout,
    declares_createTable f isName e.layout table charset, count_unique_columns f e,
    fun name hname => hconsistent.unique _ hname name List.mem_cons_self,
    column_not_mem_constraints f e.layout, count_constraints f e.layout⟩

/-- A person has one address, and a seat in an organisation is taken once. -/
def seating : Entity where
  columns := [.text "email" none, (Column.text "org" (some "")).withLength 32, .int "seat" 0]
  unique := [.single "email", .composite ["org", "seat"]]

theorem unique_keys_declared_seating :
    seating.schema = .ok seating.layout ∧ ∃ (columns : List ColumnDefinition)
        (constraints : List Part),
      Declares { flavor := .mysql, isName := fun _ => false }
          (Dialect.mysql.createTable seating.layout "t" "utf8") "t"
          (columns.map .column ++ constraints)
        ∧ (columns.map fun d => (d.name, d.options.count .unique))
          = [("id", 0), ("email", 1), ("org", 0), ("seat", 0)]
        ∧ constraints.count (.unique ["org", "seat"]) = 1 := by
  have h : seating.schema = .ok seating.layout := rfl
  rcases unique_keys_declared .mysql h (fun _ => false) "t" "utf8" with
    ⟨columns, constraints, hdeclares, hcolumns, -, -, hgroups⟩
  refine ⟨h, columns, constraints, hdeclares, ?_, (hgroups _).trans (by decide)⟩
  rcases hcolumns with _ | ⟨hid, _ | ⟨hemail, _ | ⟨horg, _ | ⟨hseat, _ | _⟩⟩⟩⟩
  simp only [List.map_cons, List.map_nil, hid, hemail, horg, hseat]
  rfl

/-- A column that counts up loses its constraint, and two rows may hold one number. -/
theorem mysql_counting_repeats :
    ¬ ∀ (f : Flavor) (e : Entity) (s : Schema) (table charset : String) (d : TableDefinition),
      e.schema = .ok s →
      read? { flavor := f, isName := fun _ => false } (f.dialect.createTable s table charset)
        = some d →
      ∀ name, .single name ∈ e.unique → name ≠ e.primaryKey.name →
        ∃ c, .column c ∈ d.parts ∧ c.name = name ∧ c.options.count .unique = 1 := by
  intro hall
  let e : Entity := {
    primaryKey := (Column.text "slug" none).withLength 32
    columns := [(Column.int "seq" 0).counting]
    unique := [.single "seq"] }
  have hreadable : MySql.IsReadable (fun _ => false) e.layout := ⟨by decide, by decide⟩
  rcases (declares_createTable .mysql (fun _ => false) e.layout "t" "utf8mb4").read
    (MySql.writable_declaredParts hreadable) with ⟨tail, hread⟩
  rcases hall .mysql e e.layout "t" "utf8mb4" _ rfl hread "seq" List.mem_cons_self (by decide) with
    ⟨c, hc, -, hcount⟩
  have hnone : ∀ c ∈ Flavor.mysql.columns e.layout, c.options.count .unique = 0 := by decide
  rcases List.mem_append.mp hc with hc | hc
  · rcases List.mem_map.mp hc with ⟨c', hc', hsame⟩
    rw [← Part.column.inj hsame, hnone c' hc'] at hcount
    cases hcount
  · exact column_not_mem_constraints .mysql e.layout c hc

end Ddl

end SqlMapper
