import SqlMapper.Proofs.Dialect.Constraints

/-!
# Well-Formed Schemas

What can be relied on once an entity is accepted.

A schema begins with the key, and the other columns are those that were given, in
their order and as they were given, without the ones that repeat the name of the
key. At most one column counts up, constraints name columns that exist, and
versions count from one. Whatever looks at a schema later asks none of that again.

Names are another matter. The key shares its name with no other column, but
nobody compares the others with each other. They are distinct exactly if they
were distinct before. Then a name denotes one column, and every column is
declared once. Otherwise a look-up finds the first column of the name, and the
table is declared with one column more than once, which no database accepts.

## Main definitions

* `Schema.Checked`: What the checks of an entity lead to.
* `Schema.WellFormed`: The names of the columns are distinct as well.

## Theorems

* `Schema.WellFormed.column?_eq_some_iff`: With distinct names, a look-up finds every column.
* `Ddl.names_columns`: The columns are declared under their names.
* `schema_well_formed`: What is true of every schema that is accepted.
* `accepts_repeated_column`: A schema that declares a column twice.
-/

namespace SqlMapper

namespace Schema

variable {s : Schema}

/-- The checks are passed: the key has its name to itself, at most one column counts up,
    constraints name columns, and the version counts from one. -/
structure Checked (s : Schema) : Prop where
  key : ∀ c ∈ s.others, c.name ≠ s.primaryKey.name
  counting : s.columns.countP (·.autoIncrement) ≤ 1
  unique : ∀ k ∈ s.unique, ∀ name ∈ k.columns, s.HasColumn name
  fullText : ∀ name ∈ s.fullText, s.HasColumn name
  version : 1 ≤ s.version

/-- The checks are passed, and no two columns share a name. -/
structure WellFormed (s : Schema) : Prop extends Checked s where
  distinct : (s.columns.map (·.name)).Nodup

/-- If the key has its name to itself, names are distinct if those of the other columns are. -/
theorem Checked.wellFormed_iff (h : s.Checked) :
    s.WellFormed ↔ (s.others.map (·.name)).Nodup := by
  have hkey : s.primaryKey.name ∉ s.others.map (·.name) := by
    intro hmem
    rcases List.mem_map.mp hmem with ⟨c, hc, hname⟩
    exact h.key c hc hname
  constructor
  · exact fun hwell => (List.nodup_cons.mp hwell.distinct).2
  · exact fun hnodup => { h with distinct := List.nodup_cons.mpr ⟨hkey, hnodup⟩ }

theorem find?_name {columns : List Column} (h : (columns.map (·.name)).Nodup) {name : String}
    {c : Column} :
    columns.find? (fun c => c.name == name) = some c ↔ c ∈ columns ∧ c.name = name := by
  constructor
  · exact fun hfound => ⟨List.mem_of_find?_eq_some hfound, by simpa using List.find?_some hfound⟩
  · rintro ⟨hc, rfl⟩
    induction columns with
    | nil => cases hc
    | cons first rest ih =>
        rcases List.nodup_cons.mp h with ⟨hfirst, hrest⟩
        rcases List.mem_cons.mp hc with rfl | hc
        · exact List.find?_cons_of_pos (beq_self_eq_true _)
        · have hne : first.name ≠ c.name := fun heq =>
            hfirst (List.mem_map.mpr ⟨c, hc, heq.symm⟩)
          rw [List.find?_cons_of_neg (by simpa using hne)]
          exact ih hrest hc

/-- With distinct names, a look-up finds every column. -/
theorem WellFormed.column?_eq_some_iff (h : s.WellFormed) {name : String} {c : Column} :
    s.column? name = some c ↔ c ∈ s.columns ∧ c.name = name :=
  find?_name h.distinct

end Schema

namespace Ddl

/-- The columns of a table are declared under their names, in their order. -/
theorem names_columns (f : Flavor) (e : Entity) :
    (f.columns e.layout).map (·.name) = e.layout.columns.map (·.name) := by
  have hnames := (count_unique_columns f e).imp fun _ _ h => h.1.symm
  have hmapped := List.forall₂_map_right_iff.mpr (List.forall₂_map_left_iff.mpr hnames)
  rw [List.forall₂_eq_eq_eq] at hmapped
  exact hmapped.symm

end Ddl

/-- What is accepted passes the checks. -/
theorem Entity.Consistent.checked {e : Entity} (h : e.Consistent) : e.layout.Checked where
  key c hc := bne_iff_ne.mp (List.mem_filter.mp hc).2
  counting := List.countP_eq_length_filter ▸ h.counting
  unique := h.unique
  fullText := h.fullText
  version := by
    have hversion : e.version.toNat ≠ 0 := fun hzero => h.version (UInt32.toNat_inj.mp hzero)
    exact UInt32.le_iff_toNat_le.mpr (Nat.one_le_iff_ne_zero.mpr hversion)

open Ddl in
/-- The columns of an accepted entity are its key and then the others as they were given, and all
    checks are passed. The names are distinct exactly if those of the others were. If so, a name
    denotes one column; and whatever the names are, the table is declared with each column once
    and under its name, in this order. -/
theorem schema_well_formed {e : Entity} {s : Schema} (h : e.schema = .ok s) :
    s.columns = e.primaryKey :: e.columns.filter (fun c => c.name != e.primaryKey.name) ∧
      (s.unique = e.unique ∧ s.fullText = e.fullText ∧ s.version = e.version) ∧
      s.Checked ∧
      (s.WellFormed ↔
        ((e.columns.filter fun c => c.name != e.primaryKey.name).map (·.name)).Nodup) ∧
      (s.WellFormed → ∀ name c, s.column? name = some c ↔ c ∈ s.columns ∧ c.name = name) ∧
      ∀ (f : Flavor) (isName : String → Bool) (table charset : String),
        ∃ (columns : List ColumnDefinition) (constraints : List Part),
          Declares { flavor := f, isName } (f.dialect.createTable s table charset) table
              (columns.map .column ++ constraints) ∧
            columns.map (·.name) = s.columns.map (·.name) ∧ ∀ d, .column d ∉ constraints := by
  rcases schema_eq_ok_iff.mp h with ⟨hconsistent, rfl⟩
  have hchecked := hconsistent.checked
  exact ⟨rfl, ⟨rfl, rfl, rfl⟩, hchecked, hchecked.wellFormed_iff,
    fun hwell _ _ => hwell.column?_eq_some_iff,
    fun f isName table charset => ⟨f.columns e.layout, f.constraints e.layout,
      declares_createTable f isName e.layout table charset, names_columns f e,
      column_not_mem_constraints f e.layout⟩⟩

open Ddl in
/-- A column that repeats the name of the key. -/
theorem schema_well_formed_repeated_key :
    let e : Entity := {
      columns := [.text "email" none, .int "id" 7, (Column.text "org" (some "")).withLength 32]
      unique := [.composite ["email", "org"]]
      fullText := ["org"]
      version := 2 }
    e.schema = .ok e.layout ∧ e.layout.WellFormed ∧
      e.layout.column? "org" = some ((Column.text "org" (some "")).withLength 32) ∧
      ∃ (columns : List ColumnDefinition) (constraints : List Part),
        Declares { flavor := .mysql, isName := fun _ => false }
            (Dialect.mysql.createTable e.layout "t" "utf8") "t"
            (columns.map .column ++ constraints) ∧
          columns.map (·.name) = ["id", "email", "org"] := by
  intro e
  have h : e.schema = .ok e.layout := rfl
  rcases schema_well_formed h with ⟨-, -, -, hwell, hfind, hdeclared⟩
  have hdistinct := hwell.mpr (by decide)
  rcases hdeclared .mysql (fun _ => false) "t" "utf8" with ⟨columns, constraints, hdecl, hnames, -⟩
  exact ⟨h, hdistinct, (hfind hdistinct _ _).mpr ⟨by decide, rfl⟩, columns, constraints, hdecl,
    hnames.trans (by decide)⟩

open Ddl in
/-- Two columns of one name are accepted, and both of them are declared. -/
theorem accepts_repeated_column :
    let e : Entity := { columns := [.int "a" 0, .text "a" none] }
    e.schema = .ok e.layout ∧ ¬ (e.layout.columns.map (·.name)).Nodup ∧
      ∃ tail, read? { flavor := .sqlite, isName := fun _ => false }
        (Dialect.sqlite.createTable e.layout "t" "utf8") = some {
          name := "t"
          parts := [
            .column ⟨"id", "INTEGER", [], [.primaryKey, .counting]⟩,
            .column ⟨"a", "INTEGER", [], [.default (.plain "0")]⟩,
            .column ⟨"a", "TEXT", [], [.default (.plain "NULL")]⟩]
          tail } := by
  intro e
  have hparts : (Flavor.sqlite.columns e.layout).map Part.column
      ++ Flavor.sqlite.constraints e.layout = [
        .column ⟨"id", "INTEGER", [], [.primaryKey, .counting]⟩,
        .column ⟨"a", "INTEGER", [], [.default (.plain "0")]⟩,
        .column ⟨"a", "TEXT", [], [.default (.plain "NULL")]⟩] := by decide
  have hread := (declares_createTable .sqlite (fun _ => false) e.layout "t" "utf8").read
    (Sqlite.writable_declaredParts _ _)
  rw [hparts] at hread
  exact ⟨rfl, by decide, hread⟩

end SqlMapper
