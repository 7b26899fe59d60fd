import SqlMapper.Dialect.Sqlite
import SqlMapper.Proofs.Dialect.Writing

/-!
# Declared Tables of SQLite

What the declaration of a table on SQLite says about the table.

Every column is declared with its name, its storage class and its default, and
with a constraint if its values may not repeat. A key that counts up is declared
with its column, any other key behind the columns, and then come the constraints
on several columns. Nothing else is declared, whatever characters the names and
the defaults are made of. Two kinds of columns are declared without their
default: a column that counts up has none, and a structured column is absent
until it is written.

## Main definitions

* `Sqlite.declaredColumn`: What is declared of a column.
* `Sqlite.declaredParts`: What is declared of a table.

## Theorems

* `Sqlite.read_createTable`: The declaration of a table is read as the table.
-/

namespace SqlMapper

namespace Sqlite

open Ddl

/-- The storage class of a column. -/
def storage : ColumnKind → String
  | .int | .boolean => "INTEGER"
  | .float => "REAL"
  | .text | .structured => "TEXT"

/-- The default that a column is declared with. -/
def declaredDefault (c : Column) : Option Literal :=
  match c.kind with
  | .int => if c.autoIncrement then none else some (.ofValue c.default)
  | .structured => some (.plain "NULL")
  | _ => some (.ofValue c.default)

/-- What is declared of a column, given whether its values may not repeat. -/
def declaredColumn (c : Column) (unique : Bool) : ColumnDefinition where
  name := c.name
  type := storage c.kind
  options := (declaredDefault c).toList.map .default ++ if unique then [.unique] else []

/-- What is declared of the key's column. -/
def declaredKey (s : Schema) : ColumnDefinition :=
  if hasInlineKey s then
    { name := s.primaryKey.name, type := "INTEGER", options := [.primaryKey, .counting] }
  else
    declaredColumn s.primaryKey false

/-- What is declared of a table. -/
def declaredParts (s : Schema) : List Part :=
  .column (declaredKey s) :: s.others.map (fun c => .column (declaredColumn c (s.isUnique c.name)))
    ++ (if hasInlineKey s then [] else [.primaryKey [s.primaryKey.name]])
    ++ s.compositeKeys.map .unique

variable {r : Rules}

theorem toList_columnType (c : Column) :
    (columnType c).toList = (storage c.kind).toList
      ++ spelled (optionPieces r ((declaredDefault c).toList.map .default)) := by
  rw [columnType, declaredDefault]
  cases c.kind <;> dsimp only
  case int =>
    cases c.autoIncrement with
    | false =>
        rw [if_neg Bool.false_ne_true, if_neg Bool.false_ne_true]
        exact toList_default "INTEGER DEFAULT " rfl c.default
    | true =>
        rw [if_pos rfl, if_pos rfl]
        rfl
  case float => exact toList_default "REAL DEFAULT " rfl c.default
  case boolean => exact toList_default "INTEGER DEFAULT " rfl c.default
  case text =>
    by_cases hnull : c.default.isNull = true
    · cases hdefault : c.default <;> rw [hdefault] at hnull <;> cases hnull
      rfl
    · rw [if_neg hnull]
      exact toList_default "TEXT DEFAULT " rfl c.default
  case structured => rfl

theorem toList_column (c : Column) (unique : Bool) :
    (column c unique).toList = spelled ((declaredColumn c unique).pieces r) := by
  rw [column, spelled_column, declaredColumn, spelled_optionPieces_append, ← toList_unique]
  simp only [String.toList_append, toList_columnType (r := r), List.append_assoc]
  rfl

theorem toList_keyColumn (isName : String → Bool) (s : Schema) :
    (keyColumn s).toList = spelled ((declaredKey s).pieces { flavor := .sqlite, isName }) := by
  rw [keyColumn, declaredKey]
  by_cases hinline : hasInlineKey s = true
  · rw [if_pos hinline, if_pos hinline, spelled_column, String.toList_append,
      String.toList_append, List.append_assoc]
    refine congrArg (List.append _) ?_
    simp only [optionPieces, List.flatMap_cons, List.flatMap_nil, ColumnOption.pieces,
      Rules.counting]
    rfl
  · rw [if_neg hinline, if_neg hinline]
    exact toList_column s.primaryKey false

/-- Every part is written as it is declared. -/
theorem toList_tableParts (isName : String → Bool) (s : Schema) :
    (tableParts s).map String.toList
      = (declaredParts s).map fun p => spelled (p.pieces { flavor := .sqlite, isName }) := by
  have hothers : (s.others.map fun c => column c (s.isUnique c.name)).map String.toList
      = (s.others.map fun c => Part.column (declaredColumn c (s.isUnique c.name))).map
        fun p => spelled (p.pieces { flavor := .sqlite, isName }) := by
    rw [List.map_map, List.map_map]
    exact List.map_congr_left fun c _ => toList_column c (s.isUnique c.name)
  have hkey : (if hasInlineKey s then []
        else ["PRIMARY KEY (" ++ quoteName s.primaryKey.name ++ ")"]).map String.toList
      = (if hasInlineKey s then [] else [Part.primaryKey [s.primaryKey.name]]).map
        fun p => spelled (p.pieces { flavor := .sqlite, isName }) := by
    by_cases hinline : hasInlineKey s = true
    · rw [if_pos hinline, if_pos hinline]
      rfl
    · rw [if_neg hinline, if_neg hinline, List.map_singleton, List.map_singleton,
        toList_primaryKey]
  have hgroups : (s.compositeKeys.map fun group => "UNIQUE (" ++ quoteNames group ++ ")").map
        String.toList
      = (s.compositeKeys.map Part.unique).map
        fun p => spelled (p.pieces { flavor := .sqlite, isName }) := by
    rw [List.map_map, List.map_map]
    refine List.map_congr_left fun group _ => ?_
    have hnames := toList_quoteNames group
    simp only [Function.comp_apply, String.toList_append, Part.pieces, Rules.uniqueGroup,
      spelled_append, spelled_cons, List.append_assoc, ← hnames]
    rfl
  simp only [tableParts, declaredParts, List.map_cons, List.map_append, hothers, hkey, hgroups,
    toList_keyColumn isName]
  rfl

theorem writable_declaredColumn (isName : String → Bool) (c : Column) (unique : Bool) :
    (Part.column (declaredColumn c unique)).Writable { flavor := .sqlite, isName } := by
  have hvalue : (Literal.ofValue c.default).Writable { flavor := .sqlite, isName } :=
    Literal.writable_ofValue fun _ _ hescapes => nomatch hescapes
  have hdefault : ∀ l ∈ declaredDefault c, l.Writable { flavor := .sqlite, isName } := by
    intro l hl
    rw [declaredDefault] at hl
    cases hkind : c.kind <;> simp only [hkind] at hl
    case int =>
      split at hl
      · exact absurd hl (Option.not_mem_none l)
      · exact Option.mem_some_iff.mp hl ▸ hvalue
    case structured => exact Option.mem_some_iff.mp hl ▸ Value.literal_number (v := .null) trivial
    all_goals exact Option.mem_some_iff.mp hl ▸ hvalue
  refine ⟨?_, fun b hb => absurd hb List.not_mem_nil, fun o ho => ?_⟩
  · show IsWord (storage c.kind)
    cases c.kind <;> decide
  · rcases List.mem_append.mp ho with ho | ho
    · rcases List.mem_map.mp ho with ⟨l, hl, rfl⟩
      exact hdefault l (Option.mem_toList.mp hl)
    · split at ho
      · rw [List.mem_singleton.mp ho]
        trivial
      · exact absurd ho List.not_mem_nil

theorem writable_declaredParts (isName : String → Bool) (s : Schema) :
    ∀ p ∈ declaredParts s, p.Writable { flavor := .sqlite, isName } := by
  intro p hp
  rcases List.mem_append.mp hp with hp | hp
  · rcases List.mem_append.mp hp with hp | hp
    · rcases List.mem_cons.mp hp with rfl | hp
      · rw [declaredKey]
        split
        · have htype : IsWord "INTEGER" := by decide
          refine ⟨htype, fun b hb => absurd hb List.not_mem_nil, fun o ho => ?_⟩
          simp only [List.mem_cons, List.not_mem_nil, or_false] at ho
          rcases ho with rfl | rfl <;> trivial
        · exact writable_declaredColumn isName s.primaryKey false
      · rcases List.mem_map.mp hp with ⟨c, -, rfl⟩
        exact writable_declaredColumn isName c _
    · split at hp
      · exact absurd hp List.not_mem_nil
      · rw [List.mem_singleton.mp hp]
        trivial
  · rcases List.mem_map.mp hp with ⟨group, -, rfl⟩
    trivial

theorem toList_createTable (isName : String → Bool) (s : Schema) (table : String) :
    (createTable s table).toList
      = spelled (tablePieces { flavor := .sqlite, isName } table (declaredParts s))
        ++ ";".toList := by
  have hclose : ");" = ")" ++ ";" := rfl
  unfold createTable
  rw [hclose]
  exact toList_declaration (toList_tableParts isName s) table ";"

end Sqlite

end SqlMapper
