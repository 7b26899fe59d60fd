import SqlMapper.Dialect.MySql
import SqlMapper.Proofs.Dialect.Writing

/-!
# Declared Tables of MySQL

What the declaration of a table on MySQL says about the table.

Every column is declared with its name, its type and its default, behind the
columns come the key, the constraints on several columns and the full-text index.
MySQL reads a backslash in a text as a sign that the next character is meant as it
is, and the declaration does not write it twice. So a default with a backslash is
not read as it was given, and a backslash at its end even takes the mark behind
it. The names of the full-text index stand without marks, so they have to be
words. Apart from this, names and defaults may hold any characters.

## Main definitions

* `MySql.declaredColumn`: What is declared of a column.
* `MySql.declaredParts`: What is declared of a table.
* `MySql.IsReadable`: No default needs a backslash, and names of the full-text index are words.

## Theorems

* `MySql.mysql_table_read_back`: The declaration of a table is read as the table.
* `MySql.mysql_default_misread`: A backslash at the end of a default takes the mark behind it.
-/

namespace SqlMapper

namespace MySql

open Ddl

/-- The length that a column of texts is declared with, given whether its values may not repeat. -/
def declaredLength (c : Column) (unique : Bool) : Option UInt32 :=
  if unique then some (min (c.length.getD indexedLength) indexedLength) else c.length

/-- The type that a column is declared with, and the numbers behind it. -/
def declaredType (c : Column) (unique : Bool) : String × List String :=
  match c.kind with
  | .int => ("BIGINT", [])
  | .float => ("DECIMAL", ["10", "2"])
  | .boolean => ("TINYINT", ["1"])
  | .text =>
    match declaredLength c unique with
    | some length => ("VARCHAR", [toString length.toNat])
    | none => (if c.default.isNull then "TEXT" else "LONGTEXT", [])
  | .structured => ("LONGTEXT", [])

/-- What is declared behind the type of a column. Long texts are absent until they are written. -/
def declaredOptions (c : Column) (unique : Bool) : List ColumnOption :=
  let options := .default (.ofValue c.default) :: if unique then [.unique] else []
  match c.kind with
  | .int => if c.autoIncrement then [.counting] else options
  | .float | .boolean => options
  | .text => if (declaredLength c unique).isSome then options else [.default (.plain "NULL")]
  | .structured => [.default (.plain "NULL")]

/-- What is declared of a column, given whether its values may not repeat. -/
def declaredColumn (c : Column) (unique : Bool) : ColumnDefinition where
  name := c.name
  type := (declaredType c unique).1
  bounds := (declaredType c unique).2
  options := declaredOptions c unique

/-- What is declared of the columns of a table. -/
def declaredColumns (s : Schema) : List ColumnDefinition :=
  s.columns.map fun c => declaredColumn c (c.name != s.primaryKey.name && s.isUnique c.name)

/-- What is declared of a table. -/
def declaredParts (s : Schema) : List Part :=
  (declaredColumns s).map .column ++ [.primaryKey [s.primaryKey.name]]
    ++ s.compositeKeys.map .unique
    ++ if s.fullText = [] then [] else [.fullText s.fullText "ngram"]

/-- What is declared behind the parts of a table. -/
def declaredTail (r : Rules) (configured : String) : List Token :=
  [.word "ENGINE", .sign '=', .word "InnoDB", .word "DEFAULT", .word "CHARSET", .sign '=']
    ++ lex r (charset configured ++ ";").toList

/-- Whether an option gives a text with a backslash. -/
def hasBackslash : ColumnOption → Bool
  | .default (.text t) => t.toList.contains '\\'
  | _ => false

/-- No default that is declared holds a backslash, and the names of the full-text index are words
    that are read as names. -/
structure IsReadable (isName : String → Bool) (s : Schema) : Prop where
  defaults : ∀ c ∈ declaredColumns s, ∀ o ∈ c.options, hasBackslash o = false
  fullText : ∀ n ∈ s.fullText, IsWord n ∧ isName n = true

variable (isName : String → Bool)

/-- The length in a type is written as it is declared. -/
theorem toList_bounded (n : Nat) :
    ("VARCHAR(" ++ toString n ++ ") DEFAULT ").toList
      = "VARCHAR".toList ++ spelled (boundPieces [toString n]) ++ " DEFAULT ".toList := by
  rw [boundPieces, if_neg (List.cons_ne_nil _ _), enclosed, List.map_singleton,
    List.intercalate_singleton]
  simp only [String.toList_append, blanks, List.replicate_zero, List.nil_append, spelled_cons,
    spelled_append, List.append_assoc]
  rfl

theorem toList_columnType (c : Column) (unique : Bool) :
    (columnType c unique).toList = (declaredType c unique).1.toList
      ++ spelled (boundPieces (declaredType c unique).2)
      ++ spelled (optionPieces { flavor := .mysql, isName } (declaredOptions c unique)) := by
  have hoptions : ∀ (typed : String) (start : List Char),
      typed.toList = start ++ " DEFAULT ".toList →
      (typed ++ c.default.literal ++ if unique then " UNIQUE" else "").toList
        = start ++ spelled (optionPieces { flavor := .mysql, isName }
          (.default (.ofValue c.default) :: if unique then [.unique] else [])) := by
    intro typed start h
    have happend := spelled_optionPieces_append (r := { flavor := .mysql, isName })
      [.default (.ofValue c.default)] (if unique then [.unique] else [])
    rw [String.toList_append, toList_default typed h, toList_unique, List.append_assoc, ← happend]
    rfl
  cases hkind : c.kind <;> simp only [columnType, declaredType, declaredOptions, hkind]
  case int =>
    cases c.autoIncrement with
    | false => exact hoptions "BIGINT DEFAULT " _ rfl
    | true =>
        simp only [if_true, optionPieces, List.flatMap_singleton, ColumnOption.pieces,
          Rules.counting]
        rfl
  case float => exact hoptions "DECIMAL(10, 2) DEFAULT " _ rfl
  case boolean => exact hoptions "TINYINT(1) DEFAULT " _ rfl
  case text =>
    cases unique with
    | true =>
        simp only [if_true, declaredLength, Option.isSome_some] at hoptions ⊢
        exact hoptions _ _ (toList_bounded _)
    | false =>
        simp only [Bool.false_eq_true, if_false, declaredLength, String.append_empty]
          at hoptions ⊢
        cases c.length with
        | none =>
            simp only [Option.isSome_none, Bool.false_eq_true, if_false]
            cases c.default.isNull <;> rfl
        | some length =>
            simp only [Option.isSome_some, if_true]
            exact hoptions _ _ (toList_bounded _)
  case structured => rfl

theorem toList_column (c : Column) (unique : Bool) :
    (column c unique).toList
      = spelled ((declaredColumn c unique).pieces { flavor := .mysql, isName }) := by
  rw [column, spelled_column, declaredColumn]
  simp only [String.toList_append, toList_columnType isName, List.append_assoc]

theorem toList_unique (group : List String) :
    ("UNIQUE KEY (" ++ quoteNames group ++ ")").toList
      = spelled ((Part.unique group).pieces { flavor := .mysql, isName }) := by
  have hnames := toList_quoteNames group
  simp only [String.toList_append, Part.pieces, Rules.uniqueGroup, spelled_append, spelled_cons,
    List.append_assoc, ← hnames]
  rfl

theorem toList_fullText (names : List String) :
    ("FULLTEXT ( " ++ ",".intercalate names ++ " ) WITH PARSER ngram").toList
      = spelled ((Part.fullText names "ngram").pieces { flavor := .mysql, isName }) := by
  have hnames : names.map String.toList
      = (names.map fun n => [some (Token.word n)]).map spelled := by
    rw [List.map_map]
    exact List.map_congr_left fun n _ => (List.append_nil _).symm
  simp only [String.toList_append, String.toList_intercalate, hnames, Part.pieces, enclosed,
    blanks, spelled_append, spelled_cons, spelled_intercalate, List.replicate_zero,
    List.append_assoc]
  rfl

/-- Every part is written as it is declared. -/
theorem toList_tableParts (s : Schema) :
    (tableParts s).map String.toList
      = (declaredParts s).map fun p => spelled (p.pieces { flavor := .mysql, isName }) := by
  have hcolumns : (s.columns.map fun c =>
        column c (c.name != s.primaryKey.name && s.isUnique c.name)).map String.toList
      = ((declaredColumns s).map Part.column).map
        fun p => spelled (p.pieces { flavor := .mysql, isName }) := by
    rw [declaredColumns, List.map_map, List.map_map, List.map_map]
    exact List.map_congr_left fun c _ => toList_column isName c _
  have hgroups : (s.compositeKeys.map fun group => "UNIQUE KEY (" ++ quoteNames group ++ ")").map
        String.toList
      = (s.compositeKeys.map Part.unique).map
        fun p => spelled (p.pieces { flavor := .mysql, isName }) := by
    rw [List.map_map, List.map_map]
    exact List.map_congr_left fun group _ => toList_unique isName group
  have hfullText : (if s.fullText.isEmpty then []
        else ["FULLTEXT ( " ++ ",".intercalate s.fullText ++ " ) WITH PARSER ngram"]).map
        String.toList
      = (if s.fullText = [] then [] else [Part.fullText s.fullText "ngram"]).map
        fun p => spelled (p.pieces { flavor := .mysql, isName }) := by
    by_cases hempty : s.fullText = []
    · rw [if_pos hempty, if_pos (List.isEmpty_iff.mpr hempty)]
      rfl
    · rw [if_neg hempty, if_neg (fun h => hempty (List.isEmpty_iff.mp h)), List.map_singleton,
        List.map_singleton, toList_fullText isName]
  simp only [tableParts, declaredParts, List.map_append, List.map_singleton, hcolumns, hgroups,
    hfullText, toList_primaryKey (r := { flavor := .mysql, isName })]

variable {isName}

theorem isWord_nat (n : Nat) : IsWord (toString n) :=
  isWord_of_isUnsigned (Decimal.nat_ne_nil n) fun _ => Decimal.isUnsigned_of_mem_nat

theorem isWord_declaredType (c : Column) (unique : Bool) :
    IsWord (declaredType c unique).1 ∧ ∀ b ∈ (declaredType c unique).2, IsWord b := by
  rw [declaredType]
  cases c.kind <;> dsimp only
  case text =>
    cases declaredLength c unique with
    | some length =>
        refine ⟨show IsWord "VARCHAR" by decide, fun b hb => ?_⟩
        rw [List.mem_singleton.mp hb]
        exact isWord_nat _
    | none => cases c.default.isNull <;> decide
  all_goals decide

theorem declaredOptions_form {c : Column} {unique : Bool} {o : ColumnOption}
    (h : o ∈ declaredOptions c unique) :
    o = .counting ∨ o = .unique ∨ ∃ v, o = .default (.ofValue v) := by
  have hoptions : o ∈ (.default (.ofValue c.default) :: if unique then [.unique] else []) →
      o = .counting ∨ o = .unique ∨ ∃ v, o = .default (.ofValue v) := by
    intro ho
    rcases List.mem_cons.mp ho with ho | ho
    · exact Or.inr (Or.inr ⟨c.default, ho⟩)
    · cases unique
      · exact absurd ho List.not_mem_nil
      · exact Or.inr (Or.inl (List.mem_singleton.mp ho))
  have habsent : o ∈ [.default (.plain "NULL")] →
      o = .counting ∨ o = .unique ∨ ∃ v, o = .default (.ofValue v) :=
    fun ho => Or.inr (Or.inr ⟨.null, List.mem_singleton.mp ho⟩)
  rw [declaredOptions] at h
  cases hkind : c.kind <;> simp only [hkind] at h
  case int =>
    split at h
    · exact Or.inl (List.mem_singleton.mp h)
    · exact hoptions h
  case float => exact hoptions h
  case boolean => exact hoptions h
  case text =>
    split at h
    · exact hoptions h
    · exact habsent h
  case structured => exact habsent h

theorem writable_declaredColumn {c : Column} {unique : Bool}
    (h : ∀ o ∈ (declaredColumn c unique).options, hasBackslash o = false) :
    (Part.column (declaredColumn c unique)).Writable { flavor := .mysql, isName } := by
  rcases isWord_declaredType c unique with ⟨htype, hbounds⟩
  refine ⟨htype, hbounds, fun o ho => ?_⟩
  rcases declaredOptions_form ho with rfl | rfl | ⟨v, rfl⟩
  · trivial
  · trivial
  · refine Literal.writable_ofValue fun t ht _ => ?_
    have hplain := h _ ho
    rw [ht, hasBackslash, List.contains_eq_mem, decide_eq_false_iff_not] at hplain
    exact hplain

theorem writable_declaredParts {s : Schema} (h : IsReadable isName s) :
    ∀ p ∈ declaredParts s, p.Writable { flavor := .mysql, isName } := by
  intro p hp
  rcases List.mem_append.mp hp with hp | hp
  · rcases List.mem_append.mp hp with hp | hp
    · rcases List.mem_append.mp hp with hp | hp
      · rcases List.mem_map.mp hp with ⟨d, hd, rfl⟩
        rcases List.mem_map.mp hd with ⟨c, -, rfl⟩
        exact writable_declaredColumn (h.defaults _ hd)
      · rw [List.mem_singleton.mp hp]
        trivial
    · rcases List.mem_map.mp hp with ⟨group, -, rfl⟩
      trivial
  · split at hp
    · exact absurd hp List.not_mem_nil
    · rw [List.mem_singleton.mp hp]
      exact ⟨h.fullText, by decide⟩

theorem lex_tail (r : Rules) (configured : String) :
    lex r (" ENGINE=InnoDB DEFAULT CHARSET=" ++ (charset configured ++ ";")).toList
      = declaredTail r configured := by
  have hlegible : Legible r [none, some (.word "ENGINE"), some (.sign '='), some (.word "InnoDB"),
      none, some (.word "DEFAULT"), none, some (.word "CHARSET"), some (.sign '=')] :=
    .blank (.word (by decide) (.sign rfl (.word (by decide) (.blank (.word (by decide) (.blank
      (.word (by decide) (.sign rfl .nil) rfl)) rfl)) rfl)) rfl)
  rw [String.toList_append]
  exact lex_spelled hlegible (Or.inr rfl)

theorem toList_createTable (s : Schema) (table configured : String) :
    (createTable s table configured).toList
      = spelled (tablePieces { flavor := .mysql, isName } table (declaredParts s))
        ++ (" ENGINE=InnoDB DEFAULT CHARSET=" ++ (charset configured ++ ";")).toList := by
  have hdeclared := toList_declaration (toList_tableParts isName s) table
    (" ENGINE=InnoDB DEFAULT CHARSET=" ++ (charset configured ++ ";"))
  have hclose : ") ENGINE=InnoDB DEFAULT CHARSET=" = ")" ++ " ENGINE=InnoDB DEFAULT CHARSET=" := rfl
  unfold createTable
  rw [hclose, ← hdeclared]
  simp only [String.append_assoc]

/-- The declaration of a table is read as the table, if no declared default holds a backslash and
    the names of the full-text index are words. -/
theorem mysql_table_read_back {s : Schema} (h : IsReadable isName s) (table configured : String) :
    read? { flavor := .mysql, isName } (Dialect.mysql.createTable s table configured)
      = some {
          name := table
          parts := declaredParts s
          tail := declaredTail { flavor := .mysql, isName } configured } := by
  rw [← lex_tail]
  exact read?_text (writable_declaredParts h) (List.cons_ne_nil _ _)
    (toList_createTable s table configured)

/-- Marks, commas and parentheses in names and defaults do no harm. -/
theorem mysql_marked_table_read_back :
    let s : Schema := {
      primaryKey := (Column.int "id" 0).counting
      others := [(Column.text "a\x60, b" (some "it's (so), \x60")).withLength 32, .text "body" none]
      unique := [.composite ["id", "a\x60, b"]]
      fullText := ["body"]
      version := 1
      upgrades := ∅ }
    IsReadable (· == "body") s ∧
      read? { flavor := .mysql, isName := (· == "body") }
          (Dialect.mysql.createTable s "t\x60" "utf8")
        = some {
            name := "t\x60"
            parts := declaredParts s
            tail := declaredTail { flavor := .mysql, isName := (· == "body") } "utf8" } := by
  intro s
  have h : IsReadable (· == "body") s := ⟨by decide, by decide⟩
  exact ⟨h, mysql_table_read_back h "t\x60" "utf8"⟩

/-- A backslash at the end of a default takes the mark behind it, and nothing is declared. -/
theorem mysql_default_misread :
    let path := (Column.text "path" (some "\\")).withLength 32
    let s : Schema := {
      primaryKey := (Column.int "id" 0).counting
      others := [path]
      unique := []
      fullText := []
      version := 1
      upgrades := ∅ }
    ({ columns := [path] } : Entity).schema = .ok s ∧
      read? { flavor := .mysql, isName := fun _ => true }
        (Dialect.mysql.createTable s "t" "utf8mb4") = none := by
  intro path s
  refine ⟨rfl, ?_⟩
  have htext : (Dialect.mysql.createTable s "t" "utf8mb4").toList = _ :=
    @toList_createTable (fun _ => true) s "t" "utf8mb4"
  rw [read?, htext]
  decide

end MySql

end SqlMapper
