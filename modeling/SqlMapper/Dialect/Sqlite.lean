import SqlMapper.Dialect.Basic

/-!
# The SQLite Dialect

SQLite knows few types and has no full-text index of its own. A key that counts
up by itself has to be declared with its column, any other key behind the
columns.

## Main definitions

* `Sqlite.column`: A column declaration.
* `Sqlite.createTable`: A table declaration.
* `Dialect.sqlite`: The dialect.
-/

namespace SqlMapper

namespace Sqlite

/-- The type and the default of a column. -/
def columnType (c : Column) : String :=
  let default := c.default.literal
  match c.kind with
  | .int => if c.autoIncrement then "INTEGER" else "INTEGER DEFAULT " ++ default
  | .boolean => "INTEGER DEFAULT " ++ default
  | .float => "REAL DEFAULT " ++ default
  | .text => if c.default.isNull then "TEXT DEFAULT NULL" else "TEXT DEFAULT " ++ default
  | .structured => "TEXT DEFAULT NULL"

/-- A column declaration. -/
def column (c : Column) (unique : Bool) : String :=
  quoteName c.name ++ " " ++ columnType c ++ (if unique then " UNIQUE" else "")

/-- Whether the key is declared with its column. -/
def hasInlineKey (s : Schema) : Bool :=
  decide (s.primaryKey.kind = .int) && s.primaryKey.autoIncrement

/-- The declaration of the key's column. -/
def keyColumn (s : Schema) : String :=
  if hasInlineKey s then
    quoteName s.primaryKey.name ++ " INTEGER PRIMARY KEY AUTOINCREMENT"
  else
    column s.primaryKey false

/-- The parts of a table declaration: columns, key, and constraints on several columns. -/
def tableParts (s : Schema) : List String :=
  let others := s.others.map fun c => column c (s.isUnique c.name)
  let primary :=
    if hasInlineKey s then [] else ["PRIMARY KEY (" ++ quoteName s.primaryKey.name ++ ")"]
  let groups := s.compositeKeys.map fun group => "UNIQUE (" ++ quoteNames group ++ ")"
  keyColumn s :: others ++ primary ++ groups

/-- A table declaration. -/
def createTable (s : Schema) (table : String) : String :=
  "CREATE TABLE IF NOT EXISTS " ++ quoteName table ++ " (" ++ ", ".intercalate (tableParts s)
    ++ ");"

/-- How an insert ends that overwrites columns. -/
def upsert (columns : List String) : String :=
  let sets := columns.map fun c => quoteName c ++ " = excluded." ++ quoteName c
  " ON CONFLICT DO UPDATE SET " ++ ", ".intercalate sets

end Sqlite

/-- The dialect of SQLite. -/
def Dialect.sqlite : Dialect where
  tag := "sqlite"
  createTable := fun s table _ => Sqlite.createTable s table
  column := Sqlite.column
  truncate := fun table => "DELETE FROM " ++ quoteName table ++ ";"
  insertPhrase
    | .normal | .update => "INSERT INTO"
    | .ignore => "INSERT OR IGNORE INTO"
  upsert := Sqlite.upsert

end SqlMapper
