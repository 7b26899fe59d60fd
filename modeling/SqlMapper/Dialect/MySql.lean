import SqlMapper.Dialect.Basic

/-!
# The MySQL Dialect

MySQL and the databases that understand its SQL.

Texts under a unique key are bounded, because an index over them has to fit;
other texts without a bound are long texts, whose default cannot be anything
but absent. The character set called utf8 holds three bytes at most on MySQL, so
the real one is written in its place.

## Main definitions

* `MySql.charset`: The character set to write.
* `MySql.column`: A column declaration.
* `MySql.createTable`: A table declaration.
* `Dialect.mysql`: The dialect.
-/

namespace SqlMapper

namespace MySql

/-- The longest text that fits a unique index. -/
def indexedLength : UInt32 := 191

/-- The character set to write for one that is configured. -/
def charset (configured : String) : String :=
  if configured.toList.map Char.toLower = ['u', 't', 'f', '8'] ∨ configured = "" then
    "utf8mb4"
  else
    configured

/-- The type, the default and the constraint of a column. -/
def columnType (c : Column) (unique : Bool) : String :=
  let default := c.default.literal
  let tail := if unique then " UNIQUE" else ""
  match c.kind with
  | .int =>
    if c.autoIncrement then "BIGINT AUTO_INCREMENT" else "BIGINT DEFAULT " ++ default ++ tail
  | .float => "DECIMAL(10, 2) DEFAULT " ++ default ++ tail
  | .boolean => "TINYINT(1) DEFAULT " ++ default ++ tail
  | .text =>
    if unique then
      let length := min (c.length.getD indexedLength) indexedLength
      "VARCHAR(" ++ toString length.toNat ++ ") DEFAULT " ++ default ++ " UNIQUE"
    else
      match c.length with
      | some length => "VARCHAR(" ++ toString length.toNat ++ ") DEFAULT " ++ default
      | none => if c.default.isNull then "TEXT DEFAULT NULL" else "LONGTEXT DEFAULT NULL"
  | .structured => "LONGTEXT DEFAULT NULL"

/-- A column declaration. -/
def column (c : Column) (unique : Bool) : String :=
  quoteName c.name ++ " " ++ columnType c unique

/-- The parts of a table declaration: columns, key, and constraints on several columns. -/
def tableParts (s : Schema) : List String :=
  let key := s.primaryKey.name
  let columns := s.columns.map fun c => column c (c.name != key && s.isUnique c.name)
  let primary := ["PRIMARY KEY (" ++ quoteName key ++ ")"]
  let groups := s.compositeKeys.map fun group => "UNIQUE KEY (" ++ quoteNames group ++ ")"
  let fullText :=
    if s.fullText.isEmpty then []
    else ["FULLTEXT ( " ++ ",".intercalate s.fullText ++ " ) WITH PARSER ngram"]
  columns ++ primary ++ groups ++ fullText

/-- A table declaration. -/
def createTable (s : Schema) (table configured : String) : String :=
  "CREATE TABLE IF NOT EXISTS " ++ quoteName table ++ " (" ++ ", ".intercalate (tableParts s)
    ++ ") ENGINE=InnoDB DEFAULT CHARSET=" ++ charset configured ++ ";"

/-- How an insert ends that overwrites columns. -/
def upsert (columns : List String) : String :=
  let sets := columns.map fun c => quoteName c ++ " = VALUES(" ++ quoteName c ++ ")"
  " ON DUPLICATE KEY UPDATE " ++ ", ".intercalate sets

end MySql

/-- The dialect of MySQL. -/
def Dialect.mysql : Dialect where
  tag := "mysql"
  createTable := MySql.createTable
  column := MySql.column
  truncate := fun table => "TRUNCATE TABLE " ++ quoteName table ++ ";"
  insertPhrase
    | .normal | .update => "INSERT INTO"
    | .ignore => "INSERT IGNORE INTO"
  upsert := MySql.upsert

end SqlMapper
