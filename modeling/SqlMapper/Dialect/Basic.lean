import SqlMapper.Identifier
import SqlMapper.Schema.Basic

/-!
# Dialects

Where databases differ in the SQL they accept.

Most statements are accepted alike. What differs is how a table is created and
emptied, how an insert deals with rows that are already there, and how a column
is declared. A dialect is a record of these renderings under a tag, so a host can
supply one of its own.

## Main definitions

* `InsertMode`: What an insert does about a conflict.
* `Dialect`: The renderings of one database.
-/

namespace SqlMapper

/-- What an insert does about a row that is already there. -/
inductive InsertMode where
  /-- It fails. -/
  | normal
  /-- It skips the row. -/
  | ignore
  /-- It overwrites the named columns. -/
  | update
  deriving Repr, DecidableEq

/-- The renderings in which databases differ. -/
structure Dialect where
  /-- The name under which the dialect is looked up. -/
  tag : String
  /-- The statement that creates a table, given its layout, its name and a character set. -/
  createTable : Schema → String → String → String
  /-- The declaration of a column, and whether its values may not repeat. -/
  column : Column → Bool → String
  /-- The statement that empties a table. -/
  truncate : String → String
  /-- How an insert begins, up to the name of the table. -/
  insertPhrase : InsertMode → String
  /-- How an insert ends that overwrites columns. -/
  upsert : List String → String

end SqlMapper
