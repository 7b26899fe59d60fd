import SqlMapper.Condition.Compile

/-!
# Statements

SQL that is ready to run.

A statement carries its text, the values of its placeholders, the tables it
touches and whether it only reads. The last two are what the cache of reads goes
by, so they are settled when the statement is compiled and not guessed from its
text.

## Main definitions

* `Statement`: A statement that is ready to run.
* `quoteTable`: A table as statements name it.
* `whereClause`: The conditions of a statement.
-/

namespace SqlMapper

/-- A statement that is ready to run. -/
structure Statement where
  /-- The text, with its placeholders and a semicolon at the end. -/
  sql : String
  /-- The values of the placeholders. -/
  binds : Binds
  /-- The tables that are read or written. -/
  tables : List String
  /-- Whether the statement only reads. -/
  readonly : Bool
  deriving DecidableEq

/-- A table as statements name it, if its name is an identifier. -/
def quoteTable (table : String) : Except Error String := do
  checkIdentifier table
  return quotePath table

/-- A field as statements name it, if its name is an identifier. -/
def quoteField (field : String) : Except Error String := do
  checkIdentifier field
  return quotePath field

/-- The clause of a statement's conditions, with a blank in front, and its bindings. Without
    conditions there is no clause, and nothing is bound. -/
def whereClause (conditions : Option Conditions) : Except Error (String × Binds) :=
  match conditions with
  | none => .ok ("", ∅)
  | some c =>
    if c.isEmpty then
      .ok ("", ∅)
    else do
      let compiled ← c.compile
      return (" WHERE " ++ compiled.fragment, compiled.binds)

end SqlMapper
