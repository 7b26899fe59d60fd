import SqlMapper.Dialect.MySql
import SqlMapper.Dialect.Sqlite
import SqlMapper.OrderedMap
import SqlMapper.Text.Lowercase
import SqlMapper.Text.Quoted

/-!
# The Dialect Catalog

Dialects under their tags.

A dialect registered later replaces one of the same tag. A tag that is looked up
is put in lower case first, as configuration files spell it in every way.

## Main definitions

* `DialectCatalog`: Dialects under their tags.
* `DialectCatalog.standard`: The dialects of MySQL and SQLite.
* `DialectCatalog.register`: One more dialect.
* `DialectCatalog.find`: The dialect of a tag.
* `DialectCatalog.summary`: The tags, as diagnostics show them.
-/

namespace SqlMapper

/-- Dialects under their tags. -/
abbrev DialectCatalog :=
  OrderedMap String Dialect

namespace DialectCatalog

/-- One more dialect, in place of any other of its tag. -/
def register (c : DialectCatalog) (d : Dialect) : DialectCatalog :=
  c.insert d.tag d

/-- The dialects of MySQL and SQLite. -/
def standard : DialectCatalog :=
  register (register ∅ Dialect.mysql) Dialect.sqlite

/-- The dialect of a tag, whatever its case. -/
def find (c : DialectCatalog) (tag : String) : Except Error Dialect :=
  match c.get? (Text.lowercase tag) with
  | some d => .ok d
  | none =>
    .error (.connect tag none ("no driver registered for dialect `" ++ tag ++ "`"))

/-- A list of texts, quoted, as diagnostics show it. -/
def quotedList (names : List String) : String :=
  "[" ++ ", ".intercalate (names.map Text.quoted) ++ "]"

/-- The tags, as diagnostics show them. -/
def summary (c : DialectCatalog) : String :=
  let tags := c.keys.mergeSort fun a b => decide (a ≤ b)
  "DialectRegistry \x7b tags: " ++ quotedList tags ++ " \x7d"

end DialectCatalog

end SqlMapper
