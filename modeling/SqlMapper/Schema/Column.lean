import SqlMapper.Envelope
import SqlMapper.Value

/-!
# Columns

The columns of a table, described without the type names of any one database.

A column has a kind and a default. Only integers can count up by themselves and
only texts can be bounded in length; asking for either on another kind has no
effect. A structured column keeps its default already encoded.

## Main definitions

* `ColumnKind`: What a column holds.
* `Column`: A column.
* `Column.int`, `Column.float`, `Column.text`, `Column.boolean`, `Column.structured`: Columns
  of each kind.
* `Column.infer`: A column whose kind follows from a JSON default.
-/

namespace SqlMapper

/-- What a column holds. -/
inductive ColumnKind where
  /-- Integers of 64 bits. -/
  | int
  /-- Other numbers. -/
  | float
  /-- Text, perhaps bounded in length. -/
  | text
  /-- Truth values, stored as small integers. -/
  | boolean
  /-- Structured values in their envelope. -/
  | structured
  deriving Repr, DecidableEq

/-- A column of a table. -/
structure Column where
  /-- The name. -/
  name : String
  /-- What the column holds. -/
  kind : ColumnKind
  /-- The value of a row that gives none. -/
  default : Value
  /-- Whether the database counts the column up by itself. -/
  autoIncrement : Bool := false
  /-- The greatest length of a text. -/
  length : Option UInt32 := none
  deriving DecidableEq

namespace Column

/-- A column of integers. -/
def int (name : String) (default : Int64) : Column where
  name := name
  kind := .int
  default := .int default

/-- A column of floating-point numbers. -/
def float (name : String) (default : Float) : Column where
  name := name
  kind := .float
  default := .float default

/-- A column of texts; no default means the absent value. -/
def text (name : String) (default : Option String) : Column where
  name := name
  kind := .text
  default := (default.map Value.text).getD .null

/-- A column of truth values. -/
def boolean (name : String) (default : Bool) : Column where
  name := name
  kind := .boolean
  default := .bool default

/-- A column of structured values. -/
def structured (name : String) (default : Json) : Column where
  name := name
  kind := .structured
  default := .text (Envelope.encode default)

/-- A column whose kind follows from its default. An integer beyond 64 signed bits makes a column
    of floating-point numbers, and `null` one of texts. -/
def infer (name : String) : Json → Column
  | .null => text name none
  | .bool b => boolean name b
  | .number (.int n) =>
    if Decimal.fitsInt64 n then int name (Int64.ofInt n) else float name (Float.ofInt n)
  | .number (.float x) => float name x
  | .string s => text name (some s)
  | .array items => structured name (.array items)
  | .object members => structured name (.object members)

/-- The column counted up by the database, if it holds integers. -/
def counting (c : Column) : Column :=
  { c with autoIncrement := decide (c.kind = .int) }

/-- The column bounded in length, if it holds texts. -/
def withLength (c : Column) (length : UInt32) : Column :=
  if c.kind = .text then { c with length := some length } else c

end Column

end SqlMapper
