import SqlMapper.Decimal.Reading
import SqlMapper.Envelope
import SqlMapper.Text.Blank
import SqlMapper.Value

/-!
# Rows

One row of a result, and its columns read as typed values.

Databases differ in what they return for one column: a count may come as an
integer or as text, a truth value as a number. The typed readers accept every
form that denotes the wanted value without loss and refuse the rest with an
error that names the column and shows what was found.

## Main definitions

* `Row`: Columns and their values, in the order selected.
* `Row.get?`: The value of a column.
* `Row.int`, `Row.float`, `Row.bool`, `Row.text`: Typed readers.
* `Row.structured`: The reader of structured columns.
-/

namespace SqlMapper

/-- Columns and their values, in the order selected. -/
structure Row where
  /-- The columns; a name may repeat. -/
  cells : List (String × Value)
  deriving DecidableEq

namespace Row

/-- The names of the columns. -/
def columns (r : Row) : List String :=
  r.cells.map (·.1)

/-- The value of the first column of a name. -/
def get? (r : Row) (column : String) : Option Value :=
  (r.cells.find? fun c => c.1 == column).map (·.2)

/-- The value of a column that has to be there. -/
def require (r : Row) (column : String) : Except Error Value :=
  match r.get? column with
  | some v => .ok v
  | none => .error (.field column "column missing from result row")

/-- The refusal of a value that has the wrong form. -/
def unexpected (column wanted found : String) : Error :=
  .field column ("expected " ++ wanted ++ ", got " ++ found)

/-- A column as an integer. Truth values count as zero and one, and text is read. -/
def int (r : Row) (column : String) : Except Error Int64 := do
  match ← r.require column with
  | .int n => return n
  | .bool b => return if b then 1 else 0
  | .text s =>
    match Decimal.int64? (Text.trim s) with
    | some n => return n
    | none => throw (unexpected column "integer" (Text.quoted s))
  | other => throw (unexpected column "integer" other.diagnostic)

/-- A column as a floating-point number. Integers are rounded to one, and text is read. -/
def float (r : Row) (column : String) : Except Error Float := do
  match ← r.require column with
  | .float x => return x
  | .int n => return Float.ofInt n.toInt
  | .text s =>
    match Decimal.float? (Text.trim s) with
    | some x => return x
    | none => throw (unexpected column "float" (Text.quoted s))
  | other => throw (unexpected column "float" other.diagnostic)

/-- A column as a truth value. Zero is false, and so are the empty text, `0` and `false`. -/
def bool (r : Row) (column : String) : Except Error Bool := do
  match ← r.require column with
  | .bool b => return b
  | .int n => return n != 0
  | .text s => return !(s == "" || s == "0" || s == "false")
  | other => throw (unexpected column "boolean" other.diagnostic)

/-- A column as text; nothing for the absent value. -/
def text (r : Row) (column : String) : Except Error (Option String) := do
  match ← r.require column with
  | .null => return none
  | other => return some other.plain

/-- A column that holds a structured value in its envelope; nothing for the absent value. -/
def structured {α : Type} (r : Row) (shape : Json.Shape α) (column : String) :
    Except Error (Option α) := do
  match ← r.require column with
  | .null => return none
  | .text s => return some (← Envelope.decode shape none s)
  | .bytes b => return some (← Envelope.decode shape none (Text.ofBytesLossy b))
  | other => throw (unexpected column "encoded text" other.diagnostic)

end Row

end SqlMapper
