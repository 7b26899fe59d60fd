import SqlMapper.Sqlite.Numeral
import SqlMapper.Text.Utf8
import SqlMapper.Value

/-!
# SQLite Cells

What SQLite stores in one cell, and how values get there and back.

SQLite has a class of its own for each stored value. Truth values are stored as
integers, and whatever is bound as a string is stored as text, which comes back
as text even if it went in as bytes or as a number. Stored text need not be
valid; what is not is replaced when it is read. Text that is wanted as a number
is read up to where the number in it ends.

## Main definitions

* `Cell`: What is stored in one cell.
* `Cell.ofValue`, `Cell.value`: Binding and reading a value.
* `Cell.toReal`: A cell cast to a floating-point number.
* `Cell.key?`: A cell as the key of a row.
-/

namespace SqlMapper

namespace Sqlite

/-- What is stored in one cell. -/
inductive Cell where
  /-- Nothing. -/
  | null
  /-- An integer. -/
  | integer (n : Int64)
  /-- A floating-point number. -/
  | real (x : Float)
  /-- A text. -/
  | text (bytes : List UInt8)
  /-- Bytes. -/
  | blob (bytes : List UInt8)
  deriving DecidableEq

namespace Cell

/-- The cell that a bound value is stored in. -/
def ofValue (v : Value) : Cell :=
  match v with
  | .null => null
  | .int n => integer n
  | .bool b => integer (if b then 1 else 0)
  | .float _ | .text _ | .bytes _ => text (Text.toBytes (v.bindText?.getD ""))

/-- The value that a cell is read as. -/
def value : Cell → Value
  | null => .null
  | integer n => .int n
  | real x => .float x
  | text bytes => .text (Text.ofBytesLossy bytes)
  | blob bytes => .bytes bytes

/-- The number that stored text or bytes begin with. -/
def numeral (bytes : List UInt8) : Numeral :=
  Numeral.read (Text.ofBytesLossy bytes).toList

/-- A cell cast to a floating-point number. Nothing stays nothing. -/
def toReal : Cell → Cell
  | null => null
  | integer n => real (Float.ofInt n.toInt)
  | real x => real x
  | text bytes | blob bytes => real (numeral bytes).float

/-- A floating-point number as a key, if it is an integer well inside the range. -/
def keyOfFloat? (x : Float) : Option Int64 :=
  let n := x.toInt64
  if Float.ofInt n.toInt == x && decide (Int64.minValue < n) && decide (n < Int64.maxValue) then
    some n
  else
    none

/-- A numeral as a key. A text that is only partly a number is none. -/
def keyOfNumeral? (n : Numeral) : Option Int64 :=
  if n.complete then
    match n.integer?.filter Decimal.fitsInt64 with
    -- A whole number in range is exact; any other has to pass through floating point.
    | some k => some (Int64.ofInt k)
    | none => keyOfFloat? n.float
  else
    none

/-- A cell as the key of a row, if it can be one. -/
def key? : Cell → Option Int64
  | integer n => some n
  | real x => keyOfFloat? x
  | text bytes => keyOfNumeral? (numeral bytes)
  | null | blob _ => none

end Cell

end Sqlite

end SqlMapper
