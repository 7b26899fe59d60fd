import SqlMapper.Decimal.Layout
import SqlMapper.Text.Quoted
import SqlMapper.Text.Split
import SqlMapper.Text.Utf8

/-!
# SQL Values

The scalar values that statements bind and rows hold.

A value is written in four ways. As an SQL literal it appears in previews of a
statement and in cache keys, never in a statement that runs. As bind text it is
handed to a database that takes it as a string. As plain text it is what a
reader of a column sees. As a diagnostic it shows its kind too, so that an error
message tells the integer one from the text one.

## Main definitions

* `Value`: A scalar.
* `BindKind`: How a value is bound.
* `Value.literal`: The value as an SQL literal.
* `Value.bindText?`: The text bound in its place.
* `Value.plain`: The value as plain text.
* `Value.diagnostic`: The value as error messages show it.
-/

namespace SqlMapper

/-- A scalar that a statement binds or a row holds. -/
inductive Value where
  /-- The absent value. -/
  | null
  /-- A truth value; both supported databases store it as an integer. -/
  | bool (b : Bool)
  /-- An integer of 64 bits. -/
  | int (n : Int64)
  /-- A floating-point number. -/
  | float (x : Float)
  /-- A text. -/
  | text (s : String)
  /-- Bytes that need not be text. -/
  | bytes (b : List UInt8)
  deriving DecidableEq

/-- How a value is bound to a prepared statement. -/
inductive BindKind where
  /-- As an integer. -/
  | int
  /-- As a truth value. -/
  | bool
  /-- As the absent value. -/
  | null
  /-- As a string. -/
  | string
  deriving Repr, DecidableEq

/-- Numbers in statements and texts: never an exponent, no point behind a whole number. -/
def plainNumbers : Decimal.Layout where
  positional := fun _ => true
  wholeMark := []
  plusMark := []
  tie := .up
  nan := "NaN"
  infinity := "inf"

/-- Numbers in diagnostics: an exponent below `1e-4` and from `1e16` on, and a point or an
    exponent always. -/
def diagnosticNumbers : Decimal.Layout where
  positional := fun e => decide (-4 ≤ e) && decide (e < 16)
  wholeMark := ['.', '0']
  plusMark := []
  tie := .up
  nan := "NaN"
  infinity := "inf"

namespace Value

/-- How a value is bound. -/
def bindKind : Value → BindKind
  | .int _ => .int
  | .bool _ => .bool
  | .null => .null
  | .float _ | .text _ | .bytes _ => .string

/-- Whether a value is the absent one. -/
def isNull : Value → Bool
  | .null => true
  | _ => false

/-- A text as an SQL string literal. -/
def quotedLiteral (s : String) : String :=
  String.ofList ('\'' :: Text.doubled '\'' s.toList ++ ['\''])

/-- A value as an SQL literal. Previews and cache keys show it; no statement runs with it. -/
def literal : Value → String
  | .null => "NULL"
  | .bool b => if b then "1" else "0"
  | .int n => toString n.toInt
  | .float x => plainNumbers.render x
  | .text s => quotedLiteral s
  | .bytes b => quotedLiteral (Text.ofBytesLossy b)

/-- The text bound in place of a value that is bound as a string. -/
def bindText? : Value → Option String
  | .float x => some (plainNumbers.render x)
  | .text s => some s
  | .bytes b => some (Text.ofBytesLossy b)
  | _ => none

/-- A value as plain text. -/
def plain : Value → String
  | .null => "NULL"
  | .bool b => if b then "true" else "false"
  | .int n => toString n.toInt
  | .float x => plainNumbers.render x
  | .text s => s
  | .bytes b => Text.ofBytesLossy b

/-- A value as error messages show it. -/
def diagnostic : Value → String
  | .null => "Null"
  | .bool b => "Bool(" ++ (if b then "true" else "false") ++ ")"
  | .int n => "Int(" ++ toString n.toInt ++ ")"
  | .float x => "Float(" ++ diagnosticNumbers.render x ++ ")"
  | .text s => "Text(" ++ Text.quoted s ++ ")"
  | .bytes b => "Bytes([" ++ ", ".intercalate (b.map fun x => toString x.toNat) ++ "])"

end Value

end SqlMapper
