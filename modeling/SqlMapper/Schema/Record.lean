import SqlMapper.Row
import SqlMapper.Schema.Basic

/-!
# Records

Rows read as the records of an entity.

Each column of an entity is read by the reader of its kind, the key first and
the rest in the order the entity lists them. The first column that cannot be
read decides the error.

## Main definitions

* `FieldValue`: What a column of each kind yields.
* `Column.read`: One column of a row.
* `Entity.record`: All columns of a row.
-/

namespace SqlMapper

/-- What a column of each kind yields. -/
inductive FieldValue where
  /-- An integer. -/
  | int (n : Int64)
  /-- A floating-point number. -/
  | float (x : Float)
  /-- A text, or none. -/
  | text (s : Option String)
  /-- A truth value. -/
  | boolean (b : Bool)
  /-- A structured value, or none. -/
  | structured (data : Option Json)

/-- One column of a row. -/
def Column.read (c : Column) (r : Row) : Except Error FieldValue :=
  match c.kind with
  | .int => FieldValue.int <$> r.int c.name
  | .float => FieldValue.float <$> r.float c.name
  | .boolean => FieldValue.boolean <$> r.bool c.name
  | .text => FieldValue.text <$> r.text c.name
  | .structured =>
    FieldValue.structured <$> r.structured (Json.Shape.json Envelope.nestingLimit) c.name

/-- The columns an entity reads, the key first, then all others as listed. -/
def Entity.readColumns (e : Entity) : List Column :=
  e.primaryKey :: e.columns

/-- A row as a record of an entity. -/
def Entity.record (e : Entity) (r : Row) : Except Error (List (String × FieldValue)) :=
  e.readColumns.mapM fun c => (c.name, ·) <$> c.read r

end SqlMapper
