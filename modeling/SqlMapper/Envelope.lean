import SqlMapper.Error
import SqlMapper.Json.Printer
import SqlMapper.Json.Shape

/-!
# Envelopes

How structured values are stored in a text column.

A list or a record is stored as JSON inside an envelope, `{"v":1,"data":...}`.
The version lets the layout change later without guessing at old rows, so a
reader refuses every version it does not know. It does so only after the whole
text has been read: a damaged text is damaged whatever version it claims.

## Main definitions

* `Envelope.version`: The version written.
* `Envelope.encode`: A value in its envelope.
* `Envelope.decode`: The value in an envelope.
-/

namespace SqlMapper

namespace Envelope

/-- The version written, and the only one understood. -/
def version : Nat := 1

/-- How deeply the value in an envelope may be nested: the envelope itself takes one level. -/
def nestingLimit : Nat :=
  Json.nestingLimit - 1

/-- A value in its envelope, as characters. -/
def encodeChars (data : Json) : List Char :=
  "\x7b\"v\":1,\"data\":".toList ++ data.chars ++ ['\x7d']

/-- A value in its envelope. -/
def encode (data : Json) : String :=
  String.ofList (encodeChars data)

/-- The version and the value that a text holds. A value that is absent from an object is read
    as `absent`; an array has to list both parts. -/
def read? {α : Type} (shape : Json.Shape α) (absent : Option α) (s : String) :
    Option (Nat × α) := do
  let fields ← Json.Fields.read? ["v", "data"] (← Json.Node.read? s)
  let v ← Json.Shape.natural UInt32.size (← fields.at? 0)
  match fields.at? 1 with
  | some node => return (v, ← shape node)
  | none => if fields.byPosition then none else return (v, ← absent)

/-- The value in an envelope of the version that is understood. -/
def decode {α : Type} (shape : Json.Shape α) (absent : Option α) (s : String) :
    Except Error α :=
  match read? shape absent s with
  | none => .error (.codec .malformed)
  | some (v, data) =>
    if v = version then .ok data else .error (.codec (.unsupportedVersion v))

end Envelope

end SqlMapper
