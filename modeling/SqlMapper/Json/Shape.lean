import SqlMapper.Json.Node

/-!
# Shapes of JSON

Reading JSON that is expected to have a certain shape.

A shape turns a node into a value of a type, or refuses it. Records are read by
the names of their fields: from an object, whose unknown members are skipped and
whose known ones may not be repeated, or from an array that lists the fields in
order and may stop early.

## Main definitions

* `Shape`: How a type is read from a node.
* `Shape.bool`, `Shape.string`, `Shape.int64`, `Shape.natural`: Scalars.
* `Shape.list`, `Shape.map`, `Shape.optional`: Compound values.
* `Fields`: What a node holds for each field of a record.
* `Fields.read?`: The fields of a record.
-/

namespace SqlMapper

namespace Json

/-- How a value of a type is read from a node. -/
abbrev Shape (α : Type) :=
  Node → Option α

namespace Shape

/-- A truth value. -/
def bool : Shape Bool
  | .bool b => some b
  | _ => none

/-- A text. -/
def string : Shape String
  | .string s => s
  | _ => none

/-- An integer. -/
def integer : Shape Int
  | .number (some (.int n)) => some n
  | _ => none

/-- An integer of 64 bits, with a sign. -/
def int64 : Shape Int64 := fun node => do
  let n ← integer node
  if Decimal.fitsInt64 n then some (Int64.ofInt n) else none

/-- An integer that is not negative and below a bound. -/
def natural (bound : Nat) : Shape Nat := fun node => do
  let n ← integer node
  if 0 ≤ n ∧ n.toNat < bound then some n.toNat else none

/-- Any value, nested no deeper than a limit. -/
def json (limit : Nat) : Shape Json := fun node =>
  if node.nesting ≤ limit then node.json? else none

/-- A list. -/
def list {α : Type} (item : Shape α) : Shape (List α)
  | .array items => items.mapM item
  | _ => none

/-- Values under keys, in the order of the text. -/
def map {α : Type} (value : Shape α) : Shape (List (String × α))
  | .object members => members.mapM fun m => do return (← m.1, ← value m.2)
  | _ => none

/-- A value, or `null`. -/
def optional {α : Type} (value : Shape α) : Shape (Option α)
  | .null => some none
  | node => (value node).map some

end Shape

/-- What a node holds for each field of a record. -/
structure Fields where
  /-- The nodes, in the order of the fields; none for a field that is absent. -/
  nodes : List (Option Node)
  /-- Whether the record was listed by position rather than by name. -/
  byPosition : Bool

namespace Fields

/-- Whether every key can be read and no field is named twice. -/
def wellNamed (names : List String) : List (Option String × Node) → Bool
  | [] => true
  | (none, _) :: _ => false
  | (some key, _) :: rest =>
    (!names.contains key || !rest.any (fun m => m.1 == some key)) && wellNamed names rest

/-- The fields of a record, from an object or from an array. -/
def read? (names : List String) : Node → Option Fields
  | .object members =>
    if wellNamed names members then
      let node (name : String) := (members.find? fun m => m.1 == some name).map (·.2)
      some { nodes := names.map node, byPosition := false }
    else
      none
  | .array items =>
    if items.length ≤ names.length then
      let absent := List.replicate (names.length - items.length) none
      some { nodes := items.map some ++ absent, byPosition := true }
    else
      none
  | _ => none

/-- The node of the field at a position. -/
def at? (f : Fields) (i : Nat) : Option Node :=
  (f.nodes[i]?).join

/-- The field at a position, or a value that stands for its absence. -/
def getD {α : Type} (f : Fields) (i : Nat) (shape : Shape α) (absent : α) : Option α :=
  match f.at? i with
  | some node => shape node
  | none => some absent

end Fields

end Json

end SqlMapper
