import SqlMapper.OrderedMap
import SqlMapper.Schema.Column

/-!
# Schemas

The layout of a table, and how it got from one version to the next.

An entity says which columns its records have, which of them identify a record,
and which may not repeat. A schema is an entity that has passed the checks: the
key comes first and no other column has its name, only one column counts up by
itself, and every constraint names a column that exists.

Upgrades are lists of statements under keys such as `1_2`. A list for exactly
the wanted pair of versions is used as it is; otherwise the lists of all
consecutive pairs in between are joined, and one that is missing makes the
upgrade impossible.

## Main definitions

* `UniqueKey`: A constraint on one column or on several.
* `Entity`: What a table should look like.
* `Schema`: An entity that passed the checks.
* `Entity.schema`: The checks.
* `Schema.upgradePath`: The statements between two versions.
-/

namespace SqlMapper

/-- Columns whose values may not repeat. -/
inductive UniqueKey where
  /-- One column. -/
  | single (column : String)
  /-- Several columns, taken together. -/
  | composite (columns : List String)
  deriving Repr, DecidableEq

/-- The columns of a constraint. -/
def UniqueKey.columns : UniqueKey → List String
  | .single column => [column]
  | .composite columns => columns

/-- Lists of statements under keys made of two versions. -/
abbrev UpgradeScripts :=
  OrderedMap String (List String)

/-- What a table should look like. -/
structure Entity where
  /-- The column that identifies a record. -/
  primaryKey : Column := (Column.int "id" 0).counting
  /-- The other columns, in their order. -/
  columns : List Column
  /-- The columns whose values may not repeat. -/
  unique : List UniqueKey := []
  /-- The columns indexed for full-text search. -/
  fullText : List String := []
  /-- The version, counted from one. -/
  version : UInt32 := 1
  /-- The statements between versions. -/
  upgrades : UpgradeScripts := ∅
  deriving DecidableEq

/-- The layout of a table. -/
structure Schema where
  /-- The column that identifies a record. -/
  primaryKey : Column
  /-- The other columns, in their order. -/
  others : List Column
  /-- The columns whose values may not repeat. -/
  unique : List UniqueKey
  /-- The columns indexed for full-text search. -/
  fullText : List String
  /-- The version, counted from one. -/
  version : UInt32
  /-- The statements between versions. -/
  upgrades : UpgradeScripts
  deriving DecidableEq

/-- The layout of an entity, if it is consistent. A column that repeats the name of the key is
    left out. -/
def Entity.schema (e : Entity) : Except Error Schema := do
  if e.version = 0 then
    throw (.field "schema_version" "versions start at 1")
  let others := e.columns.filter fun c => c.name != e.primaryKey.name
  let all := e.primaryKey :: others
  if 1 < (all.filter (·.autoIncrement)).length then
    throw (.field e.primaryKey.name "at most one auto-increment column is allowed")
  let unknown (name : String) : Bool := !all.any fun c => c.name == name
  match (e.unique.flatMap UniqueKey.columns).find? unknown with
  | some name => throw (.field name "unique key names an unknown column")
  | none =>
    match e.fullText.find? unknown with
    | some name => throw (.field name "full-text key names an unknown column")
    | none =>
      return {
        primaryKey := e.primaryKey
        others := others
        unique := e.unique
        fullText := e.fullText
        version := e.version
        upgrades := e.upgrades }

namespace Schema

/-- Every column, the key first. -/
def columns (s : Schema) : List Column :=
  s.primaryKey :: s.others

/-- The column of a name. -/
def column? (s : Schema) (name : String) : Option Column :=
  s.columns.find? fun c => c.name == name

/-- Whether the values of a column may not repeat. -/
def isUnique (s : Schema) (name : String) : Bool :=
  s.unique.any fun k => decide (k = .single name)

/-- The constraints on several columns. -/
def compositeKeys (s : Schema) : List (List String) :=
  s.unique.filterMap fun
    | .composite columns => some columns
    | .single _ => none

/-- Whether any column holds structured values. -/
def hasStructured (s : Schema) : Bool :=
  s.columns.any fun c => decide (c.kind = .structured)

/-- The key under which the statements between two versions are listed. -/
def scriptKey (older newer : Nat) : String :=
  toString older ++ "_" ++ toString newer

/-- The statements listed for exactly this pair of versions. -/
def script? (s : Schema) (older newer : Nat) : Option (List String) :=
  s.upgrades.get? (scriptKey older newer)

/-- The statements of so many consecutive steps, or the key of the first step that is missing. -/
def consecutive (s : Schema) (older : Nat) : Nat → Except String (List String)
  | 0 => .ok []
  | steps + 1 =>
    match s.script? older (older + 1) with
    | none => .error (scriptKey older (older + 1))
    | some statements => do return statements ++ (← s.consecutive (older + 1) steps)

/-- The statements between two versions, or the key of the first step that is missing. -/
def upgradePath (s : Schema) (older newer : UInt32) : Except String (List String) :=
  match s.script? older.toNat newer.toNat with
  | some statements => .ok statements
  | none => s.consecutive older.toNat (newer.toNat - older.toNat)

end Schema

end SqlMapper
