import SqlMapper.Text.Split

/-!
# Log Records

What the library reports about its own work.

Every failure is reported where it arises, even if the caller swallows it, and
so is everything that changes a connection: its opening and rebuilding, retries,
transactions, schema upgrades. A record has a level, a message and named fields
whose values are already text. A host that checks its own use of the library
asks the records questions: whether something was reported, how often, and with
which values.

## Main definitions

* `LogLevel`: How much a record matters.
* `LogRecord`: One record.
* `LogRecord.field?`: The value of a field.
* `Log`: Records, oldest first.
* `LogFindings`, `Log.search`: What a log says about a message and a field.
-/

namespace SqlMapper

/-- How much a record matters. -/
inductive LogLevel where
  /-- Something failed. -/
  | error
  /-- Something failed and was dealt with. -/
  | warn
  /-- Something changed. -/
  | info
  /-- A detail of normal work. -/
  | debug
  deriving Repr, DecidableEq

/-- One record. -/
structure LogRecord where
  /-- How much it matters. -/
  level : LogLevel
  /-- What happened. -/
  message : String
  /-- The circumstances, in a fixed order. -/
  fields : List (String × String) := []
  deriving Repr, DecidableEq

/-- Records, oldest first. -/
abbrev Log :=
  List LogRecord

namespace LogRecord

/-- The value of a named field, if the record has it. -/
def field? (r : LogRecord) (name : String) : Option String :=
  (r.fields.find? fun f => f.1 == name).map (·.2)

/-- Whether the message contains a text. -/
def mentions (r : LogRecord) (part : String) : Bool :=
  Text.hasFragment r.message part

end LogRecord

/-- What a log says about a level, a part of a message and a field. -/
structure LogFindings where
  /-- Whether a record of the level mentions the part. -/
  hasEvent : Bool
  /-- Whether a record of any level mentions the part. -/
  hasMessage : Bool
  /-- How many records have the level. -/
  atLevel : Nat
  /-- How many records mention the part. -/
  mentions : Nat
  /-- The values of the field, oldest first. -/
  values : List String
  deriving Repr, DecidableEq

/-- What a log says about a level, a part of a message and a field. -/
def Log.search (log : Log) (level : LogLevel) (part field : String) : LogFindings where
  hasEvent := log.any fun r => decide (r.level = level) && r.mentions part
  hasMessage := log.any (·.mentions part)
  atLevel := log.countP fun r => decide (r.level = level)
  mentions := log.countP (·.mentions part)
  values := log.filterMap (·.field? field)

/-- An optional number as a field shows it. -/
def optionalNumber (n : Option Int64) : String :=
  match n with
  | some n => "Some(" ++ toString n.toInt ++ ")"
  | none => "None"

/-- A truth value as a field shows it. -/
def truthWord (b : Bool) : String :=
  if b then "true" else "false"

end SqlMapper
