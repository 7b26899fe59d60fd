import SqlMapper.Placeholder

/-!
# Conditions

What a caller asks of the rows a statement touches.

Conditions are an ordered mix of named equalities and raw fragments of SQL, with
values bound beside them. A value may be a list, but only where a raw fragment
asks for membership in it; anywhere else a list has no meaning in SQL, and it is
refused.

## Main definitions

* `Operand`: One value or several.
* `Clause`: An equality or a raw fragment.
* `Conditions`: Clauses and bindings, in order.
* `Conditions.equals`, `Conditions.raw`, `Conditions.bind`: Building conditions.
-/

namespace SqlMapper

/-- One value or several. -/
inductive Operand where
  /-- One value. -/
  | scalar (v : Value)
  /-- Several values, to be tested for membership. -/
  | list (vs : List Value)
  deriving DecidableEq

/-- One condition. -/
inductive Clause where
  /-- A field equals a value. -/
  | equals (field : String) (value : Operand)
  /-- A fragment of SQL. -/
  | raw (sql : String)
  deriving DecidableEq

/-- Conditions in order, and the values bound beside them. -/
structure Conditions where
  /-- The conditions, all of which have to hold. -/
  clauses : List Clause := []
  /-- The values bound to placeholders of raw fragments, in order. -/
  bindings : List (String × Operand) := []
  deriving DecidableEq

namespace Conditions

/-- Demands that a field equals a value. -/
def equals (c : Conditions) (field : String) (value : Operand) : Conditions :=
  { c with clauses := c.clauses ++ [.equals field value] }

/-- Demands what a fragment of SQL says. -/
def raw (c : Conditions) (sql : String) : Conditions :=
  { c with clauses := c.clauses ++ [.raw sql] }

/-- Binds a placeholder of a raw fragment. The colon of the name is optional. -/
def bind (c : Conditions) (name : String) (value : Operand) : Conditions :=
  { c with bindings := c.bindings ++ [(withColon name, value)] }

/-- Whether nothing is demanded. -/
def isEmpty (c : Conditions) : Bool :=
  c.clauses.isEmpty

end Conditions

end SqlMapper
