import SqlMapper.Condition.Membership
import SqlMapper.Condition.Similarity
import SqlMapper.Identifier

/-!
# Compiling Conditions

Turning conditions into one fragment of SQL and its bindings.

The clauses are joined by `AND` in their order. A named equality gets a fresh
placeholder; a raw fragment goes through, after its lists are spread and its
wildcards moved. A list that no fragment asked for is refused rather than
dropped, since the caller meant it to restrict the rows. A name whose value was
spread is no longer bound itself.

## Main definitions

* `CompiledCondition`: A fragment and its bindings.
* `Bound`: The bindings of a caller, single values and lists apart.
* `Conditions.bound`: The bindings, if their names are placeholders.
* `Progress`: What has been compiled so far.
* `Clause.compile`: One clause.
* `Conditions.compile`: All of them.
-/

namespace SqlMapper

/-- A fragment of SQL, without the word `WHERE`, and the values bound to its placeholders. -/
structure CompiledCondition where
  /-- The fragment; empty if nothing is demanded. -/
  fragment : String
  /-- The bindings. -/
  binds : Binds
  deriving DecidableEq

/-- The bindings of a caller, single values and lists apart. -/
structure Bound where
  /-- The single values. -/
  scalars : Binds := ∅
  /-- The lists, in the order they were bound. -/
  lists : List (String × List Value) := []

/-- One more binding of a caller. -/
def Bound.add (b : Bound) (binding : String × Operand) : Except Error Bound :=
  if isPlaceholder binding.1 then
    match binding.2 with
    | .scalar v => .ok { b with scalars := b.scalars.insert binding.1 v }
    | .list vs => .ok { b with lists := b.lists ++ [(binding.1, vs)] }
  else
    .error (.field binding.1 "disallowed placeholder name")

/-- What has been compiled so far. -/
structure Progress where
  /-- The bindings. -/
  binds : Binds
  /-- The names whose values were spread over lists. -/
  spent : List String := []
  /-- The names whose values carry wildcards. -/
  wrapped : List String := []
  /-- The fragments. -/
  fragments : List String := []

/-- The refusal of a list under a named field. -/
def listUnderField (field : String) : Error :=
  .field field "list value under a named key; use a raw `IN (:name)` fragment"

/-- The refusal of a list that no fragment asks for. -/
def unusedList (name : String) : Error :=
  .field name "list binding not consumed by an `IN (...)` fragment"

/-- A named equality compiled behind what there is. -/
def Progress.addEquality (p : Progress) (field : String) (v : Value) : Except Error Progress := do
  checkIdentifier field
  let placeholder := freshPlaceholder (":_WHERE_" ++ underscored field) p.binds
  return { p with
    binds := p.binds.insert placeholder v
    fragments := p.fragments ++ [quotePath field ++ " = " ++ placeholder] }

/-- A raw fragment compiled behind what there is: first its lists are spread, then its wildcards
    are moved. -/
def Progress.addRaw (p : Progress) (lists : List (String × List Value)) (sql : String) :
    Progress :=
  let (spread, s) := spreadLists lists { binds := p.binds, spent := p.spent } sql.toList
  -- The elements are bound by now, so wildcards may stand around one of them.
  let (text, w) := placeWildcards { binds := s.binds, wrapped := p.wrapped } spread
  { binds := w.binds
    spent := s.spent
    wrapped := w.wrapped
    fragments := p.fragments ++ [String.ofList text] }

/-- One clause compiled behind what there is. -/
def Clause.compile (lists : List (String × List Value)) (p : Progress) :
    Clause → Except Error Progress
  | .equals field (.scalar v) => p.addEquality field v
  | .equals field (.list _) => .error (listUnderField field)
  | .raw sql => .ok (p.addRaw lists sql)

namespace Conditions

/-- The bindings of the caller, if their names are placeholders. -/
def bound (c : Conditions) : Except Error Bound :=
  c.bindings.foldlM Bound.add { }

/-- The conditions as one fragment with its bindings. -/
def compile (c : Conditions) : Except Error CompiledCondition := do
  let b ← c.bound
  let p ← c.clauses.foldlM (Clause.compile b.lists) { binds := b.scalars }
  -- The first list that restricts nothing is refused, in the order they were bound.
  match b.lists.find? fun l => !p.spent.contains l.1 with
  | some (name, _) => throw (unusedList name)
  | none =>
    return {
      fragment := " AND ".intercalate p.fragments
      binds := p.spent.foldl OrderedMap.erase p.binds }

end Conditions

end SqlMapper
