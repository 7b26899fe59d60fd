import SqlMapper.Statement.Insert
import SqlMapper.Statement.Select
import SqlMapper.Statement.Update

/-!
# Refusals

Why a query cannot be compiled.

Compiling only looks at what the caller handed in, so it has one reason to stop:
a name, a key, a placeholder or a list of values is not what it has to be, and
the error names it. Compilations are put together from checks, one behind the
other, and along lists. If each of them can only refuse a field, the whole can do
nothing else.

## Main definitions

* `Refusing`: A computation that can only refuse a field.

## Theorems

* `Refusing.bind`, `Refusing.mapM`, `Refusing.foldlM`: One computation after another.
* `Conditions.refusing`: Conditions can only refuse a field.
* `SelectQuery.refusing`, `InsertQuery.refusing`, `UpdateQuery.refusing`, `DeleteQuery.refusing`:
  So can every query.
-/

namespace SqlMapper

variable {α β : Type}

/-- A computation whose errors are refusals of a field. -/
def Refusing (x : Except Error α) : Prop :=
  ∀ e, x = .error e → e.isField = true

namespace Refusing

theorem ok (a : α) : Refusing (.ok a) :=
  fun _ h => nomatch h

theorem field (name message : String) : Refusing (.error (.field name message) : Except Error α) :=
  fun _ h => Except.error.inj h ▸ rfl

theorem bind {x : Except Error α} {f : α → Except Error β} (hx : Refusing x)
    (hf : ∀ a, Refusing (f a)) : Refusing (x >>= f) := by
  cases x with
  | error e => exact fun e' h => hx e' (Except.error.inj h ▸ rfl)
  | ok a => exact hf a

theorem ite {p : Prop} [Decidable p] {x y : Except Error α} (hx : Refusing x) (hy : Refusing y) :
    Refusing (if p then x else y) := by
  by_cases hp : p
  · rwa [if_pos hp]
  · rwa [if_neg hp]

theorem mapM {f : α → Except Error β} (h : ∀ a, Refusing (f a)) (as : List α) :
    Refusing (as.mapM f) := by
  induction as with
  | nil => exact ok []
  | cons a as ih =>
      rw [List.mapM_cons]
      exact (h a).bind fun b => ih.bind fun bs => ok (b :: bs)

theorem forM {f : α → Except Error PUnit} (h : ∀ a, Refusing (f a)) (as : List α) :
    Refusing (as.forM f) := by
  induction as with
  | nil => exact ok PUnit.unit
  | cons a as ih => exact (h a).bind fun _ => ih

theorem foldlM {f : β → α → Except Error β} (h : ∀ b a, Refusing (f b a)) (as : List α) (b : β) :
    Refusing (as.foldlM f b) := by
  induction as generalizing b with
  | nil => exact ok b
  | cons a as ih =>
      rw [List.foldlM_cons]
      exact (h b a).bind fun b' => ih b'

end Refusing

/-! ### Parts of queries -/

theorem checkIdentifier_refusing (name : String) : Refusing (checkIdentifier name) :=
  .ite (.ok ()) (.field name "disallowed field name")

theorem quoteTable_refusing (table : String) : Refusing (quoteTable table) :=
  (checkIdentifier_refusing table).bind fun _ => .ok _

theorem quoteField_refusing (field : String) : Refusing (quoteField field) :=
  (checkIdentifier_refusing field).bind fun _ => .ok _

theorem projectedField_refusing (field : String) : Refusing (projectedField field) :=
  .ite (.ok "*") (quoteField_refusing field)

theorem Projection.refusing (p : Projection) : Refusing p.compile := by
  cases p with
  | all => exact .ok "*"
  | fields names =>
      cases names with
      | nil => exact .ok "*"
      | cons name names => exact (Refusing.mapM projectedField_refusing _).bind fun _ => .ok _
  | count => exact .ok _
  | sum field => exact (projectedField_refusing field).bind fun _ => .ok _

theorem Bound.add_refusing (b : Bound) (binding : String × Operand) : Refusing (b.add binding) := by
  refine .ite ?_ (.field binding.1 _)
  cases binding.2 with
  | scalar v => exact .ok _
  | list vs => exact .ok _

theorem Clause.refusing (lists : List (String × List Value)) (p : Progress) (c : Clause) :
    Refusing (c.compile lists p) := by
  cases c with
  | equals field value =>
      cases value with
      | scalar v => exact (checkIdentifier_refusing field).bind fun _ => .ok _
      | list vs => exact .field field _
  | raw sql => exact .ok _

theorem Conditions.refusing (c : Conditions) : Refusing c.compile := by
  refine (Refusing.foldlM Bound.add_refusing c.bindings { }).bind fun b => ?_
  refine (Refusing.foldlM (Clause.refusing b.lists) c.clauses _).bind fun p => ?_
  split
  · exact .field _ _
  · exact .ok _

theorem whereClause_refusing (conditions : Option Conditions) :
    Refusing (whereClause conditions) := by
  cases conditions with
  | none => exact .ok _
  | some c => exact .ite (.ok _) (c.refusing.bind fun _ => .ok _)

/-! ### Queries -/

theorem SelectQuery.refusing (q : SelectQuery) : Refusing q.compile := by
  refine .ite (.field "table" _) ?_
  refine (Refusing.mapM quoteTable_refusing q.tables).bind fun tables => ?_
  refine q.projection.refusing.bind fun projection => ?_
  refine (whereClause_refusing q.conditions).bind fun conditions => ?_
  refine (Refusing.mapM quoteField_refusing q.groupBy).bind fun groups => ?_
  refine (Refusing.mapM (fun o => ?_) q.orderBy).bind fun orders => .ok _
  exact (quoteField_refusing o.1).bind fun _ => .ok _

theorem AssignmentList.add_refusing (l : AssignmentList) (a : Assignment) :
    Refusing (l.add a) := by
  cases a with
  | named key value => exact (checkIdentifier_refusing key).bind fun _ => .ok _
  | raw sql => exact .ok _

theorem InsertQuery.refusing (d : Dialect) (q : InsertQuery) : Refusing (q.compile d) := by
  refine .ite (.field "update_columns" _) ?_
  refine (quoteTable_refusing q.table).bind fun table => ?_
  refine .ite (.field "keys" _) (.ite (.field "values" _) ?_)
  refine (Refusing.forM checkIdentifier_refusing (q.keys ++ q.updateColumns)).bind fun _ => ?_
  dsimp only
  split
  · exact .field _ _
  · exact .ok _

theorem UpdateQuery.refusing (q : UpdateQuery) : Refusing q.compile := by
  refine (quoteTable_refusing q.table).bind fun table => .ite (.field "set" _) ?_
  refine (Refusing.foldlM AssignmentList.add_refusing q.assignments { }).bind fun assigned => ?_
  exact (whereClause_refusing q.conditions).bind fun _ => .ok _

theorem DeleteQuery.refusing (q : DeleteQuery) : Refusing q.compile :=
  (quoteTable_refusing q.table).bind fun _ =>
    (whereClause_refusing q.conditions).bind fun _ => .ok _

end SqlMapper
