import SqlMapper.Statement.Insert
import SqlMapper.Statement.Select
import SqlMapper.Statement.Update

/-!
# Kinds of Statements

What a compiled statement says about itself.

The cache goes by two parts of a statement and never by its text: whether it only
reads, and the tables that it touches. A query that can be compiled decides both
at once, whatever its text turns out to be. A selection reads, and touches the
tables of its own list; every other query changes rows of its one table.

## Theorems

* `SelectQuery.kind`: A compiled selection reads the tables of its list.
* `InsertQuery.kind`, `UpdateQuery.kind`, `DeleteQuery.kind`: The others write to their table.
-/

namespace SqlMapper

variable {ε α β : Type}

theorem exists_of_bind_ok {x : Except ε α} {f : α → Except ε β} {b : β} (h : x >>= f = .ok b) :
    ∃ a, x = .ok a ∧ f a = .ok b := by
  cases x with
  | error e => cases h
  | ok a => exact ⟨a, rfl, h⟩

/-- A check that was passed leaves what comes behind it. -/
theorem of_check_ok {p : Prop} [Decidable p] {e : ε} {f : PUnit → Except ε β} {b : β}
    (h : (if p then throw e >>= f else f ⟨⟩) = .ok b) : f ⟨⟩ = .ok b := by
  by_cases hp : p
  · rw [if_pos hp] at h
    cases h
  · rwa [if_neg hp] at h

theorem not_of_check_ok {p : Prop} [Decidable p] {e : ε} {f : PUnit → Except ε β} {b : β}
    (h : (if p then throw e >>= f else f ⟨⟩) = .ok b) : ¬ p := by
  intro hp
  rw [if_pos hp] at h
  cases h

variable {s : Statement}

theorem SelectQuery.kind {q : SelectQuery} (h : q.compile = .ok s) :
    s.readonly = true ∧ s.tables = q.tables := by
  unfold compile at h
  rcases exists_of_bind_ok (of_check_ok h) with ⟨tables, -, h⟩
  rcases exists_of_bind_ok h with ⟨projection, -, h⟩
  rcases exists_of_bind_ok h with ⟨⟨conditions, binds⟩, -, h⟩
  rcases exists_of_bind_ok h with ⟨groups, -, h⟩
  rcases exists_of_bind_ok h with ⟨orders, -, h⟩
  cases h
  exact ⟨rfl, rfl⟩

theorem InsertQuery.kind {d : Dialect} {q : InsertQuery} (h : q.compile d = .ok s) :
    s.readonly = false ∧ s.tables = [q.table] := by
  unfold compile at h
  rcases exists_of_bind_ok (of_check_ok h) with ⟨table, -, h⟩
  rcases exists_of_bind_ok (of_check_ok (of_check_ok h)) with ⟨_, -, h⟩
  dsimp only at h
  split at h
  · cases h
  · cases h
    exact ⟨rfl, rfl⟩

theorem UpdateQuery.kind {q : UpdateQuery} (h : q.compile = .ok s) :
    s.readonly = false ∧ s.tables = [q.table] := by
  rcases exists_of_bind_ok h with ⟨table, -, h⟩
  rcases exists_of_bind_ok (of_check_ok h) with ⟨assigned, -, h⟩
  rcases exists_of_bind_ok h with ⟨⟨conditions, binds⟩, -, h⟩
  cases h
  exact ⟨rfl, rfl⟩

theorem DeleteQuery.kind {q : DeleteQuery} (h : q.compile = .ok s) :
    s.readonly = false ∧ s.tables = [q.table] := by
  rcases exists_of_bind_ok h with ⟨table, -, h⟩
  rcases exists_of_bind_ok h with ⟨⟨conditions, binds⟩, -, h⟩
  cases h
  exact ⟨rfl, rfl⟩

end SqlMapper
