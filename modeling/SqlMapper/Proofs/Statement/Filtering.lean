import SqlMapper.Program.Basic
import SqlMapper.Proofs.Condition.Distinct
import SqlMapper.Proofs.Statement.Kinds

/-!
# Filtered Statements

What the conditions of a query have to do with its statement.

A query is compiled in the same way with conditions and without. They only decide
what stands in one place of the text and what is bound beside the values of the
query itself, and they can only stand in its way by being refused themselves. So
a query with clauses compiles exactly if it compiles without them and they compile
on their own, and its statement binds whatever they bind.

Conditions without clauses are passed over as if there were none. That is all the
same if nothing is bound beside them either. But a list that is bound and not
asked for, which is refused everywhere else, goes unnoticed then, and a value that
is bound for a raw assignment is dropped.

## Main definitions

* `Query.filter?`, `Query.withConditions`: The conditions of a query.
* `Conditions.IsServing`: Nothing is bound without a clause.
* `Query.Surroundings`: What a query writes and binds around its conditions.
* `Query.Filtered`: Conditions and statement agree.

## Theorems

* `SelectQuery.surrounds`, `UpdateQuery.surrounds`, `DeleteQuery.surrounds`: A statement is
  compiled around the conditions of its query.
* `filtered_of_clauses`: Conditions with clauses and the statement agree.
* `compile_passes_over`: Conditions without clauses are passed over.
* `Query.compile_filter`: Both together.
* `delete_passes_list`: A list that restricts nothing is not refused then.
* `update_drops_value`: The value of a raw assignment is lost.
-/

namespace SqlMapper

/-- The conditions of a query on the rows that it touches. Rows are added without any. -/
def Query.filter? : Query → Option Conditions
  | .select q => q.conditions
  | .insert _ => none
  | .update q => q.conditions
  | .delete q => q.conditions

/-- A query with other conditions, if it can have any. -/
def Query.withConditions (c : Option Conditions) : Query → Query
  | .select q => .select { q with conditions := c }
  | .insert q => .insert q
  | .update q => .update { q with conditions := c }
  | .delete q => .delete { q with conditions := c }

/-- Nothing is bound that no clause could ask for. -/
def Conditions.IsServing (c : Conditions) : Prop :=
  c.clauses = [] → c.bindings = []

instance (c : Conditions) : Decidable c.IsServing :=
  inferInstanceAs (Decidable (c.clauses = [] → c.bindings = []))

/-- What a query writes and binds around its conditions. -/
structure Query.Surroundings where
  /-- The text in front of the clause. -/
  front : String
  /-- The text behind it. -/
  back : String
  /-- The values that the query binds itself. -/
  binds : Binds
  /-- The tables. -/
  tables : List String
  /-- Whether the query only reads. -/
  readonly : Bool

/-- The statement with a clause and its bindings. -/
def Query.Surroundings.around (f : Query.Surroundings) (w : String × Binds) : Statement where
  sql := f.front ++ w.1 ++ f.back
  binds := f.binds.extend w.2
  tables := f.tables
  readonly := f.readonly

/-- A statement agrees with the conditions of its query. -/
structure Query.Filtered (d : Dialect) (q : Query) (c : Conditions) : Prop where
  -- The query compiles if it does without conditions and they do on their own, and only then.
  compiles : (∃ s, q.compile d = .ok s)
    ↔ (∃ s, (q.withConditions none).compile d = .ok s) ∧ ∃ r, c.compile = .ok r
  -- Its text has one clause more than without conditions, unless nothing is demanded.
  clause : ∀ s r, q.compile d = .ok s → c.compile = .ok r → c.clauses ≠ [] →
    ∃ front back, s.sql = front ++ " WHERE " ++ r.fragment ++ back
      ∧ ∃ s₀, (q.withConditions none).compile d = .ok s₀ ∧ s₀.sql = front ++ back
  -- What the conditions bind has the same value in the statement.
  bound : ∀ s r, q.compile d = .ok s → c.compile = .ok r →
    ∀ name v, r.binds.get? name = some v → s.binds.get? name = some v
  -- A list that no fragment asks for is refused.
  refused : ∀ name vs, (name, .list vs) ∈ c.bindings → name ∉ c.listArguments →
    ∀ s, q.compile d ≠ .ok s

/-! ### Queries around their conditions -/

theorem whereClause_clauses {c : Conditions} (h : c.clauses ≠ []) :
    whereClause (some c)
      = c.compile.map fun r => (" WHERE " ++ r.fragment, r.binds) := by
  have hempty : c.isEmpty = false := by simpa [Conditions.isEmpty] using h
  simp only [whereClause, hempty, Bool.false_eq_true, if_false]
  cases c.compile <;> rfl

theorem whereClause_no_clauses {c : Conditions} (h : c.clauses = []) :
    whereClause (some c) = .ok ("", ∅) := by
  simp only [whereClause, Conditions.isEmpty, h, List.isEmpty_nil, if_true]

theorem whereClause_nodup {c : Option Conditions} {w : String × Binds}
    (h : whereClause c = .ok w) : w.2.keys.Nodup := by
  rcases c with _ | c
  · cases h
    exact List.nodup_nil
  · by_cases hclauses : c.clauses = []
    · rw [whereClause_no_clauses hclauses] at h
      cases h
      exact List.nodup_nil
    · rw [whereClause_clauses hclauses] at h
      rcases hcompile : c.compile with _ | r
      · rw [hcompile] at h
        cases h
      · rw [hcompile] at h
        cases h
        exact compile_nodup hcompile

/-- Around a query that binds nothing itself, the bindings are those of the conditions. -/
theorem around_empty {front back : String} {tables : List String} {readonly : Bool}
    {w : String × Binds} (h : w.2.keys.Nodup) :
    Query.Surroundings.around ⟨front, back, ∅, tables, readonly⟩ w
      = ⟨front ++ w.1 ++ back, w.2, tables, readonly⟩ := by
  rw [Query.Surroundings.around, OrderedMap.empty_extend h]

/-- A statement is compiled around the conditions of its query, and would be around others. -/
def Statement.Surrounds (s : Statement) (conditions : Option Conditions)
    (compile : Option Conditions → Except Error Statement) : Prop :=
  ∃ f : Query.Surroundings, (∃ w, whereClause conditions = .ok w ∧ s = f.around w)
    ∧ ∀ c w, whereClause c = .ok w → compile c = .ok (f.around w)

theorem SelectQuery.surrounds {q : SelectQuery} {s : Statement} (h : q.compile = .ok s) :
    s.Surrounds q.conditions fun c => { q with conditions := c }.compile := by
  have htables : q.tables.isEmpty = false := by
    by_contra hnone
    rw [Bool.not_eq_false] at hnone
    rw [compile, if_pos hnone] at h
    cases h
  unfold compile at h
  rcases exists_of_bind_ok (of_check_ok h) with ⟨tables, hquoted, h⟩
  rcases exists_of_bind_ok h with ⟨projection, hprojection, h⟩
  rcases exists_of_bind_ok h with ⟨w, hw, h⟩
  rcases exists_of_bind_ok h with ⟨groups, hgroups, h⟩
  rcases exists_of_bind_ok h with ⟨orders, horders, h⟩
  cases h
  simp only [bind, Except.bind] at horders
  refine ⟨⟨"SELECT " ++ (if q.distinct then "DISTINCT " else "") ++ projection ++ " FROM "
      ++ ", ".intercalate tables, fieldClause " GROUP BY " groups
      ++ fieldClause " ORDER BY " orders ++ limitClause q.limit ++ ";", ∅, q.tables, true⟩,
    ⟨w, hw, ?_⟩, fun c w' hw' => ?_⟩
  · rw [around_empty (whereClause_nodup hw)]
    simp only [String.append_assoc]
  · rw [around_empty (whereClause_nodup hw')]
    simp only [compile, htables, hquoted, hprojection, hw', hgroups, horders, bind, Except.bind,
      Bool.false_eq_true, if_false]
    refine congrArg (fun sql => Except.ok (Statement.mk sql _ _ _)) ?_
    simp only [String.append_assoc]

theorem UpdateQuery.surrounds {q : UpdateQuery} {s : Statement} (h : q.compile = .ok s) :
    s.Surrounds q.conditions fun c => { q with conditions := c }.compile := by
  rcases exists_of_bind_ok h with ⟨table, htable, hrest⟩
  have hassignments : q.assignments.isEmpty = false := by
    by_contra hnone
    rw [Bool.not_eq_false] at hnone
    rw [if_pos hnone] at hrest
    cases hrest
  rcases exists_of_bind_ok (of_check_ok hrest) with ⟨assigned, hassigned, hrest⟩
  rcases exists_of_bind_ok hrest with ⟨w, hw, hrest⟩
  cases hrest
  refine ⟨⟨"UPDATE " ++ table ++ " SET " ++ ", ".intercalate assigned.sets, ";", assigned.binds,
    [q.table], false⟩, ⟨w, hw, rfl⟩, fun c w' hw' => ?_⟩
  simp only [compile, htable, hassignments, hassigned, hw', bind, Except.bind, Bool.false_eq_true,
    if_false]
  rfl

theorem DeleteQuery.surrounds {q : DeleteQuery} {s : Statement} (h : q.compile = .ok s) :
    s.Surrounds q.conditions fun c => { q with conditions := c }.compile := by
  rcases exists_of_bind_ok h with ⟨table, htable, hrest⟩
  rcases exists_of_bind_ok hrest with ⟨w, hw, hrest⟩
  cases hrest
  refine ⟨⟨"DELETE FROM " ++ table, ";", ∅, [q.table], false⟩, ⟨w, hw, ?_⟩, fun c w' hw' => ?_⟩
  · rw [around_empty (whereClause_nodup hw)]
  · rw [around_empty (whereClause_nodup hw')]
    simp only [compile, htable, hw', bind, Except.bind]
    rfl

variable {d : Dialect} {q : Query} {c : Conditions} {s : Statement}

theorem Query.surrounds (hkind : ∀ rows, q ≠ .insert rows) (h : q.compile d = .ok s) :
    s.Surrounds q.filter? fun c => (q.withConditions c).compile d := by
  cases q with
  | select q => exact SelectQuery.surrounds h
  | insert q => exact absurd rfl (hkind q)
  | update q => exact UpdateQuery.surrounds h
  | delete q => exact DeleteQuery.surrounds h

theorem withConditions_filter (hfilter : q.filter? = some c) :
    (q.withConditions none).withConditions (some c) = q := by
  cases q with
  | insert q => cases hfilter
  | _ q =>
      rw [← hfilter]
      rfl

/-- A query that compiles is compiled around its conditions, as it is without any. -/
theorem compile_around (hfilter : q.filter? = some c) (h : q.compile d = .ok s) :
    ∃ f : Query.Surroundings, ∃ w, whereClause (some c) = .ok w ∧ s = f.around w
      ∧ (q.withConditions none).compile d = .ok (f.around ("", ∅)) := by
  have hkind : ∀ rows, q ≠ .insert rows := by
    rintro rows rfl
    cases hfilter
  rcases Query.surrounds hkind h with ⟨f, ⟨w, hw, hs⟩, haround⟩
  exact ⟨f, w, hfilter ▸ hw, hs, haround none _ rfl⟩

/-- A query that compiles without conditions compiles around those that make a clause. -/
theorem compile_of_without (hfilter : q.filter? = some c) {w : String × Binds}
    (h : (q.withConditions none).compile d = .ok s) (hw : whereClause (some c) = .ok w) :
    ∃ s', q.compile d = .ok s' := by
  have hkind : ∀ rows, q.withConditions none ≠ .insert rows := by
    cases q with
    | insert q => cases hfilter
    | _ q => exact fun rows heq => nomatch heq
  rcases Query.surrounds hkind h with ⟨f, -, haround⟩
  have hcompile := haround (some c) w hw
  simp only [withConditions_filter hfilter] at hcompile
  exact ⟨_, hcompile⟩

/-! ### Conditions and statements -/

/-- Conditions without clauses are passed over. -/
theorem compile_passes_over (hfilter : q.filter? = some c) (hclauses : c.clauses = []) :
    q.compile d = (q.withConditions none).compile d := by
  have hwhere : whereClause (some c) = whereClause none := whereClause_no_clauses hclauses
  cases q with
  | select q =>
      have hq : q.conditions = some c := hfilter
      simp only [Query.withConditions, Query.compile, SelectQuery.compile, hq, hwhere]
  | insert q => rfl
  | update q =>
      have hq : q.conditions = some c := hfilter
      simp only [Query.withConditions, Query.compile, UpdateQuery.compile, hq, hwhere]
  | delete q =>
      have hq : q.conditions = some c := hfilter
      simp only [Query.withConditions, Query.compile, DeleteQuery.compile, hq, hwhere]

/-- Without clauses and bindings nothing is asked for and nothing is bound. -/
theorem compile_nothing (hclauses : c.clauses = []) (hbindings : c.bindings = []) :
    c.compile = .ok ⟨"", ∅⟩ := by
  obtain ⟨clauses, bindings⟩ := c
  obtain rfl : clauses = [] := hclauses
  obtain rfl : bindings = [] := hbindings
  rfl

theorem whereClause_of_compile {r : CompiledCondition} (hclauses : c.clauses ≠ [])
    (h : c.compile = .ok r) : whereClause (some c) = .ok (" WHERE " ++ r.fragment, r.binds) := by
  rw [whereClause_clauses hclauses, h]
  rfl

theorem filtered_of_clauses (hfilter : q.filter? = some c) (hclauses : c.clauses ≠ []) :
    q.Filtered d c where
  compiles := by
    refine ⟨fun ⟨s, hs⟩ => ?_, fun ⟨⟨s, hs⟩, r, hr⟩ => ?_⟩
    · rcases compile_around hfilter hs with ⟨f, w, hw, -, hwithout⟩
      rw [whereClause_clauses hclauses] at hw
      rcases hcompile : c.compile with _ | r
      · rw [hcompile] at hw
        cases hw
      · exact ⟨⟨_, hwithout⟩, r, rfl⟩
    · exact compile_of_without hfilter hs (whereClause_of_compile hclauses hr)
  clause s r hs hr _ := by
    rcases compile_around hfilter hs with ⟨f, w, hw, rfl, hwithout⟩
    rw [whereClause_of_compile hclauses hr] at hw
    cases hw
    refine ⟨f.front, f.back, ?_, _, hwithout, ?_⟩
    · simp only [Query.Surroundings.around, String.append_assoc]
    · simp only [Query.Surroundings.around, String.append_empty]
  bound s r hs hr name v hv := by
    rcases compile_around hfilter hs with ⟨f, w, hw, rfl, -⟩
    rw [whereClause_of_compile hclauses hr] at hw
    cases hw
    exact OrderedMap.get?_extend (compile_nodup hr) hv f.binds
  refused name vs hlist hunused s hs := by
    rcases compile_around hfilter hs with ⟨f, w, hw, -, -⟩
    rw [whereClause_clauses hclauses] at hw
    rcases hcompile : c.compile with _ | r
    · rw [hcompile] at hw
      cases hw
    · exact compile_unused_list hlist hunused r hcompile

theorem filtered_of_nothing (hfilter : q.filter? = some c) (hclauses : c.clauses = [])
    (hbindings : c.bindings = []) : q.Filtered d c where
  compiles := by
    rw [compile_passes_over hfilter hclauses, compile_nothing hclauses hbindings]
    exact ⟨fun h => ⟨h, _, rfl⟩, fun h => h.1⟩
  clause s r _ _ hsome := absurd hclauses hsome
  bound s r _ hr name v hv := by
    rw [compile_nothing hclauses hbindings] at hr
    cases hr
    cases hv
  refused name vs hlist := by
    rw [hbindings] at hlist
    cases hlist

variable (d) in
/-- Conditions and statement agree if nothing is bound without a clause. Conditions without
    clauses are passed over, whatever is bound beside them. -/
theorem Query.compile_filter (hfilter : q.filter? = some c) :
    (c.IsServing → q.Filtered d c)
      ∧ (c.clauses = [] → q.compile d = (q.withConditions none).compile d) := by
  refine ⟨fun hserving => ?_, compile_passes_over hfilter⟩
  by_cases hclauses : c.clauses = []
  · exact filtered_of_nothing hfilter hclauses (hserving hclauses)
  · exact filtered_of_clauses hfilter hclauses

/-- Some users, and the step by which their counter goes up. -/
def Conditions.counting : Conditions :=
  ((Conditions.raw { } "id IN (:ids)").bind "ids" (.list [.int 1, .int 2])).bind "n"
    (.scalar (.int 5))

/-- The statement that lets the counter go up. -/
def Statement.counting : Statement where
  sql := "UPDATE `t` SET hits = hits + :n WHERE id IN (:ids_0, :ids_1);"
  binds := OrderedMap.ofList [(":n", .int 5), (":ids_0", .int 1), (":ids_1", .int 2)]
  tables := ["t"]
  readonly := false

theorem Query.compile_filter_counting :
    let q := Query.update ⟨"t", [.raw "hits = hits + :n"], some .counting⟩
    q.filter? = some .counting ∧ Conditions.counting.IsServing ∧ q.Filtered .sqlite .counting
      ∧ q.compile .sqlite = .ok .counting :=
  ⟨rfl, by decide, (Query.compile_filter .sqlite rfl).1 (by decide), by decide⟩

/-- A list that restricts nothing. -/
def Conditions.idleList : Conditions :=
  Conditions.bind { } "ids" (.list [.int 1, .int 2])

/-- A list that restricts nothing is refused by itself, but a removal that has no other
    conditions takes every row. -/
theorem delete_passes_list :
    ¬ ∀ (d : Dialect) (q : Query) (c : Conditions), q.filter? = some c → q.Filtered d c := by
  intro hall
  have hfiltered := hall .sqlite (.delete ⟨"t", some .idleList⟩) .idleList rfl
  exact hfiltered.refused ":ids" [.int 1, .int 2] (by decide) (by decide)
    ⟨"DELETE FROM `t`;", ∅, ["t"], false⟩ (by decide)

/-- The value of a raw assignment is lost if there is no clause beside it. -/
theorem update_drops_value :
    (Conditions.bind { } "n" (.scalar (.int 5))).compile
        = .ok ⟨"", OrderedMap.ofList [(":n", .int 5)]⟩
      ∧ UpdateQuery.compile ⟨"t", [.raw "hits = hits + :n"],
          some (Conditions.bind { } "n" (.scalar (.int 5)))⟩
        = .ok ⟨"UPDATE `t` SET hits = hits + :n;", ∅, ["t"], false⟩ :=
  ⟨by decide, by decide⟩

end SqlMapper
