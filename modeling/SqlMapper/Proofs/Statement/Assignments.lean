import SqlMapper.Proofs.Condition.Origins
import SqlMapper.Proofs.Statement.Checks
import SqlMapper.Proofs.Statement.Filtering

/-!
# Assignments and Conditions

Why an update can set the column that it asks for.

An update has two sources of placeholders. The values it sets are bound first, each
under a fresh name that is made up from its column, so columns may repeat or differ
in a dot alone. The conditions are compiled by themselves, without a look at these
names, and their bindings are set over those of the assignments. If both had bound
one name, the value to be set would be lost without a trace.

They never do, unless the caller interferes. The names of assignments have a prefix of
their own, and what conditions bind is a name of the caller or of an equality, with
numbers behind it at most. So if the caller stays away from the prefix, the bindings
of the statement are those of the assignments and, behind them, those of the
conditions as they are compiled alone.

## Main definitions

* `Assignment.written`, `Assignment.bindings`: What an assignment writes and binds.
* `Assigned`: What assignments add to what there was.
* `UpdateQuery.KeepsApart`: A statement has the assignments of an update and its conditions.

## Theorems

* `assigned_of_ok`: What compiling assignments does.
* `compile_avoids_assigned`: Conditions bind no name that assignments could have.
* `UpdateQuery.compile_keeps_apart`: Both are in the statement, unchanged.
-/

namespace SqlMapper

open Text

/-- What the names of assigned values begin with. -/
def assignedPrefix : String :=
  ":_UPDATE"

/-- An assignment as the statement writes it, given the placeholder of its value. -/
def Assignment.written (placeholder : String) : Assignment → String
  | .named key _ => quotePath key ++ " = " ++ placeholder
  | .raw sql => sql

/-- What an assignment binds, given the placeholder of its value. -/
def Assignment.bindings (placeholder : String) : Assignment → List (String × Value)
  | .named _ v => [(placeholder, v)]
  | .raw _ => []

/-- What assignments bind in their order, given the placeholders of their values. -/
def assignedEntries (name : Nat → String) (assignments : List Assignment) :
    List (String × Value) :=
  (assignments.mapIdx fun i a => a.bindings (name i)).flatten

/-- What assignments add to what there was, where the value of the assignment at place `i` is
    bound to `name i`. -/
structure Assigned (l : AssignmentList) (assignments : List Assignment) (name : Nat → String)
    (l' : AssignmentList) : Prop where
  -- Each assignment is written behind the others.
  sets : l'.sets = l.sets ++ assignments.mapIdx fun i a => a.written (name i)
  -- Each value is bound behind the others.
  entries : l'.binds.entries = l.binds.entries ++ assignedEntries name assignments
  -- The name of a value was not bound before, and it begins as such names do.
  fresh : ∀ i key v, assignments[i]? = some (.named key v) →
    name i ∉ l.binds.keys ∧ startsWith (name i) assignedPrefix = true
  -- No two values have the same name.
  apart : ∀ i j key v key' v', assignments[i]? = some (.named key v) →
    assignments[j]? = some (.named key' v') → name i = name j → i = j

/-- The assignments of an update and its conditions stand in a statement, where the value of the
    assignment at place `i` is bound to `name i`. -/
structure UpdateQuery.KeepsApart (q : UpdateQuery) (name : Nat → String)
    (filter : Option CompiledCondition) (s : Statement) : Prop where
  -- The assignments are written in their order, and the conditions as they are compiled alone.
  sql : s.sql = "UPDATE " ++ quotePath q.table ++ " SET "
    ++ ", ".intercalate (q.assignments.mapIdx fun i a => a.written (name i))
    ++ (filter.elim "" fun r => " WHERE " ++ r.fragment) ++ ";"
  -- The bindings are those of the assignments and, behind them, those of the conditions.
  entries : s.binds.entries
    = assignedEntries name q.assignments ++ filter.elim [] fun r => r.binds.entries
  -- Each value that is set is bound to its name,
  set : ∀ i key v, q.assignments[i]? = some (.named key v) → s.binds.get? (name i) = some v
  -- and no two of these names are the same.
  apart : ∀ i j key v key' v', q.assignments[i]? = some (.named key v) →
    q.assignments[j]? = some (.named key' v') → name i = name j → i = j
  -- What the conditions bind has the same value.
  asked : ∀ r ∈ filter, ∀ t v, r.binds.get? t = some v → s.binds.get? t = some v

/-! ### Assignments -/

section

variable {l l' : AssignmentList} {assignments : List Assignment} {name : Nat → String}

theorem mem_assignedEntries {e : String × Value} :
    e ∈ assignedEntries name assignments
      ↔ ∃ i key, assignments[i]? = some (.named key e.2) ∧ name i = e.1 := by
  rw [assignedEntries, List.mem_flatten]
  constructor
  · rintro ⟨entries, hentries, he⟩
    rcases List.mem_mapIdx.mp hentries with ⟨i, hi, rfl⟩
    rcases hassignment : assignments[i] with ⟨key, v⟩ | sql
    · rw [hassignment, Assignment.bindings, List.mem_singleton] at he
      subst he
      exact ⟨i, key, List.getElem?_eq_some_iff.mpr ⟨hi, hassignment⟩, rfl⟩
    · rw [hassignment] at he
      cases he
  · rintro ⟨i, key, hassignment, hname⟩
    rcases List.getElem?_eq_some_iff.mp hassignment with ⟨hi, hassignment⟩
    refine ⟨_, List.mem_mapIdx.mpr ⟨i, hi, rfl⟩, ?_⟩
    rw [hassignment, Assignment.bindings, hname]
    exact List.mem_singleton_self e

theorem assignedEntries_cons (a : Assignment) :
    assignedEntries name (a :: assignments)
      = a.bindings (name 0) ++ assignedEntries (fun i => name (i + 1)) assignments := by
  rw [assignedEntries, List.mapIdx_cons, List.flatten_cons]
  rfl

theorem Assigned.nil (l : AssignmentList) (name : Nat → String) : Assigned l [] name l :=
  ⟨(List.append_nil _).symm, (List.append_nil _).symm, nofun, nofun⟩

/-- A raw assignment in front of the others; its name plays no part. -/
theorem Assigned.raw {sql : String}
    (h : Assigned { l with sets := l.sets ++ [sql] } assignments name l') :
    Assigned l (.raw sql :: assignments) (fun i => name (i - 1)) l' := by
  refine ⟨?_, ?_, ?_, ?_⟩
  · rw [h.sets, List.mapIdx_cons, List.append_assoc]
    rfl
  · rw [h.entries, assignedEntries_cons]
    rfl
  · rintro (_ | i) key v hi
    · cases hi
    · exact h.fresh i key v hi
  · rintro (_ | i) (_ | j) key v key' v' hi hj hname
    · rfl
    · cases hi
    · cases hj
    · rw [h.apart i j key v key' v' hi hj hname]

/-- A named assignment in front of the others; its value is bound before their names are taken. -/
theorem Assigned.named {key placeholder : String} {v : Value}
    (hfree : placeholder ∉ l.binds.keys) (hstart : startsWith placeholder assignedPrefix = true)
    (h : Assigned {
        binds := l.binds.insert placeholder v
        sets := l.sets ++ [quotePath key ++ " = " ++ placeholder] } assignments name l') :
    Assigned l (.named key v :: assignments)
      (fun i => if i = 0 then placeholder else name (i - 1)) l' := by
  have hkeys := OrderedMap.keys_insert_of_not_mem hfree v
  -- Names that are taken later are free even with this one bound.
  have hlater : ∀ i key' v', assignments[i]? = some (.named key' v') →
      name i ∉ l.binds.keys ∧ name i ≠ placeholder := by
    intro i key' v' hi
    have hfresh := (h.fresh i key' v' hi).1
    rwa [hkeys, List.mem_append, List.mem_singleton, not_or] at hfresh
  refine ⟨?_, ?_, ?_, ?_⟩
  · rw [h.sets, List.mapIdx_cons, List.append_assoc]
    rfl
  · have hset : (l.binds.insert placeholder v).entries = l.binds.entries ++ [(placeholder, v)] :=
      OrderedMap.set_of_not_mem hfree v
    rw [h.entries, hset, assignedEntries_cons, List.append_assoc]
    rfl
  · rintro (_ | i) key' v' hi
    · exact ⟨hfree, hstart⟩
    · exact ⟨(hlater i key' v' hi).1, (h.fresh i key' v' hi).2⟩
  · rintro (_ | i) (_ | j) key₁ v₁ key₂ v₂ hi hj hname
    · rfl
    · exact absurd hname.symm (hlater j key₂ v₂ hj).2
    · exact absurd hname (hlater i key₁ v₁ hi).2
    · rw [h.apart i j key₁ v₁ key₂ v₂ hi hj hname]

/-- An assignment that is compiled is raw, or its value is bound to a name that was free. -/
theorem add_cases {a : Assignment} (h : l.add a = .ok l') :
    (∃ key v placeholder, a = .named key v ∧ placeholder ∉ l.binds.keys
      ∧ startsWith placeholder assignedPrefix = true
      ∧ l' = {
          binds := l.binds.insert placeholder v
          sets := l.sets ++ [quotePath key ++ " = " ++ placeholder] })
    ∨ ∃ sql, a = .raw sql ∧ l' = { l with sets := l.sets ++ [sql] } := by
  cases a with
  | raw sql =>
      cases h
      exact Or.inr ⟨sql, rfl, rfl⟩
  | named key v =>
      rcases exists_of_bind_ok h with ⟨_, -, h⟩
      cases h
      refine Or.inl ⟨key, v, _, rfl, fun hmem => ?_, ?_, rfl⟩
      · have hbound := OrderedMap.contains_of_mem_keys hmem
        rw [(freshPlaceholder_cases _ l.binds).1] at hbound
        cases hbound
      · rcases toList_freshPlaceholder (":_UPDATE_" ++ underscored key) l.binds with
          ⟨behind, hname, -⟩
        rw [startsWith, hname, String.toList_append]
        rfl

/-- Assignments that are compiled are written in their order, each value with a name of its own. -/
theorem assigned_of_ok (h : assignments.foldlM AssignmentList.add l = .ok l') :
    ∃ name, Assigned l assignments name l' := by
  induction assignments generalizing l with
  | nil =>
      cases h
      exact ⟨fun _ => "", .nil _ _⟩
  | cons a assignments ih =>
      rcases foldlM_cons_ok h with ⟨l₁, ha, hrest⟩
      rcases ih hrest with ⟨name, hassigned⟩
      rcases add_cases ha with ⟨key, v, placeholder, rfl, hfree, hstart, rfl⟩ | ⟨sql, rfl, rfl⟩
      · exact ⟨_, hassigned.named hfree hstart⟩
      · exact ⟨_, hassigned.raw⟩

theorem assigned_nodup (h : assignments.foldlM AssignmentList.add l = .ok l')
    (hl : l.binds.keys.Nodup) : l'.binds.keys.Nodup := by
  refine foldlM_keeps (P := fun l => l.binds.keys.Nodup) (fun hadd hnodup => ?_) h hl
  rcases add_cases hadd with ⟨key, v, placeholder, -, -, -, rfl⟩ | ⟨sql, -, rfl⟩
  · exact OrderedMap.nodup_insert hnodup placeholder v
  · exact hnodup

/-- Where nothing was bound, only names of assigned values are. -/
theorem Assigned.startsWith (h : Assigned { } assignments name l') :
    ∀ t ∈ l'.binds.keys, Text.startsWith t assignedPrefix = true := by
  intro t ht
  rcases List.mem_map.mp ht with ⟨e, he, rfl⟩
  rw [h.entries] at he
  rcases mem_assignedEntries.mp he with ⟨i, key, hi, hname⟩
  exact hname ▸ (h.fresh i key e.2 hi).2

end

/-! ### Conditions -/

section

variable {c : Conditions} {r : CompiledCondition}

/-- Conditions bind no name that assignments could have, if the caller does not. -/
theorem compile_avoids_assigned (h : c.compile = .ok r)
    (hnames : ∀ t ∈ c.names, startsWith t assignedPrefix = false) {t : String}
    (ht : r.binds.contains t = true) : startsWith t assignedPrefix = false := by
  have hlast : assignedPrefix.toList.getLast? = some 'E' := rfl
  refine (compile_derived h ht).avoids hlast ⟨by decide, by decide⟩ hnames fun field => ?_
  rw [startsWith, String.toList_append]
  rfl

/-- Bindings of conditions come behind those of assignments, unchanged. -/
theorem entries_extend_compiled (h : c.compile = .ok r)
    (hnames : ∀ t ∈ c.names, startsWith t assignedPrefix = false) {b : Binds}
    (hb : ∀ t ∈ b.keys, startsWith t assignedPrefix = true) :
    (b.extend r.binds).entries = b.entries ++ r.binds.entries := by
  have hnodup := compile_nodup h
  refine OrderedMap.entries_insertAll hnodup fun e he hmem => ?_
  have hvalue := (OrderedMap.mem_entries_iff hnodup).mp he
  have havoids := compile_avoids_assigned h hnames (OrderedMap.contains_of_get? hvalue)
  rw [hb e.1 hmem] at havoids
  cases havoids

end

namespace UpdateQuery

variable {q : UpdateQuery} {s : Statement}

/-- An update is compiled from its assignments and its conditions, if these are absent or demand
    something. -/
theorem compile_cases (h : q.compile = .ok s) (hclauses : ∀ c ∈ q.conditions, c.clauses ≠ []) :
    ∃ l filter, q.assignments.foldlM AssignmentList.add { } = .ok l
      ∧ (∀ r ∈ filter, ∃ c ∈ q.conditions, c.compile = .ok r)
      ∧ q.conditions.mapM Conditions.compile = .ok filter
      ∧ s.sql = "UPDATE " ++ quotePath q.table ++ " SET " ++ ", ".intercalate l.sets
        ++ (filter.elim "" fun r => " WHERE " ++ r.fragment) ++ ";"
      ∧ s.binds = l.binds.extend (filter.elim ∅ fun r => r.binds) := by
  rcases exists_of_bind_ok h with ⟨table, htable, h⟩
  rcases exists_of_bind_ok (of_check_ok h) with ⟨l, hl, h⟩
  rcases exists_of_bind_ok h with ⟨w, hw, h⟩
  cases h
  rcases quoteTable_ok htable with rfl
  rcases hconditions : q.conditions with _ | c
  · rw [hconditions] at hw
    cases hw
    exact ⟨l, none, hl, nofun, rfl, rfl, rfl⟩
  · rw [hconditions, whereClause_clauses (hclauses c hconditions)] at hw
    rcases hcompile : c.compile with _ | r
    · rw [hcompile] at hw
      cases hw
    · rw [hcompile] at hw
      cases hw
      refine ⟨l, some r, hl, ?_, ?_, rfl, rfl⟩
      · rintro _ ⟨⟩
        exact ⟨c, rfl, hcompile⟩
      · rw [Option.mapM_some, hcompile]
        rfl

/-- The assignments of an update and its conditions stand in its statement, unchanged, if the caller
    stays away from the names of assigned values. -/
theorem compile_keeps_apart (h : q.compile = .ok s) (hclauses : ∀ c ∈ q.conditions, c.clauses ≠ [])
    (hnames : ∀ c ∈ q.conditions, ∀ t ∈ c.names, startsWith t assignedPrefix = false) :
    ∃ name filter, q.conditions.mapM Conditions.compile = .ok filter
      ∧ q.KeepsApart name filter s := by
  rcases compile_cases h hclauses with ⟨l, filter, hl, hcompiled, hfilter, hsql, hbinds⟩
  rcases assigned_of_ok hl with ⟨name, hassigned⟩
  have hentries : s.binds.entries
      = assignedEntries name q.assignments ++ filter.elim [] fun r => r.binds.entries := by
    have hset : l.binds.entries = assignedEntries name q.assignments := hassigned.entries
    rw [hbinds, ← hset]
    cases filter with
    | none => exact (List.append_nil _).symm
    | some r =>
        rcases hcompiled r rfl with ⟨c, hc, hr⟩
        exact entries_extend_compiled hr (hnames c hc) hassigned.startsWith
  have hnodup : s.binds.keys.Nodup := by
    rw [hbinds]
    exact OrderedMap.nodup_insertAll (assigned_nodup hl List.nodup_nil) _
  have hfound : ∀ e ∈ assignedEntries name q.assignments ++ filter.elim [] fun r => r.binds.entries,
      s.binds.get? e.1 = some e.2 := fun e he =>
    (OrderedMap.mem_entries_iff hnodup).mp (hentries ▸ he)
  refine ⟨name, filter, hfilter, ?_, hentries, ?_, hassigned.apart, ?_⟩
  · rw [hsql, hassigned.sets]
    rfl
  · intro i key v hi
    exact hfound (name i, v) (List.mem_append_left _ (mem_assignedEntries.mpr ⟨i, key, hi, rfl⟩))
  · rintro r rfl t v hv
    exact hfound (t, v) (List.mem_append_right _ (OrderedMap.mem_of_lookup hv))

/-- Fields that lead to one name, one of which is asked for as well, and a list whose elements have
    names like those of fields. -/
def crossing : UpdateQuery where
  table := "main.t"
  assignments := [.named "a.b" (.int 1), .raw "hits = hits + 1", .named "a_b" (.int 2),
    .named "a_b_2" (.int 3), .named "a.b" (.int 4)]
  conditions := some {
    clauses := [.equals "a.b" (.scalar (.int 5)), .raw "id IN (:ids)",
      .equals "a_b" (.scalar (.int 6))]
    bindings := [(":ids", .list [.int 7, .int 8])] }

/-- The statement of this update. -/
def crossed : Statement where
  sql := "UPDATE `main`.`t` SET `a`.`b` = :_UPDATE_a_b, hits = hits + 1, `a_b` = :_UPDATE_a_b_2, "
    ++ "`a_b_2` = :_UPDATE_a_b_2_2, `a`.`b` = :_UPDATE_a_b_3 WHERE `a`.`b` = :_WHERE_a_b AND "
    ++ "id IN (:ids_0, :ids_1) AND `a_b` = :_WHERE_a_b_2;"
  binds := OrderedMap.ofList [(":_UPDATE_a_b", .int 1), (":_UPDATE_a_b_2", .int 2),
    (":_UPDATE_a_b_2_2", .int 3), (":_UPDATE_a_b_3", .int 4), (":_WHERE_a_b", .int 5),
    (":ids_0", .int 7), (":ids_1", .int 8), (":_WHERE_a_b_2", .int 6)]
  tables := ["main.t"]
  readonly := false

theorem compile_keeps_apart_crossing :
    crossing.compile = .ok crossed
      ∧ ∃ name filter, crossing.conditions.mapM Conditions.compile = .ok filter
        ∧ crossing.KeepsApart name filter crossed := by
  have hcompile : crossing.compile = .ok crossed := by decide +kernel
  exact ⟨hcompile, compile_keeps_apart hcompile (by decide) (by decide)⟩

end UpdateQuery

end SqlMapper
