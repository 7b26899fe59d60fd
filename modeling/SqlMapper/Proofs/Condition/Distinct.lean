import SqlMapper.Proofs.Condition.Compiling
import SqlMapper.Proofs.Condition.Placing
import SqlMapper.Proofs.Condition.Spreading

/-!
# Distinct Names and Unused Lists

Two facts about every compilation, whatever its clauses and bindings are.

The first is about its result: no name is bound twice. Bindings are only ever
set and taken out, and each of the two keeps names distinct. So whoever sets the
result in other bindings finds each of its values there.

The second is about what it refuses: a list that no fragment asks for. A name is
spent only where a raw fragment asks membership in it, so a list of any other
name is left over at the end.

## Theorems

* `OrderedMap.get?_extend`: What is set in other bindings is found there.
* `spreadPieces_nodup`, `placePieces_nodup`: The rewrites keep names distinct.
* `compile_nodup`: The bindings of compiled conditions have distinct names.
* `compile_clauses_spent`: Only names that are asked for are spent.
* `compile_unused_list`: A list that is not asked for is refused.
-/

namespace SqlMapper

open Text

namespace OrderedMap

variable {κ ν : Type} [DecidableEq κ]

theorem nodup_insertAll {m : OrderedMap κ ν} (h : m.keys.Nodup) (es : List (κ × ν)) :
    (m.insertAll es).keys.Nodup := by
  induction es generalizing m with
  | nil => exact h
  | cons e es ih => exact ih (nodup_insert h e.1 e.2)

/-- What is set in other bindings is found there. -/
theorem get?_extend {other : OrderedMap κ ν} (h : other.keys.Nodup) {key : κ} {value : ν}
    (hfound : other.get? key = some value) (m : OrderedMap κ ν) :
    (m.extend other).get? key = some value :=
  get?_insertAll_mem h (mem_of_lookup hfound) m

theorem empty_extend {other : OrderedMap κ ν} (h : other.keys.Nodup) :
    (∅ : OrderedMap κ ν).extend other = other :=
  congrArg OrderedMap.mk (entries_insertAll h fun _ _ hmem => nomatch hmem)

end OrderedMap

theorem eraseAll_nodup {b : Binds} (h : b.keys.Nodup) (names : List String) :
    (names.foldl OrderedMap.erase b).keys.Nodup := by
  induction names generalizing b with
  | nil => exact h
  | cons name names ih => exact ih (OrderedMap.nodup_erase h name)

variable {α β ε : Type}

/-- What every step keeps holds at the end. -/
theorem foldlM_keeps {f : β → α → Except ε β} {P : β → Prop}
    (hstep : ∀ {b b' : β} {a : α}, f b a = .ok b' → P b → P b') {as : List α} {b b' : β}
    (h : as.foldlM f b = .ok b') (hb : P b) : P b' := by
  induction as generalizing b with
  | nil =>
      cases h
      exact hb
  | cons a as ih =>
      rcases foldlM_cons_ok h with ⟨b₁, ha, hrest⟩
      exact ih hrest (hstep ha hb)

/-! ### Distinct names -/

variable {lists : List (String × List Value)}

theorem add_nodup {b b' : Bound} {binding : String × Operand} (h : b.add binding = .ok b')
    (hnodup : b.scalars.keys.Nodup) : b'.scalars.keys.Nodup := by
  rcases binding with ⟨name, value⟩
  unfold Bound.add at h
  split at h
  · cases value with
    | scalar v =>
        cases h
        exact OrderedMap.nodup_insert hnodup name v
    | list vs =>
        cases h
        exact hnodup
  · cases h

theorem bound_nodup {c : Conditions} {b : Bound} (h : c.bound = .ok b) :
    b.scalars.keys.Nodup :=
  foldlM_keeps (P := fun b : Bound => b.scalars.keys.Nodup) add_nodup h List.nodup_nil

theorem spreadPieces_nodup {s : Spread} (h : s.binds.keys.Nodup) (ps : List (Piece Membership)) :
    (spreadPieces lists s ps).2.binds.keys.Nodup := by
  induction ps generalizing s with
  | nil => exact h
  | cons piece ps ih =>
      cases piece with
      | char c => exact ih h
      | found m =>
          rcases hbound : elements? lists s.binds (String.ofList m.name) with _ | vs
          · rw [spreadPieces_unbound hbound]
            exact ih h
          · rw [spreadPieces_bound hbound]
            exact ih (OrderedMap.nodup_insertAll h _)

theorem wrap_nodup {p : Patterned} (h : p.binds.keys.Nodup) (s : Similarity) (v : Value) :
    (p.wrap s v).binds.keys.Nodup := by
  unfold Patterned.wrap
  split
  · exact h
  · exact OrderedMap.nodup_insert h _ _

theorem placePieces_nodup {p : Patterned} (h : p.binds.keys.Nodup)
    (ps : List (Piece Similarity)) : (placePieces p ps).2.binds.keys.Nodup := by
  induction ps generalizing p with
  | nil => exact h
  | cons piece ps ih =>
      cases piece with
      | char c => exact ih h
      | found s =>
          rcases hbound : p.binds.get? (String.ofList s.name) with _ | v
          · rw [placePieces_unbound hbound]
            exact ih h
          · rw [placePieces_bound hbound]
            exact ih (wrap_nodup h s v)

theorem compile_clause_nodup {p p' : Progress} {clause : Clause}
    (h : clause.compile lists p = .ok p') (hnodup : p.binds.keys.Nodup) :
    p'.binds.keys.Nodup := by
  rcases compile_clause_cases h with ⟨field, v, -, -, rfl⟩ | ⟨sql, -, rfl⟩
  · exact OrderedMap.nodup_insert hnodup _ v
  · rw [addRaw_eq]
    exact placePieces_nodup (spreadPieces_nodup hnodup _) _

/-- No name is bound twice by compiled conditions. -/
theorem compile_nodup {c : Conditions} {r : CompiledCondition} (h : c.compile = .ok r) :
    r.binds.keys.Nodup := by
  rcases compiled_of_ok h with ⟨b, p, hcompiled⟩
  rw [hcompiled.binds]
  exact eraseAll_nodup (foldlM_keeps (P := fun p : Progress => p.binds.keys.Nodup)
    compile_clause_nodup hcompiled.clauses (bound_nodup hcompiled.bound)) p.spent

/-! ### Unused lists -/

theorem add_lists {b b' : Bound} {binding : String × Operand} (h : b.add binding = .ok b') :
    ∃ more, b'.lists = b.lists ++ more ∧ ∀ vs, binding.2 = .list vs → more = [(binding.1, vs)] := by
  rcases binding with ⟨name, value⟩
  unfold Bound.add at h
  split at h
  · cases value with
    | scalar v =>
        cases h
        exact ⟨[], (List.append_nil _).symm, fun vs hvs => nomatch hvs⟩
    | list vs =>
        cases h
        exact ⟨_, rfl, fun vs' hvs => by rw [Operand.list.inj hvs]⟩
  · cases h

theorem mem_bound_lists {c : Conditions} {b : Bound} (h : c.bound = .ok b) {name : String}
    {vs : List Value} (hlist : (name, .list vs) ∈ c.bindings) : (name, vs) ∈ b.lists := by
  rcases List.append_of_mem hlist with ⟨before, after, hsplit⟩
  rw [Conditions.bound, hsplit] at h
  rcases foldlM_middle_ok h with ⟨b₀, b₁, -, hadd, hafter⟩
  have hnow : (name, vs) ∈ b₁.lists := by
    rcases add_lists hadd with ⟨more, hmore, hlast⟩
    rw [hmore, hlast vs rfl]
    exact List.mem_append_right _ List.mem_cons_self
  -- Lists that come later are put behind it.
  refine foldlM_keeps (P := fun b : Bound => (name, vs) ∈ b.lists) (fun hstep hmem => ?_)
    hafter hnow
  rcases add_lists hstep with ⟨more, hmore, -⟩
  rw [hmore]
  exact List.mem_append_left _ hmem

theorem spreadPieces_spent_subset (s : Spread) (ps : List (Piece Membership)) :
    ∀ t ∈ (spreadPieces lists s ps).2.spent,
      t ∈ s.spent ∨ t ∈ (foundIn ps).map fun m => String.ofList m.name := by
  induction ps generalizing s with
  | nil => exact fun t ht => Or.inl ht
  | cons piece ps ih =>
      cases piece with
      | char c => exact ih s
      | found m =>
          intro t ht
          change t ∈ s.spent ∨ t ∈ String.ofList m.name :: _
          rw [List.mem_cons]
          rcases hbound : elements? lists s.binds (String.ofList m.name) with _ | vs
          · rw [spreadPieces_unbound hbound] at ht
            exact (ih s t ht).imp_right Or.inr
          · rw [spreadPieces_bound hbound] at ht
            rcases ih _ t ht with hspent | hrest
            · rw [Spread.bound, List.mem_append, List.mem_singleton] at hspent
              exact hspent.imp_right Or.inl
            · exact Or.inr (Or.inr hrest)

/-- Only names that are asked for are spent. -/
theorem compile_clauses_spent {p p' : Progress} {clauses : List Clause}
    (h : clauses.foldlM (Clause.compile lists) p = .ok p') :
    ∀ t ∈ p'.spent, t ∈ p.spent ∨ t ∈ clauses.flatMap Clause.listArguments := by
  induction clauses generalizing p with
  | nil =>
      cases h
      exact fun t ht => Or.inl ht
  | cons clause clauses ih =>
      rcases foldlM_cons_ok h with ⟨q, hclause, hrest⟩
      intro t ht
      rw [List.flatMap_cons, List.mem_append, ← or_assoc]
      refine (ih hrest t ht).imp_left fun hq => ?_
      rcases compile_clause_cases hclause with ⟨field, v, -, -, rfl⟩ | ⟨sql, rfl, rfl⟩
      · exact Or.inl hq
      · exact spreadPieces_spent_subset { binds := p.binds, spent := p.spent } _ t hq

/-- A list that no fragment asks for is refused. -/
theorem compile_unused_list {c : Conditions} {name : String} {vs : List Value}
    (hlist : (name, .list vs) ∈ c.bindings) (hunused : name ∉ c.listArguments)
    (r : CompiledCondition) : c.compile ≠ .ok r := by
  intro h
  rcases compiled_of_ok h with ⟨b, p, hcompiled⟩
  have hspent : name ∈ p.spent := hcompiled.used _ (mem_bound_lists hcompiled.bound hlist)
  rcases compile_clauses_spent hcompiled.clauses name hspent with hnone | hasked
  · cases hnone
  · exact hunused hasked

end SqlMapper
