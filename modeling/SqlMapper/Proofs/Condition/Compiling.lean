import SqlMapper.Condition.Compile
import SqlMapper.Proofs.Condition.Names
import SqlMapper.Proofs.Text.Scanning

/-!
# Steps of a Compilation

What happens when conditions are compiled without an error.

A clause is a named equality with a single value or a raw fragment, each step
adds one fragment behind the others, and the names whose values were spread lose
their bindings at the end. The laws about compiled conditions are inductions
over these steps.

## Main definitions

* `Compiled`: Conditions are compiled by way of this progress.
* `Progress.spread`, `Progress.placed`: The two rewrites of a raw fragment.
* `Clause.listArguments`: The names a fragment asks membership in.
* `Clause.tokens`: The placeholders of a raw fragment.

## Theorems

* `compiled_of_ok`: What is known of conditions that are compiled.
* `compile_clause_cases`: What one clause does.
* `bound_names`: Every name a caller binds is bound to a single value or to a list.
* `bound_last`: The last value that is bound to a name counts.
* `entries_eraseAll`: Taking out names leaves the other bindings as they are.
-/

namespace SqlMapper

/-- The names a clause asks membership in. -/
def Clause.listArguments : Clause → List String
  | .equals _ _ => []
  | .raw sql =>
    (Text.foundIn (Text.scan membershipPattern sql.toList)).map fun m => String.ofList m.name

/-- The placeholders of a raw fragment. -/
def Clause.tokens : Clause → List String
  | .equals _ _ => []
  | .raw sql => Text.placeholders sql.toList

/-- The names the fragments ask membership in. -/
def Conditions.listArguments (c : Conditions) : List String :=
  c.clauses.flatMap Clause.listArguments

/-- The placeholders of the raw fragments. -/
def Conditions.tokens (c : Conditions) : List String :=
  c.clauses.flatMap Clause.tokens

/-- The names a caller binds. -/
def Conditions.names (c : Conditions) : List String :=
  c.bindings.map (·.1)

/-- Conditions are compiled to a result by way of the bindings of the caller and this progress. -/
structure Compiled (c : Conditions) (b : Bound) (p : Progress) (r : CompiledCondition) : Prop where
  -- The names a caller binds are placeholders.
  bound : c.bound = .ok b
  -- Each clause is compiled behind the others.
  clauses : c.clauses.foldlM (Clause.compile b.lists) { binds := b.scalars } = .ok p
  -- Every list was asked for.
  used : ∀ l ∈ b.lists, l.1 ∈ p.spent
  -- The fragments are joined.
  fragment : r.fragment = " AND ".intercalate p.fragments
  -- Names whose values were spread are not bound.
  binds : r.binds = p.spent.foldl OrderedMap.erase p.binds

theorem compiled_of_ok {c : Conditions} {r : CompiledCondition} (h : c.compile = .ok r) :
    ∃ b p, Compiled c b p r := by
  unfold Conditions.compile at h
  rcases hbound : c.bound with _ | b
  · rw [hbound] at h
    cases h
  · rw [hbound] at h
    rcases hclauses : c.clauses.foldlM (Clause.compile b.lists) { binds := b.scalars } with _ | p
    · simp only [hclauses, bind, Except.bind] at h
      cases h
    · simp only [hclauses, bind, Except.bind] at h
      rcases hfind : b.lists.find? fun l => !p.spent.contains l.1 with _ | ⟨name, vs⟩
      · rw [hfind] at h
        cases h
        refine ⟨b, p, hbound, hclauses, fun l hl => ?_, rfl, rfl⟩
        have hspent := List.find?_eq_none.mp hfind l hl
        rwa [Bool.not_eq_true, Bool.not_eq_false', List.contains_iff_mem] at hspent
      · rw [hfind] at h
        cases h

/-- A clause that is compiled is a named equality with a single value or a raw fragment. -/
theorem compile_clause_cases {lists : List (String × List Value)} {p p' : Progress}
    {clause : Clause} (h : clause.compile lists p = .ok p') :
    (∃ field v, clause = .equals field (.scalar v) ∧ isIdentifier field = true
      ∧ p' = { p with
          binds := p.binds.insert (freshPlaceholder (":_WHERE_" ++ underscored field) p.binds) v
          fragments := p.fragments ++ [quotePath field ++ " = "
            ++ freshPlaceholder (":_WHERE_" ++ underscored field) p.binds] })
    ∨ ∃ sql, clause = .raw sql ∧ p' = p.addRaw lists sql := by
  cases clause with
  | raw sql =>
      cases h
      exact Or.inr ⟨sql, rfl, rfl⟩
  | equals field value =>
      cases value with
      | list vs => cases h
      | scalar v =>
          by_cases hfield : isIdentifier field = true
          · simp only [Clause.compile, Progress.addEquality, checkIdentifier, hfield, if_true, bind,
              Except.bind, pure, Except.pure, Except.ok.injEq] at h
            exact Or.inl ⟨field, v, rfl, hfield, h.symm⟩
          · simp only [Clause.compile, Progress.addEquality, checkIdentifier, hfield, bind,
              Except.bind, Bool.false_eq_true, if_false] at h
            cases h

/-- A raw fragment with its lists spread. -/
def Progress.spread (p : Progress) (lists : List (String × List Value)) (sql : String) :
    List Char × Spread :=
  spreadLists lists { binds := p.binds, spent := p.spent } sql.toList

/-- A raw fragment with its lists spread and its wildcards moved. -/
def Progress.placed (p : Progress) (lists : List (String × List Value)) (sql : String) :
    List Char × Patterned :=
  placeWildcards { binds := (p.spread lists sql).2.binds, wrapped := p.wrapped }
    (p.spread lists sql).1

theorem addRaw_eq (p : Progress) (lists : List (String × List Value)) (sql : String) :
    p.addRaw lists sql =
      { binds := (p.placed lists sql).2.binds
        spent := (p.spread lists sql).2.spent
        wrapped := (p.placed lists sql).2.wrapped
        fragments := p.fragments ++ [String.ofList (p.placed lists sql).1] } := rfl

theorem foldlM_cons_ok {α β ε : Type} {f : β → α → Except ε β} {b b' : β} {a : α} {as : List α}
    (h : (a :: as).foldlM f b = .ok b') : ∃ q, f b a = .ok q ∧ as.foldlM f q = .ok b' := by
  rw [List.foldlM_cons] at h
  rcases ha : f b a with _ | q
  · rw [ha] at h
    cases h
  · rw [ha] at h
    exact ⟨q, rfl, h⟩

theorem foldlM_middle_ok {α β ε : Type} {f : β → α → Except ε β} {b b' : β} {a : α}
    {before after : List α} (h : (before ++ a :: after).foldlM f b = .ok b') :
    ∃ p q, before.foldlM f b = .ok p ∧ f p a = .ok q ∧ after.foldlM f q = .ok b' := by
  induction before generalizing b with
  | nil =>
      rcases foldlM_cons_ok h with ⟨q, ha, hafter⟩
      exact ⟨b, q, rfl, ha, hafter⟩
  | cons first before ih =>
      rcases foldlM_cons_ok h with ⟨p₁, hfirst, hrest⟩
      rcases ih hrest with ⟨p, q, hbefore, ha, hafter⟩
      refine ⟨p, q, ?_, ha, hafter⟩
      rw [List.foldlM_cons, hfirst]
      exact hbefore

theorem add_names {b b' : Bound} {binding : String × Operand} (h : b.add binding = .ok b')
    (t : String) :
    (b'.scalars.contains t = true ∨ ∃ l ∈ b'.lists, l.1 = t)
      ↔ (b.scalars.contains t = true ∨ ∃ l ∈ b.lists, l.1 = t) ∨ t = binding.1 := by
  rcases binding with ⟨name, value⟩
  unfold Bound.add at h
  by_cases hname : isPlaceholder name = true
  · simp only [hname, if_true] at h
    cases value with
    | scalar v =>
        cases h
        simp only [OrderedMap.contains_insert, Bool.or_eq_true, decide_eq_true_eq]
        grind
    | list vs =>
        cases h
        simp only [List.mem_append, List.mem_singleton]
        grind
  · simp only [hname, Bool.false_eq_true, if_false] at h
    cases h

theorem bound_names {c : Conditions} {b : Bound} (h : c.bound = .ok b) (t : String) :
    (b.scalars.contains t = true ∨ ∃ l ∈ b.lists, l.1 = t) ↔ t ∈ c.names := by
  suffices hall : ∀ (bindings : List (String × Operand)) (b₀ b : Bound),
      bindings.foldlM Bound.add b₀ = .ok b →
      ((b.scalars.contains t = true ∨ ∃ l ∈ b.lists, l.1 = t)
        ↔ (b₀.scalars.contains t = true ∨ ∃ l ∈ b₀.lists, l.1 = t) ∨ t ∈ bindings.map (·.1)) by
    rw [hall c.bindings { } b h, Conditions.names]
    refine ⟨fun hnames => hnames.resolve_left ?_, Or.inr⟩
    rintro (hscalar | ⟨l, hl, -⟩)
    · cases hscalar
    · cases hl
  intro bindings
  induction bindings with
  | nil =>
      intro b₀ b hb
      cases hb
      simp only [List.map_nil, List.not_mem_nil, or_false]
  | cons binding bindings ih =>
      intro b₀ b hb
      rcases foldlM_cons_ok hb with ⟨b₁, hadd, hrest⟩
      rw [ih b₁ b hrest, add_names hadd, List.map_cons, List.mem_cons, or_assoc]

theorem add_get?_ne {b b' : Bound} {binding : String × Operand} (h : b.add binding = .ok b')
    {t : String} (ht : t ≠ binding.1) : b'.scalars.get? t = b.scalars.get? t := by
  rcases binding with ⟨name, value⟩
  unfold Bound.add at h
  by_cases hname : isPlaceholder name = true
  · rw [if_pos hname] at h
    cases value with
    | scalar v =>
        cases h
        exact OrderedMap.get?_insert_ne _ ht v
    | list vs =>
        cases h
        rfl
  · rw [if_neg hname] at h
    cases h

/-- The last value that is bound to a name counts. -/
theorem bound_last {c : Conditions} {b : Bound} (h : c.bound = .ok b)
    {before after : List (String × Operand)} {t : String} {v : Value}
    (hsplit : c.bindings = before ++ (t, .scalar v) :: after) (hlast : t ∉ after.map (·.1)) :
    b.scalars.get? t = some v := by
  have hkept : ∀ (bindings : List (String × Operand)) (b₀ b : Bound), t ∉ bindings.map (·.1) →
      bindings.foldlM Bound.add b₀ = .ok b → b.scalars.get? t = b₀.scalars.get? t := by
    intro bindings
    induction bindings with
    | nil =>
        intro b₀ b _ hb
        cases hb
        rfl
    | cons binding bindings ih =>
        intro b₀ b ht hb
        rw [List.map_cons, List.mem_cons, not_or] at ht
        rcases foldlM_cons_ok hb with ⟨b₁, hadd, hrest⟩
        rw [ih b₁ b ht.2 hrest, add_get?_ne hadd ht.1]
  rw [Conditions.bound, hsplit] at h
  rcases foldlM_middle_ok h with ⟨b₀, b₁, -, hadd, hafter⟩
  rw [hkept after b₁ b hlast hafter]
  unfold Bound.add at hadd
  split at hadd
  · cases hadd
    exact OrderedMap.get?_insert_self _ t v
  · cases hadd

theorem get?_eraseAll_ne {names : List String} {t : String} (h : t ∉ names) (b : Binds) :
    (names.foldl OrderedMap.erase b).get? t = b.get? t := by
  induction names generalizing b with
  | nil => rfl
  | cons name names ih =>
      rw [List.mem_cons, not_or] at h
      rw [List.foldl_cons, ih h.2, OrderedMap.get?_erase_ne b h.1]

theorem entries_eraseAll (names : List String) (b : Binds) :
    (names.foldl OrderedMap.erase b).entries = b.entries.filter fun e => decide (e.1 ∉ names) := by
  induction names generalizing b with
  | nil => simp only [List.foldl_nil, List.not_mem_nil, not_false_eq_true, decide_true,
      List.filter_true]
  | cons name names ih =>
      rw [List.foldl_cons, ih, OrderedMap.erase, List.filter_filter]
      refine List.filter_congr fun e _ => ?_
      simp only [List.mem_cons, not_or, Bool.decide_and, Bool.and_comm, ne_eq]

theorem contains_eraseAll (names : List String) (b : Binds) (t : String) :
    (names.foldl OrderedMap.erase b).contains t = (!decide (t ∈ names) && b.contains t) := by
  induction names generalizing b with
  | nil => rfl
  | cons name names ih =>
      rw [List.foldl_cons, ih, OrderedMap.contains_erase]
      by_cases h : t = name
      · simp only [h, decide_true, Bool.not_true, Bool.false_and, Bool.and_false,
          List.mem_cons_self]
      · simp only [h, decide_false, Bool.not_false, Bool.true_and, List.mem_cons, false_or]

end SqlMapper
