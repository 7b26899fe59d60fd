import SqlMapper.Proofs.Condition.Distinct

/-!
# Where Names Come From

Which names compiled conditions can bind.

A name is bound by the caller, made up for a named equality, or made up for an
element of a list. What is made up for an equality starts from its field, and a
number may follow. An element has the name of its list with a number behind it, and
as the list may be bound to an element itself, there may be several numbers. Moving
wildcards and taking out names add nothing to this. So whatever is bound can be
traced back to a name of the caller or to a field, and all that was added on the way
is numbers.

A number can only lead to what a prefix asks for if the prefix ends within the
number. So whoever makes up names by a prefix of letters shares none with the
conditions, if the caller stays away from it.

## Main definitions

* `Conditions.Derived`: A name comes from the caller or from a field, but for numbers.

## Theorems

* `spreadPieces_names`, `placePieces_names`: What the rewrites of a fragment bind.
* `compile_derived`: Everything that is bound is derived.
* `startsWith_numbered`: A number leads to no prefix of letters.
* `Conditions.Derived.avoids`: Derived names avoid what the caller avoids.
-/

namespace SqlMapper

open Text

/-- A name comes from the caller or from the field of an equality, but for numbers behind it. -/
inductive Conditions.Derived (c : Conditions) : String → Prop where
  | bound {t : String} (h : t ∈ c.names) : Derived c t
  | equality {field : String} {value : Operand} (h : .equals field value ∈ c.clauses) :
    Derived c (":_WHERE_" ++ underscored field)
  | numbered {t : String} (n : Nat) (h : Derived c t) : Derived c (numbered t n)

variable {lists : List (String × List Value)} {P : String → Prop}

/-! ### Steps -/

/-- Spreading lists binds names that are bound already, and numbered ones. -/
theorem spreadPieces_names (hlists : ∀ l ∈ lists, P l.1) (hnumbered : ∀ t n, P t → P (numbered t n))
    {s : Spread} (hs : ∀ t, s.binds.contains t = true → P t) (ps : List (Piece Membership)) :
    ∀ t, (spreadPieces lists s ps).2.binds.contains t = true → P t := by
  induction ps generalizing s with
  | nil => exact hs
  | cons piece ps ih =>
      cases piece with
      | char c => exact ih hs
      | found m =>
          rcases hbound : elements? lists s.binds (String.ofList m.name) with _ | vs
          · rw [spreadPieces_unbound hbound]
            exact ih hs
          · rw [spreadPieces_bound hbound]
            have hname : P (String.ofList m.name) := by
              rcases elements?_isSome.mp (Option.isSome_of_eq_some hbound) with h | ⟨l, hl, hname⟩
              · exact hs _ h
              · exact hname ▸ hlists l hl
            refine ih fun t ht => ?_
            rw [Spread.bound, bindElements, OrderedMap.contains_insertAll, Bool.or_eq_true,
              decide_eq_true_iff, map_fst_zip_elementNames] at ht
            rcases ht with ht | ht
            · rcases mem_elementNames ht with ⟨i, -, rfl⟩
              exact hnumbered _ _ hname
            · exact hs t ht

/-- Moving wildcards binds no further names. -/
theorem placePieces_names {p : Patterned} (hp : ∀ t, p.binds.contains t = true → P t)
    (ps : List (Piece Similarity)) :
    ∀ t, (placePieces p ps).2.binds.contains t = true → P t := by
  induction ps generalizing p with
  | nil => exact hp
  | cons piece ps ih =>
      cases piece with
      | char c => exact ih hp
      | found s =>
          rcases hvalue : p.binds.get? (String.ofList s.name) with _ | v
          · rw [placePieces_unbound hvalue]
            exact ih hp
          · rw [placePieces_bound hvalue]
            refine ih fun t ht => ?_
            rw [Patterned.wrap] at ht
            split at ht
            · exact hp t ht
            · rw [OrderedMap.contains_insert, Bool.or_eq_true, decide_eq_true_iff] at ht
              rcases ht with rfl | ht
              · exact hp _ (OrderedMap.contains_of_get? hvalue)
              · exact hp t ht

theorem Conditions.Derived.fresh {c : Conditions} {base : String} (h : c.Derived base) (b : Binds) :
    c.Derived (freshPlaceholder base b) := by
  rcases (freshPlaceholder_cases base b).2 with hname | ⟨n, hname⟩
  · rwa [hname]
  · rw [hname]
    exact h.numbered n

theorem compile_clause_derived {c : Conditions} (hlists : ∀ l ∈ lists, c.Derived l.1)
    {p p' : Progress} {clause : Clause} (hclause : clause ∈ c.clauses)
    (h : clause.compile lists p = .ok p') (hp : ∀ t, p.binds.contains t = true → c.Derived t) :
    ∀ t, p'.binds.contains t = true → c.Derived t := by
  rcases compile_clause_cases h with ⟨field, v, rfl, -, rfl⟩ | ⟨sql, -, rfl⟩
  · intro t ht
    rw [OrderedMap.contains_insert, Bool.or_eq_true, decide_eq_true_iff] at ht
    rcases ht with rfl | ht
    · exact (Conditions.Derived.equality hclause).fresh p.binds
    · exact hp t ht
  · rw [addRaw_eq]
    exact placePieces_names (spreadPieces_names hlists (fun _ n => .numbered n) hp _) _

theorem compile_clauses_derived {c : Conditions} (hlists : ∀ l ∈ lists, c.Derived l.1)
    {p p' : Progress} {clauses : List Clause} (hclauses : ∀ clause ∈ clauses, clause ∈ c.clauses)
    (h : clauses.foldlM (Clause.compile lists) p = .ok p')
    (hp : ∀ t, p.binds.contains t = true → c.Derived t) :
    ∀ t, p'.binds.contains t = true → c.Derived t := by
  induction clauses generalizing p with
  | nil =>
      cases h
      exact hp
  | cons clause clauses ih =>
      rw [List.forall_mem_cons] at hclauses
      rcases foldlM_cons_ok h with ⟨q, hq, hrest⟩
      exact ih hclauses.2 hrest (compile_clause_derived hlists hclauses.1 hq hp)

/-- Everything that compiled conditions bind comes from the caller or from a field. -/
theorem compile_derived {c : Conditions} {r : CompiledCondition} (h : c.compile = .ok r)
    {t : String} (ht : r.binds.contains t = true) : c.Derived t := by
  rcases compiled_of_ok h with ⟨b, p, hcompiled⟩
  have hnames := bound_names hcompiled.bound
  have hlists : ∀ l ∈ b.lists, c.Derived l.1 := fun l hl =>
    .bound ((hnames l.1).mp (Or.inr ⟨l, hl, rfl⟩))
  rw [hcompiled.binds, contains_eraseAll, Bool.and_eq_true] at ht
  exact compile_clauses_derived hlists (fun _ hclause => hclause) hcompiled.clauses
    (fun t ht => .bound ((hnames t).mp (Or.inl ht))) t ht.2

/-! ### Prefixes -/

/-- A number leads to no prefix that ends in a letter. -/
theorem startsWith_numbered {start : String} {last : Char}
    (hlast : start.toList.getLast? = some last) (hletter : last ≠ '_' ∧ last.isDigit = false)
    (t : String) (n : Nat) : startsWith (numbered t n) start = startsWith t start := by
  rw [Bool.eq_iff_iff]
  simp only [startsWith, List.isPrefixOf_iff_prefix, toList_numbered]
  refine ⟨fun h => ?_, fun h => h.trans (List.prefix_append _ _)⟩
  rcases List.prefix_or_prefix_of_prefix h (List.prefix_append t.toList _) with
    hprefix | ⟨more, hmore⟩
  · exact hprefix
  · -- What goes beyond the name is part of the number.
    rw [← hmore, List.prefix_append_right_inj] at h
    rcases List.eq_nil_or_concat' more with rfl | ⟨others, c, rfl⟩
    · have hwhole : t.toList = start.toList := by rw [← hmore, List.append_nil]
      exact hwhole ▸ List.prefix_rfl
    · rw [← hmore, ← List.append_assoc, List.getLast?_concat, Option.some.injEq] at hlast
      subst hlast
      have hc := h.subset List.mem_concat_self
      rcases List.mem_cons.mp hc with rfl | hc
      · exact absurd rfl hletter.1
      · rw [isDigit_of_mem_number hc] at hletter
        cases hletter.2

/-- Derived names avoid a prefix that ends in a letter, if the names of the caller and of all fields
    do. -/
theorem Conditions.Derived.avoids {c : Conditions} {start : String} {last : Char}
    (hlast : start.toList.getLast? = some last) (hletter : last ≠ '_' ∧ last.isDigit = false)
    (hnames : ∀ t ∈ c.names, startsWith t start = false)
    (hfields : ∀ field, startsWith (":_WHERE_" ++ underscored field) start = false) {t : String}
    (h : c.Derived t) : startsWith t start = false := by
  induction h with
  | bound h => exact hnames _ h
  | equality _ => exact hfields _
  | numbered n _ ih => rw [startsWith_numbered hlast hletter, ih]

end SqlMapper
