import SqlMapper.Proofs.Condition.Compiling
import SqlMapper.Proofs.Condition.Placing
import SqlMapper.Proofs.Condition.Spreading

/-!
# Named Equalities

The placeholders that named equalities are given.

The value of an equality is bound to a name that is made up from the field, and
different fields may lead to the same name: fields may repeat, a dot becomes an
underscore, and a number behind one field may stand in another. The caller may
have bound any of these names as well. What keeps the values apart is that each
name is fresh when it is taken and that nothing is bound anew afterwards.

Raw fragments could do that: spreading a list binds its elements, and moving
wildcards binds a value again. The conditions looked at here have no fragment of
that kind, so a raw clause leaves the bindings alone and is written as it is.

## Main definitions

* `Clause.IsPlain`: Nothing in a clause is rewritten.
* `Clause.IsSound`: An equality of an identifier with a single value, or a raw clause.
* `Clause.written`: A clause as it stands in the compiled fragment.
* `Hygienic`: What compiling plain clauses adds to what there was.

## Theorems

* `addRaw_plain`: A raw clause that is plain is written as it is.
* `compile_clauses_plain`: Plain clauses are compiled if they are sound, each value to a name of
  its own.
* `bound_of_scalars`: Single values under the names of placeholders can be bound.
* `compile_equalities`: The same of whole conditions.
-/

namespace SqlMapper

open Text

/-- Nothing in a clause is rewritten: there is no membership in a list to be spread and no
    pattern to be moved. -/
def Clause.IsPlain : Clause → Prop
  | .equals _ _ => True
  | .raw sql =>
    foundIn (scan membershipPattern sql.toList) = []
      ∧ foundIn (scan similarityPattern sql.toList) = []

/-- An equality of an identifier with a single value, or a raw clause. -/
def Clause.IsSound : Clause → Prop
  | .equals field value => isIdentifier field = true ∧ ∃ v, value = .scalar v
  | .raw _ => True

/-- A clause as it stands in the compiled fragment, given the placeholder of its value. -/
def Clause.written (placeholder : String) : Clause → String
  | .equals field _ => quotePath field ++ " = " ++ placeholder
  | .raw sql => sql

/-! ### Raw clauses -/

/-- A text without a match is cut into its characters. -/
theorem scan_of_foundIn {α : Type} {p : Pattern α} {cs : List Char}
    (h : foundIn (scan p cs) = []) : scan p cs = cs.map .char := by
  suffices hall : ∀ cs passed, foundIn (pieces p passed 0 cs) = [] →
      pieces p passed 0 cs = cs.map .char from hall cs none h
  intro cs
  induction cs with
  | nil => exact fun _ _ => rfl
  | cons c rest ih =>
      intro passed hnone
      rcases hmatch : p passed (c :: rest) with _ | ⟨a, k⟩
      · rw [pieces_char hmatch] at hnone ⊢
        rw [ih _ hnone, List.map_cons]
      · rw [pieces_found hmatch] at hnone
        cases hnone

theorem spreadPieces_chars (lists : List (String × List Value)) (s : Spread) (cs : List Char) :
    spreadPieces lists s (cs.map .char) = (cs, s) := by
  induction cs with
  | nil => rfl
  | cons c cs ih => rw [List.map_cons, spreadPieces_char, ih]

theorem placePieces_chars (p : Patterned) (cs : List Char) :
    placePieces p (cs.map .char) = (cs, p) := by
  induction cs with
  | nil => rfl
  | cons c cs ih => rw [List.map_cons, placePieces_char, ih]

/-- A raw clause that is plain is written as it is. -/
theorem addRaw_plain {sql : String} (h : (Clause.raw sql).IsPlain) (p : Progress)
    (lists : List (String × List Value)) :
    p.addRaw lists sql = { p with fragments := p.fragments ++ [sql] } := by
  have hspread : p.spread lists sql = (sql.toList, { binds := p.binds, spent := p.spent }) := by
    rw [Progress.spread, spreadLists, scan_of_foundIn h.1, spreadPieces_chars]
  have hplaced : p.placed lists sql
      = (sql.toList, { binds := p.binds, wrapped := p.wrapped }) := by
    rw [Progress.placed, hspread, placeWildcards, scan_of_foundIn h.2, placePieces_chars]
  rw [addRaw_eq, hspread, hplaced, String.ofList_toList]

/-! ### Plain clauses -/

/-- What compiling clauses adds to what there was, where the value of the clause at place `i` is
    bound to `name i`. -/
structure Hygienic (p : Progress) (clauses : List Clause) (name : Nat → String) (q : Progress) :
    Prop where
  -- No value is spread.
  spent : q.spent = p.spent
  -- Each clause is written behind the others.
  fragments : q.fragments = p.fragments ++ clauses.mapIdx fun i clause => clause.written (name i)
  -- What was bound stays bound to its value.
  kept : ∀ t, p.binds.contains t = true → q.binds.get? t = p.binds.get? t
  -- The name of a value was not bound before, and it is bound to that value.
  bound : ∀ i field v, clauses[i]? = some (.equals field (.scalar v)) →
    p.binds.contains (name i) = false ∧ q.binds.get? (name i) = some v
  -- No two values have the same name.
  apart : ∀ i j field v field' v', clauses[i]? = some (.equals field (.scalar v)) →
    clauses[j]? = some (.equals field' (.scalar v')) → name i = name j → i = j

theorem Hygienic.nil (p : Progress) (name : Nat → String) : Hygienic p [] name p :=
  ⟨rfl, (List.append_nil _).symm, fun _ _ => rfl, nofun, nofun⟩

section

variable {p q : Progress} {clauses : List Clause} {name : Nat → String}

/-- A plain clause in front of the others; its name plays no part. -/
theorem Hygienic.raw {sql : String}
    (h : Hygienic { p with fragments := p.fragments ++ [sql] } clauses name q) :
    Hygienic p (.raw sql :: clauses) (fun i => name (i - 1)) q := by
  refine ⟨h.spent, ?_, h.kept, ?_, ?_⟩
  · rw [h.fragments, List.mapIdx_cons, List.append_assoc]
    rfl
  · rintro (_ | i) field v hi
    · cases hi
    · exact h.bound i field v hi
  · rintro (_ | i) (_ | j) field v field' v' hi hj hname
    · rfl
    · cases hi
    · cases hj
    · rw [h.apart i j field v field' v' hi hj hname]

/-- An equality in front of the others; its name is bound before theirs are taken. -/
theorem Hygienic.equals {field placeholder : String} {v : Value}
    (hfresh : p.binds.contains placeholder = false)
    (h : Hygienic { p with
        binds := p.binds.insert placeholder v
        fragments := p.fragments ++ [quotePath field ++ " = " ++ placeholder] } clauses name q) :
    Hygienic p (.equals field (.scalar v) :: clauses)
      (fun i => if i = 0 then placeholder else name (i - 1)) q := by
  have hfirst : q.binds.get? placeholder = some v := by
    rw [h.kept placeholder (by simp only [OrderedMap.contains_insert, decide_true, Bool.true_or]),
      OrderedMap.get?_insert_self]
  -- Names that are taken later are free even with this one bound.
  have hlater : ∀ i field' v', clauses[i]? = some (.equals field' (.scalar v')) →
      name i ≠ placeholder ∧ p.binds.contains (name i) = false := by
    intro i field' v' hi
    have hfree := (h.bound i field' v' hi).1
    simpa only [OrderedMap.contains_insert, Bool.or_eq_false_iff, decide_eq_false_iff_not]
      using hfree
  refine ⟨h.spent, ?_, fun t ht => ?_, ?_, ?_⟩
  · rw [h.fragments, List.mapIdx_cons, List.append_assoc]
    rfl
  · have hne : t ≠ placeholder := by
      rintro rfl
      rw [hfresh] at ht
      cases ht
    rw [h.kept t (by simp only [OrderedMap.contains_insert, ht, Bool.or_true]),
      OrderedMap.get?_insert_ne _ hne]
  · rintro (_ | i) field' v' hi
    · cases hi
      exact ⟨hfresh, hfirst⟩
    · exact ⟨(hlater i field' v' hi).2, (h.bound i field' v' hi).2⟩
  · rintro (_ | i) (_ | j) field₁ v₁ field₂ v₂ hi hj hname
    · rfl
    · exact absurd hname.symm (hlater j field₂ v₂ hj).1
    · exact absurd hname (hlater i field₁ v₁ hi).1
    · rw [h.apart i j field₁ v₁ field₂ v₂ hi hj hname]

end

/-- An equality of an identifier is compiled to a fresh name. -/
theorem compile_equality {field : String} (h : isIdentifier field = true)
    (lists : List (String × List Value)) (p : Progress) (v : Value) :
    ∃ placeholder, p.binds.contains placeholder = false
      ∧ (Clause.equals field (.scalar v)).compile lists p = .ok { p with
          binds := p.binds.insert placeholder v
          fragments := p.fragments ++ [quotePath field ++ " = " ++ placeholder] } := by
  refine ⟨freshPlaceholder (":_WHERE_" ++ underscored field) p.binds,
    (freshPlaceholder_cases _ p.binds).1, ?_⟩
  simp only [Clause.compile, Progress.addEquality, checkIdentifier, h, if_true, bind, Except.bind]
  rfl

/-- Plain clauses are compiled if they are sound, each value to a name of its own. -/
theorem compile_clauses_plain {lists : List (String × List Value)} {clauses : List Clause}
    (hplain : ∀ clause ∈ clauses, clause.IsPlain) (hsound : ∀ clause ∈ clauses, clause.IsSound)
    (p : Progress) :
    ∃ q name, clauses.foldlM (Clause.compile lists) p = .ok q ∧ Hygienic p clauses name q := by
  induction clauses generalizing p with
  | nil => exact ⟨p, fun _ => "", rfl, .nil p _⟩
  | cons clause clauses ih =>
      have hrest := ih (fun d hd => hplain d (List.mem_cons_of_mem _ hd))
        fun d hd => hsound d (List.mem_cons_of_mem _ hd)
      have hfirst := hsound clause List.mem_cons_self
      cases clause with
      | raw sql =>
          rcases hrest { p with fragments := p.fragments ++ [sql] } with ⟨q, name, hq, hadds⟩
          refine ⟨q, _, ?_, hadds.raw⟩
          rw [List.foldlM_cons, Clause.compile, addRaw_plain (hplain _ List.mem_cons_self)]
          exact hq
      | equals field value =>
          rcases hfirst with ⟨hfield, v, rfl⟩
          rcases compile_equality hfield lists p v with ⟨placeholder, hfresh, hcompiled⟩
          rcases hrest { p with
              binds := p.binds.insert placeholder v
              fragments := p.fragments ++ [quotePath field ++ " = " ++ placeholder] } with
            ⟨q, name, hq, hadds⟩
          refine ⟨q, _, ?_, hadds.equals hfresh⟩
          rw [List.foldlM_cons, hcompiled]
          exact hq

/-- Clauses that are compiled are sound. -/
theorem isSound_of_ok {lists : List (String × List Value)} {p q : Progress}
    {clauses : List Clause} (h : clauses.foldlM (Clause.compile lists) p = .ok q) :
    ∀ clause ∈ clauses, clause.IsSound := by
  induction clauses generalizing p with
  | nil => exact fun _ hmem => nomatch hmem
  | cons clause clauses ih =>
      rcases foldlM_cons_ok h with ⟨p₁, hclause, hrest⟩
      refine List.forall_mem_cons.mpr ⟨?_, ih hrest⟩
      rcases compile_clause_cases hclause with ⟨field, v, rfl, hfield, -⟩ | ⟨sql, rfl, -⟩
      · exact ⟨hfield, v, rfl⟩
      · trivial

/-! ### Bindings of the caller -/

/-- Single values under the names of placeholders can be bound. -/
theorem bound_of_scalars {c : Conditions}
    (h : ∀ e ∈ c.bindings, isPlaceholder e.1 = true ∧ ∃ v, e.2 = .scalar v) :
    ∃ b, c.bound = .ok b ∧ b.lists = [] := by
  suffices hall : ∀ (bindings : List (String × Operand)) (b₀ : Bound),
      (∀ e ∈ bindings, isPlaceholder e.1 = true ∧ ∃ v, e.2 = .scalar v) →
      ∃ b, bindings.foldlM Bound.add b₀ = .ok b ∧ b.lists = b₀.lists from hall c.bindings { } h
  intro bindings
  induction bindings with
  | nil => exact fun b₀ _ => ⟨b₀, rfl, rfl⟩
  | cons e bindings ih =>
      intro b₀ hbindings
      rcases e with ⟨name, value⟩
      rcases hbindings _ List.mem_cons_self with ⟨hname, v, rfl⟩
      rcases ih { b₀ with scalars := b₀.scalars.insert name v }
        fun e he => hbindings e (List.mem_cons_of_mem _ he) with ⟨b, hb, hlists⟩
      have hadd : b₀.add (name, .scalar v)
          = .ok { b₀ with scalars := b₀.scalars.insert name v } := by
        simp only [Bound.add, hname, if_true]
      refine ⟨b, ?_, hlists⟩
      rw [List.foldlM_cons, hadd]
      exact hb

theorem compile_of_ok {c : Conditions} {b : Bound} {p : Progress} (hbound : c.bound = .ok b)
    (hclauses : c.clauses.foldlM (Clause.compile b.lists) { binds := b.scalars } = .ok p)
    (hlists : b.lists = []) :
    c.compile = .ok {
      fragment := " AND ".intercalate p.fragments
      binds := p.spent.foldl OrderedMap.erase p.binds } := by
  have hunused : b.lists.find? (fun l => !p.spent.contains l.1) = none := by
    rw [hlists, List.find?_nil]
  simp only [Conditions.compile, hbound, bind, Except.bind, hclauses, hunused]
  rfl

/-- Conditions with plain clauses and single values are compiled exactly if every clause is sound.
    The clauses are joined in their order. The value of each equality is bound to a name of its
    own, which the caller has not bound, and the names of the caller are bound to the last values
    they were given. -/
theorem compile_equalities {c : Conditions} (hplain : ∀ clause ∈ c.clauses, clause.IsPlain)
    (hscalars : ∀ e ∈ c.bindings, isPlaceholder e.1 = true ∧ ∃ v, e.2 = .scalar v) :
    ((∃ r, c.compile = .ok r) ↔ ∀ clause ∈ c.clauses, clause.IsSound)
      ∧ ∀ r, c.compile = .ok r → ∃ name : Nat → String,
        r.fragment = " AND ".intercalate
            (c.clauses.mapIdx fun i clause => clause.written (name i))
          ∧ (∀ i field v, c.clauses[i]? = some (.equals field (.scalar v)) →
              name i ∉ c.names ∧ r.binds.get? (name i) = some v)
          ∧ (∀ i j field v field' v', c.clauses[i]? = some (.equals field (.scalar v)) →
              c.clauses[j]? = some (.equals field' (.scalar v')) → name i = name j → i = j)
          ∧ ∀ before t v after, c.bindings = before ++ (t, .scalar v) :: after →
              t ∉ after.map (·.1) → r.binds.get? t = some v := by
  rcases bound_of_scalars hscalars with ⟨b, hbound, hlists⟩
  refine ⟨⟨?_, fun hsound => ?_⟩, fun r hr => ?_⟩
  · rintro ⟨r, hr⟩
    rcases compiled_of_ok hr with ⟨b', p, hcompiled⟩
    exact isSound_of_ok hcompiled.clauses
  · rcases @compile_clauses_plain b.lists _ hplain hsound { binds := b.scalars } with
      ⟨q, name, hq, -⟩
    exact ⟨_, compile_of_ok hbound hq hlists⟩
  · rcases compiled_of_ok hr with ⟨b', p, hcompiled⟩
    rcases hbound.symm.trans hcompiled.bound with ⟨⟩
    rcases @compile_clauses_plain b.lists _ hplain (isSound_of_ok hcompiled.clauses)
      { binds := b.scalars } with ⟨q, name, hq, hadds⟩
    rcases hq.symm.trans hcompiled.clauses with ⟨⟩
    have hbinds : r.binds = p.binds := by
      rw [hcompiled.binds, hadds.spent]
      rfl
    refine ⟨name, ?_, fun i field v hi => ?_, hadds.apart, fun before t v after hsplit ht => ?_⟩
    · rw [hcompiled.fragment, hadds.fragments, List.nil_append]
    · rcases hadds.bound i field v hi with ⟨hfresh, hvalue⟩
      refine ⟨fun hmem => ?_, hbinds ▸ hvalue⟩
      rcases (bound_names hbound (name i)).mpr hmem with hscalar | ⟨l, hl, -⟩
      · rw [hfresh] at hscalar
        cases hscalar
      · rw [hlists] at hl
        cases hl
    · have hvalue := bound_last hbound hsplit ht
      rw [hbinds, hadds.kept t (OrderedMap.contains_of_get? hvalue), hvalue]

/-- Fields that lead to one name, a field that leads to a numbered one, and a caller who has bound
    both. -/
def Conditions.alike : Conditions where
  clauses := [.equals "a.ge" (.scalar (.int 10)), .raw "x = :n OR y IN (1)",
    .equals "a_ge" (.scalar (.int 20)), .equals "a.ge_2" (.scalar (.int 30)),
    .equals "a_ge" (.scalar (.int 40))]
  bindings := [(":n", .scalar (.int 1)), (":_WHERE_a_ge", .scalar (.int 2)),
    (":_WHERE_a_ge_2", .scalar (.int 3)), (":n", .scalar (.int 4))]

/-- What is made of them. -/
def CompiledCondition.alike : CompiledCondition where
  fragment := "`a`.`ge` = :_WHERE_a_ge_3 AND x = :n OR y IN (1) AND `a_ge` = :_WHERE_a_ge_4"
    ++ " AND `a`.`ge_2` = :_WHERE_a_ge_2_2 AND `a_ge` = :_WHERE_a_ge_5"
  binds := .ofList [(":n", .int 4), (":_WHERE_a_ge", .int 2), (":_WHERE_a_ge_2", .int 3),
    (":_WHERE_a_ge_3", .int 10), (":_WHERE_a_ge_4", .int 20), (":_WHERE_a_ge_2_2", .int 30),
    (":_WHERE_a_ge_5", .int 40)]

theorem compile_equalities_alike :
    (∀ clause ∈ Conditions.alike.clauses, clause.IsPlain)
      ∧ (∀ e ∈ Conditions.alike.bindings, isPlaceholder e.1 = true ∧ ∃ v, e.2 = .scalar v)
      ∧ (∀ clause ∈ Conditions.alike.clauses, clause.IsSound)
      ∧ Conditions.alike.compile = .ok .alike
      ∧ CompiledCondition.alike.binds.get? ":n" = some (.int 4)
      ∧ ∃ name : Nat → String,
        CompiledCondition.alike.fragment = " AND ".intercalate
            (Conditions.alike.clauses.mapIdx fun i clause => clause.written (name i))
          ∧ (name 0 ∉ Conditions.alike.names
              ∧ CompiledCondition.alike.binds.get? (name 0) = some (.int 10))
          ∧ name 2 ≠ name 4 := by
  have hplain : ∀ clause ∈ Conditions.alike.clauses, clause.IsPlain := by
    simp only [Conditions.alike, List.forall_mem_cons]
    exact ⟨trivial, ⟨by decide, by decide⟩, trivial, trivial, trivial, nofun⟩
  have hscalars : ∀ e ∈ Conditions.alike.bindings,
      isPlaceholder e.1 = true ∧ ∃ v, e.2 = .scalar v := by
    simp only [Conditions.alike, List.forall_mem_cons]
    exact ⟨⟨by decide, _, rfl⟩, ⟨by decide, _, rfl⟩, ⟨by decide, _, rfl⟩, ⟨by decide, _, rfl⟩, nofun⟩
  have hcompiled : Conditions.alike.compile = .ok .alike := rfl
  rcases compile_equalities hplain hscalars with ⟨hsound, hall⟩
  rcases hall _ hcompiled with ⟨name, hfragment, hbound, hapart, hlast⟩
  have hne : name 2 ≠ name 4 := fun h => absurd (hapart 2 4 _ _ _ _ rfl rfl h) (by decide)
  exact ⟨hplain, hscalars, hsound.mp ⟨_, hcompiled⟩, hcompiled,
    hlast (Conditions.alike.bindings.take 3) _ _ [] rfl nofun, name, hfragment,
    hbound 0 _ _ rfl, hne⟩

end SqlMapper
