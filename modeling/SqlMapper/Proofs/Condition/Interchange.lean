import SqlMapper.Proofs.Condition.Distinct
import SqlMapper.Proofs.Condition.Operands

/-!
# Interchangeable Bindings

When it makes no difference which of two sets of bindings conditions have.

Two things are read off the bindings of a name: the last single value and the
first list. A list is found before a single value wherever membership is asked,
and in the end a list has been asked for, or the conditions are refused, and the
name is taken out. So a single value beside a list comes to nothing, unless a
clause notices that it is there: an operand of `LIKE` is only rewritten if its
name has a value, and the value of an equality is not bound to a name that has
one.

Two compilations of the same clauses are followed side by side. Their bindings
are the same but for such hidden names, each clause keeps it that way, and what
is still different at the end is taken out.

## Main definitions

* `Conditions.boundTo`: What is bound to a name, in order.
* `Conditions.scalarOf`, `Conditions.listOf`: What counts of it.
* `CompiledCondition.Same`: The same fragment, and the same bindings in some order.
* `Conditions.CompilesLike`: Conditions are compiled to the same, or both refused.
* `Clause.Notices`: Whether a clause sees a single value beside a list.
* `SameBut`: Bindings that are the same but for hidden names.
* `Conditions.CountsLike`: What counts of the bindings of two conditions is the same.

## Theorems

* `bound_eq_ok_iff`: The bindings of a caller are accepted if their names are placeholders.
* `bound_scalarOf`, `bound_listOf`: What is read off them.
* `freshPlaceholder_congr`: A fresh name depends on which names are bound.
* `compile_clauses_alike`: Bindings that are the same but for hidden names stay so.
* `CountsLike.compilesLike`: Conditions compile alike if what counts of their bindings is the same.
-/

namespace SqlMapper

open Text

namespace Operand

/-- The value of an operand that is a single one. -/
def scalar? : Operand → Option Value
  | .scalar v => some v
  | .list _ => none

/-- The values of an operand that is a list. -/
def list? : Operand → Option (List Value)
  | .scalar _ => none
  | .list vs => some vs

@[simp] theorem scalar?_scalar (v : Value) : (Operand.scalar v).scalar? = some v := rfl

@[simp] theorem scalar?_list (vs : List Value) : (Operand.list vs).scalar? = none := rfl

@[simp] theorem list?_scalar (v : Value) : (Operand.scalar v).list? = none := rfl

@[simp] theorem list?_list (vs : List Value) : (Operand.list vs).list? = some vs := rfl

end Operand

/-- What is bound to a name, in order. -/
def valuesOf (t : String) (bindings : List (String × Operand)) : List Operand :=
  (bindings.filter fun e => e.1 = t).map (·.2)

/-- What is bound to a name, in order. -/
def Conditions.boundTo (c : Conditions) (t : String) : List Operand :=
  valuesOf t c.bindings

/-- The last single value that is bound to a name. -/
def Conditions.scalarOf (c : Conditions) (t : String) : Option Value :=
  ((c.boundTo t).filterMap Operand.scalar?).getLast?

/-- The first list that is bound to a name. -/
def Conditions.listOf (c : Conditions) (t : String) : Option (List Value) :=
  ((c.boundTo t).filterMap Operand.list?).head?

/-- The same fragment, and the same bindings in some order. -/
structure CompiledCondition.Same (r r' : CompiledCondition) : Prop where
  fragment : r.fragment = r'.fragment
  binds : r.binds.entries.Perm r'.binds.entries

/-- Conditions that are compiled to the same, or both refused. -/
def Conditions.CompilesLike (c c' : Conditions) : Prop :=
  (∃ r r', c.compile = .ok r ∧ c'.compile = .ok r' ∧ r.Same r')
    ∨ (∃ e, c.compile = .error e) ∧ ∃ e, c'.compile = .error e

/-- A clause sees whether a single value is bound to a name, even beside a list: the name is
    compared with `LIKE`, or it is one that might be made up for the value of an equality. -/
def Clause.Notices (t : String) : Clause → Prop
  | .equals field _ => t = ":_WHERE_" ++ underscored field
    ∨ ∃ n, t = numbered (":_WHERE_" ++ underscored field) n
  | .raw sql => ∃ s ∈ (Clause.raw sql).operands, t = String.ofList s.name

/-! ### Maps -/

namespace OrderedMap

variable {κ ν : Type} [DecidableEq κ]

/-- Maps in which the same is found under every key have the same entries. -/
theorem entries_perm {m m' : OrderedMap κ ν} (h : m.keys.Nodup) (h' : m'.keys.Nodup)
    (hsame : ∀ key, m.get? key = m'.get? key) : m.entries.Perm m'.entries := by
  have hapart : ∀ {n : OrderedMap κ ν}, n.keys.Nodup → n.entries.Nodup := fun hn =>
    List.Pairwise.of_map _ (fun _ _ hne heq => hne (congrArg _ heq)) hn
  refine (List.perm_ext_iff_of_nodup (hapart h) (hapart h')).mpr fun e => ?_
  rw [mem_entries_iff h, mem_entries_iff h', hsame]

end OrderedMap

/-- A name that is taken out is not bound. -/
theorem get?_eraseAll_mem {names : List String} {t : String} (h : t ∈ names) (b : Binds) :
    (names.foldl OrderedMap.erase b).get? t = none := by
  have hgone := contains_eraseAll names b t
  rw [decide_eq_true h, Bool.not_true, Bool.false_and] at hgone
  exact Option.not_isSome_iff_eq_none.mp (Bool.eq_false_iff.mp hgone)

/-! ### Bindings of the caller -/

theorem mem_names_iff {c : Conditions} {t : String} : t ∈ c.names ↔ c.boundTo t ≠ [] := by
  rw [Conditions.names, Conditions.boundTo, valuesOf, ne_eq, List.map_eq_nil_iff,
    List.filter_eq_nil_iff]
  simp only [List.mem_map, decide_eq_true_eq, not_forall, not_not, exists_prop]

/-- A name is bound if a list or a single value counts of it. -/
theorem mem_names_iff_counts {c : Conditions} {t : String} :
    t ∈ c.names ↔ c.listOf t ≠ none ∨ c.scalarOf t ≠ none := by
  rw [mem_names_iff, Conditions.listOf, Conditions.scalarOf, ne_eq, ne_eq, ne_eq,
    List.head?_eq_none_iff, List.getLast?_eq_none_iff, List.filterMap_eq_nil_iff,
    List.filterMap_eq_nil_iff, ← not_and_or, not_iff_not]
  refine ⟨fun h => h ▸ ⟨nofun, nofun⟩, fun ⟨hlist, hscalar⟩ => ?_⟩
  refine List.eq_nil_iff_forall_not_mem.mpr fun value hvalue => ?_
  cases value with
  | scalar v => cases hscalar _ hvalue
  | list vs => cases hlist _ hvalue

theorem valuesOf_nil (t : String) : valuesOf t [] = [] := rfl

theorem valuesOf_cons (t : String) (e : String × Operand) (bindings : List (String × Operand)) :
    valuesOf t (e :: bindings) = if e.1 = t then e.2 :: valuesOf t bindings
      else valuesOf t bindings := by
  simp only [valuesOf, List.filter_cons, decide_eq_true_eq]
  split <;> rfl

theorem bound_add_eq_ok_iff {b : Bound} {e : String × Operand} :
    (∃ b', b.add e = .ok b') ↔ isPlaceholder e.1 = true := by
  unfold Bound.add
  by_cases h : isPlaceholder e.1 = true
  · rw [if_pos h]
    refine iff_of_true ?_ h
    cases e.2 with
    | scalar v => exact ⟨_, rfl⟩
    | list vs => exact ⟨_, rfl⟩
  · rw [if_neg h]
    exact iff_of_false (fun ⟨_, hok⟩ => nomatch hok) h

/-- The bindings of a caller are accepted if their names are placeholders. -/
theorem bound_eq_ok_iff {c : Conditions} :
    (∃ b, c.bound = .ok b) ↔ ∀ t ∈ c.names, isPlaceholder t = true := by
  suffices hall : ∀ (bindings : List (String × Operand)) (b₀ : Bound),
      (∃ b, bindings.foldlM Bound.add b₀ = .ok b)
        ↔ ∀ t ∈ bindings.map (·.1), isPlaceholder t = true from hall c.bindings { }
  intro bindings
  induction bindings with
  | nil => exact fun b₀ => iff_of_true ⟨b₀, rfl⟩ nofun
  | cons e bindings ih =>
      intro b₀
      rw [List.map_cons, List.forall_mem_cons, ← bound_add_eq_ok_iff (b := b₀)]
      refine ⟨fun ⟨b, hb⟩ => ?_, fun ⟨⟨b₁, hadd⟩, hrest⟩ => ?_⟩
      · rcases foldlM_cons_ok hb with ⟨b₁, hadd, hrest⟩
        exact ⟨⟨b₁, hadd⟩, (ih b₁).mp ⟨b, hrest⟩⟩
      · rcases (ih b₁).mpr hrest with ⟨b, hb⟩
        refine ⟨b, ?_⟩
        rw [List.foldlM_cons, hadd]
        exact hb

/-- One more binding is the last single value of its name, or a list behind the others. -/
theorem bound_add_cases {b b' : Bound} {e : String × Operand} (h : b.add e = .ok b') :
    (∃ v, e.2 = .scalar v ∧ b' = { b with scalars := b.scalars.insert e.1 v })
      ∨ ∃ vs, e.2 = .list vs ∧ b' = { b with lists := b.lists ++ [(e.1, vs)] } := by
  rcases e with ⟨name, value⟩
  unfold Bound.add at h
  split at h
  · cases value with
    | scalar v =>
        cases h
        exact Or.inl ⟨v, rfl, rfl⟩
    | list vs =>
        cases h
        exact Or.inr ⟨vs, rfl, rfl⟩
  · cases h

/-- The last single value counts. -/
theorem bound_scalarOf {c : Conditions} {b : Bound} (h : c.bound = .ok b) (t : String) :
    b.scalars.get? t = c.scalarOf t := by
  suffices hall : ∀ (bindings : List (String × Operand)) (b₀ b : Bound),
      bindings.foldlM Bound.add b₀ = .ok b →
      b.scalars.get? t = ((valuesOf t bindings).filterMap Operand.scalar?).getLast?.or
        (b₀.scalars.get? t) by
    rw [hall c.bindings { } b h, OrderedMap.get?_empty, Option.or_none]
    rfl
  intro bindings
  induction bindings with
  | nil =>
      intro b₀ b hb
      cases hb
      rfl
  | cons e bindings ih =>
      intro b₀ b hb
      rcases foldlM_cons_ok hb with ⟨b₁, hadd, hrest⟩
      rw [ih b₁ b hrest, valuesOf_cons]
      rcases bound_add_cases hadd with ⟨v, hv, rfl⟩ | ⟨vs, hvs, rfl⟩
      · by_cases ht : e.1 = t
        · rw [if_pos ht, ht, OrderedMap.get?_insert_self, hv,
            List.filterMap_cons_some (Operand.scalar?_scalar v), List.getLast?_cons]
          cases ((valuesOf t bindings).filterMap Operand.scalar?).getLast? <;> rfl
        · rw [if_neg ht, OrderedMap.get?_insert_ne _ (Ne.symm ht)]
      · by_cases ht : e.1 = t
        · rw [if_pos ht, hvs, List.filterMap_cons_none (Operand.scalar?_list vs)]
        · rw [if_neg ht]

/-- The first list counts. -/
theorem bound_listOf {c : Conditions} {b : Bound} (h : c.bound = .ok b) (t : String) :
    b.lists.find? (fun l => l.1 == t) = (c.listOf t).map (t, ·) := by
  suffices hall : ∀ (bindings : List (String × Operand)) (b₀ b : Bound),
      bindings.foldlM Bound.add b₀ = .ok b →
      b.lists.find? (fun l => l.1 == t) = (b₀.lists.find? fun l => l.1 == t).or
        (((valuesOf t bindings).filterMap Operand.list?).head?.map (t, ·)) from
    hall c.bindings { } b h
  intro bindings
  induction bindings with
  | nil =>
      intro b₀ b hb
      cases hb
      exact (Option.or_none).symm
  | cons e bindings ih =>
      intro b₀ b hb
      rcases foldlM_cons_ok hb with ⟨b₁, hadd, hrest⟩
      rw [ih b₁ b hrest, valuesOf_cons]
      rcases bound_add_cases hadd with ⟨v, hv, rfl⟩ | ⟨vs, hvs, rfl⟩
      · by_cases ht : e.1 = t
        · rw [if_pos ht, hv, List.filterMap_cons_none (Operand.list?_scalar v)]
        · rw [if_neg ht]
      · rw [List.find?_append, List.find?_cons, List.find?_nil, Option.or_assoc]
        by_cases ht : e.1 = t
        · rw [if_pos ht, hvs, List.filterMap_cons_some (Operand.list?_list vs),
            beq_iff_eq.mpr ht, ht]
          rfl
        · rw [if_neg ht, beq_eq_false_iff_ne.mpr ht, Option.none_or]

/-! ### Fresh names -/

/-- Any number of candidates that is large enough leads to the same fresh name. -/
theorem freshPlaceholder_enough {base : String} {b : Binds} (h : b.contains base = true) {k : Nat}
    (hk : b.size ≤ k) :
    freshPlaceholder base b = (((List.range k).map fun i => numbered base (i + 2)).find?
      fun name => !b.contains name).getD base := by
  rcases Nat.exists_eq_add_of_le hk with ⟨more, rfl⟩
  unfold freshPlaceholder
  simp only [if_pos h]
  rw [List.range_add, List.map_append, List.find?_append]
  rcases hfind : ((List.range b.size).map fun i => numbered base (i + 2)).find?
      fun name => !b.contains name with _ | name
  · rcases exists_unlisted (OrderedMap.mem_keys_of_contains h) with ⟨i, hi, hunlisted⟩
    rw [OrderedMap.keys, List.length_map] at hi
    have hbound := List.find?_eq_none.mp hfind _
      (List.mem_map.mpr ⟨i, List.mem_range.mpr hi, rfl⟩)
    rw [Bool.not_eq_true, Bool.not_eq_false'] at hbound
    exact absurd (OrderedMap.mem_keys_of_contains hbound) hunlisted
  · rfl

/-- A fresh name depends on which of its candidates are bound, and on nothing else. -/
theorem freshPlaceholder_congr {base : String} {b b' : Binds}
    (hbase : b.contains base = b'.contains base)
    (hnumbered : ∀ n, b.contains (numbered base n) = b'.contains (numbered base n)) :
    freshPlaceholder base b = freshPlaceholder base b' := by
  by_cases h : b.contains base = true
  · have hfree : (fun name => !b.contains name) ∘ (fun i => numbered base (i + 2))
        = (fun name => !b'.contains name) ∘ (fun i => numbered base (i + 2)) :=
      funext fun i => congrArg not (hnumbered (i + 2))
    rw [freshPlaceholder_enough h (Nat.le_max_left b.size b'.size),
      freshPlaceholder_enough (hbase ▸ h) (Nat.le_max_right b.size b'.size), List.find?_map,
      List.find?_map, hfree]
  · rw [freshPlaceholder, if_neg h, freshPlaceholder, if_neg (hbase ▸ h)]

/-! ### Side by side -/

/-- Bindings that are the same but for hidden names. -/
def SameBut (hidden : String → Prop) (b b' : Binds) : Prop :=
  ∀ t, ¬ hidden t → b.get? t = b'.get? t

variable {hidden : String → Prop} {lists lists' : List (String × List Value)}

namespace SameBut

variable {b b' : Binds}

theorem contains (h : SameBut hidden b b') {t : String} (ht : ¬ hidden t) :
    b.contains t = b'.contains t := by
  rw [OrderedMap.contains, OrderedMap.contains, h t ht]

theorem insert (h : SameBut hidden b b') (name : String) (v : Value) :
    SameBut hidden (b.insert name v) (b'.insert name v) := by
  intro t ht
  by_cases hname : t = name
  · rw [hname, OrderedMap.get?_insert_self, OrderedMap.get?_insert_self]
  · rw [OrderedMap.get?_insert_ne _ hname, OrderedMap.get?_insert_ne _ hname, h t ht]

theorem insertAll (h : SameBut hidden b b') (es : List (String × Value)) :
    SameBut hidden (b.insertAll es) (b'.insertAll es) := by
  induction es generalizing b b' with
  | nil => exact h
  | cons e es ih => exact ih (h.insert e.1 e.2)

end SameBut

/-- The same lists are found, and every hidden name has one. -/
structure SameLists (hidden : String → Prop) (lists lists' : List (String × List Value)) :
    Prop where
  found : ∀ t, (lists.find? fun l => l.1 == t) = lists'.find? fun l => l.1 == t
  hidden : ∀ t, hidden t → ∃ l ∈ lists, l.1 = t

/-- A placeholder stands for the same elements: where its name is hidden there is a list. -/
theorem SameLists.elements? (h : SameLists hidden lists lists') {b b' : Binds}
    (hb : SameBut hidden b b') (name : String) :
    elements? lists b name = SqlMapper.elements? lists' b' name := by
  unfold SqlMapper.elements?
  rw [← h.found name]
  rcases hfind : lists.find? fun l => l.1 == name with _ | ⟨found, vs⟩
  · have hshown : ¬ hidden name := by
      intro hname
      rcases h.hidden name hname with ⟨l, hl, hl'⟩
      exact List.find?_eq_none.mp hfind l hl (beq_iff_eq.mpr hl')
    rw [hfind, hb name hshown]
  · rw [hfind]

/-- Spreading lists does the same on both sides. -/
theorem spreadPieces_alike (h : SameLists hidden lists lists') {s s' : Spread}
    (hbinds : SameBut hidden s.binds s'.binds) (hspent : s.spent = s'.spent)
    (ps : List (Piece Membership)) :
    (spreadPieces lists s ps).1 = (spreadPieces lists' s' ps).1
      ∧ SameBut hidden (spreadPieces lists s ps).2.binds (spreadPieces lists' s' ps).2.binds
      ∧ (spreadPieces lists s ps).2.spent = (spreadPieces lists' s' ps).2.spent := by
  induction ps generalizing s s' with
  | nil => exact ⟨rfl, hbinds, hspent⟩
  | cons piece ps ih =>
      cases piece with
      | char c =>
          rcases ih hbinds hspent with ⟨htext, hrest⟩
          exact ⟨congrArg (c :: ·) htext, hrest⟩
      | found m =>
          have helements := h.elements? hbinds (String.ofList m.name)
          rcases hbound : elements? lists s.binds (String.ofList m.name) with _ | vs
          · rw [hbound] at helements
            rw [spreadPieces_unbound hbound, spreadPieces_unbound helements.symm]
            rcases ih hbinds hspent with ⟨htext, hrest⟩
            exact ⟨congrArg (m.source ++ ·) htext, hrest⟩
          · rw [hbound] at helements
            rw [spreadPieces_bound hbound, spreadPieces_bound helements.symm]
            have hnow : SameBut hidden (s.bound (String.ofList m.name) vs).binds
                (s'.bound (String.ofList m.name) vs).binds := hbinds.insertAll _
            rcases ih hnow (congrArg (· ++ [String.ofList m.name]) hspent) with ⟨htext, hrest⟩
            exact ⟨congrArg (_ ++ ·) htext, hrest⟩

/-- So does moving wildcards, if no operand of a hidden name is met. -/
theorem placePieces_alike {p p' : Patterned} (hbinds : SameBut hidden p.binds p'.binds)
    (hwrapped : p.wrapped = p'.wrapped) {ps : List (Piece Similarity)}
    (hshown : ∀ s ∈ foundIn ps, ¬ hidden (String.ofList s.name)) :
    (placePieces p ps).1 = (placePieces p' ps).1
      ∧ SameBut hidden (placePieces p ps).2.binds (placePieces p' ps).2.binds
      ∧ (placePieces p ps).2.wrapped = (placePieces p' ps).2.wrapped := by
  induction ps generalizing p p' with
  | nil => exact ⟨rfl, hbinds, hwrapped⟩
  | cons piece ps ih =>
      cases piece with
      | char c =>
          rcases ih hbinds hwrapped hshown with ⟨htext, hrest⟩
          exact ⟨congrArg (c :: ·) htext, hrest⟩
      | found s =>
          rcases List.forall_mem_cons.mp hshown with ⟨hname, hothers⟩
          have hsame := hbinds _ hname
          rcases hvalue : p.binds.get? (String.ofList s.name) with _ | v
          · rw [hvalue] at hsame
            rw [placePieces_unbound hvalue, placePieces_unbound hsame.symm]
            rcases ih hbinds hwrapped hothers with ⟨htext, hrest⟩
            exact ⟨congrArg (s.source ++ ·) htext, hrest⟩
          · rw [hvalue] at hsame
            rw [placePieces_bound hvalue, placePieces_bound hsame.symm]
            have hnow : SameBut hidden (p.wrap s v).binds (p'.wrap s v).binds
                ∧ (p.wrap s v).wrapped = (p'.wrap s v).wrapped := by
              unfold Patterned.wrap
              rw [← hwrapped]
              split
              · exact ⟨hbinds, hwrapped⟩
              · exact ⟨hbinds.insert _ _, rfl⟩
            rcases ih hnow.1 hnow.2 hothers with ⟨htext, hrest⟩
            exact ⟨congrArg (_ ++ ·) htext, hrest⟩

/-- What two compilations have in common. -/
structure Progress.Alike (hidden : String → Prop) (p p' : Progress) : Prop where
  binds : SameBut hidden p.binds p'.binds
  spent : p.spent = p'.spent
  wrapped : p.wrapped = p'.wrapped
  fragments : p.fragments = p'.fragments

/-- A clause that notices no hidden name is compiled alike. -/
theorem compile_clause_alike (h : SameLists hidden lists lists') {clause : Clause}
    (hshown : ∀ t, hidden t → ¬ clause.Notices t) {p p' q : Progress} (hp : p.Alike hidden p')
    (hcompile : clause.compile lists p = .ok q) :
    ∃ q', clause.compile lists' p' = .ok q' ∧ q.Alike hidden q' := by
  rcases compile_clause_cases hcompile with ⟨field, v, rfl, hfield, rfl⟩ | ⟨sql, rfl, rfl⟩
  · let base := ":_WHERE_" ++ underscored field
    have hfresh : freshPlaceholder base p.binds = freshPlaceholder base p'.binds :=
      freshPlaceholder_congr (hp.binds.contains fun hbase => hshown _ hbase (Or.inl rfl))
        fun n => hp.binds.contains fun hname => hshown _ hname (Or.inr ⟨n, rfl⟩)
    refine ⟨{ p' with
      binds := p'.binds.insert (freshPlaceholder base p'.binds) v
      fragments := p'.fragments ++ [quotePath field ++ " = " ++ freshPlaceholder base p'.binds] },
      ?_, ?_, hp.spent, hp.wrapped, ?_⟩
    · simp only [Clause.compile, Progress.addEquality, checkIdentifier, hfield, if_true, bind,
        Except.bind]
      rfl
    · rw [← hfresh]
      exact hp.binds.insert _ v
    · rw [← hfresh, ← hp.fragments]
  · rcases @spreadPieces_alike _ _ _ h { binds := p.binds, spent := p.spent }
      { binds := p'.binds, spent := p'.spent } hp.binds hp.spent
      (scan membershipPattern sql.toList) with ⟨htext, hbinds, hspent⟩
    -- Spreading has left the operands as they were.
    have hoperands : ∀ s ∈ foundIn (scan similarityPattern (p.spread lists sql).1),
        ¬ hidden (String.ofList s.name) := by
      intro s hs hname
      rw [Progress.spread, spread_operands] at hs
      exact hshown _ hname ⟨s, hs, rfl⟩
    rcases @placePieces_alike _ { binds := (p.spread lists sql).2.binds, wrapped := p.wrapped }
      { binds := (p'.spread lists' sql).2.binds, wrapped := p'.wrapped } hbinds hp.wrapped _
      hoperands with ⟨hplaced, hafter, hwrapped⟩
    have hsame : p'.placed lists' sql = placePieces
        { binds := (p'.spread lists' sql).2.binds, wrapped := p'.wrapped }
        (scan similarityPattern (p.spread lists sql).1) := by
      rw [Progress.placed, placeWildcards, show (p'.spread lists' sql).1 = _ from htext.symm]
      rfl
    refine ⟨p'.addRaw lists' sql, rfl, ?_⟩
    rw [addRaw_eq, addRaw_eq, hsame]
    refine ⟨hafter, hspent, hwrapped, ?_⟩
    rw [hp.fragments]
    exact congrArg (p'.fragments ++ [String.ofList ·]) hplaced

/-- Clauses that notice no hidden name are compiled alike. -/
theorem compile_clauses_alike (h : SameLists hidden lists lists') {clauses : List Clause}
    (hshown : ∀ t, hidden t → ∀ clause ∈ clauses, ¬ clause.Notices t) {p p' q : Progress}
    (hp : p.Alike hidden p') (hcompile : clauses.foldlM (Clause.compile lists) p = .ok q) :
    ∃ q', clauses.foldlM (Clause.compile lists') p' = .ok q' ∧ q.Alike hidden q' := by
  induction clauses generalizing p p' with
  | nil =>
      cases hcompile
      exact ⟨p', rfl, hp⟩
  | cons clause clauses ih =>
      rcases foldlM_cons_ok hcompile with ⟨p₁, hclause, hrest⟩
      rcases compile_clause_alike h (fun t ht => hshown t ht clause List.mem_cons_self) hp hclause
        with ⟨p₁', hclause', hp₁⟩
      rcases ih (fun t ht d hd => hshown t ht d (List.mem_cons_of_mem _ hd)) hp₁ hrest with
        ⟨q', hrest', hq⟩
      refine ⟨q', ?_, hq⟩
      rw [List.foldlM_cons, hclause']
      exact hrest'

/-! ### Whole conditions -/

theorem compile_of_used {c : Conditions} {b : Bound} {p : Progress} (hbound : c.bound = .ok b)
    (hclauses : c.clauses.foldlM (Clause.compile b.lists) { binds := b.scalars } = .ok p)
    (hused : b.lists.find? (fun l => !p.spent.contains l.1) = none) :
    c.compile = .ok {
      fragment := " AND ".intercalate p.fragments
      binds := p.spent.foldl OrderedMap.erase p.binds } := by
  simp only [Conditions.compile, hbound, bind, Except.bind, hclauses, hused]
  rfl

/-- What counts of the bindings of two conditions with the same clauses is the same, but for single
    values that are hidden behind lists. -/
structure Conditions.CountsLike (hidden : String → Prop) (c c' : Conditions) : Prop where
  clauses : c'.clauses = c.clauses
  scalars : ∀ t, ¬ hidden t → c.scalarOf t = c'.scalarOf t
  lists : ∀ t, c.listOf t = c'.listOf t
  listed : ∀ t, hidden t → (c.listOf t).isSome = true
  shown : ∀ t, hidden t → ∀ clause ∈ c.clauses, ¬ clause.Notices t

namespace Conditions.CountsLike

variable {c c' : Conditions}

theorem symm (h : c.CountsLike hidden c') : c'.CountsLike hidden c where
  clauses := h.clauses.symm
  scalars t ht := (h.scalars t ht).symm
  lists t := (h.lists t).symm
  listed t ht := h.lists t ▸ h.listed t ht
  shown t ht := h.clauses.symm ▸ h.shown t ht

theorem names (h : c.CountsLike hidden c') (t : String) : t ∈ c.names ↔ t ∈ c'.names := by
  rw [mem_names_iff_counts, mem_names_iff_counts, ← h.lists t]
  refine or_congr_right' fun hlist => ?_
  have hshown : ¬ hidden t := fun ht => hlist (Option.isSome_iff_ne_none.mp (h.listed t ht))
  rw [h.scalars t hshown]

theorem sameLists (h : c.CountsLike hidden c') {b b' : Bound} (hb : c.bound = .ok b)
    (hb' : c'.bound = .ok b') : SameLists hidden b.lists b'.lists where
  found t := by rw [bound_listOf hb, bound_listOf hb', h.lists]
  hidden t ht := by
    rcases Option.isSome_iff_exists.mp (h.listed t ht) with ⟨vs, hvs⟩
    have hfound := bound_listOf hb t
    rw [hvs] at hfound
    exact ⟨_, List.mem_of_find?_eq_some hfound, rfl⟩

/-- If conditions are compiled, so are others of whose bindings the same counts. -/
theorem compile_ok (h : c.CountsLike hidden c') {r : CompiledCondition} (hr : c.compile = .ok r) :
    ∃ r', c'.compile = .ok r' ∧ r.Same r' := by
  rcases compiled_of_ok hr with ⟨b, p, hcompiled⟩
  obtain ⟨b', hb'⟩ : ∃ b', c'.bound = .ok b' :=
    bound_eq_ok_iff.mpr fun t ht =>
      bound_eq_ok_iff.mp ⟨b, hcompiled.bound⟩ t ((h.names t).mpr ht)
  have hlists := h.sameLists hcompiled.bound hb'
  have hstart : Progress.Alike hidden { binds := b.scalars } { binds := b'.scalars } := by
    refine ⟨fun t ht => ?_, rfl, rfl, rfl⟩
    rw [bound_scalarOf hcompiled.bound, bound_scalarOf hb', h.scalars t ht]
  rcases compile_clauses_alike hlists h.shown hstart hcompiled.clauses with ⟨p', hp', halike⟩
  have hused : b'.lists.find? (fun l => !p'.spent.contains l.1) = none := by
    refine List.find?_eq_none.mpr fun l hl => ?_
    have hfound : (b.lists.find? fun l' => l'.1 == l.1).isSome = true := by
      rw [hlists.found, List.find?_isSome]
      exact ⟨l, hl, beq_self_eq_true l.1⟩
    rcases List.find?_isSome.mp hfound with ⟨l', hl', hname⟩
    have hspent := hcompiled.used l' hl'
    rw [beq_iff_eq.mp hname, halike.spent] at hspent
    rw [List.contains_iff_mem.mpr hspent, Bool.not_true]
    exact Bool.false_ne_true
  have hcompile := compile_of_used hb' (h.clauses ▸ hp') hused
  refine ⟨_, hcompile, ?_, OrderedMap.entries_perm (compile_nodup hr) (compile_nodup hcompile) ?_⟩
  · rw [hcompiled.fragment, halike.fragments]
  · intro t
    rw [hcompiled.binds, ← halike.spent]
    by_cases ht : t ∈ p.spent
    · rw [get?_eraseAll_mem ht, get?_eraseAll_mem ht]
    · -- A name that is hidden has a list, and every list was spent.
      have hvisible : ¬ hidden t := by
        intro hname
        rcases hlists.hidden t hname with ⟨l, hl, rfl⟩
        exact ht (hcompiled.used l hl)
      rw [get?_eraseAll_ne ht, get?_eraseAll_ne ht, halike.binds t hvisible]

/-- Conditions compile alike if what counts of their bindings is the same. -/
theorem compilesLike (h : c.CountsLike hidden c') : c.CompilesLike c' := by
  rcases hr : c.compile with e | r
  · rcases hr' : c'.compile with e' | r'
    · exact Or.inr ⟨⟨e, hr⟩, e', hr'⟩
    · rcases h.symm.compile_ok hr' with ⟨r, hok, -⟩
      cases hr.symm.trans hok
  · rcases h.compile_ok hr with ⟨r', hr', hsame⟩
    exact Or.inl ⟨r, r', hr, hr', hsame⟩

end Conditions.CountsLike

end SqlMapper
