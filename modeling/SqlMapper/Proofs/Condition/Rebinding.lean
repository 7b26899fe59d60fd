import SqlMapper.Proofs.Condition.Interchange

/-!
# Rebinding

What becomes of bindings that are made in another order, or made again.

The order of bindings with different names makes no difference. Of several
bindings of one name, though, it is not the last that counts. Single values
replace each other, but of several lists the first stays, and a list stays before
any single value. So binding again replaces what was bound if both are single
values. If the last binding is a list it has to be the first list, and no clause
may notice the single values beside it.

## Main definitions

* `Conditions.bindAll`: Conditions with bindings behind theirs.
* `Conditions.lastOnly`: Conditions without the bindings of a name that is bound again.
* `Conditions.reduced`: Conditions with what counts of the bindings of a name.
* `Conditions.LastCounts`: The last binding of a name is what counts.

## Theorems

* `valuesOf_perm`: Reordering leaves what is bound to a name, if no name is bound twice.
* `bindAll_perm`: Bindings with different names can be made in any order.
* `valuesOf_dropEarlier_self`: What is left of the bindings of a name is the last.
* `compile_rebound`: Of several bindings of a name the last single value and the first list count.
-/

namespace SqlMapper

/-! ### Another order -/

/-- Conditions with bindings made one behind the other. -/
def Conditions.bindAll (c : Conditions) (bs : List (String × Operand)) : Conditions :=
  bs.foldl (fun c b => c.bind b.1 b.2) c

theorem bindAll_eq (c : Conditions) (bs : List (String × Operand)) :
    c.bindAll bs = { c with bindings := c.bindings ++ bs.map fun b => (withColon b.1, b.2) } := by
  unfold Conditions.bindAll
  induction bs generalizing c with
  | nil => rw [List.foldl_nil, List.map_nil, List.append_nil]
  | cons b bs ih =>
      rw [List.foldl_cons, ih, List.map_cons]
      simp only [Conditions.bind, List.append_assoc, List.singleton_append]

theorem valuesOf_append (t : String) (before after : List (String × Operand)) :
    valuesOf t (before ++ after) = valuesOf t before ++ valuesOf t after := by
  rw [valuesOf, List.filter_append, List.map_append]
  rfl

/-- Reordering leaves what is bound to a name, if no name is bound twice. -/
theorem valuesOf_perm {bs bs' : List (String × Operand)} (h : bs.Perm bs')
    (hnodup : (bs.map (·.1)).Nodup) (t : String) : valuesOf t bs = valuesOf t bs' := by
  induction h with
  | nil => rfl
  | cons e _ ih =>
      rw [List.map_cons, List.nodup_cons] at hnodup
      rw [valuesOf_cons, valuesOf_cons, ih hnodup.2]
  | swap e e' bs =>
      rw [List.map_cons, List.map_cons, List.nodup_cons, List.mem_cons, not_or] at hnodup
      simp only [valuesOf_cons]
      by_cases ht : e.1 = t
      · have hother : ¬ e'.1 = t := ht ▸ hnodup.1.1
        simp only [if_pos ht, if_neg hother]
      · simp only [if_neg ht]
  | trans hfirst _ ih ih' =>
      exact (ih hnodup).trans (ih' ((hfirst.map _).nodup_iff.mp hnodup))

/-- Conditions in which every name has the same bindings compile alike. -/
theorem compilesLike_of_boundTo {c c' : Conditions} (hclauses : c'.clauses = c.clauses)
    (hbound : ∀ t, c.boundTo t = c'.boundTo t) : c.CompilesLike c' := by
  have hcounts : c.CountsLike (fun _ => False) c' := by
    refine ⟨hclauses, fun t _ => ?_, fun t => ?_, nofun, nofun⟩
    · rw [Conditions.scalarOf, hbound, Conditions.scalarOf]
    · rw [Conditions.listOf, hbound, Conditions.listOf]
  exact hcounts.compilesLike

/-- Bindings with different names can be made in any order: behind whatever was demanded and bound
    before, the conditions are compiled to the same fragment with the same values under the same
    names, or they are refused in any order. -/
theorem bindAll_perm (c : Conditions) {bs bs' : List (String × Operand)} (h : bs.Perm bs')
    (hnames : (bs.map fun b => withColon b.1).Nodup) :
    (c.bindAll bs).CompilesLike (c.bindAll bs') := by
  refine compilesLike_of_boundTo (by rw [bindAll_eq, bindAll_eq]) fun t => ?_
  have hsame := valuesOf_perm (h.map fun b => (withColon b.1, b.2))
    (by rw [List.map_map]; exact hnames) t
  rw [bindAll_eq, bindAll_eq, Conditions.boundTo, Conditions.boundTo, valuesOf_append, hsame,
    valuesOf_append]

/-- Membership, similarity and an equality, each of which is about to make up names. -/
def Conditions.crowded : Conditions :=
  ((({ } : Conditions).equals "kind" (.scalar (.text "a"))).raw
    "id IN (:ids) OR name LIKE '%:ids_0'").raw "rank IN (:rank)"

/-- Bindings of the names that are about to be made up, among others. -/
def crowdedBindings : List (String × Operand) :=
  [("ids", .list [.int 1, .int 2]), (":ids_0", .scalar (.text "x")),
    ("_WHERE_kind", .scalar (.text "y")), ("rank", .scalar (.int 3))]

theorem bindAll_perm_crowded :
    crowdedBindings.Perm crowdedBindings.reverse
      ∧ (crowdedBindings.map fun b => withColon b.1).Nodup
      ∧ (Conditions.crowded.bindAll crowdedBindings).CompilesLike
        (Conditions.crowded.bindAll crowdedBindings.reverse)
      ∧ ∃ r, (Conditions.crowded.bindAll crowdedBindings).compile = .ok r := by
  have hperm := (List.reverse_perm crowdedBindings).symm
  have hnames : (crowdedBindings.map fun b => withColon b.1).Nodup := by decide
  exact ⟨hperm, hnames, bindAll_perm .crowded hperm hnames, _, rfl⟩

/-! ### Once more -/

/-- Bindings without those of a name that is bound again. -/
def dropEarlier (t : String) : List (String × Operand) → List (String × Operand)
  | [] => []
  | e :: bindings =>
      if e.1 = t ∧ valuesOf t bindings ≠ [] then dropEarlier t bindings
      else e :: dropEarlier t bindings

namespace Conditions

/-- Conditions without the bindings of a name that is bound again. -/
def lastOnly (c : Conditions) (t : String) : Conditions :=
  { c with bindings := dropEarlier t c.bindings }

/-- Conditions with what counts of the bindings of a name: the first list and the last single
    value. -/
def reduced (c : Conditions) (t : String) : Conditions :=
  { c with bindings := c.bindings.filter (fun e => e.1 ≠ t)
      ++ ((c.listOf t).map fun vs => (t, .list vs)).toList
      ++ ((c.scalarOf t).map fun v => (t, .scalar v)).toList }

/-- The last binding of a name is what counts. A single value is not bound beside a list. A list is
    the first list, and where it is bound beside a single value no clause notices that. -/
structure LastCounts (c : Conditions) (t : String) : Prop where
  scalar : ∀ v, (c.boundTo t).getLast? = some (.scalar v) → c.listOf t = none
  list : ∀ vs, (c.boundTo t).getLast? = some (.list vs) → c.listOf t = some vs
  unnoticed : c.listOf t ≠ none → c.scalarOf t ≠ none →
    ∀ clause ∈ c.clauses, ¬ clause.Notices t

end Conditions

theorem valuesOf_filter_of_ne {t t' : String} (h : t' ≠ t) (bs : List (String × Operand)) :
    valuesOf t' (bs.filter fun e => e.1 ≠ t) = valuesOf t' bs := by
  rw [valuesOf, List.filter_filter, valuesOf]
  refine congrArg (List.map _) (List.filter_congr fun e _ => ?_)
  by_cases he : e.1 = t'
  · rw [decide_eq_true he, decide_eq_true (he ▸ h), Bool.and_true]
  · rw [decide_eq_false he, Bool.false_and]

theorem valuesOf_filter_self (t : String) (bs : List (String × Operand)) :
    valuesOf t (bs.filter fun e => e.1 ≠ t) = [] := by
  rw [valuesOf, List.filter_filter, List.map_eq_nil_iff, List.filter_eq_nil_iff]
  intro e _ he
  rw [Bool.and_eq_true, decide_eq_true_eq, decide_eq_true_eq] at he
  exact he.2 he.1

theorem valuesOf_dropEarlier_of_ne {t t' : String} (h : t' ≠ t) (bs : List (String × Operand)) :
    valuesOf t' (dropEarlier t bs) = valuesOf t' bs := by
  induction bs with
  | nil => rfl
  | cons e bs ih =>
      rw [dropEarlier]
      split
      next hdrop => rw [ih, valuesOf_cons, if_neg (hdrop.1 ▸ h.symm)]
      next => rw [valuesOf_cons, valuesOf_cons, ih]

/-- What is left of the bindings of a name is the last. -/
theorem valuesOf_dropEarlier_self (t : String) (bs : List (String × Operand)) :
    valuesOf t (dropEarlier t bs) = (valuesOf t bs).getLast?.toList := by
  induction bs with
  | nil => rfl
  | cons e bs ih =>
      rw [dropEarlier, valuesOf_cons]
      by_cases ht : e.1 = t
      · rw [if_pos ht]
        rcases hrest : valuesOf t bs with _ | ⟨value, values⟩
        · rw [if_neg fun hdrop => hdrop.2 rfl, valuesOf_cons, if_pos ht, ih, hrest]
          rfl
        · rw [if_pos ⟨ht, List.cons_ne_nil _ _⟩, ih, hrest, List.getLast?_cons_cons]
      · rw [if_neg fun hdrop => ht hdrop.1, if_neg ht, valuesOf_cons, if_neg ht, ih]

/-- The last binding of a name that is a single value is the last single value. -/
theorem scalarOf_of_last {c : Conditions} {t : String} {v : Value}
    (h : (c.boundTo t).getLast? = some (.scalar v)) : c.scalarOf t = some v := by
  rcases List.getLast?_eq_some_iff.mp h with ⟨before, hbound⟩
  rw [Conditions.scalarOf, hbound, List.filterMap_append, List.getLast?_append]
  rfl

/-- What counts of the bindings of one name decides, where the others have the same. Beside a list
    a single value only counts if a clause notices it. -/
theorem compilesLike_of_others {c c' : Conditions} {t : String}
    (hclauses : c'.clauses = c.clauses) (hothers : ∀ t', t' ≠ t → c.boundTo t' = c'.boundTo t')
    (hlist : c.listOf t = c'.listOf t)
    (hscalar : c.scalarOf t = c'.scalarOf t
      ∨ c.listOf t ≠ none ∧ ∀ clause ∈ c.clauses, ¬ clause.Notices t) :
    c.CompilesLike c' := by
  have hcounts : c.CountsLike (fun t' => t' = t ∧ c.listOf t ≠ none
      ∧ ∀ clause ∈ c.clauses, ¬ clause.Notices t) c' := by
    refine ⟨hclauses, fun t' hshown => ?_, fun t' => ?_,
      fun t' hhidden => Option.isSome_iff_ne_none.mpr (hhidden.1 ▸ hhidden.2.1),
      fun t' hhidden => hhidden.1 ▸ hhidden.2.2⟩
    · by_cases ht : t' = t
      · rcases hscalar with hsame | hunnoticed
        · exact ht ▸ hsame
        · exact absurd ⟨ht, hunnoticed⟩ hshown
      · rw [Conditions.scalarOf, hothers t' ht, Conditions.scalarOf]
    · by_cases ht : t' = t
      · exact ht ▸ hlist
      · rw [Conditions.listOf, hothers t' ht, Conditions.listOf]
  exact hcounts.compilesLike

namespace Conditions

variable (c : Conditions) {t t' : String}

theorem boundTo_lastOnly_of_ne (h : t' ≠ t) : (c.lastOnly t).boundTo t' = c.boundTo t' :=
  valuesOf_dropEarlier_of_ne h c.bindings

theorem boundTo_lastOnly_self : (c.lastOnly t).boundTo t = (c.boundTo t).getLast?.toList :=
  valuesOf_dropEarlier_self t c.bindings

theorem boundTo_reduced_of_ne (h : t' ≠ t) : (c.reduced t).boundTo t' = c.boundTo t' := by
  rw [boundTo, reduced, valuesOf_append, valuesOf_append, valuesOf_filter_of_ne h]
  rcases c.listOf t with _ | vs <;> rcases c.scalarOf t with _ | v <;>
    simp only [Option.map_none, Option.map_some, Option.toList_none, Option.toList_some,
      valuesOf_nil, valuesOf_cons, if_neg h.symm, List.append_nil] <;> rfl

theorem boundTo_reduced_self : (c.reduced t).boundTo t
    = ((c.listOf t).map Operand.list).toList ++ ((c.scalarOf t).map Operand.scalar).toList := by
  rw [boundTo, reduced, valuesOf_append, valuesOf_append, valuesOf_filter_self, List.nil_append]
  rcases c.listOf t with _ | vs <;> rcases c.scalarOf t with _ | v <;>
    simp only [Option.map_none, Option.map_some, Option.toList_none, Option.toList_some,
      valuesOf_nil, valuesOf_cons, if_true]

end Conditions

/-- What does not count of the bindings of a name can be left out. -/
theorem compilesLike_reduced (c : Conditions) (t : String) : c.CompilesLike (c.reduced t) := by
  refine compilesLike_of_others (t := t) rfl (fun t' ht => (c.boundTo_reduced_of_ne ht).symm) ?_
    (Or.inl ?_)
  · rw [Conditions.listOf.eq_def (c.reduced t), Conditions.boundTo_reduced_self]
    rcases c.listOf t with _ | vs <;> rcases c.scalarOf t with _ | v <;> rfl
  · rw [Conditions.scalarOf.eq_def (c.reduced t), Conditions.boundTo_reduced_self]
    rcases c.listOf t with _ | vs <;> rcases c.scalarOf t with _ | v <;> rfl

/-- All bindings of a name but the last can be left out, if the last is what counts. -/
theorem compilesLike_lastOnly {c : Conditions} {t : String} (h : c.LastCounts t) :
    c.CompilesLike (c.lastOnly t) := by
  have hlist : (c.lastOnly t).listOf t
      = ((c.boundTo t).getLast?.toList.filterMap Operand.list?).head? :=
    congrArg (fun bs => (bs.filterMap Operand.list?).head?) c.boundTo_lastOnly_self
  have hscalar : (c.lastOnly t).scalarOf t
      = ((c.boundTo t).getLast?.toList.filterMap Operand.scalar?).getLast? :=
    congrArg (fun bs => (bs.filterMap Operand.scalar?).getLast?) c.boundTo_lastOnly_self
  have hothers := fun t' (ht : t' ≠ t) => (c.boundTo_lastOnly_of_ne ht).symm
  rcases hlast : (c.boundTo t).getLast? with _ | value
  · have hnone := List.getLast?_eq_none_iff.mp hlast
    refine compilesLike_of_others (t := t) rfl hothers ?_ (Or.inl ?_)
    · rw [hlist, hlast, Conditions.listOf, hnone]
      rfl
    · rw [hscalar, hlast, Conditions.scalarOf, hnone]
      rfl
  · rw [hlast] at hlist hscalar
    cases value with
    | scalar v =>
        refine compilesLike_of_others (t := t) rfl hothers ?_ (Or.inl ?_)
        · rw [hlist, h.scalar v hlast]
          rfl
        · rw [hscalar, scalarOf_of_last hlast]
          rfl
    | list vs =>
        have hfirst := h.list vs hlast
        refine compilesLike_of_others (t := t) rfl hothers (hfirst.trans hlist.symm) ?_
        by_cases hmixed : c.scalarOf t = none
        · exact Or.inl (hmixed.trans hscalar.symm)
        · have hlisted : c.listOf t ≠ none := hfirst ▸ Option.some_ne_none vs
          exact Or.inr ⟨hlisted, h.unnoticed hlisted hmixed⟩

/-- Of several bindings of a name the first list and the last single value count. So binding again
    replaces what was bound before if the last binding is what counts: then the conditions are
    compiled as if the others had not been made. -/
theorem compile_rebound (c : Conditions) (t : String) :
    c.CompilesLike (c.reduced t) ∧ (c.LastCounts t → c.CompilesLike (c.lastOnly t)) :=
  ⟨compilesLike_reduced c t, compilesLike_lastOnly⟩

/-- A number that is bound again, and a list behind a number. -/
def Conditions.rebound : Conditions :=
  ((({ } : Conditions).raw "id IN (:ids) AND rank = :n").raw "name LIKE '%:q'").bindAll
    [("n", .scalar (.int 1)), ("ids", .scalar (.int 7)), ("q", .scalar (.text "x")),
      ("ids", .list [.int 1, .int 2]), ("n", .scalar (.int 2))]

theorem compile_rebound_number :
    Conditions.rebound.LastCounts ":n" ∧ Conditions.rebound.LastCounts ":ids"
      ∧ Conditions.rebound.CompilesLike (Conditions.rebound.lastOnly ":n")
      ∧ Conditions.rebound.CompilesLike (Conditions.rebound.lastOnly ":ids")
      ∧ ∃ r, Conditions.rebound.compile = .ok r := by
  have hnumber : Conditions.rebound.LastCounts ":n" :=
    ⟨fun _ _ => rfl, fun _ hlast => (nomatch hlast), fun hlist => absurd rfl hlist⟩
  have hids : Conditions.rebound.LastCounts ":ids" := by
    refine ⟨fun _ hlast => (nomatch hlast), fun _ hlast => ?_, fun _ _ clause hclause => ?_⟩
    · cases hlast
      rfl
    · have hclauses : clause = .raw "id IN (:ids) AND rank = :n"
          ∨ clause = .raw "name LIKE '%:q'" := List.mem_pair.mp hclause
      intro hnotices
      rcases hclauses with rfl | rfl
      · rcases hnotices with ⟨s, hs, -⟩
        cases hs
      · rcases hnotices with ⟨s, hs, hname⟩
        rcases List.mem_singleton.mp hs with rfl
        exact absurd hname (by decide)
  exact ⟨hnumber, hids, (compile_rebound .rebound ":n").2 hnumber,
    (compile_rebound .rebound ":ids").2 hids, _, rfl⟩

/-- A list that is bound again. -/
def Conditions.relisted : Conditions :=
  (({ } : Conditions).raw "id IN (:ids)").bindAll
    [("ids", .list [.int 1, .int 2]), ("ids", .list [.int 3])]

theorem relisted_not_compilesLike :
    ¬ ∀ (c : Conditions) (t : String), c.CompilesLike (c.lastOnly t) := by
  intro hall
  rcases hall .relisted ":ids" with ⟨r, r', hr, hr', hsame⟩ | ⟨⟨e, he⟩, -⟩
  · have hfirst : Conditions.relisted.compile
        = .ok ⟨"id IN (:ids_0, :ids_1)", .ofList [(":ids_0", .int 1), (":ids_1", .int 2)]⟩ := rfl
    have hlast : (Conditions.relisted.lastOnly ":ids").compile
        = .ok ⟨"id IN (:ids_0)", .ofList [(":ids_0", .int 3)]⟩ := rfl
    cases hfirst.symm.trans hr
    cases hlast.symm.trans hr'
    exact absurd hsame.fragment (by decide)
  · cases he

end SqlMapper
