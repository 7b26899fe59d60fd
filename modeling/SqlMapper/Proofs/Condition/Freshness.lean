import Mathlib.Data.Nat.Init
import SqlMapper.Proofs.Condition.Names

/-!
# The Search for a Fresh Name

How far the search for a name goes that is not bound yet.

Numbered names are tried one after the other, and nothing in the search itself
says where it ends. A count of the bindings ends it. The base name takes one of
them, so the others cannot take as many numbered names as there are bindings,
and a free one is met by then. A counter that can show two more than the number
of bindings never runs out.

## Main definitions

* `Finds`: The search, which has no end of its own, ends with a name.
* `FirstFree`: The first number whose name is not bound.

## Theorems

* `exists_free`: Among as many numbered names as there are bindings, one is free.
* `freshPlaceholder_of_bound`: The candidates reach as far as the first free name.
* `FirstFree.finds`: The search ends at the first free name.
* `freshPlaceholder_first_free`: The fresh name is the base name or the first free one.
-/

namespace SqlMapper

/-- The search through the numbered names, from a number on, ends with a name. It has no end of its
    own: a search that meets no free name does not end. -/
inductive Finds (base : String) (b : Binds) : Nat → String → Prop
  /-- A name that is free ends the search. -/
  | free {n : Nat} (h : b.contains (numbered base n) = false) : Finds base b n (numbered base n)
  /-- A name that is bound is passed over. -/
  | bound {n : Nat} {name : String} (h : b.contains (numbered base n) = true)
      (rest : Finds base b (n + 1) name) : Finds base b n name

/-- The first number from two on whose name is not bound. -/
structure FirstFree (base : String) (b : Binds) (n : Nat) : Prop where
  /-- The numbers begin with two. -/
  two_le : 2 ≤ n
  /-- The name is not bound. -/
  free : b.contains (numbered base n) = false
  /-- The names in front of it are. -/
  bound : ∀ m, 2 ≤ m → m < n → b.contains (numbered base m) = true

variable {base : String} {b : Binds}

/-- Among as many numbered names as there are bindings, one is free. -/
theorem exists_free (h : b.contains base = true) :
    ∃ i < b.size, b.contains (numbered base (i + 2)) = false := by
  rcases exists_unlisted (OrderedMap.mem_keys_of_contains h) with ⟨i, hi, hunlisted⟩
  rw [OrderedMap.keys, List.length_map] at hi
  refine ⟨i, hi, Bool.eq_false_iff.mpr fun hbound => ?_⟩
  exact hunlisted (OrderedMap.mem_keys_of_contains hbound)

/-- If the base name is bound, the fresh name is the first free one behind it, and its number is
    at most one more than there are bindings. -/
theorem freshPlaceholder_of_bound (h : b.contains base = true) :
    ∃ n ≤ b.size + 1, FirstFree base b n ∧ freshPlaceholder base b = numbered base n := by
  rcases hfind : (List.range b.size).find?
      ((fun name => !b.contains name) ∘ fun i => numbered base (i + 2)) with _ | i
  · rcases exists_free h with ⟨i, hi, hfree⟩
    have hbound := List.find?_eq_none.mp hfind i (List.mem_range.mpr hi)
    rw [Function.comp_apply, hfree] at hbound
    exact absurd rfl hbound
  · rcases List.find?_range_eq_some.mp hfind with ⟨hfree, hi, hbound⟩
    simp only [Function.comp_apply, Bool.not_not, Bool.not_eq_true'] at hfree hbound
    have hlt := List.mem_range.mp hi
    refine ⟨i + 2, by omega, ⟨by omega, hfree, fun m hm hmi => ?_⟩, ?_⟩
    · rw [← Nat.sub_add_cancel hm]
      exact hbound (m - 2) (by omega)
    · simp only [freshPlaceholder, if_pos h, List.find?_map, hfind, Option.map_some,
        Option.getD_some]

/-- The search ends at the first free name. -/
theorem FirstFree.finds {n : Nat} (h : FirstFree base b n) {m : Nat} (hm : 2 ≤ m) (hle : m ≤ n) :
    Finds base b m (numbered base n) := by
  -- Downwards from where it ends.
  induction hle using Nat.decreasingInduction with
  | self => exact .free h.free
  | of_succ m hlt ih => exact .bound (h.bound m hm hlt) (ih (Nat.le_succ_of_le hm))

/-- For any base name and any bindings, the fresh name is not bound. It is the base name if that is
    free. If not, it is the base name with the first free number from two on, which is at most one
    more than there are bindings. The search that ends only where a name is free ends there, so
    there is nothing to fall back on. -/
theorem freshPlaceholder_first_free (base : String) (b : Binds) :
    b.contains (freshPlaceholder base b) = false
      ∧ (b.contains base = false ∧ freshPlaceholder base b = base
        ∨ b.contains base = true
          ∧ ∃ n ≤ b.size + 1, FirstFree base b n ∧ freshPlaceholder base b = numbered base n
            ∧ Finds base b 2 (numbered base n)) := by
  refine ⟨(freshPlaceholder_cases base b).1, ?_⟩
  cases hbase : b.contains base with
  | false => exact Or.inl ⟨rfl, by rw [freshPlaceholder, hbase, if_neg Bool.false_ne_true]⟩
  | true =>
      rcases freshPlaceholder_of_bound hbase with ⟨n, hn, hfirst, hname⟩
      exact Or.inr ⟨rfl, n, hn, hfirst, hname, hfirst.finds (Nat.le_refl 2) hfirst.two_le⟩

/-- The bound is met where the bindings are the base name and the first numbers behind it. -/
example :
    freshPlaceholder ":n" (OrderedMap.ofList [(":n", .int 1), (":n_2", .int 2)]) = ":n_3" := by
  decide

end SqlMapper
