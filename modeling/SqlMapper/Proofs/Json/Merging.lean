import Mathlib.Data.String.Basic
import SqlMapper.Json.Merge
import SqlMapper.Json.Shape

/-!
# Merged JSON

What is found in a JSON value that was laid over another one.

A value is looked into by a path of keys, and `null` at the end of a path counts
as nothing there. The law of merging is then that the upper value is asked
first and the lower one second. It needs two things. The upper value may hold
nothing but objects on the way to the end of the path, since anything else
replaces what it covers and the path ends there. And an object may not name a
key twice, since merging takes the last of equal keys and a look-up the first.
Values that were read from a text are of that kind, because reading puts the
members of every object in order, and merging keeps the order.

With each key once, a record is read from an object by looking its fields up.

## Main definitions

* `Json.Ordered`: The keys of every object stand in order, each key once.
* `Json.at?`: What is found at the end of a path.
* `Json.Leads`: Only objects lie on the way to the end of a path.

## Theorems

* `Json.read?_ordered`: Values that are read are ordered.
* `Json.merge_ordered`: Merging keeps the order.
* `Json.at?_merge`: The upper value is asked first, the lower one second.
* `Json.Fields.read?_object`: The fields of a record, looked up in an object.
-/

namespace SqlMapper

namespace Json

mutual

/-- The keys of every object stand in order, each key once. -/
def Ordered : Json → Prop
  | .array items => OrderedItems items
  | .object members => (members.map (·.1)).Pairwise (· < ·) ∧ OrderedMembers members
  | _ => True

/-- Every item is ordered. -/
def OrderedItems : List Json → Prop
  | [] => True
  | item :: rest => Ordered item ∧ OrderedItems rest

/-- The value of every member is ordered. -/
def OrderedMembers : List (String × Json) → Prop
  | [] => True
  | (_, value) :: rest => Ordered value ∧ OrderedMembers rest

end

theorem orderedMembers_iff {members : List (String × Json)} :
    OrderedMembers members ↔ ∀ m ∈ members, m.2.Ordered := by
  induction members with
  | nil => simp only [OrderedMembers, List.not_mem_nil, false_implies, implies_true]
  | cons m rest ih => simp only [OrderedMembers, ih, List.forall_mem_cons]

theorem mem_of_get? {key : String} {value : Json} {members : List (String × Json)}
    (h : get? key members = some value) : (key, value) ∈ members := by
  induction members with
  | nil => exact absurd h nofun
  | cons m rest ih =>
      rcases m with ⟨k, v⟩
      by_cases hk : k = key
      · simp only [get?, if_pos hk, Option.some.injEq] at h
        rw [hk, h]
        exact List.mem_cons_self
      · simp only [get?, if_neg hk] at h
        exact List.mem_cons_of_mem _ (ih h)

theorem Ordered.of_get? {key : String} {value : Json} {members : List (String × Json)}
    (h : Ordered (.object members)) (hget : get? key members = some value) : value.Ordered :=
  orderedMembers_iff.mp h.2 _ (mem_of_get? hget)

/-! ### Reading -/

theorem mem_put {key : String} {value : Json} {m : String × Json}
    {members : List (String × Json)} (h : m ∈ put key value members) :
    m = (key, value) ∨ m ∈ members := by
  induction members with
  | nil => exact .inl (List.mem_singleton.mp h)
  | cons n rest ih =>
      simp only [put] at h
      split at h
      · exact (List.mem_cons.mp h).imp_right (List.mem_cons_of_mem _)
      · split at h
        · exact List.mem_cons.mp h
        · rcases List.mem_cons.mp h with rfl | h
          · exact .inr List.mem_cons_self
          · exact (ih h).imp_right (List.mem_cons_of_mem _)

theorem keys_put {key : String} {value : Json} {members : List (String × Json)}
    (h : (members.map (·.1)).Pairwise (· < ·)) :
    ((put key value members).map (·.1)).Pairwise (· < ·) := by
  induction members with
  | nil => exact List.pairwise_singleton _ _
  | cons n rest ih =>
      have hrest := List.pairwise_cons.mp h
      simp only [put]
      split
      next heq =>
        rw [List.map_cons, heq]
        exact h
      next hne =>
        split
        next hlt =>
          refine List.pairwise_cons.mpr ⟨fun k hk => ?_, h⟩
          rcases List.mem_cons.mp hk with rfl | hk
          · exact hlt
          · exact hlt.trans (hrest.1 k hk)
        next hnlt =>
          have hgt : n.1 < key := lt_of_le_of_ne (not_lt.mp hnlt) (Ne.symm hne)
          refine List.pairwise_cons.mpr ⟨fun k hk => ?_, ih hrest.2⟩
          rcases List.mem_map.mp hk with ⟨m, hm, rfl⟩
          rcases mem_put hm with rfl | hm
          · exact hgt
          · exact hrest.1 _ (List.mem_map_of_mem hm)

theorem Ordered.put {key : String} {value : Json} {members : List (String × Json)}
    (h : Ordered (.object members)) (hvalue : value.Ordered) :
    Ordered (.object (put key value members)) := by
  refine ⟨keys_put h.1, orderedMembers_iff.mpr fun m hm => ?_⟩
  rcases mem_put hm with rfl | hm
  · exact hvalue
  · exact orderedMembers_iff.mp h.2 m hm

theorem ordered_ofPairs {pairs : List (String × Json)} (h : OrderedMembers pairs) :
    Ordered (.object (ofPairs pairs)) := by
  suffices hfold : ∀ members, Ordered (.object members) →
      Ordered (.object (pairs.foldl (fun members p => Json.put p.1 p.2 members) members)) from
    hfold [] ⟨List.Pairwise.nil, trivial⟩
  induction pairs with
  | nil => exact fun _ hmembers => hmembers
  | cons p rest ih => exact fun _ hmembers => ih h.2 _ (hmembers.put h.1)

mutual

theorem json?_ordered : ∀ (n : Node) {j : Json}, n.json? = some j → j.Ordered
  | .null, _, h | .bool _, _, h => by
      simp only [Node.json?, Option.some.injEq] at h
      rw [← h]
      trivial
  | .number _, _, h | .string _, _, h => by
      rcases Option.map_eq_some_iff.mp h with ⟨_, -, rfl⟩
      trivial
  | .array items, _, h => by
      rcases Option.map_eq_some_iff.mp h with ⟨_, hitems, rfl⟩
      exact itemsJson?_ordered items hitems
  | .object members, _, h => by
      rcases Option.map_eq_some_iff.mp h with ⟨_, hmembers, rfl⟩
      exact ordered_ofPairs (membersJson?_ordered members hmembers)

theorem itemsJson?_ordered : ∀ (ns : List Node) {js : List Json},
    Node.itemsJson? ns = some js → OrderedItems js
  | [], _, h => by
      rw [← Option.some.inj h]
      trivial
  | n :: rest, _, h => by
      rcases Option.bind_eq_some_iff.mp h with ⟨_, hn, h⟩
      rcases Option.bind_eq_some_iff.mp h with ⟨_, hrest, h⟩
      rw [← Option.some.inj h]
      exact ⟨json?_ordered n hn, itemsJson?_ordered rest hrest⟩

theorem membersJson?_ordered : ∀ (ns : List (Option String × Node)) {ms : List (String × Json)},
    Node.membersJson? ns = some ms → OrderedMembers ms
  | [], _, h => by
      rw [← Option.some.inj h]
      trivial
  | (_, n) :: rest, _, h => by
      rcases Option.bind_eq_some_iff.mp h with ⟨_, -, h⟩
      rcases Option.bind_eq_some_iff.mp h with ⟨_, hn, h⟩
      rcases Option.bind_eq_some_iff.mp h with ⟨_, hrest, h⟩
      rw [← Option.some.inj h]
      exact ⟨json?_ordered n hn, membersJson?_ordered rest hrest⟩

end

/-- Values that are read are ordered. -/
theorem read?_ordered {s : String} {j : Json} (h : read? s = some j) : j.Ordered := by
  rcases Option.bind_eq_some_iff.mp h with ⟨n, -, h⟩
  split at h
  · exact json?_ordered n h
  · exact absurd h nofun

/-! ### Merging -/

mutual

/-- Merging keeps the order. -/
theorem merge_ordered {lower : Json} (hlower : lower.Ordered) :
    ∀ {upper : Json}, upper.Ordered → (merge lower upper).Ordered
  | .null, h | .bool _, h | .number _, h | .string _, h | .array _, h => by
      simpa only [merge] using h
  | .object upper, h => by
      cases lower with
      | object members =>
          simp only [merge]
          exact mergeMembers_ordered hlower h.2
      | _ => simpa only [merge] using h

theorem mergeMembers_ordered {members : List (String × Json)}
    (hmembers : Ordered (.object members)) :
    ∀ {upper : List (String × Json)}, OrderedMembers upper →
      Ordered (.object (mergeMembers members upper))
  | [], _ => hmembers
  | (key, value) :: rest, h => by
      simp only [mergeMembers]
      split
      · exact mergeMembers_ordered hmembers h.2
      · refine mergeMembers_ordered (hmembers.put ?_) h.2
        split
        next hget => exact merge_ordered (hmembers.of_get? hget) h.1
        next => exact h.1

end

theorem get?_eq_none {key : String} {members : List (String × Json)}
    (h : key ∉ members.map (·.1)) : get? key members = none := by
  rcases hget : get? key members with _ | value
  · rfl
  · exact absurd (List.mem_map_of_mem (mem_of_get? hget)) h

/-- What the upper members do not hold, or only as `null`, is left as it was. -/
theorem get?_mergeMembers_of_null {key : String} {upper : List (String × Json)}
    (hupper : (upper.map (·.1)).Pairwise (· < ·))
    (hnull : ∀ value, get? key upper = some value → value.isNull = true)
    (lower : List (String × Json)) :
    get? key (mergeMembers lower upper) = get? key lower := by
  induction upper generalizing lower with
  | nil => rfl
  | cons m rest ih =>
      rcases m with ⟨k, v⟩
      have hkeys := List.pairwise_cons.mp hupper
      by_cases hk : k = key
      · -- The rest does not name the key again.
        have hrest : get? key rest = none :=
          get?_eq_none fun hmem => lt_irrefl k (hkeys.1 k (hk ▸ hmem))
        rw [mergeMembers, if_pos (hnull v (if_pos hk))]
        exact ih hkeys.2 (fun value h => absurd (hrest.symm.trans h) nofun) lower
      · have hrest := fun value h => hnull value ((if_neg hk).trans h)
        rw [mergeMembers]
        split
        · exact ih hkeys.2 hrest lower
        · rw [ih hkeys.2 hrest, get?_put_ne (Ne.symm hk)]

/-- What the upper members hold is laid over what it covers. -/
theorem get?_mergeMembers_of_some {key : String} {value : Json} {upper : List (String × Json)}
    (hupper : (upper.map (·.1)).Pairwise (· < ·)) (hget : get? key upper = some value)
    (hnull : value.isNull = false) (lower : List (String × Json)) :
    get? key (mergeMembers lower upper) =
      some (((get? key lower).map (merge · value)).getD value) := by
  induction upper generalizing lower with
  | nil => exact absurd hget nofun
  | cons m rest ih =>
      rcases m with ⟨k, v⟩
      have hkeys := List.pairwise_cons.mp hupper
      by_cases hk : k = key
      · have hv : v = value := Option.some.inj ((if_pos hk).symm.trans hget)
        have hrest : get? key rest = none :=
          get?_eq_none fun hmem => lt_irrefl k (hkeys.1 k (hk ▸ hmem))
        rw [mergeMembers, hv, hnull, if_neg Bool.false_ne_true,
          get?_mergeMembers_of_null hkeys.2 fun _ h => absurd (hrest.symm.trans h) nofun,
          hk, get?_put_self]
        cases get? key lower <;> rfl
      · have hrest := (if_neg hk).symm.trans hget
        rw [mergeMembers]
        split
        · exact ih hkeys.2 hrest lower
        · rw [ih hkeys.2 hrest, get?_put_ne (Ne.symm hk)]

/-- What is found at the end of a path of keys; `null` counts as nothing. -/
def at? : List String → Json → Option Json
  | [], value => if value.isNull then none else some value
  | key :: path, .object members => (get? key members).bind (at? path)
  | _ :: _, _ => none

/-- On the way to the end of a path there are only objects, as far as there is anything. -/
def Leads : List String → Json → Prop
  | [], _ => True
  | key :: path, .object members => ∀ value, get? key members = some value → Leads path value
  | _ :: _, value => value.isNull

theorem at?_cons {key : String} {path : List String} {j leaf : Json} :
    j.at? (key :: path) = some leaf ↔
      ∃ members value, j = .object members ∧ get? key members = some value ∧
        value.at? path = some leaf := by
  cases j with
  | object members =>
      simp only [at?, Option.bind_eq_some_iff, object.injEq, exists_and_left, exists_eq_left']
  | _ => simp only [at?, reduceCtorEq, false_and, exists_false]

theorem at?_nil {j leaf : Json} : j.at? [] = some leaf ↔ j = leaf ∧ leaf.isNull = false := by
  cases hj : j.isNull with
  | true =>
      simp only [at?, hj, if_true, reduceCtorEq, false_iff, not_and]
      exact fun h hleaf => by simp [h ▸ hj] at hleaf
  | false =>
      simp only [at?, hj, Bool.false_eq_true, if_false, Option.some.injEq]
      exact ⟨fun h => ⟨h, h ▸ hj⟩, And.left⟩

theorem at?_of_isNull {j : Json} (h : j.isNull = true) (path : List String) :
    j.at? path = none := by
  cases j with
  | null => cases path <;> rfl
  | _ => exact absurd h nofun

/-- What both values have at the end of a path is decided by the upper one, and what it does not
    have is left as the lower one has it. -/
theorem at?_merge {lower upper leaf : Json} {path : List String} (hupper : upper.Ordered)
    (hnull : upper.isNull = false) (hleads : Leads path upper) (hlower : lower.at? path = some leaf)
    (hleaf : ∀ members, leaf ≠ .object members) :
    (merge lower upper).at? path = some ((upper.at? path).getD leaf) := by
  induction path generalizing lower upper with
  | nil =>
      rcases at?_nil.mp hlower with ⟨rfl, -⟩
      have hmerge : merge lower upper = upper := by
        cases upper with
        | object members =>
            cases lower with
            | object covered => exact absurd rfl (hleaf covered)
            | _ => rfl
        | _ => simp only [merge]
      rw [hmerge, at?_nil.mpr ⟨rfl, hnull⟩]
      rfl
  | cons key path ih =>
      rcases at?_cons.mp hlower with ⟨members, covered, rfl, hcovered, hbelow⟩
      cases upper with
      | object above =>
          rw [merge]
          rcases hget : get? key above with _ | value
          · have hleft := get?_mergeMembers_of_null hupper.1
              (fun value h => absurd (hget.symm.trans h) nofun) members
            simpa only [at?, hleft, hcovered, hget, Option.bind_some, Option.bind_none,
              Option.getD_none] using hbelow
          · cases hv : value.isNull with
            | true =>
                have hleft := get?_mergeMembers_of_null hupper.1
                  (fun other h => Option.some.inj (hget.symm.trans h) ▸ hv) members
                simpa only [at?, hleft, hcovered, hget, Option.bind_some, at?_of_isNull hv,
                  Option.getD_none] using hbelow
            | false =>
                have hlaid := get?_mergeMembers_of_some hupper.1 hget hv members
                simpa only [at?, hlaid, hcovered, hget, Option.map_some, Option.getD_some,
                  Option.bind_some] using
                  ih (hupper.of_get? hget) hv (hleads value hget) hbelow
      | _ => exact absurd (hnull.symm.trans hleads) nofun

/-! ### Records -/

theorem find?_memberNodes (key : String) (members : List (String × Json)) :
    ((memberNodes members).find? fun m => m.1 == some key).map (·.2) =
      (get? key members).map node := by
  induction members with
  | nil => rfl
  | cons m rest ih =>
      rcases m with ⟨k, v⟩
      by_cases hk : k = key
      · simp [memberNodes, get?, hk]
      · simp [memberNodes, get?, hk, ih]

theorem any_memberNodes (key : String) (members : List (String × Json)) :
    ((memberNodes members).any fun m => m.1 == some key) = (members.map (·.1)).contains key := by
  induction members with
  | nil => rfl
  | cons m rest ih =>
      rw [memberNodes, List.any_cons, ih, List.map_cons, List.contains_cons, Bool.beq_comm]
      rfl

theorem wellNamed_memberNodes (names : List String) {members : List (String × Json)}
    (h : (members.map (·.1)).Pairwise (· < ·)) :
    Fields.wellNamed names (memberNodes members) = true := by
  induction members with
  | nil => rfl
  | cons m rest ih =>
      have hrest := List.pairwise_cons.mp h
      have hnot : m.1 ∉ rest.map (·.1) := fun hmem => lt_irrefl m.1 (hrest.1 m.1 hmem)
      simp only [memberNodes, Fields.wellNamed, any_memberNodes, ih hrest.2, Bool.and_true]
      simp [hnot]

/-- The fields of a record, looked up in an object. -/
theorem Fields.read?_object (names : List String) {members : List (String × Json)}
    (h : Ordered (.object members)) :
    Fields.read? names (node (.object members)) =
      some { nodes := names.map fun name => (get? name members).map node,
             byPosition := false } := by
  simp only [node, Fields.read?, wellNamed_memberNodes names h.1, if_true, find?_memberNodes]

namespace Fields

variable {names : List String} {members : List (String × Json)} {i : Nat} {name : String}

/-- A field that an object holds is read by its shape. -/
theorem getD_of_get? {α : Type} {value : Json} {shape : Shape α} {a absent : α}
    (hname : names[i]? = some name) (hget : get? name members = some value)
    (hshape : shape value.node = some a) :
    getD { nodes := names.map fun name => (get? name members).map node, byPosition := false }
      i shape absent = some a := by
  simp only [getD, at?, List.getElem?_map, hname, Option.map_some, hget, Option.join_some, hshape]

theorem getD_string {s absent : String} (hname : names[i]? = some name)
    (hget : get? name members = some (.string s)) :
    getD { nodes := names.map fun name => (get? name members).map node, byPosition := false }
      i Shape.string absent = some s :=
  getD_of_get? hname hget rfl

theorem getD_bool {b absent : Bool} (hname : names[i]? = some name)
    (hget : get? name members = some (.bool b)) :
    getD { nodes := names.map fun name => (get? name members).map node, byPosition := false }
      i Shape.bool absent = some b :=
  getD_of_get? hname hget rfl

theorem getD_natural {n absent bound : Nat} (hname : names[i]? = some name)
    (hget : get? name members = some (.number (.int n))) (hbound : n < bound) :
    getD { nodes := names.map fun name => (get? name members).map node, byPosition := false }
      i (Shape.natural bound) absent = some n := by
  refine getD_of_get? hname hget ?_
  simp only [node, Shape.natural, Shape.integer, Option.bind_eq_bind, Option.bind_some,
    Int.toNat_natCast, Int.natCast_nonneg, hbound, and_self, if_true]

end Fields

end Json

end SqlMapper
