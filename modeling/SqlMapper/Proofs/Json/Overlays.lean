import SqlMapper.Proofs.Json.Merging

/-!
# Overlays

What merging keeps of the lower value, and what it takes from the upper one.

A place in a value is a path of steps, by keys through objects and by numbers
through arrays. As long as both values have an object there, merging goes on
member by member, and all that holds of one object holds at every such place: a
member that the upper object does not name stays as it is, and the upper object
adds the keys under which it has more than `null`. Laying the same value over the
result once more finds everything in place, because each of its members already
lies where it would be put.

A `null` in the upper value is passed over by the object that holds it, and only
there. It keeps what the lower value has if an object of the lower value
surrounds its place, whether that object has the key or not. Where the lower
value has no such object, the upper object is taken over as a whole, with every
`null` in it, and a `null` that is the whole upper value is taken over as well.

## Main definitions

* `Json.Step`, `Json.find?`: A place in a value, and what is there.
* `Json.Surrounds`: A value has an object around a place.
* `Json.NullFree`: There is no `null` at any place.

## Theorems

* `Json.members_induction`: Induction along the members of objects.
* `Json.mergeMembers_eq_self`: Members that are in place already change nothing.
* `Json.find?_merge_objects`: Where both values have an object, their members are merged.
* `Json.merge_idempotent_local`: Merging twice is merging once, and keeps to the keys named.
* `Json.merge_null`: Which places keep the lower value under a `null`, and which become `null`.
-/

namespace SqlMapper

namespace Json

/-! ### Places -/

/-- A step into a value. -/
inductive Step where
  /-- To the member under a key. -/
  | key (name : String)
  /-- To the item with a number. -/
  | item (index : Nat)

/-- What a value has at a place, if it has the place. -/
def find? : List Step → Json → Option Json
  | [], value => some value
  | .key name :: path, .object members => (get? name members).bind (find? path)
  | .item index :: path, .array items => items[index]?.bind (find? path)
  | _ :: _, _ => none

theorem find?_append (front path : List Step) (value : Json) :
    value.find? (front ++ path) = (value.find? front).bind (find? path) := by
  induction front generalizing value with
  | nil => rfl
  | cons step front ih =>
      have hfront : find? (front ++ path) = fun inner => (find? front inner).bind (find? path) :=
        funext ih
      cases step with
      | key name =>
          cases value with
          | object members => simp only [List.cons_append, find?, Option.bind_assoc, hfront]
          | _ => rfl
      | item index =>
          cases value with
          | array items => simp only [List.cons_append, find?, Option.bind_assoc, hfront]
          | _ => rfl

/-- Behind a key there is something only in an object. -/
theorem find?_key_cons {name : String} {path : List Step} {value leaf : Json} :
    value.find? (.key name :: path) = some leaf ↔
      ∃ members inner, value = .object members ∧ get? name members = some inner ∧
        inner.find? path = some leaf := by
  cases value with
  | object members =>
      simp only [find?, Option.bind_eq_some_iff, object.injEq, exists_and_left, exists_eq_left']
  | _ => simp only [find?, reduceCtorEq, false_and, exists_false]

theorem Ordered.of_find? {keys : List String} {value inner : Json} (h : value.Ordered)
    (hfind : value.find? (keys.map Step.key) = some inner) : inner.Ordered := by
  induction keys generalizing value with
  | nil => exact Option.some.inj hfind ▸ h
  | cons name keys ih =>
      rcases find?_key_cons.mp hfind with ⟨members, below, rfl, hbelow, hfind⟩
      exact ih (h.of_get? hbelow) hfind

/-! ### Induction along members -/

/-- What holds of an object if it holds of its members, and of everything that is no object, holds
    of every value. -/
@[elab_as_elim]
theorem members_induction {motive : Json → Prop}
    (object : ∀ members, (∀ m ∈ members, motive m.2) → motive (.object members))
    (other : ∀ value, (∀ members, value ≠ .object members) → motive value) : ∀ value, motive value
  | .object members => object members fun m hm =>
      have : sizeOf m.2 < 1 + sizeOf members := by
        have hmember := List.sizeOf_lt_of_mem hm
        rcases m with ⟨name, inner⟩
        rw [Prod.mk.sizeOf_spec] at hmember
        dsimp only
        omega
      members_induction object other m.2
  | .null | .bool _ | .number _ | .string _ | .array _ => other _ nofun
termination_by value => sizeOf value

/-! ### Values laid twice -/

theorem merge_of_ne_object {upper : Json} (h : ∀ members, upper ≠ .object members) (lower : Json) :
    merge lower upper = upper := by
  cases upper with
  | object members => exact absurd rfl (h members)
  | _ => simp only [merge]

/-- The upper value replaces the lower one, unless both are objects. -/
theorem merge_cases (lower upper : Json) :
    merge lower upper = upper ∨
      ∃ below above, lower = .object below ∧ upper = .object above := by
  cases upper with
  | object above =>
      cases lower with
      | object below => exact Or.inr ⟨below, above, rfl, rfl⟩
      | _ => exact Or.inl (by simp only [merge])
  | _ => exact Or.inl (by simp only [merge])

theorem get?_of_mem {key : String} {value : Json} {members : List (String × Json)}
    (hkeys : (members.map (·.1)).Pairwise (· < ·)) (h : (key, value) ∈ members) :
    get? key members = some value := by
  induction members with
  | nil => exact absurd h List.not_mem_nil
  | cons m rest ih =>
      have hrest := List.pairwise_cons.mp hkeys
      rcases List.mem_cons.mp h with rfl | h
      · exact if_pos rfl
      · have hlt : m.1 < key := hrest.1 key (List.mem_map_of_mem h)
        rw [get?, if_neg hlt.ne, ih hrest.2 h]

/-- Setting what is there already changes nothing. -/
theorem put_of_get? {key : String} {value : Json} {members : List (String × Json)}
    (hkeys : (members.map (·.1)).Pairwise (· < ·)) (h : get? key members = some value) :
    put key value members = members := by
  induction members with
  | nil => exact absurd h nofun
  | cons m rest ih =>
      have hrest := List.pairwise_cons.mp hkeys
      by_cases hk : key = m.1
      · rw [get?, if_pos hk.symm, Option.some.injEq] at h
        rw [put, if_pos hk, hk, ← h]
      · rw [get?, if_neg (Ne.symm hk)] at h
        -- The key stands further on, so it is not put before this one.
        have hlt : m.1 < key := hrest.1 key (List.mem_map_of_mem (mem_of_get? h))
        rw [put, if_neg hk, if_neg hlt.not_gt, ih hrest.2 h]

/-- Members that are in place already change nothing. -/
theorem mergeMembers_eq_self {lower : List (String × Json)}
    (hkeys : (lower.map (·.1)).Pairwise (· < ·)) {upper : List (String × Json)}
    (h : ∀ m ∈ upper, m.2.isNull = false →
      ∃ covered, get? m.1 lower = some covered ∧ merge covered m.2 = covered) :
    mergeMembers lower upper = lower := by
  induction upper with
  | nil => rfl
  | cons m rest ih =>
      have hrest := ih fun n hn => h n (List.mem_cons_of_mem m hn)
      rw [mergeMembers]
      split
      · exact hrest
      next hnull =>
        rcases h m List.mem_cons_self (Bool.eq_false_iff.mpr hnull) with ⟨covered, hget, hmerge⟩
        simp only [hget, hmerge]
        rw [put_of_get? hkeys hget, hrest]

/-- A value laid over itself. -/
theorem merge_self {value : Json} (h : value.Ordered) : merge value value = value := by
  induction value using members_induction with
  | object members ih =>
      rw [merge]
      refine congrArg object (mergeMembers_eq_self h.1 fun m hm _ => ?_)
      exact ⟨m.2, get?_of_mem h.1 hm, ih m hm (orderedMembers_iff.mp h.2 m hm)⟩
  | other value hother => exact merge_of_ne_object hother value

/-- A value laid over another twice. -/
theorem merge_merge {lower upper : Json} (hlower : lower.Ordered) (hupper : upper.Ordered) :
    merge (merge lower upper) upper = merge lower upper := by
  induction upper using members_induction generalizing lower with
  | object above ih =>
      rcases merge_cases lower (.object above) with hmerge | ⟨below, _, rfl, -⟩
      · rw [hmerge, merge_self hupper]
      · rw [merge, merge]
        refine congrArg object (mergeMembers_eq_self (mergeMembers_ordered hlower hupper.2).1
          fun m hm hnull => ?_)
        have hvalue : m.2.Ordered := orderedMembers_iff.mp hupper.2 m hm
        -- Either the member was taken over as it is, or it was laid over what it covers.
        refine ⟨_, get?_mergeMembers_of_some hupper.1 (get?_of_mem hupper.1 hm) hnull below, ?_⟩
        cases hget : get? m.1 below with
        | none => exact merge_self hvalue
        | some covered => exact ih m hm (hlower.of_get? hget) hvalue
  | other upper hother => rw [merge_of_ne_object hother, merge_of_ne_object hother]

/-! ### Objects over objects -/

theorem isNull_eq_false_iff {value : Json} : value.isNull = false ↔ value ≠ .null := by
  cases value <;> simp [isNull]

theorem mem_keys_iff {key : String} {members : List (String × Json)} :
    key ∈ members.map (·.1) ↔ ∃ value, get? key members = some value := by
  constructor
  · intro hmem
    refine Option.ne_none_iff_exists'.mp fun hnone => ?_
    induction members with
    | nil => exact List.not_mem_nil hmem
    | cons m rest ih =>
        by_cases hk : m.1 = key
        · rw [get?, if_pos hk] at hnone
          cases hnone
        · rw [get?, if_neg hk] at hnone
          exact ih ((List.mem_cons.mp hmem).resolve_left (Ne.symm hk)) hnone
  · rintro ⟨value, hget⟩
    exact List.mem_map_of_mem (mem_of_get? hget)

section

variable {upper : List (String × Json)} (hupper : (upper.map (·.1)).Pairwise (· < ·))
  (lower : List (String × Json)) {key : String}

include hupper

theorem get?_mergeMembers_of_lacks (h : key ∉ upper.map (·.1)) :
    get? key (mergeMembers lower upper) = get? key lower :=
  get?_mergeMembers_of_null hupper
    (fun value hget => absurd (mem_keys_iff.mpr ⟨value, hget⟩) h) lower

variable (key) in
/-- Under a key there is what the upper members lay over it, or what was there before. -/
theorem get?_mergeMembers_cases :
    (∃ value, get? key upper = some value ∧ value ≠ .null ∧
      get? key (mergeMembers lower upper) =
        some (((get? key lower).map (merge · value)).getD value)) ∨
    ((∀ value, get? key upper = some value → value = .null) ∧
      get? key (mergeMembers lower upper) = get? key lower) := by
  by_cases hadded : ∃ value, get? key upper = some value ∧ value ≠ .null
  · rcases hadded with ⟨value, hvalue, hnull⟩
    exact Or.inl ⟨value, hvalue, hnull,
      get?_mergeMembers_of_some hupper hvalue (isNull_eq_false_iff.mpr hnull) lower⟩
  · have hnull : ∀ value, get? key upper = some value → value = .null := by
      intro value hvalue
      by_contra hother
      exact hadded ⟨value, hvalue, hother⟩
    refine Or.inr ⟨hnull, get?_mergeMembers_of_null hupper (fun value hvalue => ?_) lower⟩
    rw [hnull value hvalue]
    rfl

/-- The keys of merged members are those of the lower ones, and those under which the upper ones
    have more than `null`. -/
theorem mem_keys_mergeMembers :
    key ∈ (mergeMembers lower upper).map (·.1) ↔
      key ∈ lower.map (·.1) ∨ ∃ value, (key, value) ∈ upper ∧ value ≠ .null := by
  rcases get?_mergeMembers_cases hupper lower key with
    ⟨value, hvalue, hnull, hlaid⟩ | ⟨hnull, hleft⟩
  · exact iff_of_true (mem_keys_iff.mpr ⟨_, hlaid⟩) (Or.inr ⟨value, mem_of_get? hvalue, hnull⟩)
  · rw [mem_keys_iff, hleft, ← mem_keys_iff, or_iff_left]
    rintro ⟨value, hmem, hother⟩
    exact hother (hnull value (get?_of_mem hupper hmem))

end

/-- Where both values have an object, the members of one are laid over those of the other. -/
theorem find?_merge_objects {keys : List String} {lower upper : Json}
    {below above : List (String × Json)} (hupper : upper.Ordered)
    (hbelow : lower.find? (keys.map Step.key) = some (.object below))
    (habove : upper.find? (keys.map Step.key) = some (.object above)) :
    (merge lower upper).find? (keys.map Step.key) = some (.object (mergeMembers below above)) := by
  induction keys generalizing lower upper with
  | nil =>
      rw [Option.some.inj hbelow, Option.some.inj habove]
      rfl
  | cons key keys ih =>
      rcases find?_key_cons.mp hbelow with ⟨members, covered, rfl, hcovered, hbelow⟩
      rcases find?_key_cons.mp habove with ⟨others, value, rfl, hvalue, habove⟩
      have hnull : value.isNull = false := by
        refine isNull_eq_false_iff.mpr ?_
        rintro rfl
        cases keys <;> cases habove
      have hlaid := get?_mergeMembers_of_some hupper.1 hvalue hnull members
      rw [hcovered] at hlaid
      rw [merge]
      exact find?_key_cons.mpr ⟨_, _, rfl, hlaid, ih (hupper.of_get? hvalue) hbelow habove⟩

/-- Laying a value over another a second time changes nothing, and neither does laying it over
    itself. Wherever both values have an object, the result has one. What the lower object has
    under a key that the upper one leaves out is the same there, and its keys are those of the lower
    object and those under which the upper one has more than `null`. -/
theorem merge_idempotent_local {lower upper : Json} (hlower : lower.Ordered)
    (hupper : upper.Ordered) :
    merge (merge lower upper) upper = merge lower upper ∧ merge upper upper = upper ∧
      ∀ (keys : List String) (below above : List (String × Json)),
        lower.find? (keys.map Step.key) = some (.object below) →
        upper.find? (keys.map Step.key) = some (.object above) →
          ∃ members, (merge lower upper).find? (keys.map Step.key) = some (.object members) ∧
            (∀ key, key ∉ above.map (·.1) → get? key members = get? key below) ∧
            ∀ key, key ∈ members.map (·.1) ↔
              key ∈ below.map (·.1) ∨ ∃ value, (key, value) ∈ above ∧ value ≠ .null := by
  refine ⟨merge_merge hlower hupper, merge_self hupper, fun keys below above hbelow habove => ?_⟩
  have hkeys := (hupper.of_find? habove).1
  exact ⟨mergeMembers below above, find?_merge_objects hupper hbelow habove,
    fun key => get?_mergeMembers_of_lacks hkeys below,
    fun key => mem_keys_mergeMembers hkeys below⟩

/-- A section that is taken over with a `null`, and one that is laid over another. -/
theorem merge_idempotent_local_sections :
    let lower := Json.object [
      ("a", .number (.int 1)), ("d", .object [("h", .string "x"), ("p", .bool true)])]
    let upper := Json.object [
      ("c", .object [("n", .null)]),
      ("d", .object [("p", .array [.null]), ("q", .string "y"), ("u", .null)])]
    lower.Ordered ∧ upper.Ordered ∧
      merge (merge lower upper) upper = merge lower upper ∧ merge upper upper = upper ∧
      lower.find? [.key "d"] = some (.object [("h", .string "x"), ("p", .bool true)]) ∧
      upper.find? [.key "d"] =
        some (.object [("p", .array [.null]), ("q", .string "y"), ("u", .null)]) ∧
      ∃ members, (merge lower upper).find? [.key "d"] = some (.object members) ∧
        get? "h" members = some (.string "x") ∧ "q" ∈ members.map (·.1) ∧
          "u" ∉ members.map (·.1) := by
  intro lower upper
  have hlower : lower.Ordered :=
    ⟨by decide, trivial, ⟨by decide, trivial, trivial, trivial⟩, trivial⟩
  have hupper : upper.Ordered :=
    ⟨by decide, ⟨by decide, trivial, trivial⟩,
      ⟨by decide, ⟨trivial, trivial⟩, trivial, trivial, trivial⟩, trivial⟩
  rcases merge_idempotent_local hlower hupper with ⟨htwice, hself, hlocal⟩
  rcases hlocal ["d"] _ _ rfl rfl with ⟨members, hmembers, hleft, hkeys⟩
  exact ⟨hlower, hupper, htwice, hself, rfl, rfl, members, hmembers,
    (hleft "h" (by decide)).trans rfl,
    (hkeys "q").mpr (Or.inr ⟨.string "y", by simp, nofun⟩), by simp [hkeys]⟩

/-! ### Nulls -/

/-- An object of a value surrounds a place. The place is reached by keys alone, and where the last
    of them is looked up the value has an object, whether that has the key or not. -/
def Surrounds (value : Json) (path : List Step) : Prop :=
  ∃ keys last members, path = (keys ++ [last]).map Step.key ∧
    value.find? (keys.map Step.key) = some (.object members)

/-- There is no `null` at any place of a value. -/
def NullFree (value : Json) : Prop :=
  ∀ path, value.find? path ≠ some .null

theorem surrounds_singleton (members : List (String × Json)) (name : String) :
    Surrounds (.object members) [.key name] :=
  ⟨[], name, members, rfl, rfl⟩

theorem Surrounds.cons {members : List (String × Json)} {name : String} {inner : Json}
    {path : List Step} (h : inner.Surrounds path) (hget : get? name members = some inner) :
    Surrounds (.object members) (.key name :: path) := by
  rcases h with ⟨keys, last, below, rfl, hbelow⟩
  exact ⟨name :: keys, last, below, rfl, find?_key_cons.mpr ⟨members, inner, rfl, hget, hbelow⟩⟩

theorem find?_null {path : List Step} {leaf : Json} :
    find? path .null = some leaf ↔ path = [] ∧ leaf = .null := by
  cases path with
  | nil => simp [find?, eq_comm]
  | cons step path => cases step <;> simp [find?]

/-- What is looked up under two keys is surrounded by what is found under the first. -/
theorem surrounds_pair {value : Json} {outer inner : String} :
    value.Surrounds [.key outer, .key inner] ↔
      ∃ members, value.find? [.key outer] = some (.object members) := by
  constructor
  · rintro ⟨keys, last, members, hpath, hfind⟩
    have hkeys : [outer] ++ [inner] = keys ++ [last] :=
      List.map_injective_iff.mpr (fun _ _ => Step.key.inj) hpath
    rcases List.append_inj' hkeys rfl with ⟨rfl, -⟩
    exact ⟨members, hfind⟩
  · rintro ⟨members, hfind⟩
    exact ⟨[outer], inner, members, rfl, hfind⟩

theorem nullFree_object {members : List (String × Json)} (h : ∀ m ∈ members, m.2.NullFree) :
    NullFree (.object members) := by
  intro path hnull
  rcases path with _ | ⟨step, path⟩
  · cases hnull
  · cases step with
    | item index => cases hnull
    | key name =>
        rcases find?_key_cons.mp hnull with ⟨_, value, heq, hvalue, hnull⟩
        cases heq
        exact h _ (mem_of_get? hvalue) path hnull

theorem nullFree_number (n : Number) : NullFree (.number n) := by
  rintro (_ | ⟨_ | _, _⟩) ⟨⟩

/-- A surrounded `null` keeps what the lower value has at its place, or that it has nothing. -/
theorem find?_merge_of_surrounds {lower upper : Json} {path : List Step} (hupper : upper.Ordered)
    (hnull : upper.find? path = some .null) (h : lower.Surrounds path) :
    (merge lower upper).find? path = lower.find? path := by
  rcases h with ⟨keys, last, below, rfl, hbelow⟩
  rw [List.map_append, find?_append] at hnull
  rcases Option.bind_eq_some_iff.mp hnull with ⟨inner, hinner, hlast⟩
  rcases find?_key_cons.mp hlast with ⟨above, value, rfl, hvalue, hnull⟩
  have hleft := get?_mergeMembers_of_null (hupper.of_find? hinner).1
    (fun other hother => by
      rw [Option.some.inj (hother.symm.trans hvalue), Option.some.inj hnull]
      rfl) below
  rw [List.map_append, find?_append, find?_append, hbelow,
    find?_merge_objects hupper hbelow hinner]
  simp only [List.map_cons, List.map_nil, Option.bind_some, find?, hleft]

/-- Any other `null` is taken over. -/
theorem find?_merge_of_not_surrounds {lower upper : Json} {path : List Step}
    (hupper : upper.Ordered) (hnull : upper.find? path = some .null)
    (h : ¬ lower.Surrounds path) : (merge lower upper).find? path = some .null := by
  induction path generalizing lower upper with
  | nil =>
      rw [Option.some.inj hnull, merge]
      · rfl
      · exact nofun
  | cons step path ih =>
      rcases merge_cases lower upper with hmerge | ⟨below, above, rfl, rfl⟩
      · rwa [hmerge]
      · cases step with
        | item index => exact absurd hnull nofun
        | key name =>
            rcases find?_key_cons.mp hnull with ⟨_, value, heq, hvalue, hinner⟩
            cases heq
            have hmore : value ≠ .null := by
              rintro rfl
              -- A member that is null itself is surrounded by the lower object.
              rw [(find?_null.mp hinner).1] at h
              exact h (surrounds_singleton below name)
            have hlaid := get?_mergeMembers_of_some hupper.1 hvalue
              (isNull_eq_false_iff.mpr hmore) below
            rw [merge]
            refine find?_key_cons.mpr ⟨_, _, rfl, hlaid, ?_⟩
            cases hget : get? name below with
            | none => exact hinner
            | some covered =>
                exact ih (hupper.of_get? hvalue) hinner fun hinside => h (hinside.cons hget)

/-- A `null` in the merged value was in one of the two, at the same place. -/
theorem null_of_merge {lower upper : Json} {path : List Step} (hupper : upper.Ordered)
    (h : (merge lower upper).find? path = some .null) :
    upper.find? path = some .null ∨ lower.find? path = some .null := by
  induction path generalizing lower upper with
  | nil =>
      rcases merge_cases lower upper with hmerge | ⟨below, above, rfl, rfl⟩
      · exact Or.inl (hmerge ▸ h)
      · cases h
  | cons step path ih =>
      rcases merge_cases lower upper with hmerge | ⟨below, above, rfl, rfl⟩
      · exact Or.inl (hmerge ▸ h)
      · rw [merge] at h
        cases step with
        | item index => exact absurd h nofun
        | key name =>
            rcases find?_key_cons.mp h with ⟨_, merged, heq, hmerged, hinner⟩
            cases heq
            rcases get?_mergeMembers_cases hupper.1 below name with
              ⟨value, hvalue, -, hlaid⟩ | ⟨-, hleft⟩
            · rw [hlaid, Option.some.injEq] at hmerged
              rw [← hmerged] at hinner
              cases hget : get? name below with
              | none =>
                  rw [hget] at hinner
                  exact Or.inl (find?_key_cons.mpr ⟨above, value, rfl, hvalue, hinner⟩)
              | some covered =>
                  rw [hget] at hinner
                  exact (ih (hupper.of_get? hvalue) hinner).imp
                    (fun hnull => find?_key_cons.mpr ⟨above, value, rfl, hvalue, hnull⟩)
                    (fun hnull => find?_key_cons.mpr ⟨below, covered, rfl, hget, hnull⟩)
            · rw [hleft] at hmerged
              exact Or.inr (find?_key_cons.mpr ⟨below, merged, rfl, hmerged, hinner⟩)

/-- A `null` of the upper value leaves its place as the lower value has it if an object of the lower
    value surrounds it, and is taken over otherwise. So nothing becomes `null` in a value without
    `null` exactly if every `null` of the upper value is surrounded. -/
theorem merge_null (lower : Json) {upper : Json} (hupper : upper.Ordered) :
    (∀ path, upper.find? path = some .null →
      (lower.Surrounds path → (merge lower upper).find? path = lower.find? path) ∧
      (¬ lower.Surrounds path → (merge lower upper).find? path = some .null)) ∧
    (lower.NullFree →
      ((merge lower upper).NullFree ↔
        ∀ path, upper.find? path = some .null → lower.Surrounds path)) := by
  refine ⟨fun path hnull => ⟨find?_merge_of_surrounds hupper hnull,
    find?_merge_of_not_surrounds hupper hnull⟩, fun hlower => ⟨fun hfree path hnull => ?_,
    fun hall path hmerged => ?_⟩⟩
  · by_contra hopen
    exact hfree path (find?_merge_of_not_surrounds hupper hnull hopen)
  · have hnull := (null_of_merge hupper hmerged).resolve_right (hlower path)
    rw [find?_merge_of_surrounds hupper hnull (hall path hnull)] at hmerged
    exact hlower path hmerged

/-- One `null` under a key that the lower object has, one under a key that it lacks, and one in an
    object that is taken over. -/
theorem merge_null_section :
    let lower := Json.object [("a", .object [("b", .number (.int 1))])]
    let upper := Json.object [
      ("a", .object [("b", .null), ("c", .null)]), ("d", .object [("e", .null)])]
    upper.Ordered ∧ lower.NullFree ∧
      lower.Surrounds [.key "a", .key "b"] ∧ lower.Surrounds [.key "a", .key "c"] ∧
      ¬ lower.Surrounds [.key "d", .key "e"] ∧
      (merge lower upper).find? [.key "a", .key "b"] = some (.number (.int 1)) ∧
      (merge lower upper).find? [.key "a", .key "c"] = none ∧
      (merge lower upper).find? [.key "d", .key "e"] = some .null ∧
      ¬ (merge lower upper).NullFree := by
  intro lower upper
  have hupper : upper.Ordered :=
    ⟨by decide, ⟨by decide, trivial, trivial, trivial⟩, ⟨by decide, trivial, trivial⟩, trivial⟩
  have hlower : lower.NullFree := nullFree_object <| List.forall_mem_singleton.mpr <|
    nullFree_object <| List.forall_mem_singleton.mpr <| nullFree_number _
  have hinside : ∀ key, lower.Surrounds [.key "a", .key key] :=
    fun key => surrounds_pair.mpr ⟨_, rfl⟩
  have houtside : ¬ lower.Surrounds [.key "d", .key "e"] := by
    intro h
    rcases surrounds_pair.mp h with ⟨_, ⟨⟩⟩
  rcases merge_null lower hupper with ⟨hplaces, hfree⟩
  exact ⟨hupper, hlower, hinside "b", hinside "c", houtside,
    ((hplaces [.key "a", .key "b"] rfl).1 (hinside "b")).trans rfl,
    ((hplaces [.key "a", .key "c"] rfl).1 (hinside "c")).trans rfl,
    (hplaces [.key "d", .key "e"] rfl).2 houtside,
    fun h => houtside ((hfree hlower).mp h _ rfl)⟩

/-- A `null` replaces a whole value, and one comes along with an object that is new or that
    replaces a number. -/
theorem null_overrides :
    let lower := Json.object [("a", .number (.int 1))]
    let upper := Json.object [("a", .object [("b", .null)]), ("c", .object [("d", .null)])]
    lower.NullFree ∧ merge lower .null = .null ∧
      (upper.find? [.key "a", .key "b"] = some .null ∧ lower.find? [.key "a", .key "b"] = none ∧
        (merge lower upper).find? [.key "a", .key "b"] = some .null) ∧
      upper.find? [.key "c", .key "d"] = some .null ∧ lower.find? [.key "c", .key "d"] = none ∧
        (merge lower upper).find? [.key "c", .key "d"] = some .null := by
  intro lower upper
  have hlower : lower.NullFree :=
    nullFree_object (List.forall_mem_singleton.mpr (nullFree_number _))
  exact ⟨hlower, rfl, ⟨rfl, rfl, rfl⟩, rfl, rfl, rfl⟩

end Json

end SqlMapper
