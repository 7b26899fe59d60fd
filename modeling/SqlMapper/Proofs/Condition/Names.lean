import SqlMapper.Condition.Membership

/-!
# Names That Are Made Up

The placeholders a condition is given by its compilation.

Two kinds of names are made up. The elements of a list are numbered from zero
behind the name of the list. A number is written in digits, so where the name of
the list ends can be seen, and elements of different lists never share a name.
They may well share one with what a caller binds, since nothing looks.

The value of a named equality gets a fresh name: there are as many candidates as
there are bindings, the base name takes one of the bindings, so one of the
candidates is free.

## Main definitions

* `Grows`: No name is taken out of the bindings.

## Theorems

* `entries_insertAll`: What is bound under new names comes last, in its order.
* `numbered_inj`: A numbered name determines its base and its number.
* `freshPlaceholder_cases`: A fresh name is not bound.
* `get?_bindElements`: Each element is bound to its name.
* `get?_bindElements_ne`: No other name is bound anew.
* `elements?_isSome`: When a placeholder stands for elements.
-/

namespace SqlMapper

namespace OrderedMap

variable {κ ν : Type} [DecidableEq κ]

theorem contains_of_get? {m : OrderedMap κ ν} {key : κ} {value : ν}
    (h : m.get? key = some value) : m.contains key = true := by
  rw [contains, h, Option.isSome_some]

theorem get?_of_contains {m : OrderedMap κ ν} {key : κ} (h : m.contains key = true) :
    ∃ value, m.get? key = some value :=
  Option.isSome_iff_exists.mp h

theorem mem_keys_of_contains {m : OrderedMap κ ν} {key : κ} (h : m.contains key = true) :
    key ∈ m.keys := by
  rcases get?_of_contains h with ⟨value, hvalue⟩
  obtain ⟨entries⟩ := m
  simp only [get?, keys] at hvalue ⊢
  induction entries with
  | nil => cases hvalue
  | cons e rest ih =>
      by_cases hk : e.1 = key
      · rw [List.map_cons, hk]
        exact List.mem_cons_self
      · simp only [lookup, hk, if_false] at hvalue
        have hc : (OrderedMap.mk rest).contains key = true := contains_of_get? hvalue
        exact List.mem_cons_of_mem _ (ih hc hvalue)

theorem contains_of_mem_keys {m : OrderedMap κ ν} {key : κ} (h : key ∈ m.keys) :
    m.contains key = true := by
  obtain ⟨entries⟩ := m
  simp only [contains, get?, keys] at h ⊢
  induction entries with
  | nil => cases h
  | cons e rest ih =>
      by_cases hk : e.1 = key
      · simp only [lookup, hk, if_true, Option.isSome_some]
      · rw [List.map_cons, List.mem_cons] at h
        simp only [lookup, hk, if_false]
        exact ih (h.resolve_left fun hkey => hk hkey.symm)

theorem contains_insert (m : OrderedMap κ ν) (key other : κ) (value : ν) :
    (m.insert key value).contains other = (decide (other = key) || m.contains other) := by
  by_cases h : other = key
  · simp only [contains, h, get?_insert_self, Option.isSome_some, decide_true, Bool.true_or]
  · simp only [contains, get?_insert_ne m h, h, decide_false, Bool.false_or]

theorem contains_erase (m : OrderedMap κ ν) (key other : κ) :
    (m.erase key).contains other = (!decide (other = key) && m.contains other) := by
  by_cases h : other = key
  · simp only [contains, h, get?_erase_self, Option.isSome_none, decide_true, Bool.not_true,
      Bool.false_and]
  · simp only [contains, get?_erase_ne m h, h, decide_false, Bool.not_false, Bool.true_and]

theorem insertAll_cons (m : OrderedMap κ ν) (e : κ × ν) (es : List (κ × ν)) :
    m.insertAll (e :: es) = (m.insert e.1 e.2).insertAll es := rfl

theorem get?_insertAll_ne {key : κ} {es : List (κ × ν)} (h : key ∉ es.map (·.1))
    (m : OrderedMap κ ν) : (m.insertAll es).get? key = m.get? key := by
  induction es generalizing m with
  | nil => rfl
  | cons e es ih =>
      rw [List.map_cons, List.mem_cons, not_or] at h
      rw [insertAll_cons, ih h.2, get?_insert_ne m h.1]

theorem get?_insertAll_mem {e : κ × ν} {es : List (κ × ν)} (hnodup : (es.map (·.1)).Nodup)
    (h : e ∈ es) (m : OrderedMap κ ν) : (m.insertAll es).get? e.1 = some e.2 := by
  induction es generalizing m with
  | nil => cases h
  | cons d es ih =>
      rw [List.map_cons, List.nodup_cons] at hnodup
      rw [insertAll_cons]
      rcases List.mem_cons.mp h with rfl | h
      · rw [get?_insertAll_ne hnodup.1, get?_insert_self]
      · exact ih hnodup.2 h _

theorem insert_of_get? {m : OrderedMap κ ν} {key : κ} {value : ν} (h : m.get? key = some value) :
    m.insert key value = m := by
  obtain ⟨entries⟩ := m
  rw [insert, mk.injEq]
  rw [get?] at h
  induction entries with
  | nil => cases h
  | cons e rest ih =>
      by_cases hk : e.1 = key
      · rw [lookup, if_pos hk, Option.some.injEq] at h
        rw [set, if_pos hk, ← h]
      · rw [lookup, if_neg hk] at h
        rw [set, if_neg hk, ih h]

/-- Setting what is there already changes nothing. -/
theorem insertAll_of_get? {m : OrderedMap κ ν} {es : List (κ × ν)}
    (h : ∀ e ∈ es, m.get? e.1 = some e.2) : m.insertAll es = m := by
  induction es with
  | nil => rfl
  | cons e es ih =>
      rw [insertAll_cons, insert_of_get? (h e List.mem_cons_self)]
      exact ih fun d hd => h d (List.mem_cons_of_mem e hd)

theorem set_of_not_mem {key : κ} {es : List (κ × ν)} (h : key ∉ es.map (·.1)) (value : ν) :
    set key value es = es ++ [(key, value)] := by
  induction es with
  | nil => rfl
  | cons e rest ih =>
      rw [List.map_cons, List.mem_cons, not_or] at h
      rw [set, if_neg fun hk => h.1 hk.symm, ih h.2, List.cons_append]

/-- Entries under new keys come last, in their order. -/
theorem entries_insertAll {m : OrderedMap κ ν} {es : List (κ × ν)}
    (hnodup : (es.map (·.1)).Nodup) (hnew : ∀ e ∈ es, e.1 ∉ m.keys) :
    (m.insertAll es).entries = m.entries ++ es := by
  induction es generalizing m with
  | nil => exact (List.append_nil _).symm
  | cons e es ih =>
      rw [List.map_cons, List.nodup_cons] at hnodup
      have hfirst : e.1 ∉ m.keys := hnew e List.mem_cons_self
      have hset : (m.insert e.1 e.2).entries = m.entries ++ [e] := set_of_not_mem hfirst e.2
      rw [insertAll_cons, ih hnodup.2, hset, List.append_assoc, List.singleton_append]
      intro d hd hmem
      rw [keys_insert_of_not_mem hfirst, List.mem_append, List.mem_singleton] at hmem
      rcases hmem with hmem | hmem
      · exact hnew d (List.mem_cons_of_mem e hd) hmem
      · exact hnodup.1 (hmem ▸ List.mem_map_of_mem hd)

theorem contains_insertAll (m : OrderedMap κ ν) (es : List (κ × ν)) (key : κ) :
    (m.insertAll es).contains key = (decide (key ∈ es.map (·.1)) || m.contains key) := by
  induction es generalizing m with
  | nil => rfl
  | cons e es ih =>
      rw [insertAll_cons, ih, contains_insert, List.map_cons]
      by_cases h : key = e.1
      · simp only [h, decide_true, Bool.true_or, Bool.or_true, List.mem_cons_self]
      · simp only [h, decide_false, Bool.false_or, List.mem_cons, false_or]

end OrderedMap

/-- Bindings that hold no fewer names. -/
def Grows (b b' : Binds) : Prop :=
  ∀ t, b.contains t = true → b'.contains t = true

theorem toList_numbered (base : String) (n : Nat) :
    (numbered base n).toList = base.toList ++ '_' :: Nat.toDigits 10 n := by
  rw [numbered, String.toList_append, String.toList_append, Nat.toString_eq_ofList_toDigits,
    List.append_assoc]
  exact congrArg (base.toList ++ '_' :: ·) String.toList_ofList

theorem isDigit_of_mem_number {n : Nat} {c : Char} (h : c ∈ Nat.toDigits 10 n) :
    c.isDigit = true :=
  Nat.isDigit_of_mem_toDigits (by decide) (by decide) h

theorem toString_nat_inj {m n : Nat} (h : toString m = toString n) : m = n := by
  have hdigits := congrArg String.toList h
  rw [Nat.toString_eq_ofList_toDigits, Nat.toString_eq_ofList_toDigits, String.toList_ofList,
    String.toList_ofList] at hdigits
  rw [← Nat.ofDigitChars_ten_toDigits (n := m), hdigits, Nat.ofDigitChars_ten_toDigits]

/-- A numbered name determines its base and its number. -/
theorem numbered_inj {base base' : String} {n n' : Nat} (h : numbered base n = numbered base' n') :
    base = base' ∧ n = n' := by
  have hplain : ∀ n, '_' ∉ Nat.toDigits 10 n := fun n hn =>
    absurd (isDigit_of_mem_number hn) (by decide)
  have hlist := congrArg String.toList h
  rw [toList_numbered, toList_numbered] at hlist
  -- The number holds no underscore, so the last underscore stands in front of it.
  have hcut : base.toList = base'.toList ∧ Nat.toDigits 10 n = Nat.toDigits 10 n' := by
    rcases List.append_eq_append_iff.mp hlist with ⟨more, hbase, hrest⟩ | ⟨more, hbase, hrest⟩
    · rcases more with _ | ⟨c, more⟩
      · rw [List.append_nil] at hbase
        exact ⟨hbase.symm, (List.cons.inj hrest).2⟩
      · refine absurd ?_ (hplain n)
        rw [(List.cons.inj hrest).2]
        exact List.mem_append_right _ List.mem_cons_self
    · rcases more with _ | ⟨c, more⟩
      · rw [List.append_nil] at hbase
        exact ⟨hbase, (List.cons.inj hrest).2.symm⟩
      · refine absurd ?_ (hplain n')
        rw [(List.cons.inj hrest).2]
        exact List.mem_append_right _ List.mem_cons_self
  refine ⟨String.toList_inj.mp hcut.1, ?_⟩
  rw [← Nat.ofDigitChars_ten_toDigits (n := n), hcut.2, Nat.ofDigitChars_ten_toDigits]

theorem numbered_ne (base : String) (n : Nat) : numbered base n ≠ base := by
  intro h
  have hlength := congrArg (fun name => name.toList.length) h
  simp only [toList_numbered, List.length_append, List.length_cons] at hlength
  omega

theorem nodup_elementNames (base : String) (start count : Nat) :
    (elementNames base start count).Nodup := by
  refine List.pairwise_map.mpr (List.nodup_range.imp ?_)
  intro i j hne h
  exact hne (Nat.add_left_cancel (numbered_inj h).2)

theorem mem_elementNames {name t : String} {start count : Nat}
    (h : t ∈ elementNames name start count) : ∃ i < count, t = numbered name (start + i) := by
  rcases List.mem_map.mp h with ⟨i, hi, ht⟩
  exact ⟨i, List.mem_range.mp hi, ht.symm⟩

theorem length_elementNames (name : String) (start count : Nat) :
    (elementNames name start count).length = count := by
  rw [elementNames, List.length_map, List.length_range]

/-- Among as many numbered names as a list is long, one is not in the list, since the base name
    takes a place. -/
theorem exists_unlisted {names : List String} {base : String} (h : base ∈ names) :
    ∃ i < names.length, numbered base (i + 2) ∉ names := by
  refine Decidable.byContradiction fun hall => ?_
  have hsubset : elementNames base 2 names.length ⊆ names.erase base := by
    intro t ht
    rcases mem_elementNames ht with ⟨i, hi, rfl⟩
    rw [List.mem_erase_of_ne (numbered_ne base (2 + i)), Nat.add_comm]
    exact Decidable.byContradiction fun hmem => hall ⟨i, hi, hmem⟩
  have hlength := (nodup_elementNames base 2 names.length).length_le_of_subset hsubset
  rw [length_elementNames, List.length_erase_of_mem h] at hlength
  have hpos := List.length_pos_of_mem h
  omega

/-- A fresh name is the base name or a numbered one, and it is not bound. -/
theorem freshPlaceholder_cases (base : String) (b : Binds) :
    b.contains (freshPlaceholder base b) = false
      ∧ (freshPlaceholder base b = base ∨ ∃ n, freshPlaceholder base b = numbered base n) := by
  unfold freshPlaceholder
  by_cases hbase : b.contains base = true
  · simp only [if_pos hbase]
    rcases hfind : ((List.range b.size).map fun i => numbered base (i + 2)).find?
        fun name => !b.contains name with _ | name
    · rcases exists_unlisted (OrderedMap.mem_keys_of_contains hbase) with ⟨i, hi, hunlisted⟩
      rw [OrderedMap.keys, List.length_map] at hi
      have hbound := List.find?_eq_none.mp hfind _
        (List.mem_map.mpr ⟨i, List.mem_range.mpr hi, rfl⟩)
      rw [Bool.not_eq_true, Bool.not_eq_false'] at hbound
      exact absurd (OrderedMap.mem_keys_of_contains hbound) hunlisted
    · rcases List.mem_map.mp (List.mem_of_find?_eq_some hfind) with ⟨i, -, hname⟩
      refine ⟨?_, Or.inr ⟨i + 2, hname.symm⟩⟩
      have hfree := List.find?_some hfind
      rw [Bool.not_eq_true'] at hfree
      exact hfree
  · rw [if_neg hbase]
    exact ⟨Bool.eq_false_iff.mpr hbase, Or.inl rfl⟩

/-- A fresh name goes on behind its base with an underscore and digits at most. -/
theorem toList_freshPlaceholder (base : String) (b : Binds) :
    ∃ behind, (freshPlaceholder base b).toList = base.toList ++ behind
      ∧ ∀ c ∈ behind, c = '_' ∨ c.isDigit = true := by
  rcases (freshPlaceholder_cases base b).2 with h | ⟨n, h⟩
  · rw [h]
    exact ⟨[], (List.append_nil _).symm, fun c hc => nomatch hc⟩
  · rw [h]
    refine ⟨_, toList_numbered base n, fun c hc => ?_⟩
    rcases List.mem_cons.mp hc with rfl | hc
    · exact Or.inl rfl
    · exact Or.inr (isDigit_of_mem_number hc)

theorem map_fst_zip_elementNames (name : String) (vs : List Value) :
    ((elementNames name 0 vs.length).zip vs).map (·.1) = elementNames name 0 vs.length :=
  List.map_fst_zip (Nat.le_of_eq (length_elementNames name 0 vs.length))

/-- Each element is bound to its name. -/
theorem get?_bindElements (b : Binds) (name : String) {vs : List Value} {i : Nat} {v : Value}
    (h : vs[i]? = some v) : (bindElements b name vs).get? (numbered name i) = some v := by
  have hentry : (numbered name i, v) ∈ (elementNames name 0 vs.length).zip vs := by
    rw [List.mem_iff_getElem?]
    refine ⟨i, ?_⟩
    have hi := (List.getElem?_eq_some_iff.mp h).1
    rw [List.getElem?_zip_eq_some, elementNames, List.getElem?_map, List.getElem?_range hi]
    exact ⟨by rw [Option.map_some, Nat.zero_add], h⟩
  refine OrderedMap.get?_insertAll_mem ?_ hentry b
  rw [map_fst_zip_elementNames]
  exact nodup_elementNames name 0 vs.length

/-- No name but those of the elements is bound anew. -/
theorem get?_bindElements_ne {name t : String} {vs : List Value}
    (h : ∀ i < vs.length, t ≠ numbered name i) (b : Binds) :
    (bindElements b name vs).get? t = b.get? t := by
  refine OrderedMap.get?_insertAll_ne ?_ b
  rw [map_fst_zip_elementNames]
  intro ht
  rcases mem_elementNames ht with ⟨i, hi, hname⟩
  rw [Nat.zero_add] at hname
  exact h i hi hname

/-- Binding elements takes no name out of the bindings. -/
theorem bindElements_grows (b : Binds) (name : String) (vs : List Value) :
    Grows b (bindElements b name vs) := by
  intro t ht
  rw [bindElements, OrderedMap.contains_insertAll, ht, Bool.or_true]

/-- A placeholder stands for elements if it is the name of a list or has a value. -/
theorem elements?_isSome {lists : List (String × List Value)} {b : Binds} {name : String} :
    (elements? lists b name).isSome = true ↔ b.contains name = true ∨ ∃ l ∈ lists, l.1 = name := by
  unfold elements?
  rcases hfind : lists.find? fun l => l.1 == name with _ | ⟨found, vs⟩
  · have hnone : ¬ ∃ l ∈ lists, l.1 = name := fun ⟨l, hl, hname⟩ =>
      List.find?_eq_none.mp hfind l hl (beq_iff_eq.mpr hname)
    rw [or_iff_left hnone, OrderedMap.contains]
    rcases hvalue : b.get? name with _ | v
    · simp only [hfind]
      exact Iff.rfl
    · cases v <;> simp only [hfind, Option.isSome_some]
  · have hname := List.find?_some hfind
    simp only [hfind, Option.isSome_some, true_iff]
    exact Or.inr ⟨_, List.mem_of_find?_eq_some hfind, beq_iff_eq.mp hname⟩

end SqlMapper
