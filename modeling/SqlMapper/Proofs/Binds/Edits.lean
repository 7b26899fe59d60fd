import Mathlib.Data.Finmap
import Mathlib.Data.List.Induction
import Mathlib.Data.Nat.Find
import SqlMapper.Proofs.Condition.Distinct

/-!
# Edited Bindings

Bindings as an ordered finite map.

Bindings are empty at first and are only ever edited: a value is bound to a
name, a name is taken out, or everything is bound that other edits have bound.
The same edits can be made on a finite map, which knows no order. What is found
in the bindings is then what the finite map holds, since each edit keeps it so.

The order is a matter of time. Setting a value moves no entry, and a new name
comes last, so the names stand in the order in which they came. A name may come
and go, and what counts is the last time at which it was absent: the edit behind
that one bound it, and it has been bound ever since. For this an extension is
taken apart into the single insertions that it makes.

## Main definitions

* `Binds.Edit`: A call that changes bindings.
* `Binds.Operations`: What edits can be made on.
* `Binds.built`, `Binds.mapped`: The bindings and the finite map that edits lead to.
* `Binds.singly`: Edits with their extensions taken apart.
* `Binds.lastAbsent`: When a name was last absent.
* `Binds.Chronological`: Names stand in the order in which they came.
* `Binds.Represents`: Bindings hold what a finite map holds.

## Theorems

* `OrderedMap.entries_insert_of_getElem?`: A value is replaced in its place.
* `OrderedMap.entries_erase_of_getElem?`: A key is taken out of its place.
* `OrderedMap.getElem?_extend`: An extension leaves every key in its place.
* `Binds.runAll_represents`: Edits keep the bindings and the finite map together.
* `Binds.insert_at_lastAbsent`: Behind the last instant of its absence, a name is inserted.
* `Binds.chronological_of_isSingle`: The names stand in the order in which they came.
* `Binds.built_ordered`: Edited bindings are an ordered finite map.
-/

namespace SqlMapper

namespace OrderedMap

variable {κ ν : Type} {key : κ} {old : ν} {i : Nat}

/-! ### Places -/

/-- A key that stands further behind is not the first. -/
theorem ne_of_getElem? {e : κ × ν} {rest : List (κ × ν)} (h : e.1 ∉ rest.map (·.1))
    (hentry : rest[i]? = some (key, old)) : e.1 ≠ key :=
  fun hkey => h (hkey ▸ List.mem_map_of_mem (f := (·.1)) (List.mem_of_getElem? hentry))

variable [DecidableEq κ] {m other : OrderedMap κ ν}

/-- Under distinct keys, an entry stands where its key stands. -/
theorem getElem?_entries_iff (h : m.keys.Nodup) :
    m.entries[i]? = some (key, old) ↔ m.keys[i]? = some key ∧ m.get? key = some old := by
  rw [keys, List.getElem?_map, Option.map_eq_some_iff]
  constructor
  · intro hentry
    exact ⟨⟨_, hentry, rfl⟩, (mem_entries_iff h).mp (List.mem_of_getElem? hentry)⟩
  · rintro ⟨⟨e, hentry, rfl⟩, hvalue⟩
    have hfound := (mem_entries_iff h).mp (List.mem_of_getElem? hentry)
    rw [hentry, ← Option.some.inj (hfound.symm.trans hvalue)]

/-- A value is replaced in its place. -/
theorem entries_insert_of_getElem? (h : m.keys.Nodup) (hentry : m.entries[i]? = some (key, old))
    (value : ν) : (m.insert key value).entries = m.entries.set i (key, value) := by
  obtain ⟨entries⟩ := m
  simp only [insert, keys] at h hentry ⊢
  induction entries generalizing i with
  | nil => cases hentry
  | cons e rest ih =>
      rw [List.map_cons, List.nodup_cons] at h
      cases i with
      | zero =>
          cases Option.some.inj hentry
          rw [set, if_pos rfl, List.set_cons_zero]
      | succ i =>
          rw [List.getElem?_cons_succ] at hentry
          rw [set, if_neg (ne_of_getElem? h.1 hentry), List.set_cons_succ, ih h.2 hentry]

/-- A key is taken out of its place. -/
theorem entries_erase_of_getElem? (h : m.keys.Nodup) (hentry : m.entries[i]? = some (key, old)) :
    (m.erase key).entries = m.entries.eraseIdx i := by
  obtain ⟨entries⟩ := m
  simp only [erase, keys] at h hentry ⊢
  induction entries generalizing i with
  | nil => cases hentry
  | cons e rest ih =>
      rw [List.map_cons, List.nodup_cons] at h
      cases i with
      | zero =>
          cases Option.some.inj hentry
          rw [List.filter_cons_of_neg (by simp), List.eraseIdx_cons_zero, List.filter_eq_self]
          intro d hd
          exact decide_eq_true fun hkey => h.1 (hkey ▸ List.mem_map_of_mem (f := (·.1)) hd)
      | succ i =>
          rw [List.getElem?_cons_succ] at hentry
          have hne := ne_of_getElem? h.1 hentry
          rw [List.filter_cons_of_pos (by exact decide_eq_true hne), List.eraseIdx_cons_succ,
            ih h.2 hentry]

theorem keys_prefix_insert (m : OrderedMap κ ν) (key : κ) (value : ν) :
    m.keys <+: (m.insert key value).keys := by
  by_cases hkey : key ∈ m.keys
  · rw [keys_insert_of_mem hkey]
  · rw [keys_insert_of_not_mem hkey]
    exact List.prefix_append _ _

theorem keys_prefix_insertAll (m : OrderedMap κ ν) (es : List (κ × ν)) :
    m.keys <+: (m.insertAll es).keys := by
  induction es generalizing m with
  | nil => exact List.prefix_rfl
  | cons e es ih => exact (keys_prefix_insert m e.1 e.2).trans (ih _)

/-- In an extension, the second map comes before the first. -/
theorem get?_extend_or (h : other.keys.Nodup) (m : OrderedMap κ ν) (key : κ) :
    (m.extend other).get? key = (other.get? key).or (m.get? key) := by
  cases hvalue : other.get? key with
  | some value => exact get?_extend h hvalue m
  | none =>
      refine get?_insertAll_ne (fun hmem => ?_) m
      have hbound := contains_of_mem_keys (m := other) hmem
      rw [contains, hvalue] at hbound
      cases hbound

/-- An extension leaves every key in its place. -/
theorem getElem?_extend (h : m.keys.Nodup) (hother : other.keys.Nodup)
    (hentry : m.entries[i]? = some (key, old)) :
    (m.extend other).entries[i]? = some (key, (other.get? key).getD old) := by
  rcases (getElem?_entries_iff h).mp hentry with ⟨hplace, hvalue⟩
  refine (getElem?_entries_iff (nodup_insertAll h other.entries)).mpr ⟨?_, ?_⟩
  · rcases keys_prefix_insertAll m other.entries with ⟨more, hkeys⟩
    rw [← hkeys, List.getElem?_append_left (List.getElem?_eq_some_iff.mp hplace).1, hplace]
  · rw [← extend, get?_extend_or hother, hvalue, Option.or_some]

end OrderedMap

namespace Binds

/-! ### Edits -/

/-- A call that changes bindings. -/
inductive Edit where
  /-- A value is bound to a name. -/
  | insert (name : String) (value : Value)
  /-- A name is taken out. -/
  | remove (name : String)
  /-- Everything is bound that other edits have bound, from no bindings on. -/
  | extend (other : List Edit)

/-- What edits can be made on. -/
structure Operations (M : Type) where
  /-- Nothing is bound. -/
  empty : M
  /-- A value is bound to a name, in place of any other. -/
  insert : M → String → Value → M
  /-- A name is taken out. -/
  erase : M → String → M
  /-- All that is bound in the second is bound in the first. -/
  extend : M → M → M

section Run

variable {M : Type} (ops : Operations M)

mutual

/-- What an edit leaves. -/
def Edit.run (m : M) : Edit → M
  | .insert name value => ops.insert m name value
  | .remove name => ops.erase m name
  | .extend other => ops.extend m (runAll ops.empty other)

/-- What a row of edits leaves. -/
def runAll (m : M) : List Edit → M
  | [] => m
  | e :: es => runAll (e.run m) es

end

theorem runAll_append (m : M) (es fs : List Edit) :
    runAll ops m (es ++ fs) = runAll ops (runAll ops m es) fs := by
  induction es generalizing m with
  | nil => rfl
  | cons e es ih => exact ih _

end Run

/-- A finite map, in no order. -/
abbrev FiniteMap :=
  Finmap fun _ : String => Value

/-- Edits of bindings. -/
def ordered : Operations Binds where
  empty := ∅
  insert := OrderedMap.insert
  erase := OrderedMap.erase
  extend := OrderedMap.extend

/-- The same edits of a finite map. -/
def unordered : Operations FiniteMap where
  empty := ∅
  insert f name value := f.insert name value
  erase f name := f.erase name
  extend f other := other ∪ f

/-- The bindings that edits lead to, from no bindings on. -/
def built (edits : List Edit) : Binds :=
  runAll ordered ∅ edits

/-- The finite map that the same edits lead to. -/
def mapped (edits : List Edit) : FiniteMap :=
  runAll unordered ∅ edits

theorem built_concat (edits : List Edit) (e : Edit) :
    built (edits ++ [e]) = e.run ordered (built edits) :=
  runAll_append ordered ∅ edits [e]

theorem mapped_concat (edits : List Edit) (e : Edit) :
    mapped (edits ++ [e]) = e.run unordered (mapped edits) :=
  runAll_append unordered ∅ edits [e]

/-! ### What the bindings hold -/

/-- Bindings hold what a finite map holds, each name once. -/
structure Represents (b : Binds) (f : FiniteMap) : Prop where
  /-- No name is bound twice. -/
  nodup : b.keys.Nodup
  /-- What is found is what the finite map holds. -/
  get?_eq : ∀ name, b.get? name = f.lookup name

namespace Represents

variable {b c : Binds} {f g : FiniteMap}

theorem empty : Represents ∅ ∅ where
  nodup := List.nodup_nil
  get?_eq _ := rfl

theorem insert (h : Represents b f) (name : String) (value : Value) :
    Represents (b.insert name value) (f.insert name value) where
  nodup := OrderedMap.nodup_insert h.nodup name value
  get?_eq other := by
    by_cases hother : other = name
    · rw [hother, OrderedMap.get?_insert_self, Finmap.lookup_insert]
    · rw [OrderedMap.get?_insert_ne b hother, Finmap.lookup_insert_of_ne f hother, h.get?_eq]

theorem erase (h : Represents b f) (name : String) :
    Represents (b.erase name) (f.erase name) where
  nodup := OrderedMap.nodup_erase h.nodup name
  get?_eq other := by
    by_cases hother : other = name
    · rw [hother, OrderedMap.get?_erase_self, Finmap.lookup_erase]
    · rw [OrderedMap.get?_erase_ne b hother, Finmap.lookup_erase_ne hother, h.get?_eq]

theorem extend (h : Represents b f) (hc : Represents c g) :
    Represents (b.extend c) (g ∪ f) where
  nodup := OrderedMap.nodup_insertAll h.nodup c.entries
  get?_eq name := by
    rw [OrderedMap.get?_extend_or hc.nodup, hc.get?_eq, h.get?_eq]
    by_cases hname : name ∈ g
    · rcases Finmap.mem_iff.mp hname with ⟨value, hvalue⟩
      rw [Finmap.lookup_union_left hname, hvalue, Option.some_or]
    · rw [Finmap.lookup_union_right hname, Finmap.lookup_eq_none.mpr hname, Option.none_or]

theorem contains_iff (h : Represents b f) {name : String} :
    b.contains name = true ↔ name ∈ f := by
  rw [OrderedMap.contains, h.get?_eq, Finmap.lookup_isSome]

theorem mem_keys (h : Represents b f) {name : String} : name ∈ b.keys ↔ name ∈ f :=
  Iff.trans ⟨OrderedMap.contains_of_mem_keys, OrderedMap.mem_keys_of_contains⟩ h.contains_iff

theorem size_eq (h : Represents b f) : b.size = f.keys.card := by
  have hkeys : b.keys.toFinset = f.keys :=
    Finset.ext fun name => by rw [List.mem_toFinset, h.mem_keys, Finmap.mem_keys]
  rw [← hkeys, List.toFinset_card_of_nodup h.nodup, OrderedMap.keys, List.length_map,
    OrderedMap.size]

end Represents

mutual

/-- An edit keeps the bindings and the finite map together. -/
theorem Edit.run_represents {b : Binds} {f : FiniteMap} (h : Represents b f) :
    ∀ e : Edit, Represents (e.run ordered b) (e.run unordered f)
  | .insert name value => h.insert name value
  | .remove name => h.erase name
  -- What is bound by the other edits is built from nothing in the same way.
  | .extend other => h.extend (runAll_represents .empty other)

/-- A row of edits keeps the bindings and the finite map together. -/
theorem runAll_represents {b : Binds} {f : FiniteMap} (h : Represents b f) :
    ∀ es : List Edit, Represents (runAll ordered b es) (runAll unordered f es)
  | [] => h
  | e :: es => runAll_represents (e.run_represents h) es

end

theorem built_represents (edits : List Edit) : Represents (built edits) (mapped edits) :=
  runAll_represents .empty edits

/-! ### Extensions taken apart -/

/-- The single edits that an edit consists of. An extension inserts what the other bindings hold,
    in their order. -/
def Edit.singly : Edit → List Edit
  | .extend other => (built other).entries.map fun e => .insert e.1 e.2
  | e => [e]

/-- Edits with their extensions taken apart. -/
def singly (edits : List Edit) : List Edit :=
  edits.flatMap Edit.singly

theorem runAll_inserts (b : Binds) (es : List (String × Value)) :
    runAll ordered b (es.map fun e => .insert e.1 e.2) = b.insertAll es := by
  induction es generalizing b with
  | nil => rfl
  | cons e es ih => exact ih _

theorem runAll_singly (b : Binds) (edits : List Edit) :
    runAll ordered b (singly edits) = runAll ordered b edits := by
  induction edits generalizing b with
  | nil => rfl
  | cons e edits ih =>
      have hedit : runAll ordered b e.singly = e.run ordered b := by
        cases e with
        | insert name value => rfl
        | remove name => rfl
        | extend other => exact runAll_inserts b (built other).entries
      rw [singly, List.flatMap_cons, runAll_append, hedit]
      exact ih _

/-- Taking the extensions apart changes nothing. -/
theorem built_singly (edits : List Edit) : built (singly edits) = built edits :=
  runAll_singly ∅ edits

/-- An edit of one name alone. -/
def Edit.IsSingle (e : Edit) : Prop :=
  ∀ other, e ≠ .extend other

theorem isSingle_of_mem_singly {edits : List Edit} {e : Edit} (h : e ∈ singly edits) :
    e.IsSingle := by
  rcases List.mem_flatMap.mp h with ⟨d, -, hd⟩
  cases d with
  | insert name value => exact List.mem_singleton.mp hd ▸ nofun
  | remove name => exact List.mem_singleton.mp hd ▸ nofun
  | extend more =>
      rcases List.mem_map.mp hd with ⟨entry, -, rfl⟩
      exact nofun

/-! ### When a name came -/

/-- The last instant at which a name is absent, counted in edits. The edit that follows it is the
    first insertion of the name since then. -/
def lastAbsent (edits : List Edit) (name : String) : Nat :=
  Nat.findGreatest (fun i => name ∉ mapped (edits.take i)) edits.length

variable {edits : List Edit} {e : Edit} {name : String}

theorem not_mem_take_lastAbsent (edits : List Edit) (name : String) :
    name ∉ mapped (edits.take (lastAbsent edits name)) :=
  Nat.findGreatest_spec (P := fun i => name ∉ mapped (edits.take i)) (Nat.zero_le _)
    Finmap.notMem_empty

theorem mem_take_of_lastAbsent_lt {i : Nat} (h : lastAbsent edits name < i)
    (hle : i ≤ edits.length) : name ∈ mapped (edits.take i) :=
  Decidable.of_not_not (Nat.findGreatest_is_greatest h hle)

theorem lastAbsent_eq {i : Nat} (hle : i ≤ edits.length) (habsent : name ∉ mapped (edits.take i))
    (hsince : ∀ j, i < j → j ≤ edits.length → name ∈ mapped (edits.take j)) :
    lastAbsent edits name = i :=
  Nat.findGreatest_eq_iff.mpr ⟨hle, fun _ => habsent, fun j hj hjle =>
    not_not_intro (hsince j hj hjle)⟩

theorem lastAbsent_lt (h : name ∈ mapped edits) : lastAbsent edits name < edits.length := by
  refine Nat.lt_of_le_of_ne (Nat.findGreatest_le _) fun hend => ?_
  have habsent := not_mem_take_lastAbsent edits name
  rw [hend, List.take_length] at habsent
  exact habsent h

/-- A name that was there already came when it came. -/
theorem lastAbsent_concat_of_mem (h : name ∈ mapped edits) (hstill : name ∈ mapped (edits ++ [e])) :
    lastAbsent (edits ++ [e]) name = lastAbsent edits name := by
  have hle := Nat.le_of_lt (lastAbsent_lt h)
  refine lastAbsent_eq (List.length_append ▸ Nat.le_succ_of_le hle) ?_ fun j hj hjle => ?_
  · rw [List.take_append_of_le_length hle]
    exact not_mem_take_lastAbsent edits name
  · rcases Nat.lt_or_ge edits.length j with hend | hbefore
    · rwa [List.take_of_length_le (List.length_append ▸ hend)]
    · rw [List.take_append_of_le_length hbefore]
      exact mem_take_of_lastAbsent_lt hj hbefore

/-- A name that was not there came with the last edit. -/
theorem lastAbsent_concat_of_not_mem (h : name ∉ mapped edits)
    (hnow : name ∈ mapped (edits ++ [e])) : lastAbsent (edits ++ [e]) name = edits.length := by
  refine lastAbsent_eq (List.length_append ▸ Nat.le_succ _) ?_ fun j hj _ => ?_
  · rwa [List.take_left]
  · rwa [List.take_of_length_le (List.length_append ▸ hj)]

/-- Behind the last instant at which a name is absent, it is inserted. -/
theorem insert_at_lastAbsent (hsingle : ∀ e ∈ edits, e.IsSingle)
    (h : name ∈ mapped edits) :
    ∃ value, edits[lastAbsent edits name]? = some (.insert name value) := by
  have hlt := lastAbsent_lt h
  have habsent := not_mem_take_lastAbsent edits name
  have hnow := mem_take_of_lastAbsent_lt (Nat.lt_succ_self _) hlt
  -- The edit at that instant makes the difference, so it cannot be of another name.
  rcases he : edits[lastAbsent edits name]? with _ | e
  · exact absurd hlt (Nat.not_lt_of_le (List.getElem?_eq_none_iff.mp he))
  rw [List.take_add_one, he, Option.toList_some, mapped_concat] at hnow
  cases e with
  | insert other value =>
      have hname : name = other := (Finmap.mem_insert.mp hnow).resolve_right habsent
      exact ⟨value, by rw [hname]⟩
  | remove other => exact absurd (Finmap.mem_erase.mp hnow).2 habsent
  | extend other => exact absurd rfl (hsingle _ (List.mem_of_getElem? he) other)

/-! ### The order of the names -/

/-- The names stand in the order in which they came. -/
def Chronological (edits : List Edit) : Prop :=
  (built edits).keys.Pairwise fun x y => lastAbsent edits x < lastAbsent edits y

theorem mem_keys_built : name ∈ (built edits).keys ↔ name ∈ mapped edits :=
  (built_represents edits).mem_keys

/-- An edit that adds no name leaves the order as it is. -/
theorem Chronological.concat_of_sublist (h : Chronological edits)
    (hkeys : ((built (edits ++ [e])).keys).Sublist (built edits).keys) :
    Chronological (edits ++ [e]) := by
  have hsame : ∀ x ∈ (built (edits ++ [e])).keys,
      lastAbsent (edits ++ [e]) x = lastAbsent edits x := fun x hx =>
    lastAbsent_concat_of_mem (mem_keys_built.mp (hkeys.subset hx)) (mem_keys_built.mp hx)
  refine (List.Pairwise.sublist hkeys h).imp_of_mem fun hx hy hlt => ?_
  rwa [hsame _ hx, hsame _ hy]

/-- A new name comes last. -/
theorem Chronological.concat_of_new (h : Chronological edits) (hnew : name ∉ (built edits).keys)
    (hkeys : (built (edits ++ [e])).keys = (built edits).keys ++ [name]) :
    Chronological (edits ++ [e]) := by
  have hlast : lastAbsent (edits ++ [e]) name = edits.length :=
    lastAbsent_concat_of_not_mem (fun hmem => hnew (mem_keys_built.mpr hmem))
      (mem_keys_built.mp (hkeys ▸ List.mem_concat_self))
  have hsame : ∀ x ∈ (built edits).keys, lastAbsent (edits ++ [e]) x = lastAbsent edits x :=
    fun x hx => lastAbsent_concat_of_mem (mem_keys_built.mp hx)
      (mem_keys_built.mp (hkeys ▸ List.mem_append_left _ hx))
  rw [Chronological, hkeys, List.pairwise_append]
  refine ⟨h.imp_of_mem fun hx hy hlt => ?_, List.pairwise_singleton _ _, fun x hx y hy => ?_⟩
  · rwa [hsame _ hx, hsame _ hy]
  · rw [List.mem_singleton.mp hy, hlast, hsame x hx]
    exact lastAbsent_lt (mem_keys_built.mp hx)

/-- Under insertions and removals the names stay in the order in which they came. -/
theorem chronological_of_isSingle (edits : List Edit) (hsingle : ∀ e ∈ edits, e.IsSingle) :
    Chronological edits := by
  -- The last edit leaves the names as they stand, or it puts one behind them.
  induction edits using List.reverseRecOn with
  | nil => exact List.Pairwise.nil
  | append_singleton edits e ih =>
      have hedits := ih fun d hd => hsingle d (List.mem_append_left _ hd)
      cases e with
      | insert name value =>
          have hbuilt := built_concat edits (.insert name value)
          by_cases hname : name ∈ (built edits).keys
          · have hkeys := OrderedMap.keys_insert_of_mem hname value
            refine hedits.concat_of_sublist ?_
            rw [hbuilt, ← hkeys]
            exact List.Sublist.refl _
          · refine hedits.concat_of_new hname ?_
            rw [hbuilt]
            exact OrderedMap.keys_insert_of_not_mem hname value
      | remove name =>
          refine hedits.concat_of_sublist ?_
          rw [built_concat]
          exact List.Sublist.map _ List.filter_sublist
      | extend other => exact absurd rfl (hsingle _ List.mem_concat_self other)

/-- Whatever edits have built bindings, no name is bound twice. What is found, which names are bound
    and how many are what the same edits make of a finite map. With extensions taken apart, each
    name was inserted right behind the last instant at which it was absent, and the names stand in
    the order of these instants. Binding a name again replaces the value in its place, taking a
    name out takes out its entry alone, and an extension leaves every name where it is. -/
theorem built_ordered (edits : List Edit) :
    (built edits).keys.Nodup
    ∧ ((∀ name, (built edits).get? name = (mapped edits).lookup name)
      ∧ (∀ name, (built edits).contains name = true ↔ name ∈ mapped edits)
      ∧ (built edits).size = (mapped edits).keys.card)
    ∧ ((∀ name ∈ (built edits).keys, ∃ value,
        (singly edits)[lastAbsent (singly edits) name]? = some (.insert name value))
      ∧ (built edits).keys.Pairwise fun x y =>
          lastAbsent (singly edits) x < lastAbsent (singly edits) y)
    ∧ ∀ i name old, (built edits).entries[i]? = some (name, old) →
      (∀ value, ((built edits).insert name value).entries
        = (built edits).entries.set i (name, value))
      ∧ ((built edits).erase name).entries = (built edits).entries.eraseIdx i
      ∧ ∀ other, ((built edits).extend (built other)).entries[i]?
          = some (name, ((built other).get? name).getD old) := by
  have hrep := built_represents edits
  have hsingle : ∀ e ∈ singly edits, e.IsSingle := fun _ => isSingle_of_mem_singly
  refine ⟨hrep.nodup, ⟨hrep.get?_eq, fun name => hrep.contains_iff, hrep.size_eq⟩,
    ⟨fun name hname => ?_, ?_⟩, fun i name old hentry => ⟨fun value => ?_, ?_, fun other => ?_⟩⟩
  · rw [← built_singly] at hname
    exact insert_at_lastAbsent hsingle (mem_keys_built.mp hname)
  · have horder := chronological_of_isSingle (singly edits) hsingle
    rwa [Chronological, built_singly] at horder
  · exact OrderedMap.entries_insert_of_getElem? hrep.nodup hentry value
  · exact OrderedMap.entries_erase_of_getElem? hrep.nodup hentry
  · exact OrderedMap.getElem?_extend hrep.nodup (built_represents other).nodup hentry

/-- A name is taken out and comes back, and an extension binds one name again and one anew. -/
def revised : List Edit :=
  [.insert ":a" (.int 1), .insert ":b" (.int 2), .remove ":a",
    .extend [.insert ":c" (.int 3), .insert ":b" (.int 4)], .insert ":a" (.int 5)]

/-- The name that came back stands last, and the one that was bound again stands where it was. -/
theorem built_ordered_revised :
    (built revised).entries = [(":b", .int 4), (":c", .int 3), (":a", .int 5)]
      ∧ (built revised).size = (mapped revised).keys.card
      ∧ (built revised).keys.map (lastAbsent (singly revised)) = [1, 3, 5]
      ∧ (built revised).entries[1]? = some (":c", .int 3)
      ∧ ((built revised).insert ":c" .null).entries
        = (built revised).entries.set 1 (":c", .null)
      ∧ ((built revised).erase ":c").entries = (built revised).entries.eraseIdx 1
      ∧ ((built revised).extend (built revised)).entries[1]?
        = some (":c", ((built revised).get? ":c").getD (.int 3)) := by
  have hentries : (built revised).entries = [(":b", .int 4), (":c", .int 3), (":a", .int 5)] := by
    decide
  have hentry : (built revised).entries[1]? = some (":c", .int 3) := by rw [hentries]; rfl
  rcases built_ordered revised with ⟨-, ⟨-, -, hsize⟩, -, hplaces⟩
  rcases hplaces 1 ":c" (.int 3) hentry with ⟨hinsert, herase, hextend⟩
  have hinstants : (built revised).keys.map (lastAbsent (singly revised)) = [1, 3, 5] := by decide
  exact ⟨hentries, hsize, hinstants, hentry, hinsert .null, herase, hextend revised⟩

end Binds

end SqlMapper
