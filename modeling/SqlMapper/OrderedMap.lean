/-!
# Ordered Maps

Finite maps that remember the order in which their keys came.

Placeholders keep the order in which they were bound, and a replaced value keeps
its place. The same small map serves wherever a few entries are kept under
distinct keys: cached reads, write counts, upgrade scripts, open connections.
Only `insert` and `erase` change a map, and they are described by what
`get?` finds afterwards.

## Main definitions

* `OrderedMap`: Entries under distinct keys, oldest first.
* `OrderedMap.get?`: The value under a key.
* `OrderedMap.insert`: A value set in place, or a new entry behind the others.
* `OrderedMap.erase`: A key taken out.
* `OrderedMap.ofList`, `OrderedMap.extend`: Many insertions.

## Theorems

* `get?_insert_self`, `get?_insert_ne`: What an insertion changes.
* `get?_erase_self`, `get?_erase_ne`: What taking out a key changes.
* `lookup_filter`: The same for every key of some kind.
* `keys_insert_of_mem`: Replacing a value moves no entry.
* `keys_insert_of_not_mem`: A new key comes last.
* `nodup_insert`, `nodup_erase`: Keys stay distinct.
* `mem_entries_iff`: Under distinct keys, the entries are what is found.
-/

namespace SqlMapper

/-- Entries under distinct keys, in the order in which the keys came. -/
structure OrderedMap (κ ν : Type) where
  /-- The entries, oldest first. -/
  entries : List (κ × ν) := []
  deriving DecidableEq

namespace OrderedMap

variable {κ ν : Type}

instance : EmptyCollection (OrderedMap κ ν) where
  emptyCollection := { entries := [] }

instance : Inhabited (OrderedMap κ ν) where
  default := ∅

/-- The keys, oldest first. -/
def keys (m : OrderedMap κ ν) : List κ :=
  m.entries.map (·.1)

/-- How many entries there are. -/
def size (m : OrderedMap κ ν) : Nat :=
  m.entries.length

/-- Whether there are no entries. -/
def isEmpty (m : OrderedMap κ ν) : Bool :=
  m.entries.isEmpty

variable [DecidableEq κ]

/-- The value under a key, among entries. -/
def lookup (key : κ) : List (κ × ν) → Option ν
  | [] => none
  | (k, v) :: rest => if k = key then some v else lookup key rest

/-- Entries with a value set under a key. -/
def set (key : κ) (value : ν) : List (κ × ν) → List (κ × ν)
  | [] => [(key, value)]
  | (k, v) :: rest => if k = key then (k, value) :: rest else (k, v) :: set key value rest

/-- The value under a key. -/
def get? (m : OrderedMap κ ν) (key : κ) : Option ν :=
  lookup key m.entries

/-- Whether a key has a value. -/
def contains (m : OrderedMap κ ν) (key : κ) : Bool :=
  (m.get? key).isSome

/-- A value set under a key: in its place if the key is there, behind the others if not. -/
def insert (m : OrderedMap κ ν) (key : κ) (value : ν) : OrderedMap κ ν where
  entries := set key value m.entries

/-- A key taken out. -/
def erase (m : OrderedMap κ ν) (key : κ) : OrderedMap κ ν where
  entries := m.entries.filter fun e => e.1 ≠ key

/-- Entries set one after the other. -/
def insertAll (m : OrderedMap κ ν) (entries : List (κ × ν)) : OrderedMap κ ν :=
  entries.foldl (fun m e => m.insert e.1 e.2) m

/-- A map from entries set one after the other. -/
def ofList (entries : List (κ × ν)) : OrderedMap κ ν :=
  insertAll ∅ entries

/-- Every entry of a second map set in the first. -/
def extend (m other : OrderedMap κ ν) : OrderedMap κ ν :=
  m.insertAll other.entries

theorem lookup_set_self (key : κ) (value : ν) (es : List (κ × ν)) :
    lookup key (set key value es) = some value := by
  induction es with
  | nil => simp [set, lookup]
  | cons e rest ih =>
      by_cases h : e.1 = key
      · simp [set, lookup, h]
      · simp [set, lookup, h, ih]

theorem lookup_set_ne {key other : κ} (h : other ≠ key) (value : ν) (es : List (κ × ν)) :
    lookup other (set key value es) = lookup other es := by
  have h' : ¬ key = other := fun e => h e.symm
  induction es with
  | nil => simp [set, lookup, h']
  | cons e rest ih =>
      by_cases hk : e.1 = key
      · simp [set, lookup, hk, h']
      · simp [set, lookup, hk, ih]

theorem lookup_filter_self (key : κ) (es : List (κ × ν)) :
    lookup key (es.filter fun e => e.1 ≠ key) = none := by
  induction es with
  | nil => rfl
  | cons e rest ih =>
      by_cases h : e.1 = key
      · simp only [List.filter_cons, h, ne_eq, not_true_eq_false, decide_false]
        exact ih
      · simp only [List.filter_cons, ne_eq, h, not_false_eq_true, decide_true, if_true, lookup,
          if_false]
        exact ih

theorem lookup_filter_ne {key other : κ} (h : other ≠ key) (es : List (κ × ν)) :
    lookup other (es.filter fun e => e.1 ≠ key) = lookup other es := by
  have h' : ¬ key = other := fun e => h e.symm
  induction es with
  | nil => rfl
  | cons e rest ih =>
      by_cases hk : e.1 = key
      · simp only [List.filter_cons, hk, ne_eq, not_true_eq_false, decide_false, lookup, h',
          if_false]
        exact ih
      · simp only [List.filter_cons, ne_eq, hk, not_false_eq_true, decide_true, if_true, lookup]
        rw [ih]

theorem lookup_filter (p : κ → Bool) (key : κ) (es : List (κ × ν)) :
    lookup key (es.filter fun e => p e.1) = if p key then lookup key es else none := by
  induction es with
  | nil => simp only [List.filter_nil, lookup, ite_self]
  | cons e rest ih =>
      by_cases hk : e.1 = key
      · by_cases hp : p key = true
        · rw [List.filter_cons_of_pos (by rwa [hk])]
          simp only [lookup, hk, if_true, hp]
        · rw [List.filter_cons_of_neg (by rwa [hk]), ih, if_neg hp, if_neg hp]
      · by_cases hp : p e.1 = true
        · rw [List.filter_cons_of_pos (by exact hp)]
          simp only [lookup, hk, if_false, ih]
        · rw [List.filter_cons_of_neg (by exact hp), ih]
          simp only [lookup, hk, if_false]

theorem get?_empty (key : κ) : (∅ : OrderedMap κ ν).get? key = none := rfl

theorem get?_insert_self (m : OrderedMap κ ν) (key : κ) (value : ν) :
    (m.insert key value).get? key = some value :=
  lookup_set_self key value m.entries

theorem get?_insert_ne (m : OrderedMap κ ν) {key other : κ} (h : other ≠ key) (value : ν) :
    (m.insert key value).get? other = m.get? other :=
  lookup_set_ne h value m.entries

theorem get?_erase_self (m : OrderedMap κ ν) (key : κ) : (m.erase key).get? key = none :=
  lookup_filter_self key m.entries

theorem get?_erase_ne (m : OrderedMap κ ν) {key other : κ} (h : other ≠ key) :
    (m.erase key).get? other = m.get? other :=
  lookup_filter_ne h m.entries

theorem keys_set_of_mem {key : κ} {es : List (κ × ν)} (h : key ∈ es.map (·.1)) (value : ν) :
    (set key value es).map (·.1) = es.map (·.1) := by
  induction es with
  | nil => simp at h
  | cons e rest ih =>
      by_cases hk : e.1 = key
      · simp [set, hk]
      · have hr : key ∈ rest.map (·.1) := by
          simp only [List.map_cons, List.mem_cons] at h
          rcases h with h | h
          · exact absurd h.symm hk
          · exact h
        simp only [set, hk, if_false, List.map_cons, ih hr]

theorem keys_set_of_not_mem {key : κ} {es : List (κ × ν)} (h : key ∉ es.map (·.1)) (value : ν) :
    (set key value es).map (·.1) = es.map (·.1) ++ [key] := by
  induction es with
  | nil => rfl
  | cons e rest ih =>
      simp only [List.map_cons, List.mem_cons, not_or] at h
      have hk : ¬ e.1 = key := fun e' => h.1 e'.symm
      simp only [set, hk, if_false, List.map_cons, ih h.2, List.cons_append]

theorem keys_insert_of_mem {m : OrderedMap κ ν} {key : κ} (h : key ∈ m.keys) (value : ν) :
    (m.insert key value).keys = m.keys :=
  keys_set_of_mem h value

theorem keys_insert_of_not_mem {m : OrderedMap κ ν} {key : κ} (h : key ∉ m.keys) (value : ν) :
    (m.insert key value).keys = m.keys ++ [key] :=
  keys_set_of_not_mem h value

theorem nodup_insert {m : OrderedMap κ ν} (h : m.keys.Nodup) (key : κ) (value : ν) :
    (m.insert key value).keys.Nodup := by
  by_cases hkey : key ∈ m.keys
  · rwa [keys_insert_of_mem hkey]
  · rw [keys_insert_of_not_mem hkey, List.nodup_append]
    refine ⟨h, List.pairwise_singleton _ _, fun k hk other hother => ?_⟩
    rw [List.mem_singleton.mp hother]
    rintro rfl
    exact hkey hk

theorem nodup_erase {m : OrderedMap κ ν} (h : m.keys.Nodup) (key : κ) :
    (m.erase key).keys.Nodup :=
  List.Nodup.sublist (List.Sublist.map _ List.filter_sublist) h

theorem mem_of_lookup {key : κ} {value : ν} {es : List (κ × ν)}
    (h : lookup key es = some value) : (key, value) ∈ es := by
  induction es with
  | nil => cases h
  | cons e rest ih =>
      by_cases hk : e.1 = key
      · rw [lookup, if_pos hk, Option.some.injEq] at h
        rw [← hk, ← h]
        exact List.mem_cons_self
      · rw [lookup, if_neg hk] at h
        exact List.mem_cons_of_mem e (ih h)

theorem lookup_of_mem {e : κ × ν} {es : List (κ × ν)} (h : (es.map (·.1)).Nodup) (he : e ∈ es) :
    lookup e.1 es = some e.2 := by
  induction es with
  | nil => cases he
  | cons first rest ih =>
      rw [List.map_cons, List.nodup_cons] at h
      rcases List.mem_cons.mp he with rfl | he
      · rw [lookup, if_pos rfl]
      · rw [lookup, if_neg, ih h.2 he]
        -- Its key would be there twice.
        intro hkey
        exact h.1 (hkey ▸ List.mem_map_of_mem he)

/-- Under distinct keys, the entries are what is found. -/
theorem mem_entries_iff {m : OrderedMap κ ν} (h : m.keys.Nodup) {e : κ × ν} :
    e ∈ m.entries ↔ m.get? e.1 = some e.2 :=
  ⟨lookup_of_mem h, mem_of_lookup⟩

end OrderedMap

end SqlMapper
