import SqlMapper.OrderedMap
import SqlMapper.Row
import SqlMapper.Text.Split

/-!
# The Cache

A store of results under textual keys, with a time to live.

An entry that has passed its deadline is gone for readers, but it is only taken
out when somebody asks for it. All entries under a common beginning of their
keys can be dropped at once, which is how a write gets rid of every cached read
of its table. Instants are milliseconds of a clock that cannot show more than a
certain number of seconds, so a deadline may lie beyond it.

## Main definitions

* `CacheValue`: What is stored.
* `Cache`: The entries.
* `Cache.get`: A live entry, and the cache without it if it is dead.
* `Cache.set?`: One more entry, if its deadline can be shown.
* `Cache.setFor?`: The same for any span of time, on a clock of any resolution.
* `Cache.delete`, `Cache.deletePrefix`: Entries taken out.
* `Cache.PartOf`: Nothing is cached that is not cached elsewhere.

## Theorems

* `get?_deletePrefix`: What is left after a common beginning was dropped.
* `erase_partOf`, `deletePrefix_partOf`, `get_partOf`: Taking entries out adds none.
* `set?_eq_setFor?`: Whole seconds are spans of time on a clock of milliseconds.
* `get?_get`: Asking for a key takes out its entry if that is dead.
* `get?_of_set?`: Putting an entry in adds that one only.
* `exists_entry_of_get`: What is found was put in.
-/

namespace SqlMapper

/-- What is stored in the cache. -/
inductive CacheValue where
  /-- The rows of a read. -/
  | rows (rows : List Row)
  /-- The number of rows that a write touched. -/
  | affected (count : UInt64)
  /-- The version of a table's schema. -/
  | version (version : UInt32)
  deriving DecidableEq

/-- An entry of the cache. -/
structure CacheEntry where
  /-- The value. -/
  value : CacheValue
  /-- The instant at which the entry is dead; never, if there is none. -/
  deadline : Option Nat
  deriving DecidableEq

/-- Entries under their keys. -/
abbrev Cache :=
  OrderedMap String CacheEntry

/-- The last second that the clock can show. -/
def lastSecond : Nat := 0x7fffffffffffffff

/-- The instant so many seconds after another, if the clock can show it. -/
def deadline? (now : Nat) (seconds : UInt64) : Option Nat :=
  if now / 1000 + seconds.toNat ≤ lastSecond then some (now + 1000 * seconds.toNat) else none

/-- Whether an entry is alive at an instant. -/
def CacheEntry.alive (e : CacheEntry) (now : Nat) : Bool :=
  e.deadline.all fun d => decide (now < d)

namespace Cache

/-- The value of an entry that is alive, and the cache afterwards: an entry found dead is taken
    out. -/
def get (c : Cache) (now : Nat) (key : String) : Option CacheValue × Cache :=
  match c.get? key with
  | none => (none, c)
  | some e => if e.alive now then (some e.value, c) else (none, c.erase key)

/-- One more entry that lives for so many seconds, or forever, if its deadline can be shown. -/
def set? (c : Cache) (now : Nat) (key : String) (value : CacheValue) (ttl : Option UInt64) :
    Option Cache :=
  match ttl with
  | none => some (c.insert key { value, deadline := none })
  | some seconds => do
    let deadline ← deadline? now seconds
    return c.insert key { value, deadline := some deadline }

/-- Whether a clock with so many ticks a second can show the end of a span of time that begins at
    an instant; nothing has to be shown if there is no end. -/
def Shown (rate now : Nat) (ttl : Option Nat) : Prop :=
  ∀ span ∈ ttl, (now + span) / rate ≤ lastSecond

instance (rate now : Nat) (ttl : Option Nat) : Decidable (Shown rate now ttl) :=
  inferInstanceAs (Decidable (∀ span ∈ ttl, (now + span) / rate ≤ lastSecond))

/-- One more entry that lives for so many ticks of a clock, or forever, if its deadline can be
    shown. -/
def setFor? (rate : Nat) (c : Cache) (now : Nat) (key : String) (value : CacheValue)
    (ttl : Option Nat) : Option Cache :=
  if Shown rate now ttl then some (c.insert key { value, deadline := ttl.map (now + ·) }) else none

/-- One entry taken out. -/
def delete (c : Cache) (key : String) : Cache :=
  c.erase key

/-- Every entry taken out whose key begins with a text. -/
def deletePrefix (c : Cache) (start : String) : Cache where
  entries := c.entries.filter fun e => !Text.startsWith e.1 start

/-- Whether every entry of a cache is one of another. -/
def PartOf (c d : Cache) : Prop :=
  ∀ key e, c.get? key = some e → d.get? key = some e

theorem PartOf.refl (c : Cache) : c.PartOf c := fun _ _ h => h

theorem PartOf.trans {c d f : Cache} (hcd : c.PartOf d) (hdf : d.PartOf f) : c.PartOf f :=
  fun key e h => hdf key e (hcd key e h)

/-- Whole seconds are spans of time on a clock of milliseconds. -/
theorem set?_eq_setFor? (c : Cache) (now : Nat) (key : String) (value : CacheValue)
    (ttl : Option UInt64) :
    c.set? now key value ttl
      = c.setFor? 1000 now key value (ttl.map fun seconds => 1000 * seconds.toNat) := by
  cases ttl with
  | none =>
      rw [setFor?, if_pos (by rintro span ⟨⟩)]
      rfl
  | some seconds =>
      have hshown : Shown 1000 now (some (1000 * seconds.toNat))
          ↔ now / 1000 + seconds.toNat ≤ lastSecond := by
        simp only [Shown, Option.mem_some_iff, forall_eq']
        rw [Nat.add_mul_div_left _ _ (by omega)]
      by_cases h : now / 1000 + seconds.toNat ≤ lastSecond
      · simp only [set?, deadline?, if_pos h, setFor?, Option.map_some, if_pos (hshown.mpr h)]
        rfl
      · simp only [set?, deadline?, if_neg h, setFor?, Option.map_some, if_neg (mt hshown.mp h)]
        rfl

theorem get?_deletePrefix (c : Cache) (start key : String) :
    (c.deletePrefix start).get? key = if Text.startsWith key start then none else c.get? key := by
  rw [OrderedMap.get?, deletePrefix, OrderedMap.lookup_filter fun k => !Text.startsWith k start]
  cases Text.startsWith key start <;> rfl

theorem erase_partOf (c : Cache) (key : String) : Cache.PartOf (c.erase key) c := by
  intro other e h
  by_cases hother : other = key
  · rw [hother, OrderedMap.get?_erase_self] at h
    cases h
  · rwa [OrderedMap.get?_erase_ne c hother] at h

theorem deletePrefix_partOf (c : Cache) (start : String) : (c.deletePrefix start).PartOf c := by
  intro key e h
  rw [get?_deletePrefix] at h
  split at h
  · cases h
  · exact h

theorem get_partOf (c : Cache) (now : Nat) (key : String) : (c.get now key).2.PartOf c := by
  unfold get
  split
  · exact PartOf.refl c
  · split
    · exact PartOf.refl c
    · exact erase_partOf c key

/-- Asking for a key takes out its entry if that is dead. -/
theorem get?_get (c : Cache) (now : Nat) (key : String) :
    (c.get now key).2.get? key = (c.get? key).filter fun e => e.alive now := by
  rw [get]
  cases hentry : c.get? key with
  | none => exact hentry
  | some e =>
      cases halive : e.alive now with
      | true => simp only [halive, if_true, hentry, Option.filter_some]
      | false =>
          simp only [halive, Bool.false_eq_true, if_false, Option.filter_some]
          exact OrderedMap.get?_erase_self c key

/-- The value that is found belongs to an entry. -/
theorem exists_entry_of_get {c : Cache} {now : Nat} {key : String} {value : CacheValue}
    (h : (c.get now key).1 = some value) : ∃ e, c.get? key = some e ∧ e.value = value := by
  unfold get at h
  split at h
  · cases h
  · rename_i e hentry
    split at h
    · exact ⟨e, hentry, Option.some.inj h⟩
    · cases h

/-- The entry that is put in is the only new one. -/
theorem get?_of_set? {c cache : Cache} {now : Nat} {key other : String} {value : CacheValue}
    {ttl : Option UInt64} {e : CacheEntry} (h : c.set? now key value ttl = some cache)
    (hget : cache.get? other = some e) :
    (other = key ∧ e.value = value) ∨ c.get? other = some e := by
  have hinsert : ∃ deadline, cache = c.insert key { value, deadline } := by
    cases ttl with
    | none => exact ⟨none, (Option.some.inj h).symm⟩
    | some seconds =>
        simp only [set?, Option.bind_eq_bind, Option.bind_eq_some_iff, Option.pure_def,
          Option.some.injEq] at h
        rcases h with ⟨deadline, -, hcache⟩
        exact ⟨some deadline, hcache.symm⟩
  rcases hinsert with ⟨deadline, rfl⟩
  by_cases hother : other = key
  · rw [hother, OrderedMap.get?_insert_self] at hget
    exact Or.inl ⟨hother, by rw [← Option.some.inj hget]⟩
  · rw [OrderedMap.get?_insert_ne c hother] at hget
    exact Or.inr hget

end Cache

end SqlMapper
