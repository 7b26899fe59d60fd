import SqlMapper.Proofs.Engine.Sending

/-!
# The Record of a Version

What the cache knows of a table's version, and what leaves it alone.

The version of a table lies in the cache next to the reads, but its key begins
with a word of its own. Dropping the reads of a table, be it this one or
another, takes out keys that begin otherwise, so no write touches the record. An
entry without a deadline never dies either: asking for it changes nothing but the
journal. Such a record is changed by recording a version, and in no other way.

## Main definitions

* `State.record`: The entry under the key of a table's version.
* `State.version`: The version that the engine finds there.
* `State.Durable`: The entry has no deadline.

## Theorems

* `record_invalidate`: Dropping the reads of a table keeps every record.
* `recordedVersion_run`: Asking for a durable record only notes that.
* `recordedVersion_living`: Asking for any record takes it out if it has died.
* `recordVersion_run`: Recording a version succeeds, and makes the record durable.
-/

namespace SqlMapper

variable {η σ : Type}

/-- The version that an entry holds. -/
def CacheEntry.version? (e : CacheEntry) : Option UInt32 :=
  match e.value with
  | .version v => some v
  | _ => none

/-- An entry for a version, without a deadline. -/
def CacheEntry.ofVersion (v : UInt32) : CacheEntry where
  value := .version v
  deadline := none

/-- The entry under the key of a table's version. -/
def State.record (s : State η σ) (table : String) : Option CacheEntry :=
  s.around.cache.get? (versionKey table)

/-- The version that the engine finds for a table. -/
def State.version (s : State η σ) (table : String) : Option UInt32 :=
  ((recordedVersion table).run s).1

/-- The record of a table never dies, if there is one. -/
def State.Durable (s : State η σ) (table : String) : Prop :=
  ∀ e, s.record table = some e → e.deadline = none

/-- The entry under the key of a table's version, unless it has died. -/
def State.living (s : State η σ) (table : String) : Option CacheEntry :=
  (s.record table).filter fun e => e.alive s.around.now

theorem versionKey_inj {table other : String} (h : versionKey other = versionKey table) :
    other = table := by
  have hlists := congrArg String.toList h
  simp only [versionKey, String.toList_append, List.append_cancel_left_eq] at hlists
  exact String.ext hlists

/-- The key of a version is not the key of a read. -/
theorem startsWith_versionKey (table other : String) :
    Text.startsWith (versionKey table) (tablePrefix other) = false := by
  simp only [Text.startsWith, versionKey, tablePrefix, String.toList_append, List.append_assoc]
  rfl

/-- Dropping the reads of a table keeps every record. -/
theorem record_invalidate (table other : String) (s : State η σ) :
    ((invalidate other).run s).2.record table = s.record table := by
  have hget := Cache.get?_deletePrefix s.around.cache (tablePrefix other) (versionKey table)
  rw [startsWith_versionKey] at hget
  exact hget

/-- Asking for a durable record finds the version that it holds, and only notes that. -/
theorem recordedVersion_run {table : String} {s : State η σ} (h : s.Durable table) :
    let shown := Event.lookup (versionKey table) (s.record table).isSome
    (recordedVersion table).run s = ((s.record table).bind CacheEntry.version?,
      { s with around := { s.around with journal := s.around.journal ++ [shown] } }) := by
  intro shown
  have hget : s.around.cache.get s.around.now (versionKey table)
      = ((s.record table).map CacheEntry.value, s.around.cache) := by
    rw [Cache.get, show s.around.cache.get? (versionKey table) = s.record table from rfl]
    rcases hrecord : s.record table with _ | e
    · rfl
    · have halive : e.alive s.around.now = true := by
        rw [CacheEntry.alive, h e hrecord]
        rfl
      simp only [halive, if_true, Option.map_some]
  have hlookup : (around (Surroundings.lookup (versionKey table)) : Action η σ _).run s
      = ((s.record table).map CacheEntry.value,
        { s with around := { s.around with journal := s.around.journal ++ [shown] } }) := by
    let got := s.around.cache.get s.around.now (versionKey table)
    show (got.1, { s with around := { s.around with
      cache := got.2
      journal := s.around.journal ++ [Event.lookup (versionKey table) got.1.isSome] } }) = _
    rw [show got = _ from hget, Option.isSome_map]
  rw [recordedVersion, Action.run_bind, hlookup]
  rcases s.record table with _ | ⟨_ | _ | v, deadline⟩ <;> rfl

/-- Asking for any record leaves it there unless it has died. -/
theorem recordedVersion_living (table : String) (s : State η σ) :
    let asked := ((recordedVersion table).run s).2
    asked.record table = s.living table ∧ asked.own = s.own
      ∧ asked.around.world = s.around.world := by
  have hasked : ((recordedVersion table).run s).2
      = ((around (Surroundings.lookup (versionKey table)) : Action η σ _).run s).2 := by
    rw [recordedVersion, Action.run_bind]
    rcases ((around (Surroundings.lookup (versionKey table)) : Action η σ _).run s).1 with
      _ | _ | _ | _ <;> rfl
  intro asked
  rw [show asked = _ from hasked]
  exact ⟨s.around.cache.get?_get s.around.now (versionKey table), rfl, rfl⟩

theorem version_eq {table : String} {s : State η σ} (h : s.Durable table) :
    s.version table = (s.record table).bind CacheEntry.version? :=
  congrArg Prod.fst (recordedVersion_run h)

/-- Recording a version succeeds: an entry without a deadline can always be put in. -/
theorem recordVersion_run (table : String) (v : UInt32) (s : State η σ) :
    (recordVersion table v).run.run s
      = (.ok (), { s with around := { s.around with
          cache := s.around.cache.insert (versionKey table) (.ofVersion v)
          journal := s.around.journal ++ [.store (versionKey table) (.version v) none] } }) :=
  store_run (versionKey table) (.version v) none s

end SqlMapper
