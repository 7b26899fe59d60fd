import SqlMapper.Proofs.Engine.Sending

/-!
# Cached Reads

Where reads lie in the cache, and how they are dropped.

A key of the cache is read in one way only. Digests have a fixed width, so the
two digests in the key of a read can be told apart without any mark between
them, and reads under one key agree in the digest of their table and in the
digest of their text and bindings. All reads of a table begin with the prefix of
the table, so none is left once that is dropped, whatever their texts are.

## Main definitions

* `Cache.Clear`: No read of a table is cached.

## Theorems

* `Sha256.hex_length`: A digest has sixty-four digits.
* `queryKey_eq_iff`: Keys are equal if their digests are.
* `invalidate_clear`, `invalidateAll_clear`: Dropping the reads of tables leaves none.
-/

namespace SqlMapper

variable {η σ : Type}

namespace Sha256

theorem bigEndian_length (width n : Nat) : (bigEndian width n).length = width := by
  simp only [bigEndian, List.length_map, List.length_reverse, List.length_range]

theorem digest_length (message : List UInt8) : (digest message).length = 32 := by
  simp only [digest, List.length_flatMap, bigEndian_length, List.map_cons, List.map_nil,
    List.sum_cons, List.sum_nil, Nat.reduceAdd]

-- Each byte is two digits.
theorem hex_length (message : List UInt8) : (hex message).toList.length = 64 := by
  have hbytes : ∀ bytes : List UInt8, (bytes.flatMap hexByte).length = 2 * bytes.length := by
    intro bytes
    induction bytes with
    | nil => rfl
    | cons b rest ih =>
        simp only [List.flatMap_cons, List.length_append, ih, hexByte, List.length_cons,
          List.length_nil]
        omega
  rw [hex, String.toList_ofList, hbytes, digest_length]

end Sha256

theorem digestHex_length (s : String) : (digestHex s).toList.length = 64 :=
  Sha256.hex_length (Text.toBytes s)

theorem tablePrefix_eq_iff {table other : String} :
    tablePrefix table = tablePrefix other ↔ digestHex table = digestHex other := by
  refine ⟨fun h => ?_, fun h => by rw [tablePrefix, tablePrefix, h]⟩
  have hlist := congrArg String.toList h
  simp only [tablePrefix, String.toList_append, List.append_assoc,
    List.append_cancel_left_eq] at hlist
  have hlength : (digestHex table).toList.length = (digestHex other).toList.length := by
    rw [digestHex_length, digestHex_length]
  exact String.toList_inj.mp (List.append_inj hlist hlength).1

/-- Reads lie under one key if the digests in it are the same. -/
theorem queryKey_eq_iff {table other sql sql' : String} {binds binds' : Binds} :
    queryKey table sql binds = queryKey other sql' binds'
      ↔ digestHex table = digestHex other
        ∧ digestHex (queryMaterial sql binds) = digestHex (queryMaterial sql' binds') := by
  refine ⟨fun h => ?_, fun h => ?_⟩
  · have hlist := congrArg String.toList h
    simp only [queryKey, String.toList_append] at hlist
    have hlength : (digestHex (queryMaterial sql binds)).toList.length
        = (digestHex (queryMaterial sql' binds')).toList.length := by
      rw [digestHex_length, digestHex_length]
    -- The second digest has the same width in both keys, so it can be cut off from behind.
    rcases List.append_inj' hlist hlength with ⟨htable, hdigest⟩
    exact ⟨tablePrefix_eq_iff.mp (String.toList_inj.mp htable), String.toList_inj.mp hdigest⟩
  · rw [queryKey, queryKey, tablePrefix_eq_iff.mpr h.1, h.2]

/-- A read that may go through the cache is a read of one table. -/
theorem Database.tables_of_cacheSlot? {db : Database η σ} {r : Statement} {table : String}
    {ttl : UInt64} (h : db.cacheSlot? r = some (table, ttl)) : r.tables = [table] := by
  unfold Database.cacheSlot? at h
  split at h
  · rename_i hone
    cases h
    exact hone
  · cases h

namespace Cache

/-- Whether no read of a table is cached. -/
def Clear (c : Cache) (table : String) : Prop :=
  ∀ sql binds, c.get? (queryKey table sql binds) = none

/-- What is not cached is not cached in a part. -/
theorem PartOf.lacks {c d : Cache} {key : String} (hpart : c.PartOf d) (h : d.get? key = none) :
    c.get? key = none := by
  rw [Option.eq_none_iff_forall_ne_some] at h ⊢
  exact fun e hentry => h e (hpart key e hentry)

theorem Clear.of_partOf {c d : Cache} {table : String} (h : d.Clear table) (hpart : c.PartOf d) :
    c.Clear table :=
  fun sql binds => hpart.lacks (h sql binds)

theorem deletePrefix_clear (c : Cache) (table : String) :
    (c.deletePrefix (tablePrefix table)).Clear table := by
  intro sql binds
  rw [get?_deletePrefix, startsWith_queryKey, if_pos rfl]

end Cache

theorem invalidate_clear (table : String) (s : State η σ) :
    ((invalidate table).run s).2.around.cache.Clear table :=
  Cache.deletePrefix_clear s.around.cache table

theorem invalidateAll_clear (tables : List String) (s : State η σ) :
    ∀ table ∈ tables, ((invalidateAll tables).run s).2.around.cache.Clear table := by
  induction tables generalizing s with
  | nil =>
      intro table htable
      exact absurd htable List.not_mem_nil
  | cons first rest ih =>
      intro table htable
      let dropped := ((invalidate first).run s).2
      rcases List.mem_cons.mp htable with rfl | htable
      · -- What is dropped later was not cached in between.
        have hrest := (Kept.invalidateAll rest dropped).1.cache
        exact (invalidate_clear table s).of_partOf hrest
      · exact ih dropped table htable

end SqlMapper
