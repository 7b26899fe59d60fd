import SqlMapper.Proofs.Text.Utf8
import SqlMapper.Sqlite.Store

/-!
# Values That Were Stored

What becomes of a value that is stored and read again.

A cell keeps what is put into it, so the question is only what a value is bound
as and what that is read as. There is an integer for a truth value, and nothing
is bound for bytes but a text: their own, if they are the form of one, and else
one in which each damaged part has been replaced. So bytes that were read from
a blob do not go back as one. Whatever becomes of a value becomes of it
wherever it is bound: to a placeholder of a query, in an insert, with or without
a key, and in an update.

Floating-point numbers are bound as text too. What number the text says is not
asked here.

## Main definitions

* `Survives`: What a value is read as once it has been stored.
* `ReadAs`: A value, wherever it is bound, is read as another.

## Theorems

* `survives_stored`, `Survives.eq_stored`: A value is read as what was stored of it, and that is
  what the relation says.
* `readAs_stored`: It is so wherever the value is bound.
* `value_survives`: Both together, and what goes back of bytes that came from a blob.
* `not_all_read_back`: There are bytes that are not read back.
-/

namespace SqlMapper

namespace Sqlite

/-- What a value is read as once it has been stored. -/
inductive Survives : Value → Value → Prop where
  -- These are what they were.
  | null : Survives .null .null
  | int (n : Int64) : Survives (.int n) (.int n)
  | text (s : String) : Survives (.text s) (.text s)
  -- There is an integer for a truth value,
  | bool (b : Bool) : Survives (.bool b) (.int (if b then 1 else 0))
  -- and a text for bytes: that of which they are the form,
  | form (s : String) : Survives (.bytes (Text.toBytes s)) (.text s)
  -- or, if they are the form of none, one with the damage replaced.
  | damaged (bytes : List UInt8) (h : ∀ s, Text.toBytes s ≠ bytes) :
      Survives (.bytes bytes) (.text (Text.ofBytesLossy bytes))

/-- A value, wherever it is bound, is read as another. -/
structure ReadAs (v w : Value) : Prop where
  -- Bound to a placeholder, it is read from every column that holds the placeholder.
  echoed : ∀ (binds : Binds) placeholders p, binds.get? p = some v → p ∈ placeholders →
    (p, w) ∈ (echo binds placeholders).cells ∧
      ∀ u, (p, u) ∈ (echo binds placeholders).cells → u = w
  -- A row can be inserted with it, unless the keys have run out,
  accepted : ∀ s : Session, s.table.largest ≠ Int64.maxValue → (s.insert .null v).1 = .ok 1
  -- and whatever key a row was inserted under, it is there with that key.
  inserted : ∀ (s : Session) key n, (s.insert key v).1 = .ok n →
    { cells := [("id", .int (s.insert key v).2.lastKey), ("v", w)] } ∈ (s.insert key v).2.rows
  -- Of every row there was, it is the value after an update.
  updated : ∀ s : Session, (s.update v).2.rows
    = s.table.rows.map fun r => { cells := [("id", .int r.1), ("v", w)] }

theorem stored_text (s : String) : stored (.text s) = .text s := by
  rw [stored, Cell.ofValue, Cell.value]
  exact congrArg Value.text (Text.ofBytesLossy_toBytes s)

-- The text that is bound for bytes is read back from its own form.
theorem stored_bytes (bytes : List UInt8) :
    stored (.bytes bytes) = .text (Text.ofBytesLossy bytes) := by
  rw [stored, Cell.ofValue, Cell.value]
  exact congrArg Value.text (Text.ofBytesLossy_toBytes (Text.ofBytesLossy bytes))

theorem survives_stored {v : Value} (h : ∀ x, v ≠ .float x) : Survives v (stored v) := by
  cases v with
  | null => exact .null
  | bool b => exact .bool b
  | int n => exact .int n
  | float x => exact absurd rfl (h x)
  | text s =>
      rw [stored_text]
      exact .text s
  | bytes b =>
      rw [stored_bytes]
      by_cases hform : ∃ s, Text.toBytes s = b
      · rcases hform with ⟨s, rfl⟩
        rw [Text.ofBytesLossy_toBytes]
        exact .form s
      · exact .damaged b fun s hs => hform ⟨s, hs⟩

theorem Survives.eq_stored {v w : Value} (h : Survives v w) : w = stored v := by
  cases h with
  | null => rfl
  | int n => rfl
  | bool b => rfl
  | text s => rw [stored_text]
  | form s => rw [stored_bytes, Text.ofBytesLossy_toBytes]
  | damaged b _ => rw [stored_bytes]

theorem Table.mem_place (key : Int64) (cell : Cell) (rows : List (Int64 × Cell)) :
    (key, cell) ∈ Table.place key cell rows := by
  induction rows with
  | nil => exact List.mem_singleton_self _
  | cons r rest ih =>
      rw [Table.place]
      split
      · exact List.mem_cons_self
      · exact List.mem_cons_of_mem r ih

-- An insert that was accepted has added one row, under the key that is now the latest.
theorem Session.insert_eq_added {s : Session} {key v : Value} {n : UInt64}
    (h : (s.insert key v).1 = .ok n) :
    ∃ k, (s.insert key v).2 = s.added k (Cell.ofValue v) := by
  have hnext {cell : Cell} (h : (s.insertNext cell).1 = .ok n) :
      (s.insertNext cell).2 = s.added (s.table.largest + 1) cell := by
    unfold insertNext at h ⊢
    by_cases hfull : s.table.largest = Int64.maxValue
    · rw [if_pos hfull] at h
      cases h
    · rw [if_neg hfull]
  have hat {k : Int64} {cell : Cell} (h : (s.insertAt k cell).1 = .ok n) :
      (s.insertAt k cell).2 = s.added k cell := by
    unfold insertAt at h ⊢
    by_cases htaken : s.table.has k = true
    · rw [if_pos htaken] at h
      cases h
    · rw [if_neg htaken]
  unfold Session.insert at h ⊢
  split at h
  · exact ⟨_, hnext h⟩
  · split at h
    · exact ⟨_, hat h⟩
    · cases h

theorem Session.mem_rows_added (s : Session) (key : Int64) (cell : Cell) :
    { cells := [("id", .int key), ("v", cell.value)] } ∈ (s.added key cell).rows :=
  List.mem_map_of_mem (f := fun r : Int64 × Cell =>
    ({ cells := [("id", .int r.1), ("v", r.2.value)] } : Row)) (Table.mem_place key cell _)

/-- Wherever a value is bound, what was stored of it is read. -/
theorem readAs_stored (v : Value) : ReadAs v (stored v) where
  echoed := by
    intro binds placeholders p hp hmem
    have hcell : (p, stored v) = (p, ((binds.get? p).map stored).getD .null) := by
      rw [hp]
      rfl
    constructor
    · rw [hcell]
      exact List.mem_map_of_mem hmem
    · intro u hu
      rcases List.mem_map.mp hu with ⟨q, _, hq⟩
      cases hq
      rw [hp]
      rfl
  accepted := by
    intro s hfull
    have hnext : s.insert .null v = s.insertNext (Cell.ofValue v) := rfl
    rw [hnext, Session.insertNext, if_neg hfull]
  inserted := by
    intro s key n h
    rcases Session.insert_eq_added h with ⟨k, hk⟩
    rw [hk]
    exact s.mem_rows_added k (Cell.ofValue v)
  updated := by
    intro s
    simp only [Session.rows, Session.update, List.map_map]
    rfl

theorem Cell.ofValue_bytes (bytes : List UInt8) :
    Cell.ofValue (.bytes bytes) = .text (Text.toBytes (Text.ofBytesLossy bytes)) := rfl

/-- Every value but a floating-point number is read, wherever it is bound, as `Survives` says, and
    as nothing else. Bytes from a blob do not go back as one; the text that goes back in their
    place has the same bytes exactly if they are the form of a text. -/
theorem value_survives (v : Value) (hfloat : ∀ x, v ≠ .float x) :
    (∃ w, Survives v w ∧ ReadAs v w ∧ ∀ u, Survives v u → u = w) ∧
    ∀ bytes, v = (Cell.blob bytes).value → Cell.ofValue v ≠ .blob bytes ∧
      (Cell.ofValue v = .text bytes ↔ ∃ s, Text.toBytes s = bytes) := by
  refine ⟨⟨stored v, survives_stored hfloat, readAs_stored v, fun u hu => hu.eq_stored⟩, ?_⟩
  rintro bytes rfl
  rw [Cell.value, Cell.ofValue_bytes]
  constructor
  · intro h
    cases h
  · rw [Cell.text.injEq]
    exact Text.toBytes_ofBytesLossy_iff bytes

/-- Bytes that are no text: what is read has a replacement character for the last of them. -/
theorem value_survives_damaged :
    (∀ x, Value.bytes [0x61, 0xff] ≠ .float x) ∧
      ReadAs (.bytes [0x61, 0xff]) (.text "a\uFFFD") ∧
      Cell.ofValue (.bytes [0x61, 0xff]) ≠ .blob [0x61, 0xff] ∧
      ¬ ∃ s, Text.toBytes s = [0x61, 0xff] := by
  have hfloat : ∀ x, Value.bytes [0x61, 0xff] ≠ .float x := fun x h => by cases h
  rcases value_survives (.bytes [0x61, 0xff]) hfloat with ⟨⟨w, hw, hread, _⟩, hblob⟩
  rcases hblob [0x61, 0xff] rfl with ⟨hclass, hsame⟩
  have hw : w = .text "a\uFFFD" := by
    rw [hw.eq_stored]
    decide +kernel
  refine ⟨hfloat, hw ▸ hread, hclass, ?_⟩
  rw [← hsame]
  decide +kernel

/-- A byte that is no text is not read back: not from the first row of a table, and so it is not
    the case that all that is stored is read back. -/
theorem not_all_read_back :
    (({ } : Session).insert .null (.bytes [0xff])).2.rows
        ≠ [{ cells := [("id", .int 1), ("v", .bytes [0xff])] }] ∧
      ¬ ∀ v, (∀ x, v ≠ .float x) → (∀ b, v ≠ .bool b) → ReadAs v v := by
  constructor
  · decide +kernel
  · intro h
    have hback := (h (.bytes [0xff]) (fun x hx => by cases hx) fun b hb => by cases hb).updated
      { table := { rows := [(1, .null)] } }
    revert hback
    decide +kernel

end Sqlite

end SqlMapper
