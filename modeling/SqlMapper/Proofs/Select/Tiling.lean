import Mathlib.Algebra.Order.Floor.Div
import SqlMapper.Proofs.Select.Evaluation

/-!
# Tiling by Pages

Pages cover the rows of a query without gaps and without overlaps.

A page is a window of as many places as it has rows, and each window begins where
the one before it ends. As many pages as are needed for a number of rows cover the
places of all of them, each place once, and whoever asks for one more gets a window
behind the last row. So putting the pages one behind the other gives all rows back.

Numbers of pages, sizes and totals have 64 bits, and none of them is checked. The
number of pages is rounded up after a division, so it never exceeds the total. The
offset is the product of two such numbers. Up to the last page that is needed the
product is below the total and fits; where it does not fit, the largest number
stands in its place, which is behind every row that can be counted.

## Main definitions

* `Limit.Shows`, `Selection.Shows`: The places that a limit leaves.
* `Selection.Tiled`: Pages cover the places of all rows.

## Theorems

* `toNat_totalPages`: The number of pages is the exact quotient, rounded up.
* `lt_totalPages_iff`: A page is needed if it begins in front of the end.
* `paged_shows_iff`: The page of a place.
* `flatMap_slices`: Slices of one size, put together again.
* `pages_tile`: Pages tile the rows, and no number of them wraps around.
-/

namespace SqlMapper

/-- Whether a limit leaves what stands at a place. -/
def Limit.Shows (i : Nat) : Limit → Prop
  | .first count => i < count.toNat
  | .window offset count => offset.toNat ≤ i ∧ i < offset.toNat + count.toNat

/-- Whether a selection shows what stands at a place; without a limit it shows everything. -/
def Selection.Shows (s : Selection) (i : Nat) : Prop :=
  ∀ l ∈ s.query.limit, l.Shows i

/-- The pages of a selection cover so many rows. -/
structure Selection.Tiled (s : Selection) (total size : UInt64) : Prop where
  -- Each place lies on one of the pages that are needed, and on no other.
  once : ∀ i < total.toNat,
    ∃! p : UInt64, (1 ≤ p ∧ p ≤ totalPages total size) ∧ (s.paged p size).Shows i
  -- The pages behind them begin behind the last row.
  beyond : ∀ p, totalPages total size < p → total ≤ SelectQuery.pageOffset p size
  -- Put one behind the other, the pages that are needed are all rows.
  joined : ∀ {α : Type} (rows : List α), rows.length = total.toNat →
    ((List.range (totalPages total size).toNat).flatMap fun k =>
      (s.paged (UInt64.ofNat (k + 1)) size).query.limit.elim rows (Limit.slice rows)) = rows

/-! ### The number of pages -/

theorem ceilDiv_eq_div_add {size : Nat} (h : 0 < size) (total : Nat) :
    total ⌈/⌉ size = total / size + (if total % size = 0 then 0 else 1) := by
  have hparts : total + size - 1 = size * (total / size) + (total % size + size - 1) := by
    have hsum := Nat.div_add_mod total size
    omega
  have hrest := Nat.mod_lt total h
  rw [Nat.ceilDiv_eq_add_pred_div, hparts, Nat.mul_add_div h]
  by_cases hzero : total % size = 0
  · rw [if_pos hzero, hzero, Nat.zero_add, Nat.div_eq_of_lt (Nat.sub_lt h Nat.one_pos)]
  · have hone : total % size + size - 1 = size * 1 + (total % size - 1) := by omega
    have hless : (total % size - 1) / size = 0 := Nat.div_eq_of_lt (by omega)
    rw [if_neg hzero, hone, Nat.mul_add_div h, hless]

/-- The number of pages is the exact quotient, rounded up; there are none without a size. -/
theorem toNat_totalPages (total size : UInt64) :
    (totalPages total size).toNat = total.toNat ⌈/⌉ size.toNat := by
  rw [totalPages]
  by_cases hsize : size = 0
  · rw [if_pos hsize, hsize]
    exact (ceilDiv_zero total.toNat).symm
  · have hpos : 0 < size.toNat := by
      have hne : size.toNat ≠ 0 := fun h => hsize (UInt64.toNat_inj.mp h)
      omega
    have hmod : total % size = 0 ↔ total.toNat % size.toNat = 0 := by
      rw [← UInt64.toNat_inj, UInt64.toNat_mod]
      rfl
    have hround : (if total % size = 0 then 0 else 1 : UInt64).toNat
        = if total.toNat % size.toNat = 0 then 0 else 1 := by
      simp only [hmod, apply_ite UInt64.toNat]
      rfl
    rw [if_neg hsize, UInt64.toNat_add, UInt64.toNat_div, hround, ← ceilDiv_eq_div_add hpos]
    -- There are no more pages than rows, so the sum has not wrapped around.
    have hfew : total.toNat ⌈/⌉ size.toNat ≤ total.toNat :=
      (ceilDiv_le_iff_le_mul hpos).mpr (Nat.le_mul_of_pos_left _ hpos)
    exact Nat.mod_eq_of_lt (hfew.trans_lt total.toNat_lt)

variable {s : Selection} {total size : UInt64}

/-- A page is needed if and only if it begins in front of the end. -/
theorem lt_totalPages_iff (h : 0 < size.toNat) {k : Nat} :
    k < (totalPages total size).toNat ↔ k * size.toNat < total.toNat := by
  rw [toNat_totalPages, ← not_le, ceilDiv_le_iff_le_mul h, not_le, Nat.mul_comm]

/-! ### The places of a page -/

/-- Up to the last page that is needed, offsets are exact. -/
theorem toNat_pageOffset_of_le (h : 0 < size.toNat) {p : UInt64}
    (hp : 1 ≤ p ∧ p ≤ totalPages total size) :
    (SelectQuery.pageOffset p size).toNat = (p.toNat - 1) * size.toNat := by
  have hone : 1 ≤ p.toNat := UInt64.le_iff_toNat_le.mp hp.1
  have hlast := UInt64.le_iff_toNat_le.mp hp.2
  have hbelow : (p.toNat - 1) * size.toNat < total.toNat :=
    (lt_totalPages_iff h).mp (by omega)
  have htotal := total.toNat_lt
  rw [toNat_pageOffset, Nat.min_eq_left]
  simp only [UInt64.size]
  omega

/-- A place lies on the page whose number is that of the full pages in front of it, and one. -/
theorem paged_shows_iff (h : 0 < size.toNat) {p : UInt64}
    (hp : 1 ≤ p ∧ p ≤ totalPages total size) {i : Nat} :
    (s.paged p size).Shows i ↔ i / size.toNat + 1 = p.toNat := by
  have hone : 1 ≤ p.toNat := UInt64.le_iff_toNat_le.mp hp.1
  have hlimit : (s.paged p size).Shows i
      ↔ (p.toNat - 1) * size.toNat ≤ i ∧ i < (p.toNat - 1) * size.toNat + size.toNat := by
    rw [← toNat_pageOffset_of_le h hp]
    exact ⟨fun hall => hall _ rfl, fun hshows l hl => Option.some.inj hl ▸ hshows⟩
  have hquotient : i / size.toNat = p.toNat - 1 ↔ _ := Nat.div_eq_iff h
  rw [hlimit]
  omega

theorem existsUnique_page (h : 0 < size.toNat) {i : Nat} (hi : i < total.toNat) :
    ∃! p : UInt64, (1 ≤ p ∧ p ≤ totalPages total size) ∧ (s.paged p size).Shows i := by
  have hneeded : i / size.toNat < (totalPages total size).toNat :=
    (lt_totalPages_iff h).mpr ((Nat.div_mul_le_self i _).trans_lt hi)
  have hnumber : (UInt64.ofNat (i / size.toNat + 1)).toNat = i / size.toNat + 1 :=
    UInt64.toNat_ofNat_of_lt' (Nat.lt_of_le_of_lt hneeded (totalPages total size).toNat_lt)
  have hrange : 1 ≤ UInt64.ofNat (i / size.toNat + 1)
      ∧ UInt64.ofNat (i / size.toNat + 1) ≤ totalPages total size := by
    rw [UInt64.le_iff_toNat_le, UInt64.le_iff_toNat_le, hnumber]
    exact ⟨Nat.le_add_left 1 _, hneeded⟩
  refine ⟨_, ⟨hrange, (paged_shows_iff h hrange).mpr hnumber.symm⟩, fun p hp => ?_⟩
  rw [← UInt64.toNat_inj, hnumber]
  exact ((paged_shows_iff h hp.1).mp hp.2).symm

theorem le_pageOffset (h : 0 < size.toNat) {p : UInt64} (hp : totalPages total size < p) :
    total ≤ SelectQuery.pageOffset p size := by
  have hlast := UInt64.lt_iff_toNat_lt.mp hp
  have hend : total.toNat ≤ (p.toNat - 1) * size.toNat :=
    not_lt.mp fun hbelow => absurd ((lt_totalPages_iff h).mpr hbelow) (by omega)
  have htotal := total.toNat_lt
  rw [UInt64.le_iff_toNat_le, toNat_pageOffset, UInt64.size]
  omega

/-! ### The rows of all pages -/

/-- Slices of one size, put one behind the other, are the beginning of a list. -/
theorem flatMap_slices {α : Type} (rows : List α) (size count : Nat) :
    ((List.range count).flatMap fun k => (rows.drop (k * size)).take size)
      = rows.take (count * size) := by
  induction count with
  | zero => rw [Nat.zero_mul, List.take_zero, List.range_zero, List.flatMap_nil]
  | succ count ih =>
      rw [List.range_succ, List.flatMap_append, ih, List.flatMap_singleton, Nat.add_mul,
        Nat.one_mul, List.take_add]

theorem flatMap_pages (h : 0 < size.toNat) {α : Type} {rows : List α}
    (hrows : rows.length = total.toNat) :
    ((List.range (totalPages total size).toNat).flatMap fun k =>
      (s.paged (UInt64.ofNat (k + 1)) size).query.limit.elim rows (Limit.slice rows)) = rows := by
  have hfits : rows.length < UInt64.size := hrows ▸ total.toNat_lt
  have hpage : ∀ k ∈ List.range (totalPages total size).toNat,
      (s.paged (UInt64.ofNat (k + 1)) size).query.limit.elim rows (Limit.slice rows)
        = (rows.drop (k * size.toNat)).take size.toNat := by
    intro k hk
    have hnumber : (UInt64.ofNat (k + 1)).toNat = k + 1 :=
      UInt64.toNat_ofNat_of_lt' (Nat.lt_of_le_of_lt (List.mem_range.mp hk)
        (totalPages total size).toNat_lt)
    have hslice := slice_page hfits (UInt64.ofNat (k + 1)) size
    rwa [hnumber, Nat.add_sub_cancel] at hslice
  have hall : total.toNat ≤ (totalPages total size).toNat * size.toNat :=
    not_lt.mp fun hbelow => absurd ((lt_totalPages_iff h).mpr hbelow) (lt_irrefl _)
  rw [List.flatMap_congr hpage, flatMap_slices, List.take_of_length_le (hrows ▸ hall)]

/-- Pages of one row or more tile the rows of a selection. Page zero is the first page. No number
    wraps around: an offset is exact or the largest number, and the number of pages is exact. -/
theorem pages_tile (s : Selection) (total size : UInt64) :
    (1 ≤ size → s.Tiled total size)
      ∧ (s.paged 0 size).query = (s.paged 1 size).query
      ∧ (∀ p, (s.paged p size).query.limit = some (.window (SelectQuery.pageOffset p size) size)
        ∧ (SelectQuery.pageOffset p size).toNat
          = min ((p.toNat - 1) * size.toNat) (UInt64.size - 1))
      ∧ (totalPages total size).toNat = total.toNat ⌈/⌉ size.toNat := by
  refine ⟨fun hsize => ?_, rfl, fun p => ⟨rfl, toNat_pageOffset p size⟩,
    toNat_totalPages total size⟩
  have hpos : 0 < size.toNat := UInt64.le_iff_toNat_le.mp hsize
  exact ⟨fun i hi => existsUnique_page hpos hi, fun p hp => le_pageOffset hpos hp,
    fun rows hrows => flatMap_pages hpos hrows⟩

/-- As many rows as can be counted, ten to a page: the last of them stands on one page, and the
    page with the largest number begins behind it. -/
theorem pages_tile_most :
    let s := Selection.build "notes" []
    let most : UInt64 := 0xFFFFFFFFFFFFFFFF
    (1 : UInt64) ≤ 10 ∧ s.Tiled most 10
      ∧ (totalPages most 10).toNat = 1844674407370955162
      ∧ (∃! p : UInt64, (1 ≤ p ∧ p ≤ totalPages most 10)
          ∧ (s.paged p 10).Shows 18446744073709551614)
      ∧ (SelectQuery.pageOffset most 10).toNat = most.toNat := by
  intro s most
  have hsize : (1 : UInt64) ≤ 10 := by decide
  rcases pages_tile s most 10 with ⟨htiled, -, hpages, hcount⟩
  exact ⟨hsize, htiled hsize, hcount.trans (by decide), (htiled hsize).once _ (by decide),
    (hpages most).2.trans (by decide)⟩

end SqlMapper
