import Mathlib
import SqlMapper.Proofs.Cache.Keys
import SqlMapper.Sqlite.Store

/-!
# What a Fingerprint Tells of Cells

Bindings with one fingerprint, and what SQLite stores for them.

A fingerprint shows values by their literals, and SQLite is given a cell for
each value. Both go by the kind of the value, but not in the same way. A truth
value and an integer have one literal and one cell, and so have bytes and the
text that they are read as. A floating-point number that is whole, though, has
the literal of an integer and is bound as a text. That is the only pair of kinds
whose literals do not tell their cells apart: the absent value, the numbers and
the quoted texts begin in different ways, and within a kind the literal
determines the cell.

## Main definitions

* `Written`: How a value is written and bound.
* `Mixed`: A number written like an integer, and that integer.
* `Binds.cell?`: The cell of a placeholder.

## Theorems

* `cell_of_literal`: Values with one literal have one cell, unless they are mixed.
* `fingerprint_cells`: Bindings with one fingerprint have the same cells, unless values are mixed.
* `fingerprint_mixes`: A fingerprint may be that of bindings with other cells.
-/

namespace SqlMapper

open Sqlite

/-! ### Literals that differ -/

theorem Decimal.NumberForm.ne_quoted {cs : List Char} (h : NumberForm cs) (s : String) :
    cs ≠ (Value.quotedLiteral s).toList := by
  rw [Value.quotedLiteral, String.toList_ofList]
  rintro rfl
  cases h with
  | unsigned _ _ h => exact absurd (h '\'' List.mem_cons_self) (by decide)

/-- No number is written like the absent value. -/
theorem render_ne_null (x : Float) : plainNumbers.render x ≠ "NULL" := by
  intro h
  unfold Decimal.Layout.render at h
  split at h
  · exact absurd h (by decide)
  · simp only at h
    have hsign : ∀ {sign rest : List Char}, sign = [] ∨ sign = ['-'] →
        String.ofList (sign ++ rest) = "NULL" → rest = "NULL".toList := by
      rintro sign rest hsign htext
      have hlist := congrArg String.toList htext
      rw [String.toList_ofList] at hlist
      rcases hsign with rfl | rfl
      · exact hlist
      · exact absurd (List.cons.inj hlist).1 (by decide)
    have hbits : ∀ bits : UInt64, (if bits >>> 63 = 0 then [] else ['-'] : List Char) = []
        ∨ (if bits >>> 63 = 0 then [] else ['-'] : List Char) = ['-'] := by
      intro bits
      by_cases hzero : bits >>> 63 = 0
      · exact Or.inl (if_pos hzero)
      · exact Or.inr (if_neg hzero)
    split at h
    · exact absurd (hsign (hbits _) h) (by decide)
    · have hmagnitude := hsign (hbits _) h
      have hmem : 'N' ∈ plainNumbers.magnitudeText x.toBits := by
        rw [hmagnitude]
        decide
      exact absurd (Decimal.mem_magnitudeText hmem) (by decide)

/-- Nor is an integer. -/
theorem toString_ne_null (n : Int) : toString n ≠ "NULL" := by
  intro h
  cases n with
  | ofNat n =>
      have hmem : 'N' ∈ (Nat.repr n).toList := by
        rw [show Nat.repr n = "NULL" from h]
        decide
      rw [Nat.repr, String.toList_ofList] at hmem
      exact absurd (Nat.isDigit_of_mem_toDigits (by decide) (by decide) hmem) (by decide)
  | negSucc n =>
      have hlist := congrArg String.toList h
      rw [show (toString (Int.negSucc n)).toList = '-' :: n.succ.repr.toList from
        String.toList_append] at hlist
      exact absurd (List.cons.inj hlist).1 (by decide)

theorem quotedLiteral_inj {s t : String} (h : Value.quotedLiteral s = Value.quotedLiteral t) :
    s = t := by
  have hlist := congrArg String.toList h
  rw [Value.quotedLiteral, Value.quotedLiteral, String.toList_ofList, String.toList_ofList,
    List.cons_append, List.cons_append, List.cons.injEq] at hlist
  have hend : ([] : List Char).head? ≠ some '\'' := by decide
  exact String.toList_inj.mp (Text.doubled_append_inj hend hend hlist.2).1

/-! ### Cells of values -/

/-- How a value is written and bound. -/
inductive Written : Value → Prop where
  -- The absent value.
  | null : Written .null
  -- A value that is written and bound as an integer.
  | whole {v : Value} (n : Int64) (hliteral : v.literal = toString n.toInt)
    (hcell : Cell.ofValue v = .integer n) : Written v
  -- A floating-point number, which is written without quotes and bound as a text.
  | float (x : Float) : Written (.float x)
  -- A value that is written between quotes and bound as a text.
  | quoted {v : Value} (s : String) (hliteral : v.literal = Value.quotedLiteral s)
    (hcell : Cell.ofValue v = .text (Text.toBytes s)) : Written v

theorem written (v : Value) : Written v := by
  cases v with
  | null => exact .null
  | bool b =>
      cases b with
      | false => exact .whole 0 rfl rfl
      | true => exact .whole 1 rfl rfl
  | int n => exact .whole n rfl rfl
  | float x => exact .float x
  | text s => exact .quoted s rfl rfl
  | bytes b => exact .quoted (Text.ofBytesLossy b) rfl rfl

/-- A floating-point number that is written like an integer, and a value that is bound as that
    integer. -/
inductive Mixed : Value → Value → Prop where
  -- The number comes first.
  | float {x : Float} {v : Value} {n : Int64} (htext : plainNumbers.render x = toString n.toInt)
    (hcell : Cell.ofValue v = .integer n) : Mixed (.float x) v
  -- The integer does.
  | whole {x : Float} {v : Value} {n : Int64} (htext : plainNumbers.render x = toString n.toInt)
    (hcell : Cell.ofValue v = .integer n) : Mixed v (.float x)

theorem Mixed.cell_ne {v w : Value} (h : Mixed v w) : Cell.ofValue v ≠ Cell.ofValue w := by
  cases h with
  | float _ hcell => exact hcell ▸ nofun
  | whole _ hcell => exact hcell ▸ nofun

/-- Values with the same literal are bound to the same cell, unless they are mixed. -/
theorem cell_of_literal {v w : Value} (h : v.literal = w.literal) :
    Cell.ofValue v = Cell.ofValue w ∨ Mixed v w := by
  have hnumber : ∀ {u : Value} {s : String}, Decimal.NumberForm u.literal.toList →
      u.literal ≠ Value.quotedLiteral s := fun hform heq =>
    hform.ne_quoted _ (congrArg String.toList heq)
  have hinteger : ∀ {u : Value} {n : Int64}, u.literal = toString n.toInt →
      Decimal.NumberForm u.literal.toList := fun hu => hu ▸ Decimal.numberForm_int _
  cases written v with
  | null =>
      cases written w with
      | null => exact Or.inl rfl
      | whole n hliteral hcell => exact absurd (h.trans hliteral).symm (toString_ne_null _)
      | float x => exact absurd h.symm (render_ne_null x)
      | quoted s hliteral hcell =>
          exact absurd (h.trans hliteral) (hnumber (Value.literal_number trivial))
  | whole n hn hcell =>
      cases written w with
      | null => exact absurd (hn.symm.trans h) (toString_ne_null _)
      | whole m hm hcell' =>
          have hsame : n.toInt = m.toInt := Int.repr_inj.mp (hn.symm.trans (h.trans hm))
          rw [hcell, hcell', Int64.toInt_inj.mp hsame]
          exact Or.inl rfl
      | float x => exact Or.inr (.whole (h.symm.trans hn) hcell)
      | quoted s hliteral hcell' => exact absurd (h.trans hliteral) (hnumber (hinteger hn))
  | float x =>
      cases written w with
      | null => exact absurd h (render_ne_null x)
      | whole m hm hcell => exact Or.inr (.float (h.trans hm) hcell)
      | float y =>
          have htext : plainNumbers.render x = plainNumbers.render y := h
          exact Or.inl (congrArg (Cell.text ∘ Text.toBytes) htext)
      | quoted s hliteral hcell =>
          exact absurd (h.trans hliteral) (hnumber (Value.literal_number trivial))
  | quoted s hs hcell =>
      cases written w with
      | null => exact absurd (h.symm.trans hs) (hnumber (Value.literal_number trivial))
      | whole m hm hcell' => exact absurd (h.symm.trans hs) (hnumber (hinteger hm))
      | float x => exact absurd (h.symm.trans hs) (hnumber (Value.literal_number trivial))
      | quoted t ht hcell' =>
          rw [hcell, hcell', quotedLiteral_inj (hs.symm.trans (h.trans ht))]
          exact Or.inl rfl

/-! ### Cells of bindings -/

/-- The cell that the value of a placeholder is bound to, if it has one. -/
def Binds.cell? (b : Binds) (name : String) : Option Cell :=
  (b.get? name).map Cell.ofValue

theorem lookup_map (es : List (String × Value)) (name : String) :
    (OrderedMap.lookup name es).map Value.literal
      = OrderedMap.lookup name (es.map fun e => (e.1, e.2.literal)) := by
  induction es with
  | nil => rfl
  | cons e es ih =>
      rw [List.map_cons, OrderedMap.lookup, OrderedMap.lookup]
      by_cases hname : e.1 = name
      · rw [if_pos hname, if_pos hname, Option.map_some]
      · rw [if_neg hname, if_neg hname, ih]

/-- Bindings that show the same have the same cell for a name, unless its values are mixed. -/
theorem cell?_of_shown {b b' : Binds} (h : b.shown = b'.shown) (name : String) :
    b.cell? name = b'.cell? name
      ↔ ¬ ∃ v v', b.get? name = some v ∧ b'.get? name = some v' ∧ Mixed v v' := by
  have hliterals : (b.get? name).map Value.literal = (b'.get? name).map Value.literal := by
    rw [OrderedMap.get?, OrderedMap.get?, lookup_map, lookup_map]
    exact congrArg (OrderedMap.lookup name) h
  rw [Binds.cell?, Binds.cell?]
  generalize b.get? name = found, b'.get? name = found' at hliterals ⊢
  rcases found with _ | v <;> rcases found' with _ | v'
  · refine iff_of_true rfl ?_
    rintro ⟨v, v', hv, -⟩
    cases hv
  · cases hliterals
  · cases hliterals
  · rw [Option.map_some, Option.map_some, Option.some.injEq]
    constructor
    · rintro hcell ⟨u, u', hu, hu', hmixed⟩
      cases hu
      cases hu'
      exact hmixed.cell_ne hcell
    · intro hmixed
      rcases cell_of_literal (Option.some.inj hliterals) with hcell | hmix
      · exact hcell
      · exact absurd ⟨v, v', rfl, rfl, hmix⟩ hmixed

/-- What is read back of bindings depends on their cells. -/
theorem echo_of_cells {b b' : Binds} (h : ∀ name, b.cell? name = b'.cell? name)
    (names : List String) : echo b names = echo b' names := by
  have hstored : ∀ (b : Binds) name, ((b.get? name).map stored).getD .null
      = ((b.cell? name).map Cell.value).getD .null := by
    intro b name
    rw [Binds.cell?, Option.map_map]
    rfl
  simp only [echo, hstored, h]

/-- Bindings with the same fingerprint have the same names in the same order. SQLite is given the
    same cell for a name in both exactly if the two values of the name are not an integer and a
    floating-point number that is written like it. If there are no such values, what is read back
    is the same. -/
theorem fingerprint_cells {b b' : Binds} (hnames : ∀ e ∈ b.entries, IsBindName e.1)
    (hnames' : ∀ e ∈ b'.entries, IsBindName e.1) (h : b.fingerprint = b'.fingerprint) :
    b.keys = b'.keys
      ∧ (∀ name, b.cell? name = b'.cell? name
          ↔ ¬ ∃ v v', b.get? name = some v ∧ b'.get? name = some v' ∧ Mixed v v')
      ∧ ((∀ name v v', b.get? name = some v → b'.get? name = some v' → ¬ Mixed v v') →
          ∀ names, echo b names = echo b' names) := by
  have hshown := Binds.fingerprint_inj hnames hnames' h
  refine ⟨?_, cell?_of_shown hshown, fun hmixed => echo_of_cells fun name => ?_⟩
  · have hkeys : ∀ b : Binds, b.keys = b.shown.map (·.1) := by
      intro b
      rw [Binds.shown, List.map_map]
      rfl
    rw [hkeys, hkeys, hshown]
  · refine (cell?_of_shown hshown name).mpr ?_
    rintro ⟨v, v', hv, hv', hmix⟩
    exact hmixed name v v' hv hv' hmix

theorem fingerprint_cells_truth :
    (∀ e ∈ (Binds.single (.bool true)).entries, IsBindName e.1)
      ∧ (∀ e ∈ (Binds.single (.int 1)).entries, IsBindName e.1)
      ∧ (Binds.single (.bool true)).fingerprint = (Binds.single (.int 1)).fingerprint
      ∧ (∀ name v v', (Binds.single (.bool true)).get? name = some v →
          (Binds.single (.int 1)).get? name = some v' → ¬ Mixed v v')
      ∧ ∀ names, echo (.single (.bool true)) names = echo (.single (.int 1)) names := by
  have hfingerprint : (Binds.single (.bool true)).fingerprint
      = (Binds.single (.int 1)).fingerprint := rfl
  have hmixed : ∀ name v v', (Binds.single (.bool true)).get? name = some v →
      (Binds.single (.int 1)).get? name = some v' → ¬ Mixed v v' := by
    intro name v v' hv hv' hmix
    have hget : ∀ w, (Binds.single w).get? name = if ":a" = name then some w else none :=
      fun _ => rfl
    rw [hget] at hv hv'
    by_cases hname : ":a" = name
    · rw [if_pos hname] at hv hv'
      cases hv
      cases hv'
      cases hmix
    · rw [if_neg hname] at hv
      cases hv
  exact ⟨Binds.single_names _, Binds.single_names _, hfingerprint, hmixed,
    (fingerprint_cells (Binds.single_names _) (Binds.single_names _) hfingerprint).2.2 hmixed⟩

/-- An integer and the same number as a floating-point number have one fingerprint and two cells. -/
theorem fingerprint_mixes :
    ¬ ∀ b b' : Binds, (∀ e ∈ b.entries, IsBindName e.1) → (∀ e ∈ b'.entries, IsBindName e.1) →
      b.fingerprint = b'.fingerprint → ∀ name, b.cell? name = b'.cell? name := by
  intro hall
  have hfingerprint : (Binds.single (.int 1)).fingerprint
      = (Binds.single (.float 1.0)).fingerprint := by decide +kernel
  have hcell := hall (.single (.int 1)) (.single (.float 1.0)) (Binds.single_names _)
    (Binds.single_names _) hfingerprint ":a"
  exact absurd hcell nofun

end SqlMapper
