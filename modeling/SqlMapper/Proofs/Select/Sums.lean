import Mathlib
import SqlMapper.Proofs.Json.Tokens
import SqlMapper.Proofs.Select.Pages
import SqlMapper.Proofs.Text.Words

/-!
# Sums

What a sum says about the query behind it.

Summing keeps the tables, the conditions and the grouping of a selection, and
drops the rest. So a sum is asked of the same combinations whatever else was
called, but a grouping query yields a row for each group, and only the first row
is read. What is returned is the sum of the first group. The groups share out
what was found, so this is the sum of everything only if there is one group, or
if the others sum to zero.

A database may show a sum as an integer, as a floating-point number or, if it has
a wider type of its own, as text. Whichever it is, it is read as the
floating-point number of the same value, as long as there is one.

## Main definitions

* `Value.Shows`: A value shows an integer.
* `Representable`: A floating-point number has the value of an integer.
* `Semantics.AddsUp`: Sums of integers are exact, if they are not too large.
* `Semantics.total`: The sum of an integer field over combinations.
* `Database.summing`: A connection to tables of which one sum is asked.

## Theorems

* `Decimal.float?_toString`: An integer that is written down is read back.
* `summedRows_of_shows`: Whatever shows an integer is read as its value.
* `groups_perm`: The groups share out the combinations that were found.
* `evaluate_aggregate`: An aggregate has a row for each group.
* `sum_of_calls`: What a sum is, whatever the calls before it are.
* `sum_of_first_group`: It need not be the sum over all rows.
-/

namespace SqlMapper

variable {η σ α : Type}

/-! ### Integers written down -/

namespace Decimal

variable {n : Nat}

theorem digitsValue_toDigits (n : Nat) : digitsValue (Nat.toDigits 10 n) = n := by
  have hvalue : ∀ (cs : List Char) (start : Nat),
      cs.foldl (fun n c => n * 10 + (c.toNat - '0'.toNat)) start
        = Nat.ofDigitChars 10 cs start := by
    intro cs
    induction cs with
    | nil => exact fun _ => rfl
    | cons c cs ih =>
        intro start
        rw [List.foldl_cons, ih, Nat.mul_comm]
        rfl
  rw [digitsValue, hvalue, Nat.ofDigitChars_ten_toDigits]

theorem scaled_whole (h : (Nat.toDigits 10 n).length ≤ 310) : scaled n 0 = Float.ofNat n := by
  unfold scaled
  by_cases hzero : n = 0
  · rw [if_pos hzero, hzero]
    rfl
  · dsimp only
    rw [if_neg hzero, if_neg (by omega), if_neg (by omega)]
    rfl

theorem plain?_toDigits (h : (Nat.toDigits 10 n).length ≤ 310) :
    plain? (Nat.toDigits 10 n) = some (Float.ofNat n) := by
  have hdigits : ∀ c ∈ Nat.toDigits 10 n, isDigit c = true := fun c => Json.isDigit_of_mem_toDigits
  have htake : (Nat.toDigits 10 n).takeWhile isDigit = Nat.toDigits 10 n :=
    List.takeWhile_eq_self_iff.mpr hdigits
  have hdrop : (Nat.toDigits 10 n).dropWhile isDigit = [] :=
    List.dropWhile_eq_nil_iff.mpr hdigits
  unfold plain?
  simp only [htake, hdrop, List.append_nil, digitsValue_toDigits]
  rw [if_neg]
  · exact congrArg some (scaled_whole h)
  · rw [List.isEmpty_nil, Bool.and_true, List.isEmpty_iff]
    exact Nat.toDigits_ne_nil

theorem toLower_of_isDigit {c : Char} (h : isDigit c = true) : c.toLower = c := by
  have hsmall : c ≤ '9' := of_decide_eq_true (Bool.and_eq_true_iff.mp h).2
  refine dif_neg fun hupper => ?_
  exact absurd (UInt32.le_trans hupper.1 hsmall) (by decide)

/-- Digits are not one of the words. -/
theorem magnitude?_toDigits (h : (Nat.toDigits 10 n).length ≤ 310) :
    magnitude? (Nat.toDigits 10 n) = some (Float.ofNat n) := by
  have hlower : (Nat.toDigits 10 n).map Char.toLower = Nat.toDigits 10 n := by
    rw [List.map_congr_left fun c hc => toLower_of_isDigit (Json.isDigit_of_mem_toDigits hc),
      List.map_id']
  have hword : ∀ word : String, (∃ c ∈ word.toList, isDigit c = false) →
      String.ofList (Nat.toDigits 10 n) ≠ word := by
    rintro word ⟨c, hc, hnone⟩ rfl
    rw [String.toList_ofList] at hc
    rw [Json.isDigit_of_mem_toDigits hc] at hnone
    cases hnone
  unfold magnitude?
  dsimp only
  rw [hlower, if_neg (not_or.mpr ⟨hword _ ⟨'i', by decide, rfl⟩, hword _ ⟨'i', by decide, rfl⟩⟩),
    if_neg (hword _ ⟨'a', by decide, rfl⟩), plain?_toDigits h]

/-- An integer that is written down is read back, if it has no more digits than floating-point
    numbers can have. -/
theorem float?_toString {n : Int} (h : (Nat.toDigits 10 n.natAbs).length ≤ 310) :
    float? (toString n) = some (Float.ofInt n) := by
  cases n with
  | ofNat n =>
      have htext : (toString (Int.ofNat n)).toList = Nat.toDigits 10 n := Json.numberChars_ofNat n
      have hsign : ∀ c rest, isDigit c = false → Nat.toDigits 10 n ≠ c :: rest := by
        intro c rest hc hdigits
        rw [Json.isDigit_of_mem_toDigits (hdigits ▸ List.mem_cons_self)] at hc
        cases hc
      unfold float?
      rw [htext]
      split
      next rest hdigits => exact absurd hdigits (hsign _ _ rfl)
      next rest hdigits => exact absurd hdigits (hsign _ _ rfl)
      next => exact magnitude?_toDigits h
  | negSucc n =>
      have htext : (toString (Int.negSucc n)).toList = '-' :: Nat.toDigits 10 (n + 1) :=
        Json.numberChars_negSucc n
      unfold float?
      rw [htext]
      exact congrArg (Option.map fun x => -x) (magnitude?_toDigits h)

end Decimal

namespace Text

/-- A text without blanks stays as it is. -/
theorem trimmed_of_not_blank {cs : List Char} (h : ∀ c ∈ cs, isBlank c = false) :
    trimmed cs = cs := by
  have hkept : ∀ ds : List Char, (∀ c ∈ ds, isBlank c = false) → ds.dropWhile isBlank = ds := by
    intro ds hds
    cases ds with
    | nil => rfl
    | cons d ds =>
        rw [List.dropWhile_cons_of_neg]
        rw [hds d List.mem_cons_self]
        exact Bool.false_ne_true
  rw [trimmed, hkept cs h, hkept cs.reverse fun c hc => h c (List.mem_reverse.mp hc),
    List.reverse_reverse]

theorem trim_toString (n : Int) : trim (toString n) = toString n := by
  have hdigit : ∀ k : Nat, ∀ c ∈ Nat.toDigits 10 k, isBlank c = false := fun k c hc =>
    isBlank_of_isWord (isWord_of_isDigit
      (Nat.isDigit_of_mem_toDigits (by decide) (by decide) hc))
  rw [trim, trimmed_of_not_blank, String.ofList_toList]
  cases n with
  | ofNat n =>
      rw [show (toString (Int.ofNat n)).toList = _ from Json.numberChars_ofNat n]
      exact hdigit n
  | negSucc n =>
      rw [show (toString (Int.negSucc n)).toList = _ from Json.numberChars_negSucc n]
      exact List.forall_mem_cons.mpr ⟨by decide, hdigit (n + 1)⟩

end Text

/-! ### Reading a sum -/

/-- A floating-point number has the value of an integer. -/
def Representable (n : Int) : Prop :=
  ∃ significand exponent : Nat, significand < 2 ^ 53 ∧ exponent ≤ 971
    ∧ n.natAbs = significand * 2 ^ exponent

theorem Representable.length_digits {n : Int} (h : Representable n) :
    (Nat.toDigits 10 n.natAbs).length ≤ 310 := by
  rcases h with ⟨significand, exponent, hsignificand, hexponent, hn⟩
  refine (Nat.length_toDigits_le_iff (by decide) (by decide)).mpr ?_
  calc n.natAbs = significand * 2 ^ exponent := hn
    _ ≤ 2 ^ 53 * 2 ^ 971 :=
        Nat.mul_le_mul hsignificand.le (Nat.pow_le_pow_right (by decide) hexponent)
    _ < 10 ^ 310 := by decide +kernel

namespace Value

/-- A value shows an integer. -/
def Shows (n : Int) : Value → Prop
  | .int k => k.toInt = n
  | .float x => x = Float.ofInt n
  | .text s => s = toString n
  | _ => False

/-- The integer that a value is. -/
def whole : Value → Int
  | .int n => n.toInt
  | _ => 0

end Value

/-- Whatever shows an integer is read as its value. -/
theorem summedRows_of_shows {v : Value} {n : Int} (h : v.Shows n) (hn : Representable n)
    (rest : List Row) : summedRows (⟨[("total", v)]⟩ :: rest) = .ok (Float.ofInt n) := by
  cases v with
  | int k => exact congrArg (fun i => Except.ok (Float.ofInt i)) h
  | float x => exact congrArg Except.ok h
  | text s =>
      have hfloat : Decimal.float? (Text.trim s) = some (Float.ofInt n) := by
        rw [show s = toString n from h, Text.trim_toString,
          Decimal.float?_toString hn.length_digits]
      show Row.float ⟨[("total", .text s)]⟩ "total" = _
      have hcell : Row.require ⟨[("total", .text s)]⟩ "total" = .ok (.text s) := rfl
      rw [Row.float, hcell]
      simp only [bind, Except.bind, hfloat]
      rfl
  | _ => exact h.elim

/-! ### Groups -/

theorem place_perm (together : α → α → Bool) (a : α) (gs : List (List α)) :
    (place together a gs).flatten.Perm (a :: gs.flatten) := by
  induction gs with
  | nil => exact List.Perm.refl _
  | cons g gs ih =>
      rw [place]
      split
      · rw [List.flatten_cons, List.flatten_cons, List.append_assoc]
        exact List.perm_middle
      · rw [List.flatten_cons, List.flatten_cons]
        exact (ih.append_left g).trans List.perm_middle

namespace Semantics

variable (m : Semantics) (tables : String → List Row) {q : SelectQuery}

/-- The groups share out the combinations that were found. -/
theorem groups_perm (q : SelectQuery) (found : List Combination) :
    (m.groups q found).flatten.Perm found := by
  have hplaced : ∀ (as : List Combination) (gs : List (List Combination)),
      (as.foldl (fun gs a => place (m.together q.groupBy) a gs) gs).flatten.Perm
        (gs.flatten ++ as) := by
    intro as
    induction as with
    | nil => exact fun gs => (List.append_nil gs.flatten).symm ▸ List.Perm.refl _
    | cons a as ih =>
        intro gs
        exact (ih _).trans (((place_perm _ a gs).append_right as).trans List.perm_middle.symm)
  unfold groups
  split
  · split
    · rw [List.flatten_singleton]
    · rw [← List.flatMap_def, List.flatMap_singleton']
  · exact hplaced found []

/-- An aggregate has a row for each group: there is no order, no limit, and nothing is removed. -/
theorem evaluate_aggregate (q : SelectQuery) (p : Projection) :
    m.evaluate tables (q.aggregate p)
      = (m.groups (q.aggregate p) (m.matching tables q)).map fun g => m.row g p := by
  have hsorted : (m.drawn tables (q.aggregate p)).insertionSort
      (fun a b => m.before [] a.1 b.1 = true) = m.drawn tables (q.aggregate p) :=
    List.Pairwise.insertionSort_eq (List.pairwise_of_forall fun _ _ => rfl)
  show ((m.drawn tables (q.aggregate p)).insertionSort _).map _ = _
  rw [show (q.aggregate p).orderBy = [] from rfl, hsorted, drawn, List.map_map]
  rfl

/-- Sums of integers are exact if they are not too large, and nothing has no sum. -/
structure AddsUp (fits : Int → Prop) : Prop where
  -- What is not too large has a value among the floating-point numbers.
  representable : ∀ n, fits n → Representable n
  -- The sum of nothing is absent.
  nothing : m.sum [] = .null
  -- Other sums show what the integers add up to.
  shows : ∀ vs : List Value, vs ≠ [] → (∀ v ∈ vs, ∃ n, v = .int n) →
    fits (vs.map Value.whole).sum → (m.sum vs).Shows (vs.map Value.whole).sum

/-- The sum of an integer field over combinations. -/
def total (field : String) (found : List Combination) : Int :=
  (found.map fun a => (m.value field a).whole).sum

theorem total_flatten (field : String) (groups : List (List Combination)) :
    m.total field groups.flatten = (groups.map (m.total field)).sum := by
  unfold total
  rw [List.map_flatten, List.sum_flatten, List.map_map]
  rfl

theorem total_perm {field : String} {found found' : List Combination} (h : found.Perm found') :
    m.total field found = m.total field found' :=
  (h.map _).sum_eq

/-- The sum that is read is that of the first group. -/
theorem summedRows_evaluate {field : String} {fits : Int → Prop} (hadds : m.AddsUp fits)
    (hints : ∀ a ∈ m.matching tables q, ∃ n, m.value field a = .int n)
    (hfits : ∀ g ∈ m.groups (q.aggregate (.sum field)) (m.matching tables q),
      fits (m.total field g)) :
    summedRows (m.evaluate tables (q.aggregate (.sum field))) = .ok (Float.ofInt (m.total field
      ((m.groups (q.aggregate (.sum field)) (m.matching tables q)).headD []))) := by
  have hmembers := fun a =>
    (m.groups_perm (q.aggregate (.sum field)) (m.matching tables q)).mem_iff (a := a)
  rw [evaluate_aggregate]
  generalize m.groups (q.aggregate (.sum field)) (m.matching tables q) = groups at *
  rcases groups with _ | ⟨g, gs⟩
  · rfl
  · rw [List.map_cons, row, List.headD_cons]
    rcases g with _ | ⟨a, g⟩
    · rw [List.map_nil, hadds.nothing]
      rfl
    · have hsame : ((a :: g).map (m.value field)).map Value.whole
          = (a :: g).map fun b => (m.value field b).whole := List.map_map
      refine summedRows_of_shows ?_ (hadds.representable _ (hfits _ List.mem_cons_self)) _
      have hshown := hadds.shows ((a :: g).map (m.value field)) (List.cons_ne_nil _ _) ?_ ?_
      · rwa [hsame] at hshown
      · intro v hv
        rcases List.mem_map.mp hv with ⟨b, hb, rfl⟩
        exact hints b ((hmembers b).mp (List.mem_append_left _ hb))
      · rw [hsame]
        exact hfits _ List.mem_cons_self

end Semantics

/-! ### Sums of selections -/

/-- Calls that do not group leave a selection ungrouped. -/
theorem Selection.build_ungrouped (table : String) {calls : List Refinement}
    (h : ∀ field, .groupBy field ∉ calls) : (build table calls).query.groupBy = [] := by
  refine calls.foldlRecOn refine (motive := fun s => s.query.groupBy = [])
    (b := { query := { tables := [table] } }) rfl fun s hs r hr => ?_
  cases r with
  | groupBy field => exact absurd hr (h field)
  | _ => exact hs

namespace Database

variable {db : Database η σ} {m : Semantics} {contents : σ → String → List Row} {q : SelectQuery}
  {r : Statement}

theorem Evaluates.sum {field : String} (h : db.Evaluates m contents (q.aggregate (.sum field)))
    (hcompile : (q.aggregate (.sum field)).compile = .ok r) {s : State η σ}
    (hready : db.Ready m contents (q.aggregate (.sum field)) s) {x : Float}
    (hread : summedRows (m.evaluate (contents s.around.world) (q.aggregate (.sum field))) = .ok x) :
    ((db.sum q field).run.run s).1 = .ok x := by
  have hrows := h.rows hcompile hready
  unfold Database.sum
  rw [Attempt.run_bind]
  rcases hrun : (db.rows (q.aggregate (.sum field))).run.run s with ⟨result, t⟩
  rw [hrun] at hrows
  rw [show result = _ from hrows]
  dsimp only
  rw [hread]
  rfl

end Database

/-- A sum is that of the first group, and the groups share out everything that was found. So it is
    the sum of everything if there is one group at most, in particular if no call groups, and zero
    if nothing was found. Other calls make no difference. -/
theorem sum_of_calls (db : Database η σ) (m : Semantics) (contents : σ → String → List Row)
    (table : String) (calls : List Refinement) (field : String) (fits : Int → Prop) (r : Statement)
    (s : State η σ) :
    let q := (Selection.build table calls).query
    let summing := q.aggregate (.sum field)
    let found := m.matching (contents s.around.world) q
    let groups := m.groups summing found
    let answer := ((db.sum q field).run.run s).1
    summing.compile = .ok r →
    db.Evaluates m contents summing →
    db.Ready m contents summing s →
    m.AddsUp fits →
    (∀ a ∈ found, ∃ n, m.value field a = .int n) →
    (∀ g ∈ groups, fits (m.total field g)) →
    answer = .ok (Float.ofInt (m.total field (groups.headD [])))
      ∧ m.total field found = (groups.map (m.total field)).sum
      ∧ (groups.length ≤ 1 → answer = .ok (Float.ofInt (m.total field found)))
      ∧ ((∀ field, .groupBy field ∉ calls) → answer = .ok (Float.ofInt (m.total field found)))
      ∧ (found = [] → answer = .ok 0) := by
  intro q summing found groups answer hcompile hevaluates hready hadds hints hfits
  have hanswer : answer = .ok (Float.ofInt (m.total field (groups.headD []))) :=
    hevaluates.sum hcompile hready (m.summedRows_evaluate _ hadds hints hfits)
  have hshared : m.total field found = (groups.map (m.total field)).sum := by
    rw [← m.total_flatten, m.total_perm (m.groups_perm summing found)]
  have hsingle : groups.length ≤ 1 → answer = .ok (Float.ofInt (m.total field found)) := by
    intro hlength
    rw [hanswer, hshared]
    rcases groups with _ | ⟨g, _ | ⟨g', gs⟩⟩
    · rfl
    · rw [List.headD_cons, List.map_singleton, List.sum_singleton]
    · exact absurd hlength (by simp)
  refine ⟨hanswer, hshared, hsingle, fun hungrouped => hsingle ?_, fun hnone => ?_⟩
  · have hgroups : groups = [found] := by
      show m.groups summing found = [found]
      rw [Semantics.groups, show summing.groupBy = [] from
        Selection.build_ungrouped table hungrouped]
      rfl
    rw [hgroups]
    exact Nat.le_refl 1
  · have hflat : groups.flatten = [] :=
      (hnone ▸ m.groups_perm summing found : groups.flatten.Perm []).eq_nil
    have hfirst : groups.headD [] = [] := by
      rcases groups with _ | ⟨g, gs⟩
      · rfl
      · exact (List.append_eq_nil_iff.mp hflat).1
    rw [hanswer, hfirst]
    rfl

/-! ### Tables that are summed -/

/-- A sum as a database with a wider type for sums shows it: none of nothing, an integer if it
    fits, and a text otherwise. -/
def Value.added (vs : List Value) : Value :=
  let n := (vs.map Value.whole).sum
  if vs = [] then .null
  else if -2 ^ 63 ≤ n ∧ n < 2 ^ 63 then .int (Int64.ofInt n)
  else .text (toString n)

/-- Fields by their names, with such sums. -/
def Semantics.adding : Semantics :=
  { Semantics.plain with sum := Value.added }

theorem Semantics.adding_addsUp : Semantics.adding.AddsUp Representable where
  representable _ h := h
  nothing := rfl
  shows vs hvs _ _ := by
    show Value.Shows _ (Value.added vs)
    simp only [Value.added, if_neg hvs]
    split
    next hfits => exact Int64.toInt_ofInt_of_le hfits.1 hfits.2
    next => rfl

/-- A connection to tables of which the sums of one query are asked. -/
def Database.summing (q : SelectQuery) : Database Unit (String → List Row) :=
  { Database.answering q with
    client := { Client.answering q with
      query := fun _ _ _ tables =>
        ({ outcome := .ok (Semantics.adding.evaluate tables q) }, tables) } }

theorem Database.summing_evaluates (q : SelectQuery) :
    (Database.summing q).Evaluates .adding id q :=
  fun _ _ _ _ => ⟨rfl, rfl⟩

set_option maxRecDepth 20000 in
/-- Order, limit and removal of duplicates make no difference to the sum of two of three notes. -/
theorem sum_of_calls_filtered :
    let lists := ({ } : Conditions).equals "kind" (.scalar (.text "list"))
    let calls := [.filter lists, .orderBy "id" .descending, .distinct, .limit (.first 1)]
    let q := (Selection.build "notes" calls).query
    let summing := q.aggregate (.sum "id")
    let db := Database.summing summing
    let found := Semantics.adding.matching (fun _ => Row.notes) q
    (∃ r, summing.compile = .ok r)
      ∧ db.Evaluates .adding id summing
      ∧ db.Ready .adding id summing (.holding Row.notes)
      ∧ Semantics.adding.AddsUp Representable
      ∧ (∀ a ∈ found, ∃ n, Semantics.adding.value "id" a = .int n)
      ∧ (∀ g ∈ Semantics.adding.groups summing found, Representable (Semantics.adding.total "id" g))
      ∧ (∀ field, .groupBy field ∉ calls)
      ∧ ((db.sum q "id").run.run (.holding Row.notes)).1 = .ok (Float.ofInt 4) := by
  intro lists calls q summing db found
  have hcompile : summing.compile = .ok _ := rfl
  have hevaluates := Database.summing_evaluates summing
  have hready := @Database.holding_ready summing Row.notes db rfl .adding
  have hfound : found = [[⟨[("id", .int 1), ("kind", .text "list")]⟩],
      [⟨[("id", .int 3), ("kind", .text "list")]⟩]] := by decide
  have hints : ∀ a ∈ found, ∃ n, Semantics.adding.value "id" a = .int n := by
    rw [hfound]
    exact List.forall_mem_cons.mpr ⟨⟨1, by decide⟩, List.forall_mem_singleton.mpr ⟨3, by decide⟩⟩
  have hfits : ∀ g ∈ Semantics.adding.groups summing found,
      Representable (Semantics.adding.total "id" g) := by
    rw [show Semantics.adding.groups summing found = [found] from rfl, hfound]
    exact List.forall_mem_singleton.mpr ⟨4, 0, by decide, by decide, by decide⟩
  have hungrouped : ∀ field, Refinement.groupBy field ∉ calls := by
    intro field
    simp only [calls, List.mem_cons, reduceCtorEq, List.not_mem_nil, or_self, not_false_eq_true]
  rcases sum_of_calls db .adding id "notes" calls "id" Representable _ (.holding Row.notes) hcompile
    hevaluates hready Semantics.adding_addsUp hints hfits with ⟨-, -, -, hsum, -⟩
  exact ⟨⟨_, hcompile⟩, hevaluates, hready, Semantics.adding_addsUp, hints, hfits, hungrouped,
    hsum hungrouped⟩

set_option maxRecDepth 20000 in
/-- Three notes of two kinds, summed by kind: what is returned is the sum of the first kind. -/
theorem sum_of_first_group :
    let q := (Selection.build "notes" [.groupBy "kind"]).query
    let db := Database.summing (q.aggregate (.sum "id"))
    let found := Semantics.adding.matching (fun _ => Row.notes) q
    Semantics.adding.total "id" found = 6
      ∧ ((db.sum q "id").run.run (.holding Row.notes)).1 = .ok (Float.ofInt 4)
      ∧ ((db.sum q "id").run.run (.holding Row.notes)).1
        ≠ .ok (Float.ofInt (Semantics.adding.total "id" found)) := by
  intro q db found
  have hsum : ((db.sum q "id").run.run (.holding Row.notes)).1 = .ok (Float.ofInt 4) :=
    (Database.summing_evaluates (q.aggregate (.sum "id"))).sum rfl
      (@Database.holding_ready (q.aggregate (.sum "id")) Row.notes db rfl .adding) rfl
  have htotal : Semantics.adding.total "id" found = 6 := by decide
  refine ⟨htotal, hsum, ?_⟩
  rw [hsum, htotal]
  intro hsame
  exact absurd (Except.ok.inj hsame) (by decide)

end SqlMapper
