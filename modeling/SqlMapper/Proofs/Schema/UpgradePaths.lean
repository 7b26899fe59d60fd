import SqlMapper.Proofs.Condition.Names
import SqlMapper.Schema.Basic

/-!
# Upgrade Paths

Which statements lead from one version of a schema to another.

A list for exactly the two versions is the path. Without one the path goes step
by step, and either every step has a list, so the path is all of them behind one
another, or there is a first step that has none, and its key is the error. The
keys cannot be mistaken for each other, because the digits of a version hold no
underscore.

Versions are numbers of 32 bits and the steps count up. The counter is below the
newer version whenever it is counted up, so there is always room for one more,
even if the newer version is the last one that there is. `Schema.checkedPath?`
counts in 32 bits and gives up when there is no room, and it never does.

Steps can be taken apart anywhere, so if only steps have lists, paths can be put
together: what leads to a version in between, and then what leads on from there.

## Main definitions

* `Schema.stepLists`: The lists of consecutive steps.
* `Schema.Resolves`: What the statements between two versions are.
* `Schema.walk?`, `Schema.checkedPath?`: The steps, counted in 32 bits.
* `Schema.Stepwise`: Only steps have lists.

## Theorems

* `Schema.scriptKey_inj`: A key determines its versions.
* `Schema.walk?_eq`: Counting in 32 bits never fails.
* `Schema.upgradePath_eq_iff`: A path is what it should be.
* `Schema.Stepwise.upgradePath_trans`: Paths are put together.
* `Schema.upgrade_paths_resolve`: All of it.
-/

namespace SqlMapper

namespace Schema

variable {s : Schema}

/-! ### Keys -/

/-- A key determines its versions. -/
theorem scriptKey_inj {older newer older' newer' : Nat}
    (h : scriptKey older newer = scriptKey older' newer') : older = older' ∧ newer = newer' :=
  (numbered_inj h).imp_left toString_nat_inj

/-! ### Steps -/

/-- The list of every step from a version on, so many of them. -/
def stepLists (s : Schema) (older steps : Nat) : List (Option (List String)) :=
  (List.range' older steps).map fun v => s.script? v (v + 1)

theorem consecutive_missing {older : Nat} (h : s.script? older (older + 1) = none)
    (steps : Nat) : s.consecutive older (steps + 1) = .error (scriptKey older (older + 1)) := by
  simp only [consecutive, h]

theorem consecutive_listed {older : Nat} {statements : List String}
    (h : s.script? older (older + 1) = some statements) (steps : Nat) :
    s.consecutive older (steps + 1)
      = (s.consecutive (older + 1) steps).map (statements ++ ·) := by
  simp only [consecutive, h]
  cases s.consecutive (older + 1) steps <;> rfl

/-- Every step has a list, and the statements are all of them behind one another. -/
theorem consecutive_eq_ok_iff {older steps : Nat} {statements : List String} :
    s.consecutive older steps = .ok statements ↔
      ∃ lists : List (List String),
        s.stepLists older steps = lists.map some ∧ statements = lists.flatten := by
  induction steps generalizing older statements with
  | zero =>
      simp only [consecutive, Except.ok.injEq, stepLists, List.range'_zero, List.map_nil]
      constructor
      · rintro rfl
        exact ⟨[], rfl, rfl⟩
      · rintro ⟨lists, hlists, rfl⟩
        rw [List.map_eq_nil_iff.mp hlists.symm]
        rfl
  | succ steps ih =>
      have hlists : s.stepLists older (steps + 1)
          = s.script? older (older + 1) :: s.stepLists (older + 1) steps := rfl
      rw [hlists]
      rcases hstep : s.script? older (older + 1) with _ | first
      · rw [consecutive_missing hstep]
        refine iff_of_false nofun ?_
        rintro ⟨_ | ⟨first, lists⟩, hlists, -⟩
        · cases hlists
        · cases (List.cons.inj hlists).1
      · rw [consecutive_listed hstep]
        constructor
        · intro h
          rcases hrest : s.consecutive (older + 1) steps with e | rest
          · rw [hrest] at h
            cases h
          · rw [hrest] at h
            cases h
            rcases ih.mp hrest with ⟨lists, hlists, rfl⟩
            exact ⟨first :: lists, by rw [hlists, List.map_cons], by rw [List.flatten_cons]⟩
        · rintro ⟨_ | ⟨first', lists⟩, hlists, rfl⟩
          · cases hlists
          · rcases List.cons.inj hlists with ⟨hfirst, hrest⟩
            cases hfirst
            rw [ih.mpr ⟨lists, hrest, rfl⟩]
            rfl

/-- There is a first step without a list, and its key is the error. -/
theorem consecutive_eq_error_iff {older steps : Nat} {key : String} :
    s.consecutive older steps = .error key ↔
      ∃ v, older ≤ v ∧ v < older + steps ∧ s.script? v (v + 1) = none ∧
        (∀ w, older ≤ w → w < v → s.script? w (w + 1) ≠ none) ∧ key = scriptKey v (v + 1) := by
  induction steps generalizing older with
  | zero =>
      refine iff_of_false nofun ?_
      rintro ⟨v, hle, hlt, -⟩
      omega
  | succ steps ih =>
      rcases hstep : s.script? older (older + 1) with _ | first
      · rw [consecutive_missing hstep, Except.error.injEq]
        constructor
        · rintro rfl
          exact ⟨older, Nat.le_refl _, by omega, hstep, fun w hle hlt => by omega, rfl⟩
        · rintro ⟨v, hle, -, -, hleast, rfl⟩
          -- Nothing is missing before the first that is.
          rcases Nat.eq_or_lt_of_le hle with rfl | hlt
          · rfl
          · exact absurd hstep (hleast older (Nat.le_refl _) hlt)
      · rw [consecutive_listed hstep]
        have herror : (s.consecutive (older + 1) steps).map (first ++ ·) = .error key ↔
            s.consecutive (older + 1) steps = .error key := by
          cases s.consecutive (older + 1) steps <;> simp [Except.map]
        rw [herror, ih]
        constructor
        · rintro ⟨v, hle, hlt, hnone, hleast, rfl⟩
          refine ⟨v, by omega, by omega, hnone, fun w hw hwv => ?_, rfl⟩
          rcases Nat.eq_or_lt_of_le hw with rfl | hw
          · rw [hstep]
            nofun
          · exact hleast w hw hwv
        · rintro ⟨v, hle, hlt, hnone, hleast, rfl⟩
          have hne : older ≠ v := by
            rintro rfl
            rw [hstep] at hnone
            cases hnone
          exact ⟨v, by omega, by omega, hnone, fun w hw => hleast w (by omega), rfl⟩

/-- Steps can be taken apart anywhere. -/
theorem consecutive_add (older m n : Nat) :
    s.consecutive older (m + n) = do
      return (← s.consecutive older m) ++ (← s.consecutive (older + m) n) := by
  induction m generalizing older with
  | zero =>
      rw [Nat.zero_add]
      cases s.consecutive older n <;> rfl
  | succ m ih =>
      rw [show m + 1 + n = m + n + 1 by omega, show older + (m + 1) = older + 1 + m by omega]
      rcases hstep : s.script? older (older + 1) with _ | first
      · rw [consecutive_missing hstep, consecutive_missing hstep]
        rfl
      · rw [consecutive_listed hstep, consecutive_listed hstep, ih]
        cases s.consecutive (older + 1) m with
        | error e => rfl
        | ok before =>
            cases s.consecutive (older + 1 + m) n with
            | error e => rfl
            | ok behind => exact congrArg Except.ok (List.append_assoc first before behind).symm

/-! ### Counting in 32 bits -/

/-- The version behind a version, if there is room for it. -/
def nextVersion? (v : UInt32) : Option UInt32 :=
  if v.toNat + 1 < UInt32.size then some (v + 1) else none

theorem toNat_nextVersion? {v next : UInt32} (h : nextVersion? v = some next) :
    next.toNat = v.toNat + 1 := by
  rw [nextVersion?, Option.ite_none_right_eq_some, Option.some.injEq] at h
  rcases h with ⟨hroom, rfl⟩
  rw [UInt32.toNat_add, UInt32.toNat_one]
  exact Nat.mod_eq_of_lt hroom

/-- Below another version there is room for the next one. -/
theorem exists_nextVersion? {v newer : UInt32} (h : v < newer) :
    ∃ next, nextVersion? v = some next := by
  have hlt : v.toNat < newer.toNat := UInt32.lt_iff_toNat_lt.mp h
  have hsize : newer.toNat < UInt32.size := newer.toNat_lt
  exact ⟨v + 1, if_pos (by omega)⟩

/-- The statements gathered so far and those of the steps up to a version, or the key of the first
    step that is missing; nothing if a version does not fit 32 bits. -/
def walk? (s : Schema) (gathered : List String) (v newer : UInt32) :
    Option (Except String (List String)) :=
  if v < newer then
    match _hnext : nextVersion? v with
    | none => none
    | some next =>
      match s.script? v.toNat next.toNat with
      | none => some (.error (scriptKey v.toNat next.toNat))
      | some statements => s.walk? (gathered ++ statements) next newer
  else
    some (.ok gathered)
termination_by newer.toNat - v.toNat
decreasing_by
  have hlt : v.toNat < newer.toNat := UInt32.lt_iff_toNat_lt.mp ‹_›
  have hsucc := toNat_nextVersion? _hnext
  omega

/-- The statements between two versions, counted in 32 bits. -/
def checkedPath? (s : Schema) (older newer : UInt32) : Option (Except String (List String)) :=
  match s.script? older.toNat newer.toNat with
  | some statements => some (.ok statements)
  | none => s.walk? [] older newer

/-- Counting in 32 bits never fails, and it finds the consecutive steps. -/
theorem walk?_eq (gathered : List String) (v newer : UInt32) :
    s.walk? gathered v newer
      = some ((s.consecutive v.toNat (newer.toNat - v.toNat)).map (gathered ++ ·)) := by
  induction hsteps : newer.toNat - v.toNat generalizing gathered v with
  | zero =>
      have hend : ¬ v < newer := by
        rw [UInt32.lt_iff_toNat_lt]
        omega
      rw [walk?, if_neg hend, consecutive, Except.map, List.append_nil]
  | succ steps ih =>
      have hlt : v < newer := by
        rw [UInt32.lt_iff_toNat_lt]
        omega
      rcases exists_nextVersion? hlt with ⟨next, hnext⟩
      have hsucc := toNat_nextVersion? hnext
      rw [walk?, if_pos hlt]
      split
      next hnone => exact absurd (hnext.symm.trans hnone) nofun
      next next' hnext' =>
        cases hnext.symm.trans hnext'
        rw [hsucc]
        rcases hstep : s.script? v.toNat (v.toNat + 1) with _ | first
        · rw [consecutive_missing hstep]
          rfl
        · rw [consecutive_listed hstep, ← hsucc]
          simp only
          rw [ih (gathered ++ first) next (by omega)]
          cases s.consecutive next.toNat steps with
          | error e => rfl
          | ok rest => exact congrArg (some ∘ Except.ok) (List.append_assoc gathered first rest)

theorem checkedPath?_eq (older newer : UInt32) :
    s.checkedPath? older newer = some (s.upgradePath older newer) := by
  rw [checkedPath?, upgradePath]
  cases s.script? older.toNat newer.toNat with
  | some statements => rfl
  | none =>
      rw [walk?_eq]
      cases s.consecutive older.toNat (newer.toNat - older.toNat) <;> rfl

/-! ### Paths -/

/-- What the statements between two versions are, or the key of the step that they lack. -/
inductive Resolves (s : Schema) (older newer : Nat) : Except String (List String) → Prop
  /-- There is a list for exactly these versions. -/
  | direct {statements : List String} (h : s.script? older newer = some statements) :
      Resolves s older newer (.ok statements)
  /-- There is none, but every step has one. -/
  | stepwise {lists : List (List String)} (hnone : s.script? older newer = none)
      (h : s.stepLists older (newer - older) = lists.map some) :
      Resolves s older newer (.ok lists.flatten)
  /-- There is none, and no step before this one lacks one. -/
  | missing {v : Nat} (hnone : s.script? older newer = none) (hle : older ≤ v) (hlt : v < newer)
      (hmissing : s.script? v (v + 1) = none)
      (hleast : ∀ w, older ≤ w → w < v → s.script? w (w + 1) ≠ none) :
      Resolves s older newer (.error (scriptKey v (v + 1)))

/-- A path is what it should be. -/
theorem upgradePath_eq_iff {older newer : UInt32} {r : Except String (List String)} :
    s.upgradePath older newer = r ↔ s.Resolves older.toNat newer.toNat r := by
  rw [upgradePath]
  rcases hdirect : s.script? older.toNat newer.toNat with _ | direct
  · constructor
    · intro h
      cases r with
      | ok statements =>
          rcases consecutive_eq_ok_iff.mp h with ⟨lists, hlists, rfl⟩
          exact .stepwise hdirect hlists
      | error key =>
          rcases consecutive_eq_error_iff.mp h with ⟨v, hle, hlt, hmissing, hleast, rfl⟩
          exact .missing hdirect hle (by omega) hmissing hleast
    · intro h
      cases h with
      | direct h => exact absurd (hdirect.symm.trans h) nofun
      | stepwise _ hlists => exact consecutive_eq_ok_iff.mpr ⟨_, hlists, rfl⟩
      | @missing v _ hle hlt hmissing hleast =>
          exact consecutive_eq_error_iff.mpr ⟨v, hle, by omega, hmissing, hleast, rfl⟩
  · constructor
    · rintro rfl
      exact .direct hdirect
    · intro h
      cases h with
      | direct h => exact congrArg Except.ok (Option.some.inj (hdirect.symm.trans h))
      | stepwise hnone _ => exact absurd (hdirect.symm.trans hnone) nofun
      | missing hnone _ _ _ _ => exact absurd (hdirect.symm.trans hnone) nofun

/-- Only steps have lists. -/
def Stepwise (s : Schema) : Prop :=
  ∀ older newer : UInt32, s.script? older.toNat newer.toNat ≠ none →
    newer.toNat = older.toNat + 1

theorem stepwise_of_keys (h : ∀ key ∈ s.upgrades.keys, ∃ v, key = scriptKey v (v + 1)) :
    s.Stepwise := by
  intro older newer hlisted
  rcases Option.ne_none_iff_exists'.mp hlisted with ⟨statements, hstatements⟩
  have hmem := List.mem_map_of_mem (f := (·.1)) (OrderedMap.mem_of_lookup hstatements)
  rcases h _ hmem with ⟨v, hv⟩
  rcases scriptKey_inj hv with ⟨rfl, hnewer⟩
  exact hnewer

theorem Stepwise.upgradePath_eq (h : s.Stepwise) (older newer : UInt32) :
    s.upgradePath older newer = s.consecutive older.toNat (newer.toNat - older.toNat) := by
  rw [upgradePath]
  rcases hdirect : s.script? older.toNat newer.toNat with _ | direct
  · rfl
  · have hsucc : newer.toNat = older.toNat + 1 := h older newer (by rw [hdirect]; nofun)
    rw [hsucc] at hdirect
    rw [hsucc, Nat.add_sub_cancel_left, consecutive_listed hdirect]
    exact congrArg Except.ok (List.append_nil direct).symm

/-- Paths are put together if only steps have lists. -/
theorem Stepwise.upgradePath_trans (h : s.Stepwise) {a b c : UInt32} (hab : a ≤ b)
    (hbc : b ≤ c) :
    s.upgradePath a c = do return (← s.upgradePath a b) ++ (← s.upgradePath b c) := by
  rw [UInt32.le_iff_toNat_le] at hab hbc
  have hsteps : c.toNat - a.toNat = (b.toNat - a.toNat) + (c.toNat - b.toNat) := by omega
  rw [h.upgradePath_eq, h.upgradePath_eq, h.upgradePath_eq, hsteps, consecutive_add,
    Nat.add_sub_cancel' hab]

/-- Between any two versions a path is a direct list, or else the lists of all steps, or else the
    key of the first step without one, and no version outgrows 32 bits on the way. A key determines
    its versions. If only steps have lists, a path is put together from the paths to and from any
    version in between, and it lacks what the first of them lacks. -/
theorem upgrade_paths_resolve (s : Schema) :
    (∀ older newer : UInt32,
      s.checkedPath? older newer = some (s.upgradePath older newer) ∧
        ∀ r, s.upgradePath older newer = r ↔ s.Resolves older.toNat newer.toNat r) ∧
    (∀ older newer older' newer' : UInt32,
      scriptKey older.toNat newer.toNat = scriptKey older'.toNat newer'.toNat →
        older = older' ∧ newer = newer') ∧
    (s.Stepwise → ∀ a b c : UInt32, a ≤ b → b ≤ c →
      s.upgradePath a c = do return (← s.upgradePath a b) ++ (← s.upgradePath b c)) := by
  refine ⟨fun older newer => ⟨checkedPath?_eq older newer, fun r => upgradePath_eq_iff⟩, ?_, ?_⟩
  · intro older newer older' newer' h
    exact (scriptKey_inj h).imp UInt32.toNat_inj.mp UInt32.toNat_inj.mp
  · exact fun h a b c => h.upgradePath_trans

/-- Steps up to the last version that there is. -/
theorem upgrade_paths_resolve_limit :
    let s : Schema := {
      primaryKey := (Column.int "id" 0).counting
      others := []
      unique := []
      fullText := []
      version := 4294967295
      upgrades := { entries := [("1_2", ["A"]), ("2_3", ["B", "C"]),
        ("4294967294_4294967295", ["Z"])] } }
    s.Stepwise ∧
      s.upgradePath 1 3 = .ok ["A", "B", "C"] ∧
      s.upgradePath 3 4294967295 = .error "3_4" ∧
      s.checkedPath? 4294967294 4294967295 = some (.ok ["Z"]) ∧
      s.upgradePath 1 3 = do return (← s.upgradePath 1 2) ++ (← s.upgradePath 2 3) := by
  intro s
  have hsteps : s.Stepwise := by
    refine stepwise_of_keys fun key hkey => ?_
    rcases List.mem_cons.mp hkey with rfl | hkey
    · exact ⟨1, by decide⟩
    · rcases List.mem_cons.mp hkey with rfl | hkey
      · exact ⟨2, by decide⟩
      · exact ⟨4294967294, List.mem_singleton.mp hkey⟩
  rcases upgrade_paths_resolve s with ⟨hpaths, -, htrans⟩
  refine ⟨hsteps, ?_, ?_, ?_, htrans hsteps 1 2 3 (by decide) (by decide)⟩
  · exact ((hpaths 1 3).2 _).mpr
      (@Resolves.stepwise s 1 3 [["A"], ["B", "C"]] (by decide) (by decide))
  · exact ((hpaths 3 4294967295).2 _).mpr
      (@Resolves.missing s 3 4294967295 3 (by decide) (Nat.le_refl 3) (by decide) (by decide)
        fun w hle hlt => absurd hle (Nat.not_le.mpr hlt))
  · have hlast := ((hpaths 4294967294 4294967295).2 _).mpr
      (@Resolves.direct s 4294967294 4294967295 ["Z"] (by decide))
    rw [(hpaths 4294967294 4294967295).1, hlast]

end Schema

end SqlMapper
