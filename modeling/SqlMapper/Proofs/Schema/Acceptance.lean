import SqlMapper.Schema.Basic
import Mathlib.Tactic.Common

/-!
# Accepted Entities

What it takes for an entity to have a schema.

The checks are passed one behind the other: the version counts from one, one
column at most counts up by itself, and every constraint names a column that is
there. Nothing else is asked, and the schema is the entity without the columns
that repeat the name of the key.

## Main definitions

* `Entity.layout`: The schema an entity has if it is accepted.
* `Entity.Consistent`: What the checks ask for.

## Theorems

* `schema_eq_ok_iff`: A consistent entity has its layout for a schema, and no other has one.
* `isUnique_iff`: What is unique in a schema.
* `count_compositeKeys`: Constraints on several columns are kept, each as often as it is given.
-/

namespace SqlMapper

variable {e : Entity} {s : Schema}

/-- The schema of an entity: a column that repeats the name of the key is left out. -/
def Entity.layout (e : Entity) : Schema where
  primaryKey := e.primaryKey
  others := e.columns.filter fun c => c.name != e.primaryKey.name
  unique := e.unique
  fullText := e.fullText
  version := e.version
  upgrades := e.upgrades

/-- A schema has a column of some name. -/
def Schema.HasColumn (s : Schema) (name : String) : Prop :=
  ∃ c ∈ s.columns, c.name = name

/-- What is asked of an entity. -/
structure Entity.Consistent (e : Entity) : Prop where
  version : e.version ≠ 0
  counting : (e.layout.columns.filter (·.autoIncrement)).length ≤ 1
  unique : ∀ k ∈ e.unique, ∀ name ∈ k.columns, e.layout.HasColumn name
  fullText : ∀ name ∈ e.fullText, e.layout.HasColumn name

theorem hasColumn_iff {name : String} :
    (s.columns.any fun c => c.name == name) = true ↔ s.HasColumn name := by
  simp only [List.any_eq_true, beq_iff_eq, Schema.HasColumn]

/-- No name of a list is unknown exactly if there is a column for each. -/
theorem find?_unknown (s : Schema) (names : List String) :
    (names.find? fun name => !s.columns.any fun c => c.name == name) = none
      ↔ ∀ name ∈ names, s.HasColumn name := by
  simp only [List.find?_eq_none, Bool.not_eq_true', Bool.not_eq_false, hasColumn_iff]

/-- The checks, one behind the other. -/
theorem schema_eq : e.schema =
    if e.version = 0 then .error (.field "schema_version" "versions start at 1")
    else if 1 < (e.layout.columns.filter (·.autoIncrement)).length then
      .error (.field e.primaryKey.name "at most one auto-increment column is allowed")
    else match (e.unique.flatMap UniqueKey.columns).find?
        fun name => !e.layout.columns.any fun c => c.name == name with
      | some name => .error (.field name "unique key names an unknown column")
      | none =>
        match e.fullText.find? fun name => !e.layout.columns.any fun c => c.name == name with
        | some name => .error (.field name "full-text key names an unknown column")
        | none => .ok e.layout := by
  unfold Entity.schema
  by_cases hversion : e.version = 0
  · rw [if_pos hversion, if_pos hversion]
    rfl
  · rw [if_neg hversion, if_neg hversion]
    by_cases hcounting : 1 < (e.layout.columns.filter (·.autoIncrement)).length
    · rw [if_pos hcounting]
      exact if_pos hcounting
    · rw [if_neg hcounting]
      exact if_neg hcounting

/-- A consistent entity has its layout for a schema, and no other entity has a schema. -/
theorem schema_eq_ok_iff : e.schema = .ok s ↔ e.Consistent ∧ s = e.layout := by
  have hkeys : (∀ name ∈ e.unique.flatMap UniqueKey.columns, e.layout.HasColumn name)
      ↔ ∀ k ∈ e.unique, ∀ name ∈ k.columns, e.layout.HasColumn name := by
    simp only [List.mem_flatMap, forall_exists_index, and_imp]
    exact ⟨fun h k hk name hname => h name k hk hname, fun h name k hk hname => h k hk name hname⟩
  have hunique := (find?_unknown e.layout _).trans hkeys
  have hfullText := find?_unknown e.layout e.fullText
  rw [schema_eq]
  constructor
  · intro h
    split_ifs at h with hversion hcounting
    split at h
    · cases h
    · rename_i hnone
      split at h
      · cases h
      · rename_i hnone'
        cases h
        exact ⟨⟨hversion, Nat.not_lt.mp hcounting, hunique.mp hnone, hfullText.mp hnone'⟩, rfl⟩
  · rintro ⟨h, rfl⟩
    rw [if_neg h.version, if_neg (Nat.not_lt.mpr h.counting), hunique.mpr h.unique]
    simp only [hfullText.mpr h.fullText]

/-! ### Keys of a schema -/

theorem isUnique_iff {name : String} : s.isUnique name = true ↔ .single name ∈ s.unique := by
  simp only [Schema.isUnique, List.any_eq_true, decide_eq_true_eq, exists_eq_right]

theorem mem_compositeKeys {names : List String} :
    names ∈ s.compositeKeys ↔ .composite names ∈ s.unique := by
  rw [Schema.compositeKeys, List.mem_filterMap]
  constructor
  · rintro ⟨k, hk, hnames⟩
    cases k with
    | single name => cases hnames
    | composite names' =>
        cases hnames
        exact hk
  · exact fun h => ⟨_, h, rfl⟩

/-- A constraint on several columns is kept as often as it is given. -/
theorem count_compositeKeys (names : List String) :
    s.compositeKeys.count names = s.unique.count (.composite names) := by
  rw [Schema.compositeKeys, List.count_filterMap, List.count]
  refine List.countP_congr fun k _ => ?_
  cases k with
  | single name => simp
  | composite names' => simp

end SqlMapper
