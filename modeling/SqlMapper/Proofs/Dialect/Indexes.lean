import SqlMapper.Proofs.Dialect.Constraints

/-!
# Indexed Columns

Which columns under a key have a type that MySQL can index.

MySQL indexes a column of any of its types as a whole, but for texts that have no
bound. So a text under a key has to be declared with a bound. A text with a
constraint of its own gets one. The declaration of a column does not see the key
of the table or the constraints on several columns, so an unbounded text in one
of those is declared as it would be in none, and the table cannot be created.

## Main definitions

* `indexedTypes`: The types that can be indexed as a whole.
* `Part.Keys`: A part of a declaration puts a column under a key.
* `Column.isBounded`: Values of a column are bounded by themselves.

## Theorems

* `isIndexable_declared`: Which columns are declared with such a type.
* `keys_iff`: Which columns are put under a key.
* `key_columns_indexable`: Both together.
* `mysql_group_unindexable`: An unbounded text among several columns has no such type.
-/

namespace SqlMapper

/-- Whether the values of a column are bounded by themselves. -/
def Column.isBounded (c : Column) : Bool :=
  match c.kind with
  | .int | .float | .boolean => true
  | .text => c.length.isSome
  | .structured => false

/-- Whether a column of texts has a constraint of its own. -/
def Entity.Singles (e : Entity) (c : Column) : Prop :=
  c.kind = .text ∧ c.name ≠ e.primaryKey.name ∧ .single c.name ∈ e.unique

instance (e : Entity) (c : Column) : Decidable (e.Singles c) :=
  inferInstanceAs (Decidable (c.kind = .text ∧ c.name ≠ e.primaryKey.name ∧ _))

namespace Ddl

/-- The types that MySQL indexes as a whole, of those that are declared. -/
def indexedTypes : List String :=
  ["BIGINT", "DECIMAL", "TINYINT", "VARCHAR"]

/-- A part of a declaration puts a column under a key. -/
def Part.Keys (p : Part) (name : String) : Prop :=
  match p with
  | .column d => d.name = name ∧ (.unique ∈ d.options ∨ .primaryKey ∈ d.options)
  | .primaryKey names | .unique names => name ∈ names
  | .fullText _ _ => False

/-- A text is declared with a bound if it has one, or if it has a constraint of its own. -/
theorem declaredType_indexed (c : Column) (unique : Bool) :
    (MySql.declaredType c unique).1 ∈ indexedTypes
      ↔ c.isBounded = true ∨ c.kind = .text ∧ unique = true := by
  have hbounded : "VARCHAR" ∈ indexedTypes := by decide
  have hlong : "LONGTEXT" ∉ indexedTypes := by decide
  rw [MySql.declaredType, Column.isBounded]
  cases hkind : c.kind <;> simp only [reduceCtorEq, false_and, or_false, true_and, iff_true,
    iff_false]
  case text =>
    cases unique with
    | true => exact iff_of_true hbounded (Or.inr rfl)
    | false =>
        rw [MySql.declaredLength, if_neg Bool.false_ne_true]
        cases c.length with
        | none =>
            refine iff_of_false ?_ (by decide)
            cases c.default.isNull <;> decide
        | some length => exact iff_of_true hbounded (Or.inl rfl)
  case structured => exact hlong
  all_goals decide

/-- A column has a type that can be indexed if its values are bounded, or if it is a text with a
    constraint of its own. -/
theorem isIndexable_declared (e : Entity) :
    List.Forall₂ (fun c d => d.name = c.name
        ∧ (d.type ∈ indexedTypes ↔ c.isBounded = true ∨ e.Singles c))
      e.layout.columns (Flavor.mysql.columns e.layout) := by
  rw [Flavor.columns, MySql.declaredColumns, List.forall₂_map_right_iff, List.forall₂_same]
  intro c _
  refine ⟨rfl, ?_⟩
  rw [MySql.declaredColumn, declaredType_indexed, Bool.and_eq_true, isUnique_iff, bne_iff_ne]
  rfl

theorem primaryKey_not_mem {c : Column} {unique : Bool} :
    .primaryKey ∉ (MySql.declaredColumn c unique).options := by
  intro h
  rcases MySql.declaredOptions_form h with h | h | ⟨v, h⟩ <;> cases h

/-- A column is put under a key by the key of the table, by a constraint of its own, or by one on
    several columns. -/
theorem keys_iff (e : Entity) (name : String) :
    (∃ p ∈ (Flavor.mysql.columns e.layout).map .column ++ Flavor.mysql.constraints e.layout,
        p.Keys name)
      ↔ name = e.primaryKey.name
        ∨ (∃ d ∈ Flavor.mysql.columns e.layout, d.name = name ∧ .unique ∈ d.options)
        ∨ ∃ group, .composite group ∈ e.unique ∧ name ∈ group := by
  constructor
  · rintro ⟨p, hp, hkeys⟩
    rw [Flavor.constraints, List.mem_append, List.mem_append, List.mem_cons] at hp
    rcases hp with hp | (rfl | hp) | hp
    · rcases List.mem_map.mp hp with ⟨d, hd, rfl⟩
      rcases hkeys with ⟨hname, hunique | hprimary⟩
      · exact Or.inr (Or.inl ⟨d, hd, hname, hunique⟩)
      · rcases List.mem_map.mp hd with ⟨c, -, rfl⟩
        exact absurd hprimary primaryKey_not_mem
    · exact Or.inl (List.mem_singleton.mp hkeys)
    · rcases List.mem_map.mp hp with ⟨group, hgroup, rfl⟩
      exact Or.inr (Or.inr ⟨group, mem_compositeKeys.mp hgroup, hkeys⟩)
    · split at hp
      · cases hp
      · rw [List.mem_singleton.mp hp] at hkeys
        exact hkeys.elim
  · rintro (rfl | ⟨d, hd, hname, hunique⟩ | ⟨group, hgroup, hname⟩)
    · refine ⟨.primaryKey [e.primaryKey.name], List.mem_append_right _ ?_, List.mem_cons_self⟩
      exact List.mem_append_left _ List.mem_cons_self
    · exact ⟨.column d, List.mem_append_left _ (List.mem_map_of_mem hd), hname, Or.inl hunique⟩
    · refine ⟨.unique group, List.mem_append_right _ (List.mem_append_left _ ?_), hname⟩
      exact List.mem_cons_of_mem _ (List.mem_map_of_mem (mem_compositeKeys.mpr hgroup))

/-- A column of the key of the table, with a constraint of its own or among several columns with
    one is indexed as a whole if its values are bounded, or if it is a text with a constraint of
    its own, and only then. -/
theorem key_columns_indexable {e : Entity} {s : Schema} (h : e.schema = .ok s)
    (isName : String → Bool) (table charset : String) :
    ∃ (columns : List ColumnDefinition) (constraints : List Part),
      Declares { flavor := .mysql, isName } (Dialect.mysql.createTable s table charset) table
          (columns.map .column ++ constraints)
        ∧ List.Forall₂ (fun c d => d.name = c.name
              ∧ (d.type ∈ indexedTypes ↔ c.isBounded = true ∨ e.Singles c)) s.columns columns
        ∧ (∀ d, .column d ∉ constraints)
        ∧ ∀ name, (∃ p ∈ columns.map .column ++ constraints, p.Keys name)
          ↔ name = e.primaryKey.name ∨ (∃ d ∈ columns, d.name = name ∧ .unique ∈ d.options)
            ∨ ∃ group, .composite group ∈ e.unique ∧ name ∈ group := by
  rcases schema_eq_ok_iff.mp h with ⟨-, rfl⟩
  exact ⟨Flavor.mysql.columns e.layout, Flavor.mysql.constraints e.layout,
    declares_createTable .mysql isName e.layout table charset, isIndexable_declared e,
    column_not_mem_constraints .mysql e.layout, keys_iff e⟩

theorem key_columns_indexable_seating :
    seating.schema = .ok seating.layout ∧ ∃ (columns : List ColumnDefinition)
        (constraints : List Part),
      Declares { flavor := .mysql, isName := fun _ => false }
          (Dialect.mysql.createTable seating.layout "t" "utf8") "t"
          (columns.map .column ++ constraints)
        ∧ (columns.map fun d => (d.name, decide (d.type ∈ indexedTypes)))
          = [("id", true), ("email", true), ("org", true), ("seat", true)]
        ∧ ∃ p ∈ columns.map .column ++ constraints, p.Keys "org" := by
  have h : seating.schema = .ok seating.layout := rfl
  rcases key_columns_indexable h (fun _ => false) "t" "utf8" with
    ⟨columns, constraints, hdeclares, hcolumns, -, hkeys⟩
  refine ⟨h, columns, constraints, hdeclares, ?_, (hkeys "org").mpr ?_⟩
  · rcases hcolumns with _ | ⟨hid, _ | ⟨hemail, _ | ⟨horg, _ | ⟨hseat, _ | _⟩⟩⟩⟩
    simp only [List.map_cons, List.map_nil, hid, hemail, horg, hseat]
    decide
  · exact Or.inr (Or.inr ⟨["org", "seat"], by decide, by decide⟩)

/-- An unbounded text among several columns has a type that is not indexed as a whole. -/
theorem mysql_group_unindexable :
    ¬ ∀ (e : Entity) (s : Schema) (table charset : String) (d : TableDefinition),
      e.schema = .ok s →
      read? { flavor := .mysql, isName := fun _ => false }
          (Dialect.mysql.createTable s table charset) = some d →
      ∀ c, .column c ∈ d.parts → (∃ p ∈ d.parts, p.Keys c.name) → c.type ∈ indexedTypes := by
  intro hall
  let title : Column := .text "title" (some "")
  let e : Entity := {
    columns := [(Column.text "org" (some "")).withLength 32, title]
    unique := [.composite ["org", "title"]] }
  have hreadable : MySql.IsReadable (fun _ => false) e.layout := ⟨by decide, by decide⟩
  rcases (declares_createTable .mysql (fun _ => false) e.layout "t" "utf8mb4").read
    (MySql.writable_declaredParts hreadable) with ⟨tail, hread⟩
  have htitle : MySql.declaredColumn title false ∈ Flavor.mysql.columns e.layout := by decide
  have hindexed := hall e e.layout "t" "utf8mb4" _ rfl hread (MySql.declaredColumn title false)
    (List.mem_append_left _ (List.mem_map_of_mem htitle))
    ((keys_iff e "title").mpr (Or.inr (Or.inr ⟨["org", "title"], by decide, by decide⟩)))
  exact absurd hindexed (by decide)

end Ddl

end SqlMapper
