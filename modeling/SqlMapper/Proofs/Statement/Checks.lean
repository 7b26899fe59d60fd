import SqlMapper.Proofs.Statement.Kinds

/-!
# Passed Checks

What it takes for a query to pass its checks, and what it is written as then.

Compiling is a chain of checks, one behind the other and along lists, and most of
its links look at one name and quote it. A link is described by an equivalence: it
yields something if and only if a condition on the caller's input holds and this is
what it yields. Such equivalences can be put together link by link, so that a whole
compilation is described in the same way, with nothing said about the order in
which faults are found.

## Main definitions

* `fieldText`: A field of a projection as it is written.

## Theorems

* `bind_eq_ok_iff`, `bind_pure_eq_ok_iff`, `check_eq_ok_iff`: One link behind another.
* `mapM_eq_ok_iff`, `forM_eq_ok_iff`: The same link along a list.
* `quoteTable_eq_ok_iff`, `quoteField_eq_ok_iff`, `projectedField_eq_ok_iff`: Names that are
  quoted.
-/

namespace SqlMapper

variable {ε α β : Type}

theorem bind_eq_ok_iff {x : Except ε α} {f : α → Except ε β} {b : β} :
    x >>= f = .ok b ↔ ∃ a, x = .ok a ∧ f a = .ok b := by
  refine ⟨exists_of_bind_ok, ?_⟩
  rintro ⟨a, rfl, hf⟩
  exact hf

/-- What one link yields may be wrapped up. -/
theorem bind_pure_eq_ok_iff {x : Except ε α} {p : Prop} {a : α}
    (h : ∀ a', x = .ok a' ↔ p ∧ a' = a) (f : α → β) {b : β} :
    (x >>= fun a => pure (f a)) = .ok b ↔ p ∧ b = f a := by
  rw [bind_eq_ok_iff]
  constructor
  · rintro ⟨a', ha, hb⟩
    rcases (h a').mp ha with ⟨hp, rfl⟩
    cases hb
    exact ⟨hp, rfl⟩
  · rintro ⟨hp, rfl⟩
    exact ⟨a, (h a).mpr ⟨hp, rfl⟩, rfl⟩

theorem check_eq_ok_iff {p : Prop} [Decidable p] {e : ε} {f : PUnit → Except ε β} {b : β} :
    (if p then throw e >>= f else f ⟨⟩) = .ok b ↔ ¬ p ∧ f ⟨⟩ = .ok b := by
  refine ⟨fun h => ⟨not_of_check_ok h, of_check_ok h⟩, fun h => ?_⟩
  rw [if_neg h.1]
  exact h.2

/-- Along a list, what lets through some elements lets through a list of them. -/
theorem mapM_eq_ok_iff {f : α → Except ε β} {P : α → Prop} {g : α → β}
    (h : ∀ a b, f a = .ok b ↔ P a ∧ b = g a) {as : List α} {bs : List β} :
    as.mapM f = .ok bs ↔ (∀ a ∈ as, P a) ∧ bs = as.map g := by
  induction as generalizing bs with
  | nil => exact ⟨fun hnil => by cases hnil; exact ⟨nofun, rfl⟩, fun hnil => hnil.2 ▸ rfl⟩
  | cons a as ih =>
      rw [List.mapM_cons, bind_eq_ok_iff, List.forall_mem_cons, List.map_cons]
      constructor
      · rintro ⟨b, hb, hrest⟩
        rcases exists_of_bind_ok hrest with ⟨cs, hcs, hcons⟩
        cases hcons
        rcases (h a b).mp hb with ⟨ha, rfl⟩
        rcases ih.mp hcs with ⟨has, rfl⟩
        exact ⟨⟨ha, has⟩, rfl⟩
      · rintro ⟨⟨ha, has⟩, rfl⟩
        exact ⟨g a, (h a _).mpr ⟨ha, rfl⟩, bind_eq_ok_iff.mpr ⟨_, ih.mpr ⟨has, rfl⟩, rfl⟩⟩

theorem forM_eq_ok_iff {f : α → Except ε Unit} {P : α → Prop} (h : ∀ a, f a = .ok () ↔ P a)
    {as : List α} {u : Unit} : as.forM f = .ok u ↔ ∀ a ∈ as, P a := by
  induction as with
  | nil => exact ⟨fun _ => nofun, fun _ => rfl⟩
  | cons a as ih =>
      have hcons : (a :: as).forM f = f a >>= fun _ => as.forM f := rfl
      rw [hcons, bind_eq_ok_iff, List.forall_mem_cons, ← h a, ← ih]
      exact ⟨fun ⟨_, ha, has⟩ => ⟨ha, has⟩, fun hall => ⟨(), hall⟩⟩

/-! ### Names -/

/-- A field of a projection as it is written. -/
def fieldText (field : String) : String :=
  if field = "*" then "*" else quotePath field

theorem checkIdentifier_eq_ok_iff (name : String) :
    checkIdentifier name = .ok () ↔ isIdentifier name = true := by
  rw [checkIdentifier]
  by_cases hname : isIdentifier name = true
  · rw [if_pos hname]
    exact iff_of_true rfl hname
  · rw [if_neg hname]
    exact iff_of_false nofun hname

theorem quoteField_eq_ok_iff (field text : String) :
    quoteField field = .ok text ↔ isIdentifier field = true ∧ text = quotePath field := by
  have hcheck : ∀ u, checkIdentifier field = .ok u ↔ isIdentifier field = true ∧ u = () := by
    intro u
    rw [← checkIdentifier_eq_ok_iff, and_iff_left rfl]
  exact bind_pure_eq_ok_iff hcheck fun _ => quotePath field

/-- Tables are quoted as fields are. -/
theorem quoteTable_eq_ok_iff (table text : String) :
    quoteTable table = .ok text ↔ isIdentifier table = true ∧ text = quotePath table :=
  quoteField_eq_ok_iff table text

theorem quoteTable_ok {table text : String} (h : quoteTable table = .ok text) :
    text = quotePath table :=
  ((quoteTable_eq_ok_iff table text).mp h).2

theorem projectedField_eq_ok_iff (field text : String) :
    projectedField field = .ok text
      ↔ (isIdentifier field = true ∨ field = "*") ∧ text = fieldText field := by
  rw [projectedField, fieldText]
  by_cases hstar : field = "*"
  · rw [if_pos hstar, if_pos hstar, Except.ok.injEq, eq_comm]
    exact ⟨fun htext => ⟨Or.inr hstar, htext⟩, fun h => h.2⟩
  · rw [if_neg hstar, if_neg hstar, quoteField_eq_ok_iff, or_iff_left hstar]

end SqlMapper
