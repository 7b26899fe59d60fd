import Mathlib.Data.List.Basic
import Mathlib.Data.List.Induction
import Mathlib.Tactic.Common
import SqlMapper.Dialect.Catalog
import SqlMapper.Text.Keyword

/-!
# Registered Dialects

Which dialect a tag finds after any row of registrations.

A dialect is kept under its tag as the tag is written, and a tag that is looked
up is put in lower case first. So the last dialect answers whose tag is the
lowered text. If all tags are in lower case, these are the dialects whose tags
are the same as the text but for case, and a dialect is found by its own tag
until another one replaces it. A tag with a capital in it is kept where nobody
looks, so not even the tag itself finds its dialect.

Putting in lower case is also not all that there is to case. The long s is an s
in the sense in which keywords are recognised, and it is in lower case already.

## Main definitions

* `Text.SameButForCase`: Texts that are the same in lower case.
* `DialectCatalog.registered`: What a row of registrations leaves behind.
* `DialectCatalog.Latest`: The last dialect of a row with a property.
* `DialectCatalog.Resolves`: What is found among the dialects with a property.

## Theorems

* `DialectCatalog.get?_registered`: What is kept under a tag.
* `DialectCatalog.resolves_find`: What a lookup finds.
* `DialectCatalog.find_registered`: The same, if tags are in lower case.
* `DialectCatalog.own_tag_missed`: A dialect that its own tag does not find.
-/

namespace SqlMapper

/-- Two texts are the same but for the case of their letters. -/
def Text.SameButForCase (s t : String) : Prop :=
  lowercase s = lowercase t

namespace DialectCatalog

/-- What a row of registrations leaves in an empty catalog. -/
def registered (ds : List Dialect) : DialectCatalog :=
  ds.foldl register ∅

/-- The last dialect of a row that has a property. -/
def Latest (p : Dialect → Prop) (ds : List Dialect) (d : Dialect) : Prop :=
  ∃ before later, ds = before ++ d :: later ∧ p d ∧ ∀ e ∈ later, ¬ p e

/-- What is found for a tag among the dialects of a row that have a property: the last of them, or
    an error that names the tag if there is none. -/
inductive Resolves (p : Dialect → Prop) (ds : List Dialect) (tag : String) :
    Except Error Dialect → Prop
  | found {d : Dialect} (h : Latest p ds d) : Resolves p ds tag (.ok d)
  | missing (h : ∀ d ∈ ds, ¬ p d) :
      Resolves p ds tag
        (.error (.connect tag none ("no driver registered for dialect `" ++ tag ++ "`")))

section

variable {p q : Dialect → Prop} {ds : List Dialect} {tag : String} {d e : Dialect}

theorem not_latest_nil : ¬ Latest p [] d := by
  rintro ⟨before, later, hds, -⟩
  exact List.append_ne_nil_of_right_ne_nil before (List.cons_ne_nil d later) hds.symm

/-- One more dialect is the last one if it has the property, and changes nothing if not. -/
theorem latest_concat : Latest p (ds ++ [e]) d ↔ (p e ∧ d = e) ∨ (¬ p e ∧ Latest p ds d) := by
  constructor
  · rintro ⟨before, later, hds, hd, hlater⟩
    rcases List.eq_nil_or_concat' later with rfl | ⟨later, last, rfl⟩
    · rcases List.append_inj' hds rfl with ⟨-, hlast⟩
      rw [List.singleton_inj.mp hlast]
      exact Or.inl ⟨hd, rfl⟩
    · rw [← List.cons_append, ← List.append_assoc] at hds
      rcases List.append_inj' hds rfl with ⟨hfront, hlast⟩
      rw [List.singleton_inj.mp hlast]
      exact Or.inr ⟨hlater last List.mem_concat_self, before, later, hfront, hd,
        fun f hf => hlater f (List.mem_append_left _ hf)⟩
  · rintro (⟨he, rfl⟩ | ⟨he, before, later, rfl, hd, hlater⟩)
    · exact ⟨ds, [], rfl, he, fun f hf => absurd hf List.not_mem_nil⟩
    · refine ⟨before, later ++ [e], by rw [List.append_assoc, List.cons_append], hd, ?_⟩
      rw [List.forall_mem_append, List.forall_mem_singleton]
      exact ⟨hlater, he⟩

theorem Latest.congr (h : Latest p ds d) (hpq : ∀ e ∈ ds, p e ↔ q e) : Latest q ds d := by
  rcases h with ⟨before, later, rfl, hd, hlater⟩
  refine ⟨before, later, rfl, (hpq d (by simp)).mp hd, fun e he hq => ?_⟩
  exact hlater e he ((hpq e (by simp [he])).mpr hq)

theorem Resolves.congr {r : Except Error Dialect} (h : Resolves p ds tag r)
    (hpq : ∀ e ∈ ds, p e ↔ q e) : Resolves q ds tag r := by
  cases h with
  | found h => exact .found (h.congr hpq)
  | missing h => exact .missing fun e he hq => h e he ((hpq e he).mpr hq)

end

variable (ds : List Dialect) (tag : String)

/-- Under a tag there is the last dialect that was registered with it. -/
theorem get?_registered {d : Dialect} :
    (registered ds).get? tag = some d ↔ Latest (fun e => e.tag = tag) ds d := by
  -- The last registration decides, unless it is one of another tag.
  induction ds using List.reverseRecOn with
  | nil => exact iff_of_false nofun not_latest_nil
  | append_singleton ds e ih =>
      have hlast : registered (ds ++ [e]) = (registered ds).insert e.tag e := List.foldl_concat ..
      rw [hlast, latest_concat]
      by_cases htag : e.tag = tag
      · rw [htag, OrderedMap.get?_insert_self, Option.some.injEq]
        simp only [true_and, not_true_eq_false, false_and, or_false, eq_comm]
      · rw [OrderedMap.get?_insert_ne _ (Ne.symm htag), ih]
        simp only [htag, false_and, not_false_eq_true, true_and, false_or]

theorem get?_registered_eq_none :
    (registered ds).get? tag = none ↔ ∀ d ∈ ds, d.tag ≠ tag := by
  induction ds using List.reverseRecOn with
  | nil => exact iff_of_true rfl fun d hd => absurd hd List.not_mem_nil
  | append_singleton ds e ih =>
      have hlast : registered (ds ++ [e]) = (registered ds).insert e.tag e := List.foldl_concat ..
      rw [hlast, List.forall_mem_append, List.forall_mem_singleton]
      by_cases htag : e.tag = tag
      · rw [htag, OrderedMap.get?_insert_self]
        simp only [reduceCtorEq, ne_eq, not_true_eq_false, and_false]
      · rw [OrderedMap.get?_insert_ne _ (Ne.symm htag), ih]
        simp only [ne_eq, htag, not_false_eq_true, and_true]

/-- The standard dialects are registered like any other. -/
theorem standard_eq_registered : standard = registered [Dialect.mysql, Dialect.sqlite] := rfl

theorem find_eq_error (h : ∀ d ∈ ds, d.tag ≠ Text.lowercase tag) :
    find (registered ds) tag =
      .error (.connect tag none ("no driver registered for dialect `" ++ tag ++ "`")) := by
  rw [find, (get?_registered_eq_none ds _).mpr h]

/-- A lookup finds the last dialect whose tag is the text in lower case. -/
theorem resolves_find :
    Resolves (fun d => d.tag = Text.lowercase tag) ds tag (find (registered ds) tag) := by
  cases hget : (registered ds).get? (Text.lowercase tag) with
  | none =>
      have hmissing := (get?_registered_eq_none ds _).mp hget
      rw [find_eq_error ds tag hmissing]
      exact .missing hmissing
  | some d =>
      rw [find, hget]
      exact .found ((get?_registered ds _).mp hget)

theorem find_eq_ok_iff {d : Dialect} :
    find (registered ds) tag = .ok d ↔ Latest (fun e => e.tag = Text.lowercase tag) ds d := by
  rw [← get?_registered, find]
  cases (registered ds).get? (Text.lowercase tag) with
  | none => simp only [reduceCtorEq]
  | some e => rw [Except.ok.injEq, Option.some.injEq]

/-- After any registrations a text finds the last dialect whose tag is the text in lower case, and
    an error that names the text if there is none. If all tags are in lower case, that is the last
    dialect whose tag is the same as the text but for case. A dialect that no later one replaced is
    found by its own tag exactly if that is in lower case. -/
theorem find_registered :
    Resolves (fun d => d.tag = Text.lowercase tag) ds tag (find (registered ds) tag) ∧
      ((∀ d ∈ ds, Text.lowercase d.tag = d.tag) →
        Resolves (fun d => Text.SameButForCase d.tag tag) ds tag (find (registered ds) tag)) ∧
      ∀ d, Latest (fun e => e.tag = d.tag) ds d →
        (find (registered ds) d.tag = .ok d ↔ Text.lowercase d.tag = d.tag) := by
  refine ⟨resolves_find ds tag, fun hlower => ?_, fun d hd => ?_⟩
  · refine (resolves_find ds tag).congr fun d hd => ?_
    rw [Text.SameButForCase, hlower d hd]
  · rw [find_eq_ok_iff]
    constructor
    · rintro ⟨-, -, -, htag, -⟩
      exact htag.symm
    · intro htag
      rwa [htag]

/-- A dialect of a host takes the place of the one of SQLite, whatever the case of the text. -/
theorem find_registered_replaced :
    let host : Dialect := { Dialect.mysql with tag := "sqlite" }
    let ds := [Dialect.mysql, Dialect.sqlite, host]
    (∀ d ∈ ds, Text.lowercase d.tag = d.tag) ∧
      Latest (fun e => e.tag = host.tag) ds host ∧
      Resolves (fun d => Text.SameButForCase d.tag "SQLite") ds "SQLite"
        (find (registered ds) "SQLite") ∧
      find (registered ds) host.tag = .ok host := by
  intro host ds
  have hlower : ∀ d ∈ ds, Text.lowercase d.tag = d.tag := by
    rw [List.forall_mem_cons, List.forall_mem_cons, List.forall_mem_singleton]
    exact ⟨by decide, by decide, by decide⟩
  have hlast : Latest (fun e => e.tag = host.tag) ds host :=
    ⟨[Dialect.mysql, Dialect.sqlite], [], rfl, rfl, fun e he => absurd he List.not_mem_nil⟩
  have hfound := find_registered ds "SQLite"
  exact ⟨hlower, hlast, hfound.2.1 hlower, (hfound.2.2 host hlast).mpr (hlower host (by simp [ds]))⟩

/-- A dialect with a capital in its tag is not found by its own tag, and with a long s for an s, the
    same letter but for case, the tag of SQLite does not find its dialect. -/
theorem own_tag_missed :
    find (registered [{ Dialect.mysql with tag := "Oracle" }]) "Oracle" =
        .error (.connect "Oracle" none "no driver registered for dialect `Oracle`") ∧
      List.Forall₂ (fun small c => Text.sameLetter small c = true) "sqlite".toList
        "ſqlite".toList ∧
      find standard "ſqlite" =
        .error (.connect "ſqlite" none "no driver registered for dialect `ſqlite`") := by
  refine ⟨find_eq_error _ _ ?_, by decide, ?_⟩
  · rw [List.forall_mem_singleton]
    decide
  · rw [standard_eq_registered]
    refine find_eq_error _ _ ?_
    rw [List.forall_mem_cons, List.forall_mem_singleton]
    exact ⟨by decide, by decide⟩

end DialectCatalog

end SqlMapper
