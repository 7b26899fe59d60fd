import SqlMapper.Proofs.Condition.Evenness

/-!
# Conjunctions of Conditions

When compiled conditions say what all their entries say.

The entries are joined by `AND` and nothing is put around them, so what the whole
says depends on how the joined text is read. An entry is read in its place as it
is read on its own, unless it is a disjunction that no parentheses hold together:
there the `AND` in front and behind takes the nearest operand away from it. With
no such entry beside another one, compiled conditions are true if and only if
every entry is, whatever the truth of the atoms.

An entry that is compiled is what the caller wrote: a named equality is an atom,
and a raw fragment is the same formula, over atoms that may be worded anew.

## Main definitions

* `Clause.isFormed`: A raw fragment is a formula, and its bound operands of `LIKE` are even.
* `Clause.isOr`: A raw fragment is a disjunction at its top.
* `Clause.Stated`: A text says what a clause says.

## Theorems

* `compile_clauses_forall₂`: What relates each clause to its text relates them all.
* `compile_clauses_stated`: Each clause is compiled to a text that says what it says.
* `read?_joined`: Formulas without `OR` at their top are joined to their conjunction.
* `compile_conjoins`: Compiled conditions are the conjunction of their entries.
* `compile_tears`: A disjunction beside another entry is torn apart.
-/

namespace SqlMapper

open Text

/-- Whether a raw fragment is a formula whose bound operands of `LIKE` are even. -/
def Clause.isFormed (x : Lexis) (b : Binds) : Clause → Bool
  | .equals _ _ => true
  | .raw sql => (x.read? sql).isSome && isEven b sql.toList

/-- Whether a raw fragment is a disjunction that no parentheses hold together. -/
def Clause.isOr (x : Lexis) : Clause → Bool
  | .equals _ _ => false
  | .raw sql => (x.read? sql).any Formula.isOr

/-- A text says what a clause says: a comparison of a field with a placeholder is an atom, and a
    raw fragment is a formula of the same shape. -/
def Clause.Stated (x : Lexis) : Clause → String → Prop
  | .equals field _, text =>
    ∃ t atom, text = quotePath field ++ " = " ++ t ∧ x.read? text = some (.atom atom)
  | .raw sql, text => ∃ f g, x.read? sql = some f ∧ x.read? text = some g ∧ g.shape = f.shape

theorem Formula.isOr_shape {α : Type} (f : Formula α) : f.shape.isOr = f.isOr := by
  cases f <;> rfl

variable {x : Lexis} {lists : List (String × List Value)}

theorem Clause.Stated.read? {clause : Clause} {text : String} (h : clause.Stated x text) :
    ∃ f, x.read? text = some f ∧ f.isOr = clause.isOr x := by
  cases clause with
  | equals field value =>
      rcases h with ⟨t, atom, -, hread⟩
      exact ⟨_, hread, rfl⟩
  | raw sql =>
      rcases h with ⟨f, g, hf, hg, hshape⟩
      refine ⟨g, hg, ?_⟩
      rw [isOr, hf, Option.any_some, ← f.isOr_shape, ← hshape, g.isOr_shape]

/-- No clause takes a name out of the bindings. -/
theorem compile_clause_grows {p p' : Progress} {clause : Clause}
    (h : clause.compile lists p = .ok p') : Grows p.binds p'.binds := by
  rcases compile_clause_cases h with ⟨field, v, rfl, -, rfl⟩ | ⟨sql, rfl, rfl⟩
  · intro t ht
    rw [OrderedMap.contains_insert, ht, Bool.or_true]
  · intro t ht
    exact placePieces_grows _ _ t (spreadPieces_grows _ _ t ht)

theorem compile_clauses_grows {p p' : Progress} {clauses : List Clause}
    (h : clauses.foldlM (Clause.compile lists) p = .ok p') : Grows p.binds p'.binds := by
  induction clauses generalizing p with
  | nil =>
      cases h
      exact fun t ht => ht
  | cons clause clauses ih =>
      rcases foldlM_cons_ok h with ⟨q, hclause, hrest⟩
      exact fun t ht => ih hrest t (compile_clause_grows hclause t ht)

/-- One clause adds a text that says what it says. -/
theorem compile_clause_stated {b : Binds} {p p' : Progress} {clause : Clause}
    (h : clause.compile lists p = .ok p') (hb : Grows p'.binds b)
    (hformed : clause.isFormed x b = true) :
    ∃ text, p'.fragments = p.fragments ++ [text] ∧ clause.Stated x text := by
  rcases compile_clause_cases h with ⟨field, v, rfl, hfield, rfl⟩ | ⟨sql, rfl, rfl⟩
  · rcases x.read?_equality hfield (isBindName_equality hfield p.binds) with ⟨words, hread⟩
    exact ⟨_, rfl, _, _, rfl, hread⟩
  · rw [Clause.isFormed, Bool.and_eq_true] at hformed
    rcases Option.isSome_iff_exists.mp hformed.1 with ⟨f, hf⟩
    have hreworded : x.Reworded sql.toList (String.ofList (p.placed lists sql).1).toList := by
      rw [String.toList_ofList]
      exact compiled_reworded hformed.2 hb
    rcases hreworded.read? hf with ⟨g, hg, hshape⟩
    exact ⟨_, rfl, f, g, hf, hg, hshape⟩

/-- If each clause adds a text that is related to it, where names that are bound at the start stay
    bound and are bound in the end, then the texts are related to the clauses place by place. -/
theorem compile_clauses_forall₂ {R : Clause → String → Prop} {start final : Binds}
    {clauses : List Clause} (hstep : ∀ clause ∈ clauses, ∀ {q q' : Progress},
      clause.compile lists q = .ok q' → Grows start q.binds → Grows q'.binds final →
      ∃ text, q'.fragments = q.fragments ++ [text] ∧ R clause text)
    {p p' : Progress} (h : clauses.foldlM (Clause.compile lists) p = .ok p')
    (hstart : Grows start p.binds) (hfinal : Grows p'.binds final) :
    ∃ texts, p'.fragments = p.fragments ++ texts ∧ List.Forall₂ R clauses texts := by
  induction clauses generalizing p with
  | nil =>
      cases h
      exact ⟨[], (List.append_nil _).symm, .nil⟩
  | cons clause clauses ih =>
      rcases foldlM_cons_ok h with ⟨q, hclause, hrest⟩
      have hgrows := compile_clause_grows hclause
      have hq : Grows q.binds final := fun t ht => hfinal t (compile_clauses_grows hrest t ht)
      rcases hstep clause List.mem_cons_self hclause hstart hq with ⟨text, htext, hrelated⟩
      rcases ih (fun c hc => hstep c (List.mem_cons_of_mem _ hc)) hrest
        (fun t ht => hgrows t (hstart t ht)) with ⟨texts, htexts, hall⟩
      refine ⟨text :: texts, ?_, .cons hrelated hall⟩
      rw [htexts, htext, List.append_assoc, List.singleton_append]

/-- Clauses one after the other add texts that say what they say. -/
theorem compile_clauses_stated {b : Binds} {p p' : Progress} {clauses : List Clause}
    (h : clauses.foldlM (Clause.compile lists) p = .ok p') (hb : Grows p'.binds b)
    (hformed : ∀ clause ∈ clauses, clause.isFormed x b = true) :
    ∃ texts, p'.fragments = p.fragments ++ texts
      ∧ List.Forall₂ (Clause.Stated x) clauses texts := by
  refine compile_clauses_forall₂ (fun clause hclause q q' hstep _ hq => ?_) h (fun _ ht => ht) hb
  exact compile_clause_stated hstep hq (hformed clause hclause)

/-- Formulas without `OR` at their top are joined to their conjunction. -/
theorem read?_joined {texts : List String} (hne : texts ≠ [])
    (h : ∀ text ∈ texts, ∃ f, x.read? text = some f ∧ f.isOr = false) :
    ∃ g, x.read? (" AND ".intercalate texts) = some g ∧ g.isOr = false
      ∧ ∀ ν, g.holds ν = texts.all fun text => (x.read? text).any (Formula.holds ν) := by
  induction texts with
  | nil => exact absurd rfl hne
  | cons text texts ih =>
      rcases h text List.mem_cons_self with ⟨f, hf, hor⟩
      rcases texts with _ | ⟨next, texts⟩
      · refine ⟨f, ?_, hor, fun ν => ?_⟩
        · rwa [String.intercalate_singleton]
        · rw [List.all_cons, List.all_nil, Bool.and_true, hf, Option.any_some]
      · rcases ih (List.cons_ne_nil _ _) fun t ht => h t (List.mem_cons_of_mem _ ht) with
          ⟨g, hg, hgor, hholds⟩
        rcases x.read?_and hf hg hor hgor with ⟨w, hw, hwor, hand⟩
        refine ⟨w, ?_, hwor, fun ν => ?_⟩
        · rwa [String.intercalate_cons_cons]
        · rw [hand, hholds, List.all_cons (a := text), hf, Option.any_some]

theorem truth?_of_read? {text : String} {f : Condition Words} (h : x.read? text = some f)
    (ν : List (Lexeme Words) → Bool) : x.truth? ν text = some (f.holds ν) := by
  have hne : text ≠ "" := by
    rintro rfl
    cases h
  rw [Lexis.truth?, if_neg hne, h, Option.map_some]

/-- Where lists are related place by place, each element of the second has one in the first. -/
theorem exists_of_forall₂ {α β : Type} {R : α → β → Prop} {as : List α} {bs : List β}
    (h : List.Forall₂ R as bs) : ∀ b ∈ bs, ∃ a ∈ as, R a b := by
  induction h with
  | nil => exact List.forall_mem_nil _
  | cons hfirst _ ih =>
      intro b hb
      rcases List.mem_cons.mp hb with rfl | hb
      · exact ⟨_, List.mem_cons_self, hfirst⟩
      · rcases ih b hb with ⟨a, ha, hrelated⟩
        exact ⟨a, List.mem_cons_of_mem _ ha, hrelated⟩

/-- Texts that say what clauses say are joined to what is true if they all are. -/
theorem truth?_joined {clauses : List Clause} {texts : List String}
    (h : List.Forall₂ (Clause.Stated x) clauses texts)
    (hor : clauses.length ≤ 1 ∨ ∀ clause ∈ clauses, clause.isOr x = false)
    (ν : List (Lexeme Words) → Bool) :
    x.truth? ν (" AND ".intercalate texts)
      = some (texts.all fun text => (x.read? text).any (Formula.holds ν)) := by
  by_cases hnil : texts = []
  · rw [hnil]
    rfl
  rcases hor with hsingle | hor
  · -- A single entry is the whole, whatever it is.
    have hlength : texts.length ≤ 1 := h.length_eq ▸ hsingle
    rcases texts with _ | ⟨text, _ | ⟨next, texts⟩⟩
    · exact absurd rfl hnil
    · rcases exists_of_forall₂ h text List.mem_cons_self with ⟨clause, -, hstated⟩
      rcases hstated.read? with ⟨f, hf, -⟩
      rw [String.intercalate_singleton, truth?_of_read? hf, List.all_cons, List.all_nil, hf,
        Option.any_some, Bool.and_true]
    · simp only [List.length_cons] at hlength
      omega
  · have hread : ∀ text ∈ texts, ∃ f, x.read? text = some f ∧ f.isOr = false := by
      intro text htext
      rcases exists_of_forall₂ h text htext with ⟨clause, hclause, hstated⟩
      rcases hstated.read? with ⟨f, hf, hsame⟩
      exact ⟨f, hf, hsame.trans (hor clause hclause)⟩
    rcases read?_joined hnil hread with ⟨g, hg, -, hholds⟩
    rw [truth?_of_read? hg, hholds]

/-- If raw fragments are formulas, their operands of `LIKE` are even where they are bound, and none
    of them is a disjunction at its top beside another entry, then compiled conditions can be read,
    and they are true exactly when every entry is. -/
theorem compile_conjoins (x : Lexis) {c : Conditions} {r : CompiledCondition}
    (h : c.compile = .ok r) :
    ∃ b p, Compiled c b p r
      ∧ ((∀ clause ∈ c.clauses, clause.isFormed x p.binds = true) →
        (c.clauses.length ≤ 1 ∨ ∀ clause ∈ c.clauses, clause.isOr x = false) →
        List.Forall₂ (Clause.Stated x) c.clauses p.fragments
          ∧ ∀ ν, x.truth? ν r.fragment
            = some (p.fragments.all fun text => (x.read? text).any (Formula.holds ν))) := by
  rcases compiled_of_ok h with ⟨b, p, hcompiled⟩
  refine ⟨b, p, hcompiled, fun hformed hor => ?_⟩
  rcases compile_clauses_stated hcompiled.clauses (fun _ ht => ht) hformed with
    ⟨texts, htexts, hstated⟩
  rw [List.nil_append] at htexts
  rw [← htexts] at hstated
  refine ⟨hstated, fun ν => ?_⟩
  rw [hcompiled.fragment]
  exact truth?_joined hstated hor ν

/-- The reading in which a backslash is a character like any other and two bars join texts. -/
def Lexis.standard : Lexis where
  escapes := false
  bars := true

/-- A named equality beside raw fragments with a group, a wildcard, a list and a range. -/
def Conditions.grouped : Conditions :=
  ((((Conditions.equals { } "org" (.scalar (.int 1))).raw "NOT (done = 1 OR name LIKE '%:n%')").raw
    "id IN (:ids) AND level BETWEEN 1 AND 3").bind "n" (.scalar (.text "smith"))).bind "ids"
    (.list [.int 3, .int 4])

/-- What is made of them. -/
def CompiledCondition.grouped : CompiledCondition where
  fragment := "`org` = :_WHERE_org AND NOT (done = 1 OR name LIKE :n)"
    ++ " AND id IN (:ids_0, :ids_1) AND level BETWEEN 1 AND 3"
  binds := OrderedMap.ofList [(":n", .text "%smith%"), (":_WHERE_org", .int 1), (":ids_0", .int 3),
    (":ids_1", .int 4)]

/-- Neither the `OR` of a group nor the `AND` of a range takes an operand from its fragment. -/
theorem compile_conjoins_grouped :
    Conditions.grouped.compile = .ok .grouped
      ∧ ∃ b p, Compiled .grouped b p .grouped
        ∧ List.Forall₂ (Clause.Stated .standard) Conditions.grouped.clauses p.fragments
        ∧ ∀ ν, Lexis.standard.truth? ν CompiledCondition.grouped.fragment
          = some (p.fragments.all fun text =>
            (Lexis.standard.read? text).any (Formula.holds ν)) := by
  have hcompile : Conditions.grouped.compile = .ok .grouped := rfl
  rcases compile_conjoins .standard hcompile with ⟨b, p, hcompiled, hconjoins⟩
  have hb : b = {
      scalars := .ofList [(":n", .text "smith")]
      lists := [(":ids", [.int 3, .int 4])] } :=
    (Except.ok.inj hcompiled.bound).symm
  have hclauses := hcompiled.clauses
  rw [hb] at hclauses
  have hbinds : p.binds = CompiledCondition.grouped.binds :=
    congrArg Progress.binds (Except.ok.inj hclauses).symm
  refine ⟨hcompile, b, p, hcompiled, hconjoins ?_ (Or.inr ?_)⟩
  · rw [hbinds]
    decide +kernel
  · decide +kernel

/-- A named equality beside a raw fragment that is a disjunction. -/
def Conditions.torn : Conditions :=
  (Conditions.equals { } "org" (.scalar (.int 1))).raw "a = 1 OR b = 2"

/-- What is made of them. -/
def CompiledCondition.torn : CompiledCondition where
  fragment := "`org` = :_WHERE_org AND a = 1 OR b = 2"
  binds := OrderedMap.ofList [(":_WHERE_org", .int 1)]

/-- A disjunction beside another entry is torn apart: the whole is true where its last operand is,
    even if the other entry is false. -/
theorem compile_tears :
    Conditions.torn.compile = .ok .torn
      ∧ ¬ ∃ b p, Compiled .torn b p .torn
        ∧ ((∀ clause ∈ Conditions.torn.clauses, clause.isFormed .standard p.binds = true) →
          ∀ ν, Lexis.standard.truth? ν CompiledCondition.torn.fragment
            = some (p.fragments.all fun text =>
              (Lexis.standard.read? text).any (Formula.holds ν))) := by
  refine ⟨rfl, ?_⟩
  rintro ⟨b, p, hcompiled, htruth⟩
  have hb : b = { } := (Except.ok.inj hcompiled.bound).symm
  have hclauses := hcompiled.clauses
  rw [hb] at hclauses
  have hp : p = {
      binds := CompiledCondition.torn.binds
      fragments := ["`org` = :_WHERE_org", "a = 1 OR b = 2"] } :=
    (Except.ok.inj hclauses).symm
  rw [hp] at htruth
  have hlast := htruth (by decide +kernel) fun atom =>
    atom = [.part ["b".toList, "=".toList, "2".toList]]
  exact absurd hlast (by decide +kernel)

end SqlMapper
