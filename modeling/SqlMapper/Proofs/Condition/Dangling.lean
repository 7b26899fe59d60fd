import SqlMapper.Proofs.Condition.Compiling
import SqlMapper.Proofs.Condition.Placing
import SqlMapper.Proofs.Condition.Spreading

/-!
# Dangling Placeholders

Which placeholders of compiled conditions are left without a value.

Suppose that every placeholder of the raw fragments is bound. While clauses are
compiled, bindings are only added, and a placeholder that enters a fragment is
one of its source, the name of an element, or the fresh name of an equality. So
each of them has a value or is the name of a list. At the end the names whose
values were spread are taken out, wherever else they may occur. So a name that
is asked for by an `IN` and used elsewhere as well is left without a value, and
these are the only ones. Whether a word goes on behind a dressed placeholder
matters too, since moving its wildcards would then change its name; it is
assumed that none does.

## Main definitions

* `Known`: A name has a value or is the name of a list.

## Theorems

* `addRaw_known`: What a raw fragment does.
* `equality_placeholders`: A named equality has one placeholder.
* `compile_clauses_known`: Every placeholder of a compiled clause is known.
* `compile_binds_placeholders`: Only the names of spread values dangle.
* `compile_leaves_dangling`: Some do.
-/

namespace SqlMapper

open Text

/-- Whether a name has a value, or a list that a fragment may ask for. -/
def Known (lists : List (String × List Value)) (b : Binds) (t : String) : Prop :=
  b.contains t = true ∨ ∃ l ∈ lists, l.1 = t

theorem Known.elements {lists : List (String × List Value)} {b : Binds} {t : String}
    (h : Known lists b t) : ∃ vs, elements? lists b t = some vs :=
  Option.isSome_iff_exists.mp (elements?_isSome.mpr h)

theorem Known.of_grows {lists : List (String × List Value)} {b b' : Binds} {t : String}
    (h : Known lists b t) (hgrows : Grows b b') : Known lists b' t :=
  h.imp_left (hgrows t)

theorem spreadPieces_spent {lists : List (String × List Value)} {ps : List (Piece Membership)}
    {s : Spread} (h : ∀ m ∈ foundIn ps, Known lists s.binds (String.ofList m.name)) :
    (spreadPieces lists s ps).2.spent
      = s.spent ++ (foundIn ps).map fun m => String.ofList m.name := by
  induction ps generalizing s with
  | nil => exact (List.append_nil _).symm
  | cons piece ps ih =>
      cases piece with
      | char c => exact ih h
      | found m =>
          rcases (h m List.mem_cons_self).elements with ⟨vs, hvs⟩
          rw [spreadPieces_bound hvs, ih]
          · simp only [Spread.bound, List.append_assoc]
            rfl
          · intro m' hm'
            refine (h m' (List.mem_cons_of_mem _ hm')).of_grows ?_
            exact bindElements_grows s.binds _ vs

/-- A raw fragment that is compiled keeps the bindings, spends its list arguments, and has
    placeholders that are known. -/
theorem addRaw_known {lists : List (String × List Value)} {p : Progress} {sql : String}
    (htokens : ∀ t ∈ placeholders sql.toList, Known lists p.binds t) (hloose : Loose sql.toList) :
    Grows p.binds (p.addRaw lists sql).binds
      ∧ (p.addRaw lists sql).spent = p.spent ++ (Clause.raw sql).listArguments
      ∧ ∃ text, (p.addRaw lists sql).fragments = p.fragments ++ [text]
        ∧ ∀ t ∈ placeholders text.toList, Known lists (p.addRaw lists sql).binds t := by
  have hspread : Grows p.binds (p.spread lists sql).2.binds :=
    spreadPieces_grows { binds := p.binds, spent := p.spent } _
  have hplaced : Grows (p.spread lists sql).2.binds (p.placed lists sql).2.binds :=
    placePieces_grows { binds := (p.spread lists sql).2.binds, wrapped := p.wrapped } _
  have hgrows : Grows p.binds (p.placed lists sql).2.binds := fun t ht => hplaced t (hspread t ht)
  have hargument : ∀ m ∈ foundIn (scan membershipPattern sql.toList),
      Known lists p.binds (String.ofList m.name) := fun m hm =>
    htokens _ (name_mem_placeholders (membership_cut sql.toList) hm)
  rw [addRaw_eq]
  refine ⟨hgrows, spreadPieces_spent hargument, _, rfl, fun t ht => ?_⟩
  have hsame : placeholders (p.placed lists sql).1 = placeholders (p.spread lists sql).1 :=
    placed_placeholders (similarity_cut _) (spread_loose hloose _) _
  rw [String.toList_ofList, hsame] at ht
  rcases spread_placeholders ht with ht | ht
  · exact (htokens t ht).of_grows hgrows
  · exact Or.inl (hplaced t ht)

theorem placeholders_joined (texts : List String) :
    placeholders (" AND ".intercalate texts).toList
      = texts.flatMap fun text => placeholders text.toList := by
  induction texts with
  | nil => rfl
  | cons text texts ih =>
      rcases texts with _ | ⟨next, texts⟩
      · rw [String.intercalate_singleton, List.flatMap_singleton]
      · calc placeholders (" AND ".intercalate (text :: next :: texts)).toList
            = placeholders (text.toList
                ++ ' ' :: ("AND ".toList ++ (" AND ".intercalate (next :: texts)).toList)) := by
              rw [String.intercalate_cons_cons, String.toList_append, String.toList_append,
                List.append_assoc]
              rfl
          _ = placeholders text.toList
                ++ placeholders (" AND ".intercalate (next :: texts)).toList := by
              rw [placeholders_append (by decide), placeholders_of_ne (by decide),
                placeholders_append_of_ne (by simp)]
          _ = _ := by rw [ih, List.flatMap_cons (x := text)]

theorem mem_identifier {field : String} (h : isIdentifier field = true) :
    ∀ segment ∈ field.toList.splitOn '.', ∀ c ∈ segment, isWord c = true := by
  intro segment hsegment c hc
  have hall := List.all_eq_true.mp h segment hsegment
  rw [Bool.and_eq_true, List.all_eq_true] at hall
  exact isWord_of_isAsciiWord (hall.2 c hc)

theorem quotePath_ne_colon {field : String} (h : isIdentifier field = true) :
    ∀ c ∈ (quotePath field).toList, c ≠ ':' := by
  intro c hc
  rcases mem_intercalate hc with hc | ⟨text, htext, hc⟩
  · rw [List.mem_singleton.mp hc]
    decide
  · rcases List.mem_map.mp htext with ⟨name, hname, rfl⟩
    rcases List.mem_map.mp hname with ⟨segment, hsegment, rfl⟩
    rw [quoteName, String.toList_ofList, String.toList_ofList, quotedChars, List.mem_append,
      List.mem_cons, List.mem_singleton] at hc
    rcases hc with (rfl | hc) | rfl
    · decide
    · exact isWord_ne_colon (mem_identifier h segment hsegment c (mem_doubled hc))
    · decide

/-- The placeholder of a named equality is one. -/
theorem isBindName_equality {field : String} (h : isIdentifier field = true) (b : Binds) :
    IsBindName (freshPlaceholder (":_WHERE_" ++ underscored field) b) := by
  rcases toList_freshPlaceholder (":_WHERE_" ++ underscored field) b with ⟨behind, hname, hbehind⟩
  refine ⟨"_WHERE_".toList ++ (underscored field).toList ++ behind, ?_, fun c hc => ?_⟩
  · rw [hname, String.toList_append]
    rfl
  · rw [List.mem_append, List.mem_append] at hc
    rcases hc with (hc | hc) | hc
    · exact List.all_eq_true.mp (show "_WHERE_".toList.all isWord = true by decide) c hc
    · rw [underscored, String.toList_ofList, List.mem_map] at hc
      rcases hc with ⟨d, hd, rfl⟩
      by_cases hdot : d = '.'
      · rw [if_pos hdot]
        decide
      · rw [if_neg hdot]
        rcases (mem_segment hd).resolve_left hdot with ⟨segment, hsegment, hd⟩
        exact mem_identifier h segment hsegment d hd
    · rcases hbehind c hc with rfl | hc
      · decide
      · exact isWord_of_isDigit hc

/-- A named equality has its placeholder and no other. -/
theorem equality_placeholders {field : String} (h : isIdentifier field = true) (b : Binds)
    {t : String}
    (ht : t ∈ placeholders (quotePath field ++ " = "
      ++ freshPlaceholder (":_WHERE_" ++ underscored field) b).toList) :
    t = freshPlaceholder (":_WHERE_" ++ underscored field) b := by
  rcases isBindName_equality h b with ⟨word, hname, hword⟩
  have hfront : ∀ c ∈ (quotePath field ++ " = ").toList, c ≠ ':' := by
    intro c hc
    rw [String.toList_append, List.mem_append] at hc
    rcases hc with hc | hc
    · exact quotePath_ne_colon h c hc
    · exact (show ∀ c ∈ " = ".toList, c ≠ ':' by simp) c hc
  have hplain : placeholders word = [] := by
    have hnone := placeholders_append_of_ne (fun c hc => isWord_ne_colon (hword c hc)) []
    rwa [List.append_nil] at hnone
  rw [String.toList_append, placeholders_append_of_ne hfront, hname, placeholders_colon,
    wordRun_eq_self hword, hplain, List.append_nil] at ht
  by_cases hnil : word = []
  · rw [if_pos hnil] at ht
    cases ht
  · rw [if_neg hnil, List.mem_singleton, ← hname, String.ofList_toList] at ht
    exact ht

/-- One clause keeps the bindings, spends its list arguments, and adds a fragment whose
    placeholders are known. -/
theorem compile_clause_known {lists : List (String × List Value)} {p p' : Progress}
    {clause : Clause} (h : clause.compile lists p = .ok p')
    (htokens : ∀ t ∈ clause.tokens, Known lists p.binds t)
    (hloose : ∀ sql, clause = .raw sql → Loose sql.toList) :
    Grows p.binds p'.binds ∧ p'.spent = p.spent ++ clause.listArguments
      ∧ ∃ text, p'.fragments = p.fragments ++ [text]
        ∧ ∀ t ∈ placeholders text.toList, Known lists p'.binds t := by
  rcases compile_clause_cases h with ⟨field, v, rfl, hfield, rfl⟩ | ⟨sql, rfl, rfl⟩
  · refine ⟨fun t ht => ?_, (List.append_nil _).symm, _, rfl, fun t ht => ?_⟩
    · rw [OrderedMap.contains_insert, ht, Bool.or_true]
    · refine Or.inl ?_
      rw [OrderedMap.contains_insert, equality_placeholders hfield p.binds ht, decide_eq_true rfl,
        Bool.true_or]
  · exact addRaw_known htokens (hloose sql rfl)

/-- The same for clauses one after the other. -/
theorem compile_clauses_known {lists : List (String × List Value)} {p p' : Progress}
    {clauses : List Clause} (h : clauses.foldlM (Clause.compile lists) p = .ok p')
    (htokens : ∀ t ∈ clauses.flatMap Clause.tokens, Known lists p.binds t)
    (hloose : ∀ sql, .raw sql ∈ clauses → Loose sql.toList)
    (hknown : ∀ text ∈ p.fragments, ∀ t ∈ placeholders text.toList, Known lists p.binds t) :
    Grows p.binds p'.binds ∧ p'.spent = p.spent ++ clauses.flatMap Clause.listArguments
      ∧ ∀ text ∈ p'.fragments, ∀ t ∈ placeholders text.toList, Known lists p'.binds t := by
  induction clauses generalizing p with
  | nil =>
      cases h
      exact ⟨fun t ht => ht, (List.append_nil _).symm, hknown⟩
  | cons clause clauses ih =>
      rcases foldlM_cons_ok h with ⟨q, hclause, hrest⟩
      rw [List.flatMap_cons] at htokens
      rcases compile_clause_known hclause (fun t ht => htokens t (List.mem_append_left _ ht))
        (fun sql hsql => hloose sql (hsql ▸ List.mem_cons_self)) with
        ⟨hgrows, hspent, text, htext, hfound⟩
      have hrestKnown : ∀ text ∈ q.fragments, ∀ t ∈ placeholders text.toList,
          Known lists q.binds t := by
        intro text' htext' t ht
        rw [htext] at htext'
        rcases List.mem_append.mp htext' with htext' | htext'
        · exact (hknown text' htext' t ht).of_grows hgrows
        · rw [List.mem_singleton.mp htext'] at ht
          exact hfound t ht
      rcases ih hrest
        (fun t ht => (htokens t (List.mem_append_right _ ht)).of_grows hgrows)
        (fun sql hsql => hloose sql (List.mem_cons_of_mem _ hsql)) hrestKnown with
        ⟨hgrows', hspent', hknown'⟩
      refine ⟨fun t ht => hgrows' t (hgrows t ht), ?_, hknown'⟩
      rw [hspent', hspent, List.append_assoc, List.flatMap_cons]

/-- If every placeholder of the raw fragments is bound and no word goes on behind a dressed one,
    the placeholders of the compiled fragment are bound, but for those whose values were spread
    over the operand of an `IN`. -/
theorem compile_binds_placeholders {c : Conditions} {r : CompiledCondition}
    (h : c.compile = .ok r) (hbound : ∀ t ∈ c.tokens, t ∈ c.names)
    (hloose : ∀ sql, .raw sql ∈ c.clauses → Loose sql.toList) :
    ∀ t ∈ placeholders r.fragment.toList,
      r.binds.contains t = true ↔ t ∉ c.listArguments := by
  rcases compiled_of_ok h with ⟨b, p, hcompiled⟩
  have hstart : ∀ t ∈ c.clauses.flatMap Clause.tokens, Known b.lists b.scalars t := fun t ht =>
    (bound_names hcompiled.bound t).mpr (hbound t ht)
  rcases compile_clauses_known hcompiled.clauses hstart hloose (fun text htext => nomatch htext)
    with ⟨hgrows, hspent, hknown⟩
  rw [List.nil_append] at hspent
  intro t ht
  rw [hcompiled.binds, contains_eraseAll, hspent, Bool.and_eq_true, Bool.not_eq_true',
    decide_eq_false_iff_not]
  refine ⟨fun hcontains => hcontains.1, fun hnot => ⟨hnot, ?_⟩⟩
  rw [hcompiled.fragment, placeholders_joined] at ht
  rcases List.mem_flatMap.mp ht with ⟨text, htext, ht⟩
  rcases hknown text htext t ht with hcontains | ⟨l, hl, hname⟩
  · exact hcontains
  · -- A list that was bound was asked for, so its name is among the arguments.
    have hused := hcompiled.used l hl
    rw [hname, hspent] at hused
    exact absurd hused hnot

/-- A list that is asked for in one place and compared in another. -/
def Conditions.listAndScalar : Conditions :=
  (Conditions.raw { } "a IN (:ids) OR b = :ids").bind "ids" (.list [.int 1, .int 2])

/-- What is made of them. -/
def CompiledCondition.listAndScalar : CompiledCondition where
  fragment := "a IN (:ids_0, :ids_1) OR b = :ids"
  binds := OrderedMap.ofList [(":ids_0", .int 1), (":ids_1", .int 2)]

theorem compile_binds_placeholders_listAndScalar :
    Conditions.listAndScalar.compile = .ok .listAndScalar
      ∧ ∀ t ∈ placeholders CompiledCondition.listAndScalar.fragment.toList,
        CompiledCondition.listAndScalar.binds.contains t = true
          ↔ t ∉ Conditions.listAndScalar.listArguments := by
  have hloose : ∀ sql, .raw sql ∈ Conditions.listAndScalar.clauses → Loose sql.toList := by
    intro sql hsql
    cases List.mem_singleton.mp hsql
    decide
  exact ⟨rfl, compile_binds_placeholders rfl (by decide) hloose⟩

/-- Compilation may succeed and leave a placeholder without a value, although every placeholder
    of the raw fragments was bound. -/
theorem compile_leaves_dangling :
    ¬ ∀ (c : Conditions) (r : CompiledCondition), (∀ t ∈ c.tokens, t ∈ c.names) →
      c.compile = .ok r → ∀ t ∈ placeholders r.fragment.toList, r.binds.contains t = true := by
  intro hall
  have hbound := hall .listAndScalar .listAndScalar (by decide) rfl ":ids" (by decide)
  exact absurd hbound (by decide)

end SqlMapper
