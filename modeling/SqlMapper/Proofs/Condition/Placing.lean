import SqlMapper.Proofs.Condition.References

/-!
# Placing Wildcards

What placeholders a fragment has once its wildcards are moved.

An operand loses the quotes and wildcards around its placeholder. In a loose
text no word character stands behind them, so the name ends where it ended
before, and the fragment has the placeholders it had.

## Main definitions

* `Similarity.Fits`: What an occurrence of `LIKE` with a placeholder looks like.
* `Patterned.wrap`: Bindings once a value has its wildcards.

## Theorems

* `similarity_fits`, `similarity_cut`: What a scan finds looks like that.
* `placed_wordRun`: Moving wildcards leaves the word a text begins with as it is.
* `Similarity.Fits.wordRun_rest`: In a loose text no word character stands behind an operand.
* `placed_placeholders`: Moving wildcards in a loose text leaves its placeholders as they are.
-/

namespace SqlMapper

open Text

theorem optionalChar_append (wanted : Char → Bool) (cs : List Char) :
    (optionalChar wanted cs).1 ++ (optionalChar wanted cs).2 = cs := by
  rcases cs with _ | ⟨c, rest⟩
  · rfl
  · by_cases hc : wanted c = true
    · simp only [optionalChar, hc, if_true, List.singleton_append]
    · simp only [optionalChar, hc, Bool.false_eq_true, if_false, List.nil_append]

theorem optionalChar_cases (wanted : Char → Bool) (cs : List Char) :
    (optionalChar wanted cs).1 = []
      ∨ ∃ c, (optionalChar wanted cs).1 = [c] ∧ wanted c = true := by
  rcases cs with _ | ⟨d, rest⟩
  · exact Or.inl rfl
  · by_cases hd : wanted d = true
    · refine Or.inr ⟨d, ?_, hd⟩
      simp only [optionalChar, hd, if_true]
    · refine Or.inl ?_
      simp only [optionalChar, hd, Bool.false_eq_true, if_false]

theorem mem_optionalChar {wanted : Char → Bool} {cs : List Char} {c : Char}
    (h : c ∈ (optionalChar wanted cs).1) : wanted c = true := by
  rcases optionalChar_cases wanted cs with hnone | ⟨d, hd, hwanted⟩
  · rw [hnone] at h
    cases h
  · rw [hd, List.mem_singleton] at h
    rwa [h]

/-- What an occurrence of `LIKE` with a placeholder looks like. -/
structure Similarity.Fits (s : Similarity) (rest : List Char) : Prop where
  -- The keyword is spelled in either case.
  letters : List.Forall₂ (fun k c => sameLetter k c = true) ['l', 'i', 'k', 'e'] s.word
  -- A blank follows the keyword, and there are only blanks up to the quote.
  gap : (∃ d behind, s.gap = d :: behind ∧ isBlank d = true) ∧ ∀ c ∈ s.gap, isBlank c = true
  -- There is one quote in front or none.
  quote : s.openQuote = [] ∨ ∃ q, s.openQuote = [q] ∧ isQuote q = true
  -- The wildcards are percent signs.
  wildcards : ∀ c ∈ s.lead ++ s.trail, c = '%'
  -- There is no placeholder in front of the name.
  front : ∀ c ∈ s.word ++ s.gap ++ s.openQuote ++ s.lead, c ≠ ':'
  -- The name is a placeholder.
  name : ∃ word, s.name = ':' :: word ∧ word ≠ [] ∧ ∀ c ∈ word, isWord c = true
  -- The wildcard and the quote behind the name are no word characters.
  dressing : ∀ c ∈ s.trail ++ s.closeQuote, c = '%' ∨ isQuote c = true
  -- The name goes on as far as there are word characters.
  behind : wordRun (s.trail ++ s.closeQuote ++ rest) = []

theorem similarity_fits {passed : Option Char} {cs : List Char} {s : Similarity} {k : Nat}
    (h : similarityPattern passed cs = some (s, k)) :
    ∃ rest, cs = s.source ++ rest ∧ s.source.length = k + 1 ∧ s.Fits rest := by
  unfold similarityPattern at h
  by_cases hstart : atWordStart passed = true
  · rw [if_pos hstart, Option.bind_eq_bind, Option.bind_eq_some_iff] at h
    rcases h with ⟨⟨word, afterLike⟩, hword, h⟩
    dsimp only at h
    by_cases hgap : (blankRun afterLike).isEmpty = true
    · rw [if_pos hgap] at h
      cases h
    · rw [if_neg hgap, Option.bind_eq_some_iff] at h
      rcases h with ⟨⟨name, afterName⟩, hname, h⟩
      rw [Option.pure_def, Option.some.injEq, Prod.mk.injEq] at h
      dsimp only at h
      rcases h with ⟨rfl, rfl⟩
      rcases placeholder?_eq hname with ⟨w, hname', hw, hall, happend, hmaximal⟩
      have hblanks := blankRun_append_afterBlanks afterLike
      have hopen := optionalChar_append isQuote (afterBlanks afterLike)
      have hlead := optionalChar_append (· == '%') (optionalChar isQuote (afterBlanks afterLike)).2
      have htrail := optionalChar_append (· == '%') afterName
      have hclose := optionalChar_append isQuote (optionalChar (· == '%') afterName).2
      rw [happend] at hlead
      refine ⟨(optionalChar isQuote (optionalChar (· == '%') afterName).2).2, ?_, ?_,
        ⟨keyword?_letters hword, ⟨?_, fun c => isBlank_of_mem_blankRun⟩,
          optionalChar_cases isQuote _, ?_, ?_, ⟨w, hname', hw, hall⟩, ?_, ?_⟩⟩
      · simp only [Similarity.source, List.append_assoc]
        rw [hclose, htrail, hlead, hopen, hblanks, keyword?_append hword]
      · simp only [Similarity.source, hname', List.length_append, List.length_cons]
        omega
      · rcases hrun : blankRun afterLike with _ | ⟨d, behind⟩
        · rw [hrun] at hgap
          exact absurd rfl hgap
        · exact ⟨d, behind, rfl, isBlank_of_blankRun_eq hrun⟩
      · intro c hc
        rcases List.mem_append.mp hc with hc | hc
        all_goals
          have hpercent := mem_optionalChar hc
          exact beq_iff_eq.mp hpercent
      · intro c hc
        simp only [List.mem_append] at hc
        rcases hc with ((hc | hc) | hc) | hc
        · exact keyword?_ne_colon (by decide) hword c hc
        · exact isBlank_ne_colon (isBlank_of_mem_blankRun hc)
        · rintro rfl
          exact absurd (mem_optionalChar hc) (by decide)
        · rintro rfl
          exact absurd (mem_optionalChar hc) (by decide)
      · intro c hc
        rcases List.mem_append.mp hc with hc | hc
        · have hpercent := mem_optionalChar hc
          exact Or.inl (beq_iff_eq.mp hpercent)
        · exact Or.inr (mem_optionalChar hc)
      · rw [List.append_assoc, hclose, htrail, hmaximal]
  · rw [if_neg hstart] at h
    cases h

theorem similarity_cut (cs : List Char) :
    Cut Similarity.source Similarity.Fits cs (scan similarityPattern cs) :=
  cut_scan similarity_fits cs

theorem placePieces_char (p : Patterned) (c : Char) (ps : List (Piece Similarity)) :
    placePieces p (.char c :: ps) = (c :: (placePieces p ps).1, (placePieces p ps).2) := rfl

theorem placePieces_unbound {p : Patterned} {s : Similarity}
    (h : p.binds.get? (String.ofList s.name) = none) (ps : List (Piece Similarity)) :
    placePieces p (.found s :: ps)
      = (s.source ++ (placePieces p ps).1, (placePieces p ps).2) := by
  simp only [placePieces, h]

/-- Bindings once a value has its wildcards. -/
def Patterned.wrap (p : Patterned) (s : Similarity) (v : Value) : Patterned :=
  if p.wrapped.contains (String.ofList s.name) then p
  else
    { binds := p.binds.insert (String.ofList s.name) (wrappedValue s v)
      wrapped := p.wrapped ++ [String.ofList s.name] }

theorem placePieces_bound {p : Patterned} {s : Similarity} {v : Value}
    (h : p.binds.get? (String.ofList s.name) = some v) (ps : List (Piece Similarity)) :
    placePieces p (.found s :: ps)
      = (s.word ++ ' ' :: s.name ++ (placePieces (p.wrap s v) ps).1,
        (placePieces (p.wrap s v) ps).2) := by
  simp only [placePieces, h, Patterned.wrap]

/-- Moving wildcards takes no name out of the bindings. -/
theorem placePieces_grows (p : Patterned) (ps : List (Piece Similarity)) :
    Grows p.binds (placePieces p ps).2.binds := by
  induction ps generalizing p with
  | nil => exact fun t ht => ht
  | cons piece ps ih =>
      cases piece with
      | char c => exact ih p
      | found s =>
          rcases hvalue : p.binds.get? (String.ofList s.name) with _ | v
          · rw [placePieces_unbound hvalue]
            exact ih p
          · rw [placePieces_bound hvalue]
            intro t ht
            refine ih _ t ?_
            unfold Patterned.wrap
            split
            · exact ht
            · rw [OrderedMap.contains_insert, ht, Bool.or_true]

/-- Moving wildcards leaves the word a text begins with as it is. -/
theorem placed_wordRun {cs : List Char} {ps : List (Piece Similarity)}
    (h : Cut Similarity.source Similarity.Fits cs ps) (p : Patterned) :
    wordRun (placePieces p ps).1 = wordRun cs := by
  induction h generalizing p with
  | nil => rfl
  | @char c rest ps _ ih =>
      have hrest := ih p
      simp only [wordRun] at hrest
      simp only [placePieces_char, wordRun, List.takeWhile_cons, hrest]
  | @found s rest ps hs _ ih =>
      rcases hs.gap.1 with ⟨d, behind, hgap, hd⟩
      rcases hvalue : p.binds.get? (String.ofList s.name) with _ | v
      · rw [placePieces_unbound hvalue]
        simp only [Similarity.source, hgap, List.append_assoc, List.cons_append]
        exact wordRun_of_ends (isWord_of_isBlank hd) (isWord_of_isBlank hd) s.word _ _
      · rw [placePieces_bound hvalue]
        simp only [Similarity.source, hgap, List.append_assoc, List.cons_append]
        exact wordRun_of_ends (by decide) (isWord_of_isBlank hd) s.word _ _

namespace Similarity.Fits

variable {s : Similarity} {rest : List Char}

theorem dressing_ne (h : s.Fits rest) : ∀ c ∈ s.trail ++ s.closeQuote, c ≠ ':' := by
  rintro c hc rfl
  rcases h.dressing ':' hc with hp | hq
  · exact absurd hp (by decide)
  · exact absurd hq (by decide)

theorem dressing_dressed (h : s.Fits rest) :
    ∀ c ∈ s.trail ++ s.closeQuote, isDressed c = true ∧ isWord c = false := by
  intro c hc
  rcases h.dressing c hc with rfl | hq
  · decide
  · rw [isQuote, Bool.or_eq_true, beq_iff_eq, beq_iff_eq] at hq
    rcases hq with rfl | rfl <;> decide

/-- The source of an operand, cut in front of its name and behind it. -/
theorem source_eq (s : Similarity) (text : List Char) :
    s.source ++ text = (s.word ++ s.gap ++ s.openQuote ++ s.lead)
      ++ (s.name ++ (s.trail ++ s.closeQuote ++ text)) := by
  simp only [Similarity.source, List.append_assoc]

/-- An operand that is left alone has the placeholder of its name. -/
theorem placeholders_source (h : s.Fits rest) {text : List Char}
    (htext : wordRun text = wordRun rest) :
    placeholders (s.source ++ text) = String.ofList s.name :: placeholders text := by
  rcases h.name with ⟨word, hname, hne, hword⟩
  have hbehind : wordRun (s.trail ++ s.closeQuote ++ text) = [] := by
    rw [wordRun_append_congr htext, h.behind]
  rw [source_eq, placeholders_append_of_ne h.front, hname, placeholders_name hne hword hbehind,
    placeholders_append_of_ne h.dressing_ne]

/-- An operand whose wildcards are moved has the placeholder of its name, if no word character
    follows. -/
theorem placeholders_bare (h : s.Fits rest) {text : List Char} (htext : wordRun text = []) :
    placeholders (s.word ++ ' ' :: s.name ++ text)
      = String.ofList s.name :: placeholders text := by
  rcases h.name with ⟨word, hname, hne, hword⟩
  have hplain : ∀ c ∈ s.word, c ≠ ':' := fun c hc =>
    h.front c (List.mem_append_left _ (List.mem_append_left _ (List.mem_append_left _ hc)))
  rw [List.append_assoc, placeholders_append_of_ne hplain, List.cons_append,
    placeholders_of_ne (by decide), hname, placeholders_name hne hword htext]

/-- The reference of an operand reaches over its dressing. -/
theorem references_source (h : s.Fits rest) {word : List Char} (hname : s.name = ':' :: word)
    (hword : ∀ c ∈ word, isWord c = true) :
    references (s.source ++ rest)
      = (word ++ (s.trail ++ s.closeQuote ++ reach rest)) :: references rest := by
  have hdressed : ∀ c ∈ word ++ (s.trail ++ s.closeQuote), isDressed c = true := by
    intro c hc
    rcases List.mem_append.mp hc with hc | hc
    · exact isDressed_of_isWord (hword c hc)
    · exact (h.dressing_dressed c hc).1
  have hreach : reach (word ++ (s.trail ++ s.closeQuote ++ rest))
      = word ++ (s.trail ++ s.closeQuote ++ reach rest) := by
    rw [← List.append_assoc, reach, List.takeWhile_append_of_pos hdressed, List.append_assoc]
    rfl
  rw [source_eq, references_append_of_ne h.front, hname, List.cons_append, references_colon, hreach,
    references_append_of_ne fun c hc => isWord_ne_colon (hword c hc),
    references_append_of_ne h.dressing_ne]

/-- In a loose text no word character stands behind an operand. -/
theorem wordRun_rest (h : s.Fits rest) (hloose : Loose (s.source ++ rest)) : wordRun rest = [] := by
  rcases h.name with ⟨word, hname, hne, hword⟩
  rcases hdressing : s.trail ++ s.closeQuote with _ | ⟨d, ds⟩
  · have hbehind := h.behind
    rwa [hdressing] at hbehind
  · have hd := (h.dressing_dressed d (hdressing ▸ List.mem_cons_self)).2
    have hafter : afterWord (word ++ (d :: ds ++ reach rest)) = d :: ds ++ reach rest := by
      rw [afterWord, List.dropWhile_append_of_pos hword, List.cons_append,
        List.dropWhile_cons_of_neg (Bool.eq_false_iff.mp hd)]
    refine List.eq_nil_iff_forall_not_mem.mpr fun c hc => ?_
    have hreached : c ∈ reach rest := by
      rw [← wordRun_reach] at hc
      exact (List.takeWhile_sublist _).mem hc
    have hplain := hloose (word ++ (d :: ds ++ reach rest))
      (by rw [h.references_source hname hword, hdressing]; exact List.mem_cons_self)
      c (by rw [hafter]; exact List.mem_append_right _ hreached)
    rw [isWord_of_mem_wordRun hc] at hplain
    cases hplain

end Similarity.Fits

/-- Moving wildcards in a loose text leaves its placeholders as they are. -/
theorem placed_placeholders {cs : List Char} {ps : List (Piece Similarity)}
    (h : Cut Similarity.source Similarity.Fits cs ps) (hloose : Loose cs) (p : Patterned) :
    placeholders (placePieces p ps).1 = placeholders cs := by
  induction h generalizing p with
  | nil => rfl
  | @char c rest ps hrest ih =>
      by_cases hc : c = ':'
      · rw [hc] at hloose
        have hloose' : Loose rest := fun r hr => hloose r (List.mem_cons_of_mem _ hr)
        rw [placePieces_char, hc, placeholders_colon, placeholders_colon, placed_wordRun hrest p,
          ih hloose' p]
      · have hloose' : Loose rest := fun r hr => hloose r (by rwa [references_of_ne hc])
        rw [placePieces_char, placeholders_of_ne hc, placeholders_of_ne hc, ih hloose' p]
  | @found s rest ps hs hrest ih =>
      have hloose' : Loose rest := by
        rcases hs.name with ⟨word, hname, -, hword⟩
        refine fun r hr => hloose r ?_
        rw [hs.references_source hname hword]
        exact List.mem_cons_of_mem _ hr
      rw [hs.placeholders_source rfl]
      rcases hvalue : p.binds.get? (String.ofList s.name) with _ | v
      · rw [placePieces_unbound hvalue, hs.placeholders_source (placed_wordRun hrest p),
          ih hloose' p]
      · have hend : wordRun (placePieces (p.wrap s v) ps).1 = [] := by
          rw [placed_wordRun hrest, hs.wordRun_rest hloose]
        rw [placePieces_bound hvalue, hs.placeholders_bare hend, ih hloose']

end SqlMapper
