import SqlMapper.Condition.Similarity
import SqlMapper.Proofs.Condition.Names
import SqlMapper.Proofs.Text.Scanning

/-!
# References

What stands behind the colons of a fragment.

Quotes and wildcards may stand around a placeholder, and taking them away moves
what stands behind them right behind the name. If that is a word character, as
in `LIKE '%:n%foo%'`, it becomes a part of the name. A fragment in which this
cannot happen is called loose. All that matters for it is the text between a
colon and the next character that can be no part of a dressed name, its reach.

## Main definitions

* `Text.reach`: The text a dressed name can reach over.
* `Text.references`: The reach of each colon.
* `Text.Loose`: No word goes on behind the dressing of a placeholder.

## Theorems

* `placeholders_eq`: The placeholders of a text are told by its references.
* `reach_of_ends`: A reach ends at the first character that can be no part of it.
* `references_names`: Placeholders between commas are references, one by one.
-/

namespace SqlMapper

namespace Text

/-- Whether a character may stand in a placeholder together with the quotes and wildcards
    around it. -/
def isDressed (c : Char) : Bool :=
  isWord c || isQuote c || c == '%'

/-- The text a dressed name can reach over. -/
def reach (cs : List Char) : List Char :=
  cs.takeWhile isDressed

/-- What stands behind each colon of a text, as far as a dressed name can reach. -/
def references : List Char → List (List Char)
  | [] => []
  | c :: rest => if c = ':' then reach rest :: references rest else references rest

/-- No word goes on behind the quotes and wildcards around a placeholder. -/
def Loose (cs : List Char) : Prop :=
  ∀ r ∈ references cs, ∀ c ∈ afterWord r, isWord c = false

/-- The placeholder at the beginning of a reference, if there is one. -/
def named (r : List Char) : Option String :=
  if wordRun r = [] then none else some (String.ofList (':' :: wordRun r))

instance (cs : List Char) : Decidable (Loose cs) :=
  decidable_of_iff ((references cs).all fun r => (afterWord r).all fun c => !isWord c) <| by
    simp only [Loose, List.all_eq_true, Bool.not_eq_true']

theorem references_of_ne {c : Char} (h : c ≠ ':') (rest : List Char) :
    references (c :: rest) = references rest := by
  rw [references, if_neg h]

theorem references_colon (rest : List Char) :
    references (':' :: rest) = reach rest :: references rest := rfl

theorem references_append_of_ne {cs : List Char} (h : ∀ c ∈ cs, c ≠ ':') (rest : List Char) :
    references (cs ++ rest) = references rest := by
  induction cs with
  | nil => rfl
  | cons c cs ih =>
      rw [List.cons_append, references_of_ne (h c List.mem_cons_self)]
      exact ih fun d hd => h d (List.mem_cons_of_mem c hd)

theorem isDressed_of_isWord {c : Char} (h : isWord c = true) : isDressed c = true := by
  simp only [isDressed, h, Bool.true_or]

/-- A blank ends a dressed name. -/
theorem isDressed_of_isBlank {c : Char} (h : isBlank c = true) : isDressed c = false := by
  rw [isDressed, isWord_of_isBlank h, Bool.false_or, Bool.or_eq_false_iff]
  refine ⟨?_, ?_⟩
  · rw [Bool.eq_false_iff]
    intro hquote
    rw [isQuote, Bool.or_eq_true, beq_iff_eq, beq_iff_eq] at hquote
    rcases hquote with rfl | rfl <;> exact absurd h (by decide)
  · rw [beq_eq_false_iff_ne]
    rintro rfl
    exact absurd h (by decide)

theorem wordRun_reach (cs : List Char) : wordRun (reach cs) = wordRun cs := by
  induction cs with
  | nil => rfl
  | cons c cs ih =>
      by_cases hc : isWord c = true
      · simp only [wordRun, reach] at ih
        simp only [wordRun, reach, List.takeWhile_cons, isDressed_of_isWord hc, hc, if_true, ih]
      · by_cases hd : isDressed c = true
        · simp only [wordRun, reach, List.takeWhile_cons, hd, hc, if_true, if_false,
            Bool.false_eq_true]
        · simp only [wordRun, reach, List.takeWhile_cons, hd, hc, if_false, Bool.false_eq_true,
            List.takeWhile_nil]

/-- The placeholders of a text are told by its references. -/
theorem placeholders_eq (cs : List Char) : placeholders cs = (references cs).filterMap named := by
  induction cs with
  | nil => rfl
  | cons c cs ih =>
      by_cases hc : c = ':'
      · rw [hc, placeholders_colon, references_colon, List.filterMap_cons, named, wordRun_reach, ih]
        by_cases hword : wordRun cs = []
        · simp only [hword, if_true, List.nil_append]
        · simp only [hword, if_false, List.singleton_append]
      · rw [placeholders_of_ne hc, references_of_ne hc, ih]

theorem mem_placeholders_of_reference {cs r : List Char} (h : r ∈ references cs)
    (hword : wordRun r ≠ []) : String.ofList (':' :: wordRun r) ∈ placeholders cs := by
  rw [placeholders_eq, List.mem_filterMap]
  exact ⟨r, h, if_neg hword⟩

theorem exists_reference {cs : List Char} {t : String} (h : t ∈ placeholders cs) :
    ∃ r ∈ references cs, wordRun r ≠ [] ∧ t = String.ofList (':' :: wordRun r) := by
  rw [placeholders_eq, List.mem_filterMap] at h
  rcases h with ⟨r, hr, hnamed⟩
  by_cases hword : wordRun r = []
  · rw [named, if_pos hword] at hnamed
    cases hnamed
  · rw [named, if_neg hword, Option.some.injEq] at hnamed
    exact ⟨r, hr, hword, hnamed.symm⟩

theorem reach_of_ends {d : Char} (h : isDressed d = false) (cs rest rest' : List Char) :
    reach (cs ++ d :: rest) = reach (cs ++ d :: rest') := by
  rw [reach, reach, takeWhile_append_cons h, takeWhile_append_cons h]

theorem reach_cons {rest rest' : List Char} (h : reach rest = reach rest') (c : Char) :
    reach (c :: rest) = reach (c :: rest') := by
  simp only [reach] at h
  simp only [reach, List.takeWhile_cons, h]

/-- A placeholder in front of a character that ends it is a reference. -/
theorem references_name {word : List Char} (hword : ∀ c ∈ word, isWord c = true) {d : Char}
    (hd : isDressed d = false) (rest : List Char) :
    references (':' :: word ++ d :: rest) = word :: references (d :: rest) := by
  have hreach : reach (word ++ d :: rest) = word := by
    rw [reach, List.takeWhile_append_of_pos fun c hc => isDressed_of_isWord (hword c hc),
      List.takeWhile_cons_of_neg (Bool.eq_false_iff.mp hd), List.append_nil]
  rw [List.cons_append, references_colon, hreach,
    references_append_of_ne fun c hc => isWord_ne_colon (hword c hc)]

/-- Placeholders between commas are references, one by one. -/
theorem references_names {names : List String} (hnames : ∀ name ∈ names, IsBindName name) {d : Char}
    (hd : isDressed d = false) (rest : List Char) :
    references ((", ".intercalate names).toList ++ d :: rest)
      = names.map (fun name => name.toList.tail) ++ references (d :: rest) := by
  induction names with
  | nil => rfl
  | cons name names ih =>
      rcases hnames name List.mem_cons_self with ⟨word, hname, hword⟩
      rcases names with _ | ⟨next, names⟩
      · rw [String.intercalate_singleton, hname, references_name hword hd, List.map_singleton,
          hname]
        rfl
      · have hrest := ih fun n hn => hnames n (List.mem_cons_of_mem name hn)
        calc references ((", ".intercalate (name :: next :: names)).toList ++ d :: rest)
            = references (':' :: word
                ++ ',' :: ' ' :: ((", ".intercalate (next :: names)).toList ++ d :: rest)) := by
              rw [String.intercalate_cons_cons, String.toList_append, String.toList_append, hname,
                List.append_assoc, List.append_assoc]
              rfl
          _ = word :: references ((", ".intercalate (next :: names)).toList ++ d :: rest) := by
              rw [references_name hword (by decide), references_of_ne (by decide),
                references_of_ne (by decide)]
          _ = (name :: next :: names).map (fun n => n.toList.tail) ++ references (d :: rest) := by
              rw [hrest, List.map_cons (a := name), hname]
              rfl

end Text

end SqlMapper
