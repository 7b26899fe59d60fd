import SqlMapper.Condition.Membership
import SqlMapper.Proofs.Text.Scanning

/-!
# How a List Is Asked For

What is found where a fragment asks for membership in a list.

The grammar is given apart from the function that reads it: the keyword in
either case, a parenthesis, the placeholder and the other parenthesis, with
blanks between them or not. Whatever is written that way is found where a word
can start, and nothing else is.

## Main definitions

* `Asking`: How a list is asked for, but for the name of the list.
* `Asking.written`: The same, with something between the parentheses.

## Theorems

* `membershipPattern_eq_some_iff`: What is found is what is written that way.
-/

namespace SqlMapper

open Text

/-- How a list is asked for, but for what stands between the parentheses. -/
structure Asking where
  /-- The keyword. -/
  word : List Char
  /-- The blanks behind the keyword. -/
  gap : List Char
  /-- The blanks behind the parenthesis. -/
  before : List Char
  /-- The blanks in front of the other parenthesis. -/
  after : List Char
  letters : word.map Char.toLower = ['i', 'n']
  blank_gap : ∀ c ∈ gap, isBlank c = true
  blank_before : ∀ c ∈ before, isBlank c = true
  blank_after : ∀ c ∈ after, isBlank c = true

namespace Asking

/-- The text up to what stands between the parentheses. -/
def opening (a : Asking) : List Char :=
  a.word ++ a.gap ++ '(' :: a.before

/-- The text behind what stands between the parentheses. -/
def closing (a : Asking) : List Char :=
  a.after ++ [')']

/-- The text with something between the parentheses. -/
def written (a : Asking) (argument : List Char) : List Char :=
  a.opening ++ (argument ++ a.closing)

/-- The occurrence with a name between the parentheses. -/
def membership (a : Asking) (name : List Char) : Membership where
  opening := a.opening
  name := name
  closing := a.closing

theorem source_membership (a : Asking) (name : List Char) :
    (a.membership name).source = a.written name :=
  List.append_assoc _ _ _

theorem length_word (a : Asking) : a.word.length = 2 := by
  rw [← List.length_map (f := Char.toLower), a.letters]
  rfl

theorem word_ne_nil (a : Asking) : a.word ≠ [] := by
  intro hnil
  have hlength := a.length_word
  rw [hnil] at hlength
  cases hlength

/-- A letter of the keyword is a word character. -/
theorem isWord_of_mem_word {a : Asking} {c : Char} (h : c ∈ a.word) : isWord c = true := by
  have hlower : c.toLower ∈ ['i', 'n'] := a.letters ▸ List.mem_map_of_mem h
  simp only [List.mem_cons, List.not_mem_nil, or_false] at hlower
  rcases hlower with hi | hn
  · refine isWord_of_sameLetter (k := 'i') (by decide) ?_
    rw [sameLetter, hi]
    rfl
  · refine isWord_of_sameLetter (k := 'n') (by decide) ?_
    rw [sameLetter, hn]
    rfl

theorem opening_ne_colon (a : Asking) : ∀ c ∈ a.opening, c ≠ ':' := by
  intro c hc
  simp only [opening, List.mem_append, List.mem_cons] at hc
  rcases hc with (hc | hc) | rfl | hc
  · exact isWord_ne_colon (isWord_of_mem_word hc)
  · exact isBlank_ne_colon (a.blank_gap c hc)
  · decide
  · exact isBlank_ne_colon (a.blank_before c hc)

theorem closing_ne_colon (a : Asking) : ∀ c ∈ a.closing, c ≠ ':' := by
  intro c hc
  rcases List.mem_append.mp hc with hc | hc
  · exact isBlank_ne_colon (a.blank_after c hc)
  · rw [List.mem_singleton.mp hc]
    decide

/-- The keyword is read. -/
theorem keyword?_word (a : Asking) (rest : List Char) :
    keyword? ['i', 'n'] (a.word ++ rest) = some (a.word, rest) := by
  have hletters := a.letters
  rcases hword : a.word with _ | ⟨c, _ | ⟨d, _ | ⟨e, others⟩⟩⟩
  all_goals
    rw [hword] at hletters
    simp only [List.map_cons, List.map_nil, List.cons.injEq, reduceCtorEq, and_false,
      and_true] at hletters
  simp only [List.cons_append, List.nil_append, keyword?, sameLetter, hletters.1, hletters.2,
    beq_self_eq_true, Bool.true_or, if_true, Option.map_some]

end Asking

/-- Blanks in front of a character that is none are all the blanks there are. -/
theorem blanks_append_cons {blanks : List Char} (h : ∀ c ∈ blanks, isBlank c = true) {d : Char}
    (hd : isBlank d = false) (rest : List Char) :
    blankRun (blanks ++ d :: rest) = blanks ∧ afterBlanks (blanks ++ d :: rest) = d :: rest := by
  rw [blankRun, afterBlanks, List.takeWhile_append_of_pos h, List.dropWhile_append_of_pos h,
    List.takeWhile_cons_of_neg (Bool.eq_false_iff.mp hd),
    List.dropWhile_cons_of_neg (Bool.eq_false_iff.mp hd), List.append_nil]
  exact ⟨rfl, rfl⟩

/-- A placeholder is read up to the character that ends it. -/
theorem placeholder?_name {word : List Char} (hne : word ≠ [])
    (hword : ∀ c ∈ word, isWord c = true) {rest : List Char} (hrest : wordRun rest = []) :
    placeholder? (':' :: word ++ rest) = some (':' :: word, rest) := by
  have hrun : wordRun (word ++ rest) = word := by
    rw [wordRun_of_all hword, hrest, List.append_nil]
  have hafter : afterWord (word ++ rest) = rest := by
    have hsplit := wordRun_append_afterWord (word ++ rest)
    rw [hrun] at hsplit
    exact List.append_cancel_left hsplit
  simp only [List.cons_append, placeholder?, hrun, hafter, List.isEmpty_iff, if_neg hne]

namespace Asking

/-- What is written that way is found where a word can start. -/
theorem membershipPattern_written (a : Asking) {passed : Option Char}
    (hstart : atWordStart passed = true) {word : List Char} (hne : word ≠ [])
    (hword : ∀ c ∈ word, isWord c = true) (rest : List Char) :
    membershipPattern passed (a.written (':' :: word) ++ rest)
      = some (a.membership (':' :: word), (a.written (':' :: word)).length - 1) := by
  have hcut : a.written (':' :: word) ++ rest = a.word ++ (a.gap ++ '(' :: (a.before
      ++ ':' :: (word ++ (a.after ++ ')' :: rest)))) := by
    simp only [written, opening, closing, List.append_assoc, List.cons_append, List.nil_append]
  have hgap := blanks_append_cons a.blank_gap (d := '(') (by decide)
    (a.before ++ ':' :: (word ++ (a.after ++ ')' :: rest)))
  have hbefore := blanks_append_cons a.blank_before (d := ':') (by decide)
    (word ++ (a.after ++ ')' :: rest))
  have hafter := blanks_append_cons a.blank_after (d := ')') (by decide) rest
  have hends : wordRun (a.after ++ ')' :: rest) = [] := by
    rcases hblanks : a.after with _ | ⟨d, others⟩
    · rfl
    · have hd := isWord_of_isBlank (a.blank_after d (hblanks ▸ List.mem_cons_self))
      simp only [List.cons_append, wordRun, List.takeWhile_cons, hd, Bool.false_eq_true, if_false]
  have hname := placeholder?_name hne hword hends
  rw [List.cons_append] at hname
  rw [membershipPattern, if_pos hstart, hcut, keyword?_word]
  simp only [Option.bind_eq_bind, Option.bind_some, hgap.1, hgap.2, hbefore.1, hbefore.2, hname,
    hafter.1, hafter.2]
  rw [← source_membership]
  rfl

end Asking

/-- What is found is what is written that way where a word can start. -/
theorem membershipPattern_eq_some_iff {passed : Option Char} {cs : List Char} {m : Membership}
    {k : Nat} :
    membershipPattern passed cs = some (m, k) ↔ atWordStart passed = true
      ∧ ∃ (a : Asking) (word rest : List Char), word ≠ [] ∧ (∀ c ∈ word, isWord c = true)
        ∧ m = a.membership (':' :: word) ∧ cs = a.written (':' :: word) ++ rest
        ∧ k = (a.written (':' :: word)).length - 1 := by
  constructor
  · intro h
    unfold membershipPattern at h
    by_cases hstart : atWordStart passed = true
    · rw [if_pos hstart, Option.bind_eq_bind, Option.bind_eq_some_iff] at h
      rcases h with ⟨⟨word, afterIn⟩, hword, h⟩
      dsimp only at h
      split at h
      next inside hinside =>
        rw [Option.bind_eq_some_iff] at h
        rcases h with ⟨⟨name, afterName⟩, hname, h⟩
        dsimp only at h
        split at h
        next rest hrest =>
          rw [Option.pure_def, Option.some.injEq, Prod.mk.injEq] at h
          rcases h with ⟨rfl, rfl⟩
          rcases placeholder?_eq hname with ⟨w, rfl, hne, hall, hinner, -⟩
          have hletters : word.map Char.toLower = ['i', 'n'] := by
            rcases keyword?_letters hword with _ | ⟨hi, _ | ⟨hn, hnil⟩⟩
            cases hnil
            simp only [sameLetter, Bool.or_eq_true, beq_iff_eq, Bool.and_eq_true, Char.reduceEq,
              false_and, or_false] at hi hn
            simp only [List.map_cons, List.map_nil, hi, hn]
          let a : Asking := {
            word, gap := blankRun afterIn, before := blankRun inside, after := blankRun afterName
            letters := hletters
            blank_gap := fun c => isBlank_of_mem_blankRun
            blank_before := fun c => isBlank_of_mem_blankRun
            blank_after := fun c => isBlank_of_mem_blankRun }
          have hgap := blankRun_append_afterBlanks afterIn
          have hbefore := blankRun_append_afterBlanks inside
          have hafter := blankRun_append_afterBlanks afterName
          rw [hinside] at hgap
          rw [hinner] at hbefore
          rw [hrest] at hafter
          refine ⟨hstart, a, w, rest, hne, hall, rfl, ?_, ?_⟩
          · calc cs = word ++ (blankRun afterIn ++ '(' :: (blankRun inside ++ (':' :: w
                  ++ (blankRun afterName ++ ')' :: rest)))) := by
                  rw [hafter, hbefore, hgap, keyword?_append hword]
              _ = a.written (':' :: w) ++ rest := by
                  simp only [Asking.written, Asking.opening, Asking.closing, a, List.append_assoc,
                    List.cons_append, List.nil_append]
          · rw [← Asking.source_membership]
            rfl
        next => cases h
      next => cases h
    · rw [if_neg hstart] at h
      cases h
  · rintro ⟨hstart, a, word, rest, hne, hword, rfl, rfl, rfl⟩
    exact a.membershipPattern_written hstart hne hword rest

end SqlMapper
