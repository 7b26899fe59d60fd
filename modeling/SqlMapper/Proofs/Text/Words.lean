import Mathlib.Data.List.Forall2
import Mathlib.Data.List.TakeWhile
import SqlMapper.Placeholder

/-!
# Words and Blanks

Facts about the characters that texts of conditions are cut at.

A word, a blank and a colon have no character in common, so a word ends at a
blank and neither holds a placeholder. What a text begins with does not depend
on what stands behind a character that ends it.

## Theorems

* `isWord_of_isBlank`: No blank is a word character.
* `wordRun_eq_self`: A word is its own run of word characters.
* `takeWhile_append_cons`: What a text begins with ends where it is ended.
* `placeholder?_eq`: What a placeholder at the beginning of a text is.
* `keyword?_letters`: A keyword is spelled by its letters.
* `keyword?_ne_colon`: A keyword holds no colon.
* `mem_segment`, `mem_intercalate`: Where the characters of parts and joined texts are from.
* `not_mem_segment`: No part of a text holds the separator.
* `toList_segments`, `segments_inj`: A text is joined from its parts.
* `isEmpty_trim`: A text is empty behind its trimming exactly if all of it is blank.
-/

namespace SqlMapper

namespace Text

theorem toNat_between (a b : Char) {c : Char} (h : a.val ≤ c.val ∧ c.val ≤ b.val) :
    a.toNat ≤ c.toNat ∧ c.toNat ≤ b.toNat :=
  ⟨UInt32.le_iff_toNat_le.mp h.1, UInt32.le_iff_toNat_le.mp h.2⟩

theorem isAsciiWord_range {c : Char} (h : isAsciiWord c = true) : 48 ≤ c.toNat ∧ c.toNat ≤ 122 := by
  have hclass : (c.isUpper || c.isLower || c.isDigit || c == '_') = true := h
  rw [Bool.or_eq_true, Bool.or_eq_true, Bool.or_eq_true, beq_iff_eq] at hclass
  rcases hclass with ((hupper | hlower) | hdigit) | rfl
  · have hbounds := toNat_between 'A' 'Z' (of_decide_eq_true hupper)
    exact ⟨Nat.le_trans (by decide) hbounds.1, Nat.le_trans hbounds.2 (by decide)⟩
  · have hletter := (Bool.and_eq_true_iff.mp hlower).imp of_decide_eq_true of_decide_eq_true
    have hbounds := toNat_between 'a' 'z' hletter
    exact ⟨Nat.le_trans (by decide) hbounds.1, Nat.le_trans hbounds.2 (by decide)⟩
  · have hfigure := (Bool.and_eq_true_iff.mp hdigit).imp of_decide_eq_true of_decide_eq_true
    have hbounds := toNat_between '0' '9' hfigure
    exact ⟨Nat.le_trans (by decide) hbounds.1, Nat.le_trans hbounds.2 (by decide)⟩
  · decide

/-- No blank is a word character. -/
theorem isWord_of_isBlank {c : Char} (h : isBlank c = true) : isWord c = false := by
  have hranges : ∀ r ∈ blankSet.ranges, (r.2 < 48 ∨ 122 < r.1)
      ∧ ∀ s ∈ wordSet.ranges, r.2 < s.1 ∨ s.2 < r.1 := by
    decide +kernel
  rcases (CharSet.has_iff blankSet c).mp h with ⟨r, hr, hfirst, hlast⟩
  rcases hranges r hr with ⟨hascii, hsets⟩
  rw [isWord, Bool.or_eq_false_iff, Bool.and_eq_false_iff]
  refine ⟨?_, Or.inr ?_⟩
  · rw [Bool.eq_false_iff]
    intro hword
    have hrange := isAsciiWord_range hword
    omega
  · rw [Bool.eq_false_iff]
    intro hword
    rcases (CharSet.has_iff wordSet c).mp hword with ⟨s, hs, hfirst', hlast'⟩
    have hset := hsets s hs
    omega

theorem isBlank_of_isWord {c : Char} (h : isWord c = true) : isBlank c = false := by
  rw [Bool.eq_false_iff]
  intro hblank
  rw [isWord_of_isBlank hblank] at h
  cases h

theorem isWord_of_isDigit {c : Char} (h : c.isDigit = true) : isWord c = true := by
  simp only [isWord, isAsciiWord, Char.isAlphanum, h, Bool.or_true, Bool.true_or]

theorem isWord_of_isAsciiWord {c : Char} (h : isAsciiWord c = true) : isWord c = true := by
  rw [isWord, h, Bool.true_or]

theorem isWord_ne_colon {c : Char} (h : isWord c = true) : c ≠ ':' := by
  rintro rfl
  exact absurd h (by decide)

theorem isWord_of_toNat {c : Char} {n : Nat} (h : c.toNat = n)
    (hn : isWord (Char.ofNat n) = true) : isWord c = true := by
  rwa [← h, Char.ofNat_toNat] at hn

/-- A letter of a keyword is a word character, in either case. -/
theorem isWord_of_sameLetter {k c : Char} (hk : isAsciiWord k = true)
    (h : sameLetter k c = true) : isWord c = true := by
  rw [sameLetter, Bool.or_eq_true, Bool.or_eq_true, Bool.and_eq_true, Bool.and_eq_true,
    beq_iff_eq, beq_iff_eq, beq_iff_eq, beq_iff_eq, beq_iff_eq] at h
  rcases h with (hlower | ⟨-, hkelvin⟩) | ⟨-, hlong⟩
  · refine isWord_of_isAsciiWord ?_
    by_cases hupper : c.isUpper = true
    · have halpha : c.isAlpha = true := Bool.or_eq_true_iff.mpr (Or.inl hupper)
      simp only [isAsciiWord, Char.isAlphanum, halpha, Bool.true_or]
    · have hsame : c.toLower = c := dif_neg fun h => hupper (decide_eq_true h)
      rwa [← hlower, hsame] at hk
  · exact isWord_of_toNat hkelvin (by decide +kernel)
  · exact isWord_of_toNat hlong (by decide +kernel)

theorem isBlank_ne_colon {c : Char} (h : isBlank c = true) : c ≠ ':' := by
  rintro rfl
  exact absurd h (by decide)

theorem isBlank_of_mem_blankRun {cs : List Char} {c : Char} (h : c ∈ blankRun cs) :
    isBlank c = true := by
  induction cs with
  | nil => cases h
  | cons d cs ih =>
      by_cases hd : isBlank d = true
      · simp only [blankRun, List.takeWhile_cons, hd, if_true, List.mem_cons] at h ih
        rcases h with rfl | h
        · exact hd
        · exact ih h
      · simp only [blankRun, List.takeWhile_cons, hd, Bool.false_eq_true, if_false] at h
        cases h

theorem isBlank_of_blankRun_eq {cs behind : List Char} {d : Char} (h : blankRun cs = d :: behind) :
    isBlank d = true := by
  have hd : d ∈ blankRun cs := by
    rw [h]
    exact List.mem_cons_self
  exact isBlank_of_mem_blankRun hd

theorem blankRun_append_afterBlanks (cs : List Char) : blankRun cs ++ afterBlanks cs = cs :=
  List.takeWhile_append_dropWhile

/-- What a text begins with does not depend on what stands behind a character that ends it. -/
theorem takeWhile_append_cons {p : Char → Bool} {d : Char} (h : p d = false)
    (cs rest : List Char) : (cs ++ d :: rest).takeWhile p = cs.takeWhile p := by
  induction cs with
  | nil => simp only [List.nil_append, List.takeWhile_cons, h, Bool.false_eq_true, if_false,
      List.takeWhile_nil]
  | cons c cs ih => simp only [List.cons_append, List.takeWhile_cons, ih]

theorem wordRun_of_all {cs : List Char} (h : ∀ c ∈ cs, isWord c = true) (rest : List Char) :
    wordRun (cs ++ rest) = cs ++ wordRun rest :=
  List.takeWhile_append_of_pos h

theorem wordRun_eq_self {cs : List Char} (h : ∀ c ∈ cs, isWord c = true) : wordRun cs = cs := by
  have hrun := wordRun_of_all h []
  rw [List.append_nil] at hrun
  exact hrun.trans (List.append_nil cs)

theorem wordRun_afterWord (cs : List Char) : wordRun (afterWord cs) = [] := by
  induction cs with
  | nil => rfl
  | cons c cs ih =>
      by_cases hc : isWord c = true
      · simp only [afterWord, List.dropWhile_cons, hc, if_true] at ih ⊢
        exact ih
      · simp only [afterWord, List.dropWhile_cons, hc, wordRun, Bool.false_eq_true, if_false,
          List.takeWhile_cons]

theorem wordRun_append_congr {text text' : List Char} (h : wordRun text = wordRun text')
    (cs : List Char) : wordRun (cs ++ text) = wordRun (cs ++ text') := by
  induction cs with
  | nil => exact h
  | cons c cs ih =>
      simp only [wordRun] at ih
      simp only [wordRun, List.cons_append, List.takeWhile_cons, ih]

theorem wordRun_of_ends {d d' : Char} (h : isWord d = false) (h' : isWord d' = false)
    (cs rest rest' : List Char) : wordRun (cs ++ d :: rest) = wordRun (cs ++ d' :: rest') := by
  rw [wordRun, wordRun, takeWhile_append_cons h, takeWhile_append_cons h']

theorem placeholder?_eq {cs name rest : List Char} (h : placeholder? cs = some (name, rest)) :
    ∃ word, name = ':' :: word ∧ word ≠ [] ∧ (∀ c ∈ word, isWord c = true)
      ∧ cs = name ++ rest ∧ wordRun rest = [] := by
  have happend := placeholder?_append h
  unfold placeholder? at h
  split at h
  next behind =>
    by_cases hword : (wordRun behind).isEmpty = true
    · rw [if_pos hword] at h
      cases h
    · rw [if_neg hword, Option.some.injEq, Prod.mk.injEq] at h
      refine ⟨wordRun behind, h.1.symm, ?_, fun c => isWord_of_mem_wordRun, happend.symm, ?_⟩
      · rintro hnil
        exact hword (List.isEmpty_iff.mpr hnil)
      · rw [← h.2, wordRun_afterWord]
  next => cases h

/-- A keyword is spelled by its letters. -/
theorem keyword?_letters {ks cs word rest : List Char} (h : keyword? ks cs = some (word, rest)) :
    List.Forall₂ (fun k c => sameLetter k c = true) ks word := by
  induction ks generalizing cs word with
  | nil =>
      rw [keyword?, Option.some.injEq, Prod.mk.injEq] at h
      rw [← h.1]
      exact .nil
  | cons k ks ih =>
      cases cs with
      | nil => cases h
      | cons d cs =>
          by_cases hd : sameLetter k d = true
          · simp only [keyword?, hd, if_true, Option.map_eq_some_iff, Prod.exists,
              Prod.mk.injEq] at h
            rcases h with ⟨word', rest', hword, rfl, rfl⟩
            exact .cons hd (ih hword)
          · simp only [keyword?, hd, Bool.false_eq_true, if_false] at h
            cases h

/-- A keyword holds no character that is none of its letters. -/
theorem ne_of_letters {ks word : List Char} {d : Char}
    (h : List.Forall₂ (fun k c => sameLetter k c = true) ks word)
    (hks : ks.all (fun k => !sameLetter k d) = true) : ∀ c ∈ word, c ≠ d := by
  induction h with
  | nil => exact fun c hc => nomatch hc
  | cons hc _ ih =>
      rw [List.all_cons, Bool.and_eq_true, Bool.not_eq_true'] at hks
      intro e he
      rcases List.mem_cons.mp he with rfl | he
      · rintro rfl
        rw [hks.1] at hc
        cases hc
      · exact ih hks.2 e he

theorem isWord_of_letters {ks word : List Char}
    (h : List.Forall₂ (fun k c => sameLetter k c = true) ks word)
    (hks : ks.all isAsciiWord = true) : ∀ c ∈ word, isWord c = true := by
  induction h with
  | nil => exact fun c hc => nomatch hc
  | cons hc _ ih =>
      rw [List.all_cons, Bool.and_eq_true] at hks
      intro e he
      rcases List.mem_cons.mp he with rfl | he
      · exact isWord_of_sameLetter hks.1 hc
      · exact ih hks.2 e he

theorem keyword?_ne_colon {ks cs word rest : List Char}
    (hks : ks.all (fun k => !sameLetter k ':') = true)
    (h : keyword? ks cs = some (word, rest)) : ∀ c ∈ word, c ≠ ':' :=
  ne_of_letters (keyword?_letters h) hks

theorem mem_segment {sep c : Char} {cs : List Char} (h : c ∈ cs) :
    c = sep ∨ ∃ segment ∈ cs.splitOn sep, c ∈ segment := by
  induction cs with
  | nil => cases h
  | cons d cs ih =>
      rw [List.splitOn_cons_eq_if_modifyHead]
      by_cases hd : d = sep
      · rw [if_pos (beq_iff_eq.mpr hd)]
        rcases List.mem_cons.mp h with rfl | h
        · exact Or.inl hd
        · exact (ih h).imp_right fun ⟨segment, hmem, hc⟩ =>
            ⟨segment, List.mem_cons_of_mem _ hmem, hc⟩
      · rw [if_neg fun hsep => hd (beq_iff_eq.mp hsep)]
        rcases hsplit : cs.splitOn sep with _ | ⟨first, others⟩
        · exact absurd hsplit (List.splitOn_ne_nil sep cs)
        · rw [List.modifyHead_cons]
          rcases List.mem_cons.mp h with rfl | h
          · exact Or.inr ⟨_, List.mem_cons_self, List.mem_cons_self⟩
          · rcases ih h with hsep | ⟨segment, hmem, hc⟩
            · exact Or.inl hsep
            · rw [hsplit] at hmem
              rcases List.mem_cons.mp hmem with rfl | hmem
              · exact Or.inr ⟨_, List.mem_cons_self, List.mem_cons_of_mem _ hc⟩
              · exact Or.inr ⟨segment, List.mem_cons_of_mem _ hmem, hc⟩

/-- A text is empty behind its trimming exactly if all of it is blank. -/
theorem isEmpty_trim (s : String) : (trim s).isEmpty = s.toList.all isBlank := by
  rw [Bool.eq_iff_iff]
  simp only [trim, trimmed, String.isEmpty_iff, String.ofList_eq_empty_iff,
    List.reverse_eq_nil_iff, List.dropWhile_eq_nil_iff, List.mem_reverse, List.all_eq_true]
  constructor
  · intro h c hc
    rw [← List.takeWhile_append_dropWhile (p := isBlank) (l := s.toList)] at hc
    exact (List.mem_append.mp hc).elim List.mem_takeWhile_imp (h c)
  · exact fun h c hc => h c ((List.dropWhile_sublist _).subset hc)

/-- A text is joined from its parts. -/
theorem toList_segments (sep : Char) (s : String) :
    [sep].intercalate ((segments sep s).map String.toList) = s.toList := by
  have hparts : (segments sep s).map String.toList = s.toList.splitOn sep := by
    rw [segments, List.map_map]
    exact (List.map_congr_left fun part _ => String.toList_ofList).trans (List.map_id _)
  rw [hparts]
  exact List.intercalate_splitOn sep

theorem segments_inj {sep : Char} {s t : String} (h : segments sep s = segments sep t) : s = t := by
  rw [← String.toList_inj, ← toList_segments sep s, h, toList_segments]

/-- No part of a text holds the separator. -/
theorem not_mem_segment {sep : Char} {cs segment : List Char} (h : segment ∈ cs.splitOn sep) :
    sep ∉ segment := by
  induction cs generalizing segment with
  | nil =>
      rw [List.splitOn_nil, List.mem_singleton] at h
      rw [h]
      exact List.not_mem_nil
  | cons d cs ih =>
      rw [List.splitOn_cons_eq_if_modifyHead] at h
      by_cases hd : d = sep
      · rw [if_pos (beq_iff_eq.mpr hd)] at h
        rcases List.mem_cons.mp h with rfl | h
        · exact List.not_mem_nil
        · exact ih h
      · rw [if_neg fun hsep => hd (beq_iff_eq.mp hsep)] at h
        rcases hsplit : cs.splitOn sep with _ | ⟨first, others⟩
        · exact absurd hsplit (List.splitOn_ne_nil sep cs)
        · rw [hsplit, List.modifyHead_cons] at h
          rw [hsplit] at ih
          rcases List.mem_cons.mp h with rfl | h
          · rw [List.mem_cons, not_or]
            exact ⟨fun hsep => hd hsep.symm, ih List.mem_cons_self⟩
          · exact ih (List.mem_cons_of_mem _ h)

theorem mem_doubled {mark c : Char} {cs : List Char} (h : c ∈ doubled mark cs) : c ∈ cs := by
  rcases List.mem_flatMap.mp h with ⟨d, hd, hc⟩
  by_cases hmark : d = mark
  · simp only [hmark, if_true, List.mem_cons, List.not_mem_nil, or_false, or_self] at hc
    rwa [hc, ← hmark]
  · simp only [hmark, if_false, List.mem_singleton] at hc
    rwa [hc]

theorem mem_intercalate {sep : String} {texts : List String} {c : Char}
    (h : c ∈ (sep.intercalate texts).toList) :
    c ∈ sep.toList ∨ ∃ text ∈ texts, c ∈ text.toList := by
  induction texts with
  | nil => exact nomatch h
  | cons text texts ih =>
      rcases texts with _ | ⟨next, texts⟩
      · rw [String.intercalate_singleton] at h
        exact Or.inr ⟨text, List.mem_cons_self, h⟩
      · rw [String.intercalate_cons_cons, String.toList_append, String.toList_append,
          List.mem_append, List.mem_append] at h
        rcases h with (h | h) | h
        · exact Or.inr ⟨text, List.mem_cons_self, h⟩
        · exact Or.inl h
        · rcases ih h with hsep | ⟨text', hmem, hc⟩
          · exact Or.inl hsep
          · exact Or.inr ⟨text', List.mem_cons_of_mem _ hmem, hc⟩

end Text

end SqlMapper
