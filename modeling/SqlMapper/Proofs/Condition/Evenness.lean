import SqlMapper.Proofs.Condition.Compiling
import SqlMapper.Proofs.Condition.Rewording

/-!
# Even Operands

When every operand of `LIKE` in a fragment stands in a pair of quotes or in none.

A fragment is even if at every place where an operand of `LIKE` is found, its
quotes are a pair and no word follows. An operand that is not bound is left as it
is, and its quotes are of no account. Wildcards are moved after lists are spread,
so this is needed of the text in which the lists are spread, and it is the raw
fragment that a caller writes. What is found at a place depends on the text up to
the next parenthesis only, which spreading leaves as it is, and nothing is found
at a place inside of an operand of `IN`, since a comma or a parenthesis comes
ahead of the next colon there. So a fragment that is even stays so.

## Main definitions

* `isEven`: All operands of `LIKE` in a text are even.
* `Agree`: Texts that agree up to a parenthesis.
* `PassesOver`: Places where no operand is found play no part in what is read off a text.

## Theorems

* `even_cut`: What a scan finds in an even text is even, if it is bound.
* `Agree.similarityPattern`: What is found depends on the text up to a parenthesis.
* `spread_even`: Spreading lists keeps a text even.
-/

namespace SqlMapper

open Text

/-- Whether an operand of `LIKE` that a text begins with, if there is one that is bound, is
    even. -/
def evenHere (b : Binds) (passed : Option Char) (cs : List Char) : Bool :=
  match similarityPattern passed cs with
  | none => true
  | some (s, k) =>
    !b.contains (String.ofList s.name)
      || decide (s.closeQuote = s.openQuote) && (wordRun (cs.drop (k + 1))).isEmpty

/-- Whether all operands of `LIKE` in a text that are bound are even. -/
def isEven (b : Binds) (cs : List Char) : Bool :=
  everywhere (evenHere b) none cs

theorem evenHere_of_none (b : Binds) {passed : Option Char} {cs : List Char}
    (h : similarityPattern passed cs = none) : evenHere b passed cs = true := by
  rw [evenHere, h]

variable {b : Binds}

/-- What a scan finds in an even text is even, if it is bound. -/
theorem even_cut {cs : List Char} (h : isEven b cs = true) :
    Cut Similarity.source
      (fun s rest => s.Fits rest ∧ (b.contains (String.ofList s.name) = true → s.Even rest)) cs
      (scan similarityPattern cs) := by
  refine cut_scan_of ?_ (show everywhere (evenHere b) none cs = true from h)
  intro passed cs s k heven hfound
  rcases similarity_fits hfound with ⟨rest, hcs, hlength, hfits⟩
  refine ⟨rest, hcs, hlength, hfits, fun hbound => ?_⟩
  rw [evenHere, hfound] at heven
  simp only [hbound, Bool.not_true, Bool.false_or, Bool.and_eq_true, decide_eq_true_eq,
    List.isEmpty_iff, hcs, List.drop_left' hlength] at heven
  exact ⟨heven.1, heven.2⟩

/-- Texts that agree up to a parenthesis. -/
inductive Agree : List Char → List Char → Prop where
  | nil : Agree [] []
  | parenthesis (rest rest' : List Char) : Agree ('(' :: rest) ('(' :: rest')
  | char (c : Char) {rest rest' : List Char} (h : Agree rest rest') : Agree (c :: rest) (c :: rest')

namespace Agree

variable {cs cs' : List Char}

theorem append (h : Agree cs cs') (front : List Char) : Agree (front ++ cs) (front ++ cs') := by
  induction front with
  | nil => exact h
  | cons c front ih => exact .char c ih

theorem of_append {front : List Char} (h : Agree (front ++ cs) (front ++ cs'))
    (hfront : ∀ c ∈ front, c ≠ '(') : Agree cs cs' := by
  induction front with
  | nil => exact h
  | cons c front ih =>
      cases h with
      | parenthesis => exact absurd rfl (hfront _ List.mem_cons_self)
      | char _ h => exact ih h fun d hd => hfront d (List.mem_cons_of_mem c hd)

theorem takeWhile {p : Char → Bool} (hp : p '(' = false) (h : Agree cs cs') :
    cs.takeWhile p = cs'.takeWhile p ∧ Agree (cs.dropWhile p) (cs'.dropWhile p) := by
  induction h with
  | nil => exact ⟨rfl, .nil⟩
  | parenthesis rest rest' =>
      simp only [List.takeWhile_cons, List.dropWhile_cons, hp, Bool.false_eq_true, if_false]
      exact ⟨trivial, .parenthesis rest rest'⟩
  | char c hrest ih =>
      by_cases hc : p c = true
      · simp only [List.takeWhile_cons, List.dropWhile_cons, hc, if_true, ih.1]
        exact ⟨trivial, ih.2⟩
      · simp only [List.takeWhile_cons, List.dropWhile_cons, hc, Bool.false_eq_true, if_false]
        exact ⟨trivial, .char c hrest⟩

theorem word (h : Agree cs cs') :
    wordRun cs = wordRun cs' ∧ Agree (afterWord cs) (afterWord cs') :=
  h.takeWhile (by decide)

theorem blanks (h : Agree cs cs') :
    blankRun cs = blankRun cs' ∧ Agree (afterBlanks cs) (afterBlanks cs') :=
  h.takeWhile (by decide)

/-- The same has been read, and what follows agrees. -/
structure Read (r r' : List Char × List Char) : Prop where
  read : r.1 = r'.1
  behind : Agree r.2 r'.2

theorem optionalChar {wanted : Char → Bool} (hw : wanted '(' = false) (h : Agree cs cs') :
    Read (optionalChar wanted cs) (optionalChar wanted cs') := by
  cases h with
  | nil => exact ⟨rfl, .nil⟩
  | parenthesis rest rest' =>
      simp only [SqlMapper.optionalChar, hw, Bool.false_eq_true, if_false]
      exact ⟨rfl, .parenthesis rest rest'⟩
  | char c hrest =>
      by_cases hc : wanted c = true
      · simp only [SqlMapper.optionalChar, hc, if_true]
        exact ⟨rfl, hrest⟩
      · simp only [SqlMapper.optionalChar, hc, Bool.false_eq_true, if_false]
        exact ⟨rfl, .char c hrest⟩

theorem keyword? {ks : List Char} (hks : ks.all (fun k => !sameLetter k '(') = true)
    (h : Agree cs cs') : Option.Rel Read (keyword? ks cs) (keyword? ks cs') := by
  induction ks generalizing cs cs' with
  | nil => exact .some ⟨rfl, h⟩
  | cons k ks ih =>
      rw [List.all_cons, Bool.and_eq_true, Bool.not_eq_true'] at hks
      cases h with
      | nil => exact .none
      | parenthesis rest rest' =>
          simp only [Text.keyword?, hks.1, Bool.false_eq_true, if_false]
          exact .none
      | @char c rest rest' hrest =>
          by_cases hc : sameLetter k c = true
          · simp only [Text.keyword?, hc, if_true]
            have hread := ih hks.2 hrest
            generalize Text.keyword? ks rest = r, Text.keyword? ks rest' = r' at hread
            cases hread with
            | none => exact .none
            | some h => exact .some ⟨congrArg (c :: ·) h.read, h.behind⟩
          · simp only [Text.keyword?, hc, Bool.false_eq_true, if_false]
            exact .none

theorem placeholder? (h : Agree cs cs') :
    Option.Rel Read (placeholder? cs) (placeholder? cs') := by
  cases h with
  | nil => exact .none
  | parenthesis rest rest' => exact .none
  | @char c rest rest' hrest =>
      by_cases hc : c = ':'
      · rcases hrest.word with ⟨hword, hbehind⟩
        rw [hc]
        simp only [Text.placeholder?, hword]
        split_ifs
        · exact .none
        · exact .some ⟨rfl, hbehind⟩
      · have hnone : ∀ rest, Text.placeholder? (c :: rest) = none := by
          intro rest
          unfold Text.placeholder?
          split
          next hcolon => exact absurd (List.cons.inj hcolon).1 hc
          next => rfl
        rw [hnone, hnone]
        exact .none

/-- What is found at the beginning of a text depends on the text up to a parenthesis. -/
theorem similarityPattern (h : Agree cs cs') (passed : Option Char) :
    similarityPattern passed cs = similarityPattern passed cs' := by
  unfold SqlMapper.similarityPattern
  by_cases hstart : atWordStart passed = true
  · rw [if_pos hstart, if_pos hstart]
    have hword : Option.Rel Read (Text.keyword? ['l', 'i', 'k', 'e'] cs)
        (Text.keyword? ['l', 'i', 'k', 'e'] cs') := h.keyword? (by decide)
    generalize Text.keyword? _ cs = r, Text.keyword? _ cs' = r' at hword
    cases hword with
    | none => rfl
    | @some word word' hword =>
        rcases word with ⟨word, afterLike⟩
        rcases word' with ⟨word', afterLike'⟩
        obtain ⟨rfl, hlike⟩ : word = word' ∧ Agree afterLike afterLike' :=
          ⟨hword.read, hword.behind⟩
        rcases hlike.blanks with ⟨hgap, hblanks⟩
        have hquote := hblanks.optionalChar (show isQuote '(' = false by decide)
        have hlead : Read (SqlMapper.optionalChar (· == '%') _)
            (SqlMapper.optionalChar (· == '%') _) := hquote.behind.optionalChar (by decide)
        have hname := hlead.behind.placeholder?
        simp only [Option.bind_eq_bind, Option.bind_some, hgap, hquote.read, hlead.read]
        generalize Text.placeholder? (SqlMapper.optionalChar (· == '%')
          (SqlMapper.optionalChar isQuote (afterBlanks afterLike)).2).2 = r,
          Text.placeholder? (SqlMapper.optionalChar (· == '%')
          (SqlMapper.optionalChar isQuote (afterBlanks afterLike')).2).2 = r' at hname
        cases hname with
        | none => rfl
        | @some name name' hname =>
            have htrail : Read (SqlMapper.optionalChar (· == '%') name.2)
                (SqlMapper.optionalChar (· == '%') name'.2) :=
              hname.behind.optionalChar (by decide)
            have hclose := htrail.behind.optionalChar (show isQuote '(' = false by decide)
            simp only [Option.bind_some, hname.read, htrail.read, hclose.read]
  · rw [if_neg hstart, if_neg hstart]

end Agree

/-- An operand of `LIKE` holds no parenthesis. -/
theorem Similarity.Fits.source_ne {s : Similarity} {rest : List Char} (h : s.Fits rest) :
    ∀ c ∈ s.source, c ≠ '(' := by
  rintro c hc rfl
  rcases h.name with ⟨word, hname, -, hword⟩
  have hquote : '(' ∉ s.openQuote := by
    rcases h.quote with hnone | ⟨q, hq, hquote⟩
    · rw [hnone]
      exact List.not_mem_nil
    · rw [hq, List.mem_singleton]
      rintro rfl
      exact absurd hquote (by decide)
  simp only [Similarity.source, hname, List.mem_append, List.mem_cons] at hc
  rcases hc with (((((hc | hc) | hc) | hc) | hc | hc) | hc) | hc
  · exact absurd (isWord_of_letters h.letters (by decide) _ hc) (by decide)
  · exact absurd (h.gap.2 _ hc) (by decide)
  · exact hquote hc
  · exact absurd (h.wildcards _ (List.mem_append_left _ hc)) (by decide)
  · exact absurd hc (by decide)
  · exact absurd (hword _ hc) (by decide)
  · exact absurd (h.wildcards _ (List.mem_append_right _ hc)) (by decide)
  · rcases h.dressing _ (List.mem_append_right _ hc) with hp | hq
    · exact absurd hp (by decide)
    · exact absurd hq (by decide)

theorem Agree.evenHere {cs cs' : List Char} (h : Agree cs cs') (b : Binds)
    (passed : Option Char) : evenHere b passed cs = evenHere b passed cs' := by
  have hsame := h.similarityPattern passed
  unfold SqlMapper.evenHere
  rw [← hsame]
  rcases hfound : SqlMapper.similarityPattern passed cs with _ | ⟨s, k⟩
  · rfl
  · rcases similarity_fits hfound with ⟨rest, hcs, hlength, hfits⟩
    rcases similarity_fits (hsame ▸ hfound) with ⟨rest', hcs', -, -⟩
    rw [hcs, hcs'] at h
    have hword := (h.of_append hfits.source_ne).word.1
    simp only [hcs, hcs', List.drop_left' hlength, hword]

/-- A text that is even stays so if it is changed behind a parenthesis by one that is even. -/
theorem everywhere_agree {cs cs' front : List Char} {passed : Option Char}
    (h : everywhere (evenHere b) passed (front ++ cs) = true) (hagree : Agree cs cs')
    (hcs' : everywhere (evenHere b) (passing passed front) cs' = true) :
    everywhere (evenHere b) passed (front ++ cs') = true := by
  induction front generalizing passed with
  | nil => exact hcs'
  | cons c front ih =>
      have hplace := Bool.and_eq_true_iff.mp h
      have hhere := ((hagree.append front).char c).evenHere b passed
      exact Bool.and_eq_true_iff.mpr ⟨hhere ▸ hplace.1, ih hplace.2 hcs'⟩

/-! ### Where no operand is found -/

/-- In front of the name of an operand there is neither a comma nor a parenthesis. -/
theorem Similarity.Fits.front_ne {s : Similarity} {rest : List Char} (h : s.Fits rest) {d : Char}
    (hd : d = ',' ∨ d = ')') : d ∉ s.word ++ s.gap ++ s.openQuote ++ s.lead := by
  have hother : isWord d = false ∧ isBlank d = false ∧ isQuote d = false ∧ d ≠ '%' := by
    rcases hd with rfl | rfl <;> decide
  rcases hother with ⟨hword, hblank, hquote, hpercent⟩
  intro hmem
  simp only [List.mem_append] at hmem
  rcases hmem with ((hmem | hmem) | hmem) | hmem
  · have hletter := isWord_of_letters h.letters (by decide) d hmem
    rw [hword] at hletter
    cases hletter
  · have hgap := h.gap.2 d hmem
    rw [hblank] at hgap
    cases hgap
  · rcases h.quote with hnone | ⟨q, hq, hmark⟩
    · rw [hnone] at hmem
      cases hmem
    · rw [hq, List.mem_singleton] at hmem
      rw [← hmem, hquote] at hmark
      cases hmark
  · exact hpercent (h.wildcards d (List.mem_append_left _ hmem))

/-- No operand is found where a comma or a parenthesis comes ahead of the next colon. -/
theorem similarity_stop {front : List Char} {d : Char} (hfront : ∀ c ∈ front, c ≠ ':')
    (hd : d = ',' ∨ d = ')') (passed : Option Char) (behind : List Char) :
    similarityPattern passed (front ++ d :: behind) = none := by
  rcases hfound : similarityPattern passed (front ++ d :: behind) with _ | ⟨s, k⟩
  · rfl
  · rcases similarity_fits hfound with ⟨rest, hcs, -, hfits⟩
    rcases hfits.name with ⟨word, hname, -, -⟩
    rw [Similarity.Fits.source_eq, hname] at hcs
    rcases List.append_eq_append_iff.mp hcs with ⟨more, hmore, hrest⟩ | ⟨more, hmore, hrest⟩
    · rcases more with _ | ⟨e, more⟩
      · rcases hd with rfl | rfl <;> exact absurd (List.cons.inj hrest).1 (by decide)
      · refine absurd ?_ (hfits.front_ne hd)
        rw [hmore, (List.cons.inj hrest).1]
        exact List.mem_append_right _ List.mem_cons_self
    · rcases more with _ | ⟨e, more⟩
      · rcases hd with rfl | rfl <;> exact absurd (List.cons.inj hrest).1 (by decide)
      · refine absurd (List.cons.inj hrest).1.symm (hfront e ?_)
        rw [hmore]
        exact List.mem_append_right _ List.mem_cons_self

theorem similarity_first {c : Char} (hc : sameLetter 'l' c = false) (passed : Option Char)
    (rest : List Char) : similarityPattern passed (c :: rest) = none := by
  unfold similarityPattern
  simp only [keyword?, hc, Bool.false_eq_true, if_false, Option.bind_eq_bind, Option.bind_none,
    ite_self]

/-- What is read off a text, given the character just passed, if places where no operand is found
    play no part in it. -/
def PassesOver {β : Type} (read : Option Char → List Char → β) : Prop :=
  ∀ passed c rest, similarityPattern passed (c :: rest) = none →
    read passed (c :: rest) = read (some c) rest

theorem passesOver_even (b : Binds) : PassesOver (everywhere (evenHere b)) := by
  intro passed c rest hnone
  rw [everywhere, evenHere_of_none b hnone, Bool.true_and]

namespace PassesOver

variable {β : Type} {read : Option Char → List Char → β}

theorem first (hread : PassesOver read) {front : List Char}
    (h : ∀ c ∈ front, sameLetter 'l' c = false) (passed : Option Char) (rest : List Char) :
    read passed (front ++ rest) = read (passing passed front) rest := by
  induction front generalizing passed with
  | nil => rfl
  | cons c front ih =>
      have hhere := similarity_first (h c List.mem_cons_self) passed (front ++ rest)
      rw [List.cons_append, hread passed c _ hhere]
      exact ih (fun d hd => h d (List.mem_cons_of_mem c hd)) (some c)

theorem stop (hread : PassesOver read) {front : List Char} {d : Char}
    (hfront : ∀ c ∈ front, c ≠ ':') (hd : d = ',' ∨ d = ')') (passed : Option Char)
    (rest : List Char) : read passed (front ++ d :: rest) = read (some d) rest := by
  induction front generalizing passed with
  | nil => exact hread passed d rest (similarity_stop hfront hd passed rest)
  | cons c front ih =>
      have hhere := similarity_stop hfront hd passed rest
      rw [List.cons_append] at hhere ⊢
      rw [hread passed c _ hhere]
      exact ih (fun e he => hfront e (List.mem_cons_of_mem c he)) (some c)

/-- In names between commas no operand is found up to the parenthesis behind them. -/
theorem names (hread : PassesOver read) {names : List String} (hne : names ≠ [])
    (hnames : ∀ name ∈ names, IsBindName name) {blanks : List Char}
    (hblanks : ∀ c ∈ blanks, isBlank c = true) (passed : Option Char) (rest : List Char) :
    read passed ((", ".intercalate names).toList ++ (blanks ++ ')' :: rest))
      = read (some ')') rest := by
  induction names generalizing passed with
  | nil => exact absurd rfl hne
  | cons name names ih =>
      rcases hnames name List.mem_cons_self with ⟨word, hname, hword⟩
      have hcolon : ∀ text, read passed ([':'] ++ text) = read (some ':') text :=
        hread.first (List.forall_mem_singleton.mpr (by decide)) passed
      rcases names with _ | ⟨next, names⟩
      · have hplain : ∀ c ∈ word ++ blanks, c ≠ ':' := fun c hc =>
          (List.mem_append.mp hc).elim (fun hc => isWord_ne_colon (hword c hc))
            fun hc => isBlank_ne_colon (hblanks c hc)
        have hcut : name.toList ++ (blanks ++ ')' :: rest)
            = [':'] ++ ((word ++ blanks) ++ ')' :: rest) := by
          rw [hname, List.append_assoc]
          rfl
        rw [String.intercalate_singleton, hcut, hcolon, hread.stop hplain (Or.inr rfl)]
      · have hcut : (name ++ ", " ++ ", ".intercalate (next :: names)).toList
              ++ (blanks ++ ')' :: rest)
            = [':'] ++ (word ++ ',' :: ([' ']
              ++ ((", ".intercalate (next :: names)).toList ++ (blanks ++ ')' :: rest)))) := by
          rw [String.toList_append, String.toList_append, hname]
          simp only [List.append_assoc]
          rfl
        rw [String.intercalate_cons_cons, hcut, hcolon,
          hread.stop (fun c hc => isWord_ne_colon (hword c hc)) (Or.inl rfl),
          hread.first (List.forall_mem_singleton.mpr (by decide))]
        exact ih (List.cons_ne_nil _ _) (fun n hn => hnames n (List.mem_cons_of_mem _ hn)) _

theorem elements (hread : PassesOver read) {name : String} (hname : IsBindName name)
    (vs : List Value) {blanks : List Char} (hblanks : ∀ c ∈ blanks, isBlank c = true)
    (passed : Option Char) (rest : List Char) :
    read passed (elementList name vs ++ (blanks ++ ')' :: rest)) = read (some ')') rest := by
  rcases elementList_cases hname vs with hnull | ⟨names, hne, hnames, helements⟩
  · rw [hnull, ← List.append_assoc]
    refine hread.stop (fun c hc => ?_) (Or.inr rfl) passed rest
    rcases List.mem_append.mp hc with hc | hc
    · exact (show ∀ c ∈ ['N', 'U', 'L', 'L'], c ≠ ':' by simp) c hc
    · exact isBlank_ne_colon (hblanks c hc)
  · rw [helements]
    exact hread.names hne hnames hblanks passed rest

end PassesOver

/-- An operand of `IN`, and what it is spread to, cut at its parentheses. -/
theorem Membership.Fits.cut {m : Membership} {rest : List Char} (h : m.Fits rest)
    (vs : List Value) (text : List Char) :
    ∃ before behind blanks, (∀ c ∈ '(' :: behind, sameLetter 'l' c = false)
      ∧ (∀ c ∈ blanks, isBlank c = true)
      ∧ m.closing = blanks ++ [')']
      ∧ m.source ++ rest = before ++ '(' :: (behind ++ (m.name ++ (blanks ++ ')' :: rest)))
      ∧ m.opening ++ elementList (String.ofList m.name) vs ++ m.closing ++ text
        = before ++ '(' :: (behind
          ++ (elementList (String.ofList m.name) vs ++ (blanks ++ ')' :: text))) := by
  rcases h.opening.1 with ⟨before, behind, hopening, hbehind⟩
  rcases h.closed with ⟨blanks, hclosing, hblanks⟩
  refine ⟨before, behind, blanks, fun c hc => ?_, hblanks, hclosing, ?_, ?_⟩
  · rw [Bool.eq_false_iff]
    intro hletter
    have hword := isWord_of_sameLetter (by decide) hletter
    rcases List.mem_cons.mp hc with rfl | hc
    · exact absurd hword (by decide)
    · rw [isWord_of_isBlank (hbehind c hc)] at hword
      cases hword
  · simp only [Membership.source, hopening, hclosing, List.append_assoc, List.cons_append,
      List.nil_append]
  · simp only [hopening, hclosing, List.append_assoc, List.cons_append, List.nil_append]

/-- Spreading a list keeps a text even. -/
theorem everywhere_spread {m : Membership} {rest text : List Char} (h : m.Fits rest)
    (vs : List Value) {passed : Option Char}
    (heven : everywhere (evenHere b) passed (m.source ++ rest) = true)
    (htext : everywhere (evenHere b) (passing passed m.source) text = true) :
    everywhere (evenHere b) passed
        (m.opening ++ elementList (String.ofList m.name) vs ++ m.closing ++ text) = true
      ∧ Agree (m.source ++ rest)
        (m.opening ++ elementList (String.ofList m.name) vs ++ m.closing ++ text) := by
  rcases h.cut vs text with ⟨before, behind, blanks, hletters, hblanks, hclosing, hsource, hspread⟩
  have hpassing : passing passed m.source = some ')' := by
    simp only [passing, Membership.source, hclosing, List.foldl_append, List.foldl_cons,
      List.foldl_nil]
  rw [hpassing] at htext
  rw [hsource] at heven
  rw [hsource, hspread]
  refine ⟨everywhere_agree heven (.parenthesis _ _) ?_, .append (.parenthesis _ _) before⟩
  rw [← List.cons_append, (passesOver_even b).first hletters,
    (passesOver_even b).elements h.isBindName vs hblanks]
  exact htext

/-- Spreading lists keeps a text even, and agrees with it up to the first parenthesis. -/
theorem spread_everywhere {lists : List (String × List Value)} {cs : List Char}
    {ps : List (Piece Membership)} (h : Cut Membership.source Membership.Fits cs ps)
    {passed : Option Char} (heven : everywhere (evenHere b) passed cs = true) (s : Spread) :
    everywhere (evenHere b) passed (spreadPieces lists s ps).1 = true
      ∧ Agree cs (spreadPieces lists s ps).1 := by
  induction h generalizing passed s with
  | nil => exact ⟨rfl, .nil⟩
  | @char c rest ps _ ih =>
      rcases ih (Bool.and_eq_true_iff.mp heven).2 s with ⟨hrest, hagree⟩
      rw [spreadPieces_char]
      have hplace : everywhere (evenHere b) passed ([c] ++ rest) = true := heven
      exact ⟨everywhere_agree hplace hagree hrest, hagree.char c⟩
  | @found m rest ps hm _ ih =>
      have hbehind := everywhere_append heven
      rcases hbound : elements? lists s.binds (String.ofList m.name) with _ | vs
      · rcases ih hbehind s with ⟨hrest, hagree⟩
        rw [spreadPieces_unbound hbound]
        exact ⟨everywhere_agree heven hagree hrest, hagree.append m.source⟩
      · rw [spreadPieces_bound hbound]
        exact everywhere_spread hm vs heven (ih hbehind _).1

theorem spread_even {lists : List (String × List Value)} {cs : List Char} (h : isEven b cs = true)
    (s : Spread) : isEven b (spreadLists lists s cs).1 = true :=
  (spread_everywhere (membership_cut cs) h s).1

/-- What is compiled of an even fragment reads as the fragment, apart from the texts of the
    parts. -/
theorem compiled_reworded {x : Lexis} {sql : String} {p : Progress}
    {lists : List (String × List Value)} (h : isEven b sql.toList = true)
    (hb : Grows (p.placed lists sql).2.binds b) :
    x.Reworded sql.toList (p.placed lists sql).1 := by
  have hspread : x.Reworded sql.toList (p.spread lists sql).1 :=
    spread_reworded (membership_cut sql.toList) _
  have hplaced : x.Reworded (p.spread lists sql).1 (p.placed lists sql).1 :=
    placed_reworded (even_cut (spread_even h _)) hb
  exact fun s => (hspread s).trans (hplaced s)

end SqlMapper
