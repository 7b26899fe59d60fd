import SqlMapper.Proofs.Text.Scanning
import SqlMapper.Statement.Targets

/-!
# Where a Table Is Named

The tables that a statement names are found in its text.

A table is named behind a word that introduces it, with blanks between, in
quotes or not. The search goes from left to right and goes on behind each name
that it finds. So a name is passed over only if the search takes the word in
front of it for a name itself. That happens where a table is expected already:
behind another such word with nothing but blanks in between, or behind a quote
or a dot in such a place. No statement is written that way, but a comment may
end so.

The grammar of names is given here as relations, apart from the functions that
read it. Each function is shown to read what the relation says, and nothing
else.

## Main definitions

* `IsGap`, `Spells`: Blanks, and words in either case.
* `IsCondition`, `Introduces`: What stands in front of a table.
* `IsSegment`, `IsTableName`: How a table may be written.
* `Expects`: A table is expected behind a text.
* `Names`: A statement names a table with a schema.

## Theorems

* `target?_sound`: What is read behind a word is the name of a table.
* `target?_complete`: The name of a table is read behind a word.
* `target?_within`: It lies in front of the place where no table is expected.
* `mem_foundIn_of_within`: A match is found if none in front of it reaches it.
* `found_of_target`: What is read behind a word is found where no table is expected yet.
* `Names.written`: A table that is named is found, with its schema and without it.
-/

namespace SqlMapper

open Text

/-- Blanks, at least one. -/
def IsGap (cs : List Char) : Prop :=
  cs ≠ [] ∧ ∀ c ∈ cs, isBlank c = true

/-- A word in either case. -/
abbrev Spells (word cs : List Char) : Prop :=
  List.Forall₂ (fun k c => sameLetter k c = true) word cs

/-- The words `IF EXISTS` or `IF NOT EXISTS`, with blanks behind each. -/
inductive IsCondition : List Char → Prop where
  | plain {w gap w' gap' : List Char} (hif : Spells ['i', 'f'] w) (hgap : IsGap gap)
      (hexists : Spells ['e', 'x', 'i', 's', 't', 's'] w') (hgap' : IsGap gap') :
      IsCondition (w ++ gap ++ (w' ++ gap'))
  | negated {w gap w' gap' w'' gap'' : List Char} (hif : Spells ['i', 'f'] w) (hgap : IsGap gap)
      (hnot : Spells ['n', 'o', 't'] w') (hgap' : IsGap gap')
      (hexists : Spells ['e', 'x', 'i', 's', 't', 's'] w'') (hgap'' : IsGap gap'') :
      IsCondition (w ++ gap ++ (w' ++ gap' ++ (w'' ++ gap'')))

/-- The words that stand directly before a table, but for `TABLE`. -/
def introducers : List (List Char) :=
  [['i', 'n', 't', 'o'], ['u', 'p', 'd', 'a', 't', 'e'], ['f', 'r', 'o', 'm']]

/-- A word that stands before a table, with blanks behind it; `TABLE` perhaps with a condition. -/
inductive Introduces : List Char → Prop where
  | word {k w gap : List Char} (hk : k ∈ introducers) (hw : Spells k w) (hgap : IsGap gap) :
      Introduces (w ++ gap)
  | table {w gap : List Char} (hw : Spells ['t', 'a', 'b', 'l', 'e'] w) (hgap : IsGap gap) :
      Introduces (w ++ gap)
  | conditional {w gap condition : List Char} (hw : Spells ['t', 'a', 'b', 'l', 'e'] w)
      (hgap : IsGap gap) (hcondition : IsCondition condition) :
      Introduces (w ++ gap ++ condition)

/-- The words that a table may follow. -/
def targetWords : List (List Char) :=
  ['t', 'a', 'b', 'l', 'e'] :: introducers

theorem Introduces.exists_word {introduction : List Char} (h : Introduces introduction) :
    ∃ word ∈ targetWords, ∃ w gap behind,
      introduction = w ++ gap ++ behind ∧ Spells word w ∧ IsGap gap := by
  cases h with
  | word hk hw hgap =>
      exact ⟨_, List.mem_cons_of_mem _ hk, _, _, [], (List.append_nil _).symm, hw, hgap⟩
  | table hw hgap => exact ⟨_, List.mem_cons_self, _, _, [], (List.append_nil _).symm, hw, hgap⟩
  | conditional hw hgap hcondition => exact ⟨_, List.mem_cons_self, _, _, _, rfl, hw, hgap⟩

/-- A quote, or nothing. -/
def IsQuotation (cs : List Char) : Prop :=
  cs = [] ∨ ∃ c, isNameQuote c = true ∧ cs = [c]

/-- A word with or without quotes. -/
def IsSegment (word cs : List Char) : Prop :=
  ∃ opening closing, IsQuotation opening ∧ IsQuotation closing ∧ word ≠ []
    ∧ (∀ c ∈ word, isWord c = true) ∧ cs = opening ++ word ++ closing

theorem isSegment_bare {word : List Char} (hne : word ≠ []) (hword : ∀ c ∈ word, isWord c = true) :
    IsSegment word word :=
  ⟨[], [], Or.inl rfl, Or.inl rfl, hne, hword, (List.append_nil word).symm⟩

theorem isSegment_quoted {quote : Char} {word : List Char} (hquote : isNameQuote quote = true)
    (hne : word ≠ []) (hword : ∀ c ∈ word, isWord c = true) :
    IsSegment word ([quote] ++ word ++ [quote]) :=
  ⟨[quote], [quote], Or.inr ⟨quote, hquote, rfl⟩, Or.inr ⟨quote, hquote, rfl⟩, hne, hword, rfl⟩

/-- The name of a table, perhaps with a schema. -/
def IsTableName (cs : List Char) : Prop :=
  ∃ first a, IsSegment first a ∧ (cs = a ∨ ∃ second b, IsSegment second b ∧ cs = a ++ '.' :: b)

/-- No word goes on behind a text. -/
def EndsWord (cs : List Char) : Prop :=
  ∀ c, cs.getLast? = some c → isWord c = false

/-- A table is expected behind a text: one is introduced there, and a word would be its name, or go
    on with it. -/
def Expects (front : List Char) : Prop :=
  ∃ before introduction begun c rest, front = before ++ introduction ++ begun ∧ EndsWord before
    ∧ Introduces introduction ∧ isWord c = true ∧ IsTableName (begun ++ c :: rest)

/-- A statement names a table with a schema, with or without quotes, behind a word that introduces
    it, and not where a table is expected already. -/
inductive Names (schema name : List Char) : List Char → Prop where
  | intro (front introduction a b rest : List Char) (hfront : EndsWord front)
      (hfree : ¬ Expects front) (hintroduces : Introduces introduction) (ha : IsSegment schema a)
      (hb : IsSegment name b)
      (hends : wordRun rest = [] ∨ ∃ c, b.getLast? = some c ∧ isNameQuote c = true) :
      Names schema name (front ++ introduction ++ (a ++ '.' :: b) ++ rest)

/-! ### Words and gaps -/

theorem isGap_of_all {cs : List Char} (h : (cs != [] && cs.all isBlank) = true) : IsGap cs := by
  rw [Bool.and_eq_true, bne_iff_ne, List.all_eq_true] at h
  exact h

theorem keyword?_of_spells {k w : List Char} (h : Spells k w) (rest : List Char) :
    keyword? k (w ++ rest) = some (w, rest) := by
  induction h with
  | nil => rfl
  | cons hc _ ih => simp only [List.cons_append, keyword?, hc, if_true, ih, Option.map_some]

/-- A word that begins with another letter is not read. -/
theorem keyword?_of_first {l : Char} {ks cs : List Char}
    (h : ∀ c ∈ cs.head?, sameLetter l c = false) : keyword? (l :: ks) cs = none := by
  cases cs with
  | nil => rfl
  | cons c cs =>
      have hc : sameLetter l c = false := h c rfl
      simp only [keyword?, hc, Bool.false_eq_true, if_false]

theorem IsGap.head_blank {gap : List Char} (h : IsGap gap) (rest : List Char) :
    ∀ c ∈ (gap ++ rest).head?, isBlank c = true := by
  intro c hc
  rcases List.exists_cons_of_ne_nil h.1 with ⟨d, others, rfl⟩
  cases hc
  exact h.2 c List.mem_cons_self

/-- No word begins with a blank. -/
theorem wordRun_of_blank {rest : List Char} (h : ∀ c ∈ rest.head?, isBlank c = true) :
    wordRun rest = [] := by
  cases rest with
  | nil => rfl
  | cons c rest => rw [wordRun, List.takeWhile_cons, isWord_of_isBlank (h c rfl),
      if_neg Bool.false_ne_true]

theorem gap?_sound {cs rest : List Char} (h : gap? cs = some rest) :
    ∃ gap, IsGap gap ∧ cs = gap ++ rest := by
  unfold gap? at h
  by_cases hempty : (blankRun cs).isEmpty = true
  · rw [if_pos hempty] at h
    cases h
  · rw [if_neg hempty, Option.some.injEq] at h
    refine ⟨blankRun cs, ⟨fun hnil => hempty (List.isEmpty_iff.mpr hnil),
      fun c => isBlank_of_mem_blankRun⟩, ?_⟩
    rw [← h, blankRun_append_afterBlanks]

theorem gap?_complete {gap rest : List Char} (h : IsGap gap)
    (hrest : ∀ c ∈ rest.head?, isBlank c = false) : gap? (gap ++ rest) = some rest := by
  have hrun : ∀ cs : List Char, (∀ c ∈ cs.head?, isBlank c = false) →
      blankRun cs = [] ∧ afterBlanks cs = cs := by
    intro cs hcs
    cases cs with
    | nil => exact ⟨rfl, rfl⟩
    | cons c cs =>
        have hc : isBlank c = false := hcs c rfl
        simp only [blankRun, afterBlanks, List.takeWhile_cons, List.dropWhile_cons, hc,
          Bool.false_eq_true, if_false, and_self]
  have hblanks : blankRun (gap ++ rest) = gap ∧ afterBlanks (gap ++ rest) = rest := by
    rw [blankRun, afterBlanks, List.takeWhile_append_of_pos h.2, List.dropWhile_append_of_pos h.2]
    rcases hrun rest hrest with ⟨hnone, hall⟩
    rw [blankRun] at hnone
    rw [afterBlanks] at hall
    exact ⟨by rw [hnone, List.append_nil], hall⟩
  rw [gap?, hblanks.1, hblanks.2, if_neg (fun hempty => h.1 (List.isEmpty_iff.mp hempty))]

theorem gap?_before {gap cs : List Char} (h : IsGap gap) (hne : cs ≠ [])
    (hcs : ∀ c ∈ cs, isBlank c = false) (rest : List Char) :
    gap? (gap ++ (cs ++ rest)) = some (cs ++ rest) := by
  refine gap?_complete h fun c hc => ?_
  rcases List.exists_cons_of_ne_nil hne with ⟨d, others, rfl⟩
  cases hc
  exact hcs c List.mem_cons_self

theorem gap?_of_first {cs : List Char} (h : ∀ c ∈ cs.head?, isBlank c = false) :
    gap? cs = none := by
  cases cs with
  | nil => rfl
  | cons c cs =>
      have hc : isBlank c = false := h c rfl
      simp only [gap?, blankRun, List.takeWhile_cons, hc, Bool.false_eq_true, if_false,
        List.isEmpty_nil, if_true]

/-! ### Reading what is named -/

theorem afterWord?_sound {word cs rest : List Char} (h : afterWord? word cs = some rest) :
    ∃ gap w, IsGap gap ∧ Spells word w ∧ cs = gap ++ (w ++ rest) := by
  rcases Option.bind_eq_some_iff.mp h with ⟨behind, hgap, hbehind⟩
  rcases Option.bind_eq_some_iff.mp hbehind with ⟨⟨w, rest'⟩, hword, hrest⟩
  cases hrest
  rcases gap?_sound hgap with ⟨gap, hblanks, rfl⟩
  exact ⟨gap, w, hblanks, keyword?_letters hword, by rw [keyword?_append hword]⟩

theorem afterIfExists?_sound {cs behind rest : List Char} (h : afterIfExists? cs = some behind)
    (hgap : gap? behind = some rest) :
    ∃ gap condition, IsGap gap ∧ IsCondition condition ∧ cs = gap ++ condition ++ rest := by
  rcases Option.bind_eq_some_iff.mp h with ⟨afterIf, hif, hexists⟩
  rcases afterWord?_sound hif with ⟨gap, w, hblanks, hw, rfl⟩
  rcases afterWord?_sound hexists with ⟨gap', w', hblanks', hw', hafter⟩
  rcases gap?_sound hgap with ⟨gap'', hblanks'', rfl⟩
  cases hnot : afterWord? ['n', 'o', 't'] afterIf with
  | none =>
      rw [hnot, Option.getD_none] at hafter
      refine ⟨gap, _, hblanks, .plain hw hblanks' hw' hblanks'', ?_⟩
      simp only [hafter, List.append_assoc]
  | some afterNot =>
      rw [hnot, Option.getD_some] at hafter
      rcases afterWord?_sound hnot with ⟨gap₁, w₁, hblanks₁, hw₁, rfl⟩
      refine ⟨gap, _, hblanks, .negated hw hblanks₁ hw₁ hblanks' hw' hblanks'', ?_⟩
      simp only [hafter, List.append_assoc]

theorem nameQuote_sound (cs : List Char) :
    IsQuotation (nameQuote cs).1 ∧ cs = (nameQuote cs).1 ++ (nameQuote cs).2 := by
  cases cs with
  | nil => exact ⟨Or.inl rfl, rfl⟩
  | cons c cs =>
      by_cases hc : isNameQuote c = true
      · simp only [nameQuote, if_pos hc]
        exact ⟨Or.inr ⟨c, hc, rfl⟩, rfl⟩
      · simp only [nameQuote, if_neg hc]
        exact ⟨Or.inl rfl, rfl⟩

theorem nameSegment?_sound {cs name rest : List Char} (h : nameSegment? cs = some (name, rest)) :
    ∃ word, IsSegment word name ∧ cs = name ++ rest := by
  let behind := (nameQuote cs).2
  have hopening := nameQuote_sound cs
  have hclosing := nameQuote_sound (afterWord behind)
  have hsegment : (if (wordRun behind).isEmpty = true then none
      else some ((nameQuote cs).1 ++ wordRun behind ++ (nameQuote (afterWord behind)).1,
        (nameQuote (afterWord behind)).2)) = some (name, rest) := h
  by_cases hempty : (wordRun behind).isEmpty = true
  · rw [if_pos hempty] at hsegment
    cases hsegment
  · rw [if_neg hempty] at hsegment
    cases hsegment
    refine ⟨wordRun behind, ⟨_, _, hopening.1, hclosing.1, fun hnil =>
      hempty (List.isEmpty_iff.mpr hnil), fun c => isWord_of_mem_wordRun, rfl⟩, ?_⟩
    rw [List.append_assoc, ← hclosing.2, List.append_assoc, wordRun_append_afterWord, ← hopening.2]

theorem tableName?_sound {cs name rest : List Char} (h : tableName? cs = some (name, rest)) :
    IsTableName name ∧ cs = name ++ rest := by
  rcases Option.bind_eq_some_iff.mp h with ⟨⟨first, behind⟩, hfirst, hbehind⟩
  rcases nameSegment?_sound hfirst with ⟨word, hword, rfl⟩
  have halone : IsTableName first ∧ first ++ behind = first ++ behind :=
    ⟨⟨word, first, hword, Or.inl rfl⟩, rfl⟩
  dsimp only at hbehind
  split at hbehind
  · rename_i afterDot
    cases hsecond : nameSegment? afterDot with
    | none =>
        rw [hsecond] at hbehind
        cases hbehind
        exact halone
    | some found =>
        rcases nameSegment?_sound hsecond with ⟨word', hword', rfl⟩
        rw [hsecond] at hbehind
        cases hbehind
        refine ⟨⟨word, first, hword, Or.inr ⟨word', _, hword', rfl⟩⟩, ?_⟩
        rw [List.append_assoc, List.cons_append]
  · cases hbehind
    exact halone

theorem tableWord?_sound {cs rest : List Char} (h : tableWord? cs = some rest) :
    ∃ k ∈ introducers, ∃ w, Spells k w ∧ cs = w ++ rest := by
  rcases List.exists_of_findSome?_eq_some h with ⟨k, hk, h⟩
  rcases Option.map_eq_some_iff.mp h with ⟨⟨w, rest'⟩, hword, rfl⟩
  exact ⟨k, hk, w, keyword?_letters hword, (keyword?_append hword).symm⟩

theorem tableBehind?_sound {cs name rest : List Char} (h : tableBehind? cs = some (name, rest)) :
    ∃ gap, IsGap gap ∧ IsTableName name ∧ cs = gap ++ (name ++ rest) := by
  rcases Option.bind_eq_some_iff.mp h with ⟨behind, hgap, hbehind⟩
  rcases gap?_sound hgap with ⟨gap, hblanks, rfl⟩
  rcases tableName?_sound hbehind with ⟨hname, rfl⟩
  exact ⟨gap, hblanks, hname, rfl⟩

/-- What is read behind a word that introduces a table is the name of a table. -/
theorem target?_sound {cs name rest : List Char} (h : target? cs = some (name, rest)) :
    ∃ introduction, Introduces introduction ∧ IsTableName name
      ∧ cs = introduction ++ (name ++ rest) := by
  unfold target? at h
  split at h
  · rename_i behind hword
    rcases tableWord?_sound hword with ⟨k, hk, w, hw, rfl⟩
    rcases tableBehind?_sound h with ⟨gap, hgap, hname, rfl⟩
    exact ⟨_, .word hk hw hgap, hname, (List.append_assoc _ _ _).symm⟩
  · rcases Option.bind_eq_some_iff.mp h with ⟨⟨w, behind⟩, hword, hbehind⟩
    have hw := keyword?_letters hword
    rw [← keyword?_append hword]
    have hfound : ((afterIfExists? behind).bind tableBehind?).or (tableBehind? behind)
        = some (name, rest) := by
      rw [← hbehind]
      dsimp only
      cases (afterIfExists? behind).bind tableBehind? <;> rfl
    rcases Option.or_eq_some_iff.mp hfound with hconditional | ⟨-, hplain⟩
    · rcases Option.bind_eq_some_iff.mp hconditional with ⟨afterExists, hexists, hname⟩
      rcases Option.bind_eq_some_iff.mp hname with ⟨found, hgap, hfound⟩
      rcases tableName?_sound hfound with ⟨hname, rfl⟩
      rcases afterIfExists?_sound hexists hgap with ⟨gap, condition, hblanks, hcondition, rfl⟩
      refine ⟨_, .conditional hw hblanks hcondition, hname, ?_⟩
      simp only [List.append_assoc]
    · rcases tableBehind?_sound hplain with ⟨gap, hgap, hname, rfl⟩
      exact ⟨_, .table hw hgap, hname, (List.append_assoc _ _ _).symm⟩

theorem isNameQuote_of_isWord {c : Char} (h : isWord c = true) : isNameQuote c = false := by
  rw [Bool.eq_false_iff]
  intro hquote
  rcases Bool.or_eq_true_iff.mp hquote with hquote | hquote
  all_goals
    rw [beq_iff_eq.mp hquote] at h
    exact absurd h (by decide)

theorem isWord_of_isNameQuote {c : Char} (h : isNameQuote c = true) : isWord c = false := by
  rw [Bool.eq_false_iff]
  intro hword
  rw [isNameQuote_of_isWord hword] at h
  cases h

theorem nameQuote_complete {quotation rest : List Char} (h : IsQuotation quotation)
    (hrest : quotation = [] → ∀ c ∈ rest.head?, isNameQuote c = false) :
    nameQuote (quotation ++ rest) = (quotation, rest) := by
  rcases h with rfl | ⟨c, hc, rfl⟩
  · cases rest with
    | nil => rfl
    | cons c rest =>
        have hc : isNameQuote c = false := hrest rfl c rfl
        simp only [List.nil_append, nameQuote, hc, Bool.false_eq_true, if_false]
  · simp only [List.singleton_append, nameQuote, if_pos hc]

/-- A segment of a name is read; a quote behind it goes with it. -/
theorem nameSegment?_complete {word segment rest : List Char} (h : IsSegment word segment)
    (hrest : wordRun rest = [] ∨ ∃ c, segment.getLast? = some c ∧ isNameQuote c = true) :
    ∃ closing behind, IsQuotation closing ∧ rest = closing ++ behind
      ∧ nameSegment? (segment ++ rest) = some (segment ++ closing, behind) := by
  rcases h with ⟨opening, closing, hopening, hclosing, hne, hword, rfl⟩
  rcases List.exists_cons_of_ne_nil hne with ⟨first, others, hfirst⟩
  have hnoword : wordRun (closing ++ rest) = [] := by
    rcases hclosing with rfl | ⟨c, hc, rfl⟩
    · refine hrest.resolve_right ?_
      rintro ⟨c, hlast, hquote⟩
      rw [List.append_nil, List.getLast?_append_of_ne_nil _ hne] at hlast
      rw [isNameQuote_of_isWord (hword c (List.mem_of_getLast? hlast))] at hquote
      cases hquote
    · simp only [List.singleton_append, wordRun, List.takeWhile_cons, isWord_of_isNameQuote hc,
        Bool.false_eq_true, if_false]
  have hopened : nameQuote (opening ++ (word ++ (closing ++ rest)))
      = (opening, word ++ (closing ++ rest)) := by
    refine nameQuote_complete hopening fun _ c hc => ?_
    rw [hfirst] at hc
    cases hc
    exact isNameQuote_of_isWord (hword first (hfirst ▸ List.mem_cons_self))
  have hrun : wordRun (word ++ (closing ++ rest)) = word := by
    rw [wordRun_of_all hword, hnoword, List.append_nil]
  have hafter : afterWord (word ++ (closing ++ rest)) = closing ++ rest := by
    have hsplit := wordRun_append_afterWord (word ++ (closing ++ rest))
    rw [hrun] at hsplit
    exact List.append_cancel_left hsplit
  have hread : ∀ closed behind, nameQuote (closing ++ rest) = (closed, behind) →
      nameSegment? (opening ++ word ++ closing ++ rest)
        = some (opening ++ word ++ closed, behind) := by
    intro closed behind hclosed
    have hnonempty : ¬ word.isEmpty = true := fun hempty => hne (List.isEmpty_iff.mp hempty)
    simp only [List.append_assoc, nameSegment?, hopened, hrun, hafter, hclosed, if_neg hnonempty]
  rcases hclosing with rfl | ⟨c, hc, rfl⟩
  · refine ⟨(nameQuote rest).1, (nameQuote rest).2, (nameQuote_sound rest).1,
      (nameQuote_sound rest).2, ?_⟩
    rw [hread _ _ rfl, List.append_nil]
    rfl
  · refine ⟨[], rest, Or.inl rfl, rfl, ?_⟩
    have hclosed : nameQuote ([c] ++ rest) = ([c], rest) :=
      nameQuote_complete (Or.inr ⟨c, hc, rfl⟩) fun hnil => absurd hnil (List.cons_ne_nil _ _)
    rw [hread [c] rest hclosed, List.append_nil]

/-- The name of a table with a schema is read; a quote behind it goes with it. -/
theorem tableName?_complete {schema name a b rest : List Char} (ha : IsSegment schema a)
    (hb : IsSegment name b)
    (hrest : wordRun rest = [] ∨ ∃ c, b.getLast? = some c ∧ isNameQuote c = true) :
    ∃ closing behind, IsQuotation closing ∧ rest = closing ++ behind
      ∧ tableName? (a ++ '.' :: b ++ rest) = some (a ++ '.' :: b ++ closing, behind) := by
  rcases nameSegment?_complete hb hrest with ⟨closing, behind, hclosing, hbehind, hsecond⟩
  have hdot : wordRun ('.' :: (b ++ rest)) = [] := by
    simp only [wordRun, List.takeWhile_cons, show isWord '.' = false by decide,
      Bool.false_eq_true, if_false]
  rcases nameSegment?_complete ha (Or.inl hdot) with ⟨none', afterFirst, hnone, hafter, hfirst⟩
  -- A dot is no quote.
  have hnil : none' = [] := by
    rcases hnone with hnil | ⟨c, hc, rfl⟩
    · exact hnil
    · cases hafter
      exact absurd hc (by decide)
  subst hnil
  refine ⟨closing, behind, hclosing, hbehind, ?_⟩
  rw [List.nil_append] at hafter
  rw [List.append_nil, ← hafter] at hfirst
  rw [List.append_assoc, List.cons_append, tableName?, hfirst]
  simp only [Option.bind_eq_bind, Option.bind_some, hsecond, List.append_assoc, List.cons_append]
  rfl

theorem IsQuotation.not_blank {cs : List Char} (h : IsQuotation cs) :
    ∀ c ∈ cs, isBlank c = false := by
  intro c hc
  rcases h with rfl | ⟨q, hq, rfl⟩
  · cases hc
  · rw [List.mem_singleton.mp hc]
    rcases Bool.or_eq_true_iff.mp hq with hq | hq
    all_goals
      rw [beq_iff_eq.mp hq]
      decide

theorem IsSegment.not_blank {word segment : List Char} (h : IsSegment word segment) :
    ∀ c ∈ segment, isBlank c = false := by
  rcases h with ⟨opening, closing, hopening, hclosing, -, hword, rfl⟩
  intro c hc
  rw [List.mem_append, List.mem_append] at hc
  rcases hc with (hc | hc) | hc
  · exact hopening.not_blank c hc
  · exact isBlank_of_isWord (hword c hc)
  · exact hclosing.not_blank c hc

theorem IsSegment.ne_nil {word segment : List Char} (h : IsSegment word segment) :
    segment ≠ [] := by
  rcases h with ⟨opening, closing, -, -, hne, -, rfl⟩
  intro hnil
  rw [List.append_eq_nil_iff, List.append_eq_nil_iff] at hnil
  exact hne hnil.1.2

/-- Letters other than the two that have a third form are told apart in either case. -/
theorem sameLetter_other {k l c : Char} (h : sameLetter k c = true)
    (hk : (k == 'k' || k == 's') = false) (hl : (l == 'k' || l == 's') = false) (hne : k ≠ l) :
    sameLetter l c = false := by
  rw [Bool.or_eq_false_iff] at hk hl
  simp only [sameLetter, hk.1, hk.2, hl.1, hl.2, Bool.false_and, Bool.or_false,
    beq_iff_eq] at h ⊢
  rw [h]
  exact beq_eq_false_iff_ne.mpr hne

theorem Spells.exists_first {l : Char} {ks w : List Char} (h : Spells (l :: ks) w) :
    ∃ c rest, w = c :: rest ∧ sameLetter l c = true := by
  cases h with
  | cons hc hrest => exact ⟨_, _, rfl, hc⟩

/-- A word that begins with another letter than it should is not read. -/
theorem keyword?_of_other {k l : Char} {ks ls w : List Char} (h : Spells (k :: ks) w)
    (hk : (k == 'k' || k == 's') = false) (hl : (l == 'k' || l == 's') = false) (hne : k ≠ l)
    (rest : List Char) : keyword? (l :: ls) (w ++ rest) = none := by
  rcases h.exists_first with ⟨c, others, rfl, hc⟩
  refine keyword?_of_first fun d hd => ?_
  cases hd
  exact sameLetter_other hc hk hl hne

theorem tableWord?_complete {k w : List Char} (hk : k ∈ introducers) (h : Spells k w)
    (rest : List Char) : tableWord? (w ++ rest) = some rest := by
  simp only [introducers, List.mem_cons, List.not_mem_nil, or_false] at hk
  rcases hk with rfl | rfl | rfl
  · simp only [tableWord?, List.findSome?_cons, keyword?_of_spells h, Option.map_some]
  · simp only [tableWord?, List.findSome?_cons,
      keyword?_of_other h (l := 'i') (by decide) (by decide) (by decide),
      keyword?_of_spells h, Option.map_some, Option.map_none]
  · simp only [tableWord?, List.findSome?_cons,
      keyword?_of_other h (l := 'i') (by decide) (by decide) (by decide),
      keyword?_of_other h (l := 'u') (by decide) (by decide) (by decide),
      keyword?_of_spells h, Option.map_some, Option.map_none]

theorem tableWord?_of_table {w : List Char} (h : Spells ['t', 'a', 'b', 'l', 'e'] w)
    (rest : List Char) : tableWord? (w ++ rest) = none := by
  simp only [tableWord?, List.findSome?_cons, List.findSome?_nil,
    keyword?_of_other h (l := 'i') (by decide) (by decide) (by decide),
    keyword?_of_other h (l := 'u') (by decide) (by decide) (by decide),
    keyword?_of_other h (l := 'f') (by decide) (by decide) (by decide), Option.map_none]

theorem Spells.gap?_before {l : Char} {ks w gap : List Char} (h : Spells (l :: ks) w)
    (hk : (l :: ks).all isAsciiWord = true) (hgap : IsGap gap) (rest : List Char) :
    gap? (gap ++ (w ++ rest)) = some (w ++ rest) := by
  refine SqlMapper.gap?_before hgap ?_ (fun c hc => isBlank_of_isWord (isWord_of_letters h hk c hc))
    rest
  rcases h.exists_first with ⟨c, others, rfl, -⟩
  exact List.cons_ne_nil c others

theorem afterWord?_complete {l : Char} {ks gap w : List Char} (hgap : IsGap gap)
    (hw : Spells (l :: ks) w) (hk : (l :: ks).all isAsciiWord = true) (rest : List Char) :
    afterWord? (l :: ks) (gap ++ (w ++ rest)) = some rest := by
  simp only [afterWord?, hw.gap?_before hk hgap, Option.bind_eq_bind, Option.bind_some,
    keyword?_of_spells hw]
  rfl

theorem afterWord?_of_gap? {word cs : List Char} (h : gap? cs = none) :
    afterWord? word cs = none := by
  simp only [afterWord?, h, Option.bind_eq_bind, Option.bind_none]

/-- A condition is read up to the last gap. -/
theorem IsCondition.read {condition : List Char} (h : IsCondition condition) {gap : List Char}
    (hgap : IsGap gap) (rest : List Char) :
    ∃ gap', IsGap gap' ∧ afterIfExists? (gap ++ (condition ++ rest)) = some (gap' ++ rest) := by
  cases h with
  | plain hif hgap₁ hexists hgap₂ =>
      rename_i w gap₁ w' gap₂
      refine ⟨gap₂, hgap₂, ?_⟩
      have hnot : afterWord? ['n', 'o', 't'] (gap₁ ++ (w' ++ (gap₂ ++ rest))) = none := by
        simp only [afterWord?, hexists.gap?_before (by decide) hgap₁, Option.bind_eq_bind,
          Option.bind_some, keyword?_of_other hexists (l := 'n') (by decide) (by decide) (by decide),
          Option.bind_none]
      simp only [List.append_assoc, afterIfExists?, Option.bind_eq_bind,
        afterWord?_complete hgap hif (by decide), Option.bind_some, hnot, Option.getD_none,
        afterWord?_complete hgap₁ hexists (by decide)]
  | negated hif hgap₁ hnot hgap₂ hexists hgap₃ =>
      rename_i w gap₁ w' gap₂ w'' gap₃
      refine ⟨gap₃, hgap₃, ?_⟩
      simp only [List.append_assoc, afterIfExists?, Option.bind_eq_bind,
        afterWord?_complete hgap hif (by decide), Option.bind_some,
        afterWord?_complete hgap₁ hnot (by decide), Option.getD_some,
        afterWord?_complete hgap₂ hexists (by decide)]

/-- A name of some length is no condition, even if it begins like one. -/
theorem afterIfExists?_of_name {gap name rest : List Char} (hgap : IsGap gap)
    (hname : ∀ c ∈ name, isBlank c = false) (hlong : 2 < name.length) :
    afterIfExists? (gap ++ (name ++ rest)) = none := by
  have hfirst := gap?_before hgap (List.ne_nil_of_length_pos (by omega)) hname rest
  cases hif : keyword? ['i', 'f'] (name ++ rest) with
  | none =>
      simp only [afterIfExists?, afterWord?, hfirst, hif, Option.bind_eq_bind, Option.bind_some,
        Option.bind_none]
  | some found =>
      rcases found with ⟨w, behind⟩
      have happend := keyword?_append hif
      have hlength : w.length = 2 := (keyword?_letters hif).length_eq.symm
      -- Something of the name is left behind the two letters.
      have hbehind : gap? behind = none := by
        refine gap?_of_first fun c hc => ?_
        rcases List.append_eq_append_iff.mp happend with ⟨left, rfl, hleft⟩ | ⟨more, hmore, -⟩
        · cases left with
          | nil =>
              rw [List.append_nil] at hlong
              omega
          | cons d left =>
              rw [hleft] at hc
              cases hc
              exact hname c (List.mem_append_right w List.mem_cons_self)
        · rw [hmore, List.length_append] at hlength
          omega
      have hafterIf : afterWord? ['i', 'f'] (gap ++ (name ++ rest)) = some behind := by
        simp only [afterWord?, hfirst, hif, Option.bind_eq_bind, Option.bind_some]
        rfl
      simp only [afterIfExists?, hafterIf, Option.bind_eq_bind, Option.bind_some,
        afterWord?_of_gap? hbehind, Option.getD_none]

theorem tableBehind?_complete {gap text : List Char} (hgap : IsGap gap)
    (hfirst : ∀ c ∈ text.head?, isBlank c = false) :
    tableBehind? (gap ++ text) = tableName? text := by
  simp only [tableBehind?, gap?_complete hgap hfirst, Option.bind_eq_bind, Option.bind_some]

section

variable {w gap text : List Char}

/-- Behind a word that introduces a table, what is read is the name that is read there. -/
theorem target?_word {k : List Char} (hk : k ∈ introducers) (hw : Spells k w) (hgap : IsGap gap)
    (hfirst : ∀ c ∈ text.head?, isBlank c = false) :
    target? (w ++ gap ++ text) = tableName? text := by
  rw [List.append_assoc, target?, tableWord?_complete hk hw]
  exact tableBehind?_complete hgap hfirst

/-- So it is behind `TABLE`, unless a condition and a name are read there. -/
theorem target?_table (hw : Spells ['t', 'a', 'b', 'l', 'e'] w) (hgap : IsGap gap)
    (hfirst : ∀ c ∈ text.head?, isBlank c = false)
    (hplain : (afterIfExists? (gap ++ text)).bind tableBehind? = none) :
    target? (w ++ gap ++ text) = tableName? text := by
  rw [List.append_assoc, target?, tableWord?_of_table hw]
  simp only [keyword?_of_spells hw, Option.bind_eq_bind, Option.bind_some, hplain]
  exact tableBehind?_complete hgap hfirst

/-- Behind `TABLE` and a condition, the condition is no name if a name follows it. -/
theorem target?_conditional {condition : List Char} {found : List Char × List Char}
    (hw : Spells ['t', 'a', 'b', 'l', 'e'] w) (hgap : IsGap gap)
    (hcondition : IsCondition condition) (hfirst : ∀ c ∈ text.head?, isBlank c = false)
    (hname : tableName? text = some found) :
    target? (w ++ gap ++ condition ++ text) = some found := by
  rcases hcondition.read hgap text with ⟨gap', hgap', hafter⟩
  rw [List.append_assoc, List.append_assoc, target?, tableWord?_of_table hw]
  simp only [keyword?_of_spells hw, Option.bind_eq_bind, Option.bind_some, hafter,
    tableBehind?_complete hgap' hfirst, hname]
  rfl

end

theorem IsSegment.head_not_blank {word segment : List Char} (h : IsSegment word segment)
    (rest : List Char) : ∀ c ∈ (segment ++ rest).head?, isBlank c = false := by
  intro c hc
  rcases List.exists_cons_of_ne_nil h.ne_nil with ⟨d, others, rfl⟩
  cases hc
  exact h.not_blank c List.mem_cons_self

/-- The name of a table with a schema is read behind a word that introduces it. -/
theorem target?_complete {introduction schema name a b rest : List Char}
    (h : Introduces introduction) (ha : IsSegment schema a) (hb : IsSegment name b)
    (hrest : wordRun rest = [] ∨ ∃ c, b.getLast? = some c ∧ isNameQuote c = true) :
    ∃ closing behind, IsQuotation closing ∧ rest = closing ++ behind
      ∧ target? (introduction ++ (a ++ '.' :: b ++ rest))
        = some (a ++ '.' :: b ++ closing, behind) := by
  rcases tableName?_complete ha hb hrest with ⟨closing, behind, hclosing, hbehind, hread⟩
  refine ⟨closing, behind, hclosing, hbehind, ?_⟩
  have hfirst : ∀ c ∈ (a ++ '.' :: b ++ rest).head?, isBlank c = false := by
    rw [List.append_assoc]
    exact ha.head_not_blank _
  cases h with
  | word hk hw hgap => rw [target?_word hk hw hgap hfirst, hread]
  | table hw hgap =>
      rename_i w gap
      have hplain : afterIfExists? (gap ++ (a ++ '.' :: b ++ rest)) = none := by
        refine afterIfExists?_of_name hgap (fun c hc => ?_) ?_
        · rcases List.mem_append.mp hc with hc | hc
          · exact ha.not_blank c hc
          · rcases List.mem_cons.mp hc with rfl | hc
            · decide
            · exact hb.not_blank c hc
        · have hlengtha := List.length_pos_of_ne_nil ha.ne_nil
          have hlengthb := List.length_pos_of_ne_nil hb.ne_nil
          rw [List.length_append, List.length_cons]
          omega
      rw [target?_table hw hgap hfirst (by rw [hplain, Option.bind_none]), hread]
  | conditional hw hgap hcondition => exact target?_conditional hw hgap hcondition hfirst hread

/-! ### Where a table is expected -/

theorem EndsWord.of_append {cs ds : List Char} (h : EndsWord (cs ++ ds)) : EndsWord ds := by
  intro c hc
  refine h c ?_
  rw [List.getLast?_append, hc]
  rfl

/-- A word that begins behind a text begins behind a whole word and gap of it, as far as the text
    has begun with them. -/
theorem exists_behind_gap {w gap f more rest : List Char} {c : Char}
    (hw : ∀ d ∈ w, isWord d = true) (hgap : IsGap gap) (hf : f ≠ []) (hends : EndsWord f)
    (hc : isWord c = true) (h : f ++ c :: more = w ++ gap ++ rest) :
    ∃ f', f = w ++ gap ++ f' ∧ f' ++ c :: more = rest ∧ EndsWord f' := by
  rcases List.append_eq_append_iff.mp h with ⟨left, hleft, hrest⟩ | ⟨f', hf', hrest⟩
  · cases left with
    | nil =>
        rw [List.append_nil] at hleft
        exact ⟨[], by rw [List.append_nil, hleft], hrest, nofun⟩
    | cons d left =>
        -- It would begin within the word or within the gap.
        cases hrest
        rcases List.append_eq_append_iff.mp hleft with ⟨inner, hinner, hgapped⟩ | ⟨inner, hinner, -⟩
        · have hblank := hgap.2 c (hgapped ▸ List.mem_append_right inner List.mem_cons_self)
          rw [isBlank_of_isWord hc] at hblank
          cases hblank
        · have hlast := hends _ (List.getLast?_eq_some_getLast hf)
          rw [hw _ (hinner ▸ List.mem_append_left inner (List.getLast_mem hf))] at hlast
          cases hlast
  · refine ⟨f', hf', hrest.symm, ?_⟩
    rw [hf'] at hends
    exact hends.of_append

/-- A name that is read across the end of a text has begun there. -/
theorem expects_of_name {before introduction f name more rest : List Char} {c : Char}
    (hbefore : EndsWord before) (hintroduces : Introduces introduction)
    (hname : IsTableName name) (hc : isWord c = true) (h : f ++ c :: more = name ++ rest)
    (hlong : rest.length < (c :: more).length) : Expects (before ++ (introduction ++ f)) := by
  rcases List.append_eq_append_iff.mp h with ⟨left, rfl, hmore⟩ | ⟨left, -, rfl⟩
  · cases left with
    | nil =>
        rw [List.nil_append] at hmore
        rw [hmore] at hlong
        exact absurd hlong (Nat.lt_irrefl _)
    | cons d left =>
        cases hmore
        exact ⟨before, introduction, f, c, left, by rw [List.append_assoc], hbefore, hintroduces,
          hc, hname⟩
  · rw [List.length_append] at hlong
    omega

theorem isTableName_singleton {c : Char} (hc : isWord c = true) : IsTableName [c] := by
  refine ⟨[c], [c], isSegment_bare (List.cons_ne_nil c []) fun d hd => ?_, Or.inl rfl⟩
  rwa [List.mem_singleton.mp hd]

/-- A word that is not the next one begins behind that and its gap. -/
theorem Spells.exists_behind {l : Char} {ks w gap f more rest : List Char} {c : Char}
    (h : Spells (l :: ks) w) (hk : (l :: ks).all isAsciiWord = true) (hgap : IsGap gap)
    (hends : EndsWord f) (hc : isWord c = true) (hl : sameLetter l c = false)
    (hread : f ++ c :: more = w ++ (gap ++ rest)) :
    ∃ f', f = w ++ gap ++ f' ∧ f' ++ c :: more = rest ∧ EndsWord f' := by
  by_cases hf : f = []
  · subst hf
    rcases h.exists_first with ⟨d, others, rfl, hd⟩
    cases hread
    rw [hl] at hd
    cases hd
  · rw [← List.append_assoc] at hread
    exact exists_behind_gap (isWord_of_letters h hk) hgap hf hends hc hread

/-- A word that is none of a condition that has begun begins behind the condition. -/
theorem IsCondition.exists_behind {condition f more rest : List Char} {c : Char}
    (h : IsCondition condition) (hf : f ≠ []) (hends : EndsWord f) (hc : isWord c = true)
    (hn : sameLetter 'n' c = false) (he : sameLetter 'e' c = false)
    (hread : f ++ c :: more = condition ++ rest) :
    ∃ f', f = condition ++ f' ∧ f' ++ c :: more = rest := by
  cases h with
  | plain hif hgap hexists hgap' =>
      rw [List.append_assoc] at hread
      rcases exists_behind_gap (isWord_of_letters hif (by decide)) hgap hf hends hc hread with
        ⟨f₁, rfl, hread₁, hends₁⟩
      rw [List.append_assoc] at hread₁
      rcases hexists.exists_behind (by decide) hgap' hends₁ hc he hread₁ with ⟨f₂, rfl, hread₂, -⟩
      exact ⟨f₂, (List.append_assoc _ _ _).symm, hread₂⟩
  | negated hif hgap hnot hgap' hexists hgap'' =>
      rw [List.append_assoc] at hread
      rcases exists_behind_gap (isWord_of_letters hif (by decide)) hgap hf hends hc hread with
        ⟨f₁, rfl, hread₁, hends₁⟩
      simp only [List.append_assoc] at hread₁
      rcases hnot.exists_behind (by decide) hgap' hends₁ hc hn hread₁ with
        ⟨f₂, rfl, hread₂, hends₂⟩
      rcases hexists.exists_behind (by decide) hgap'' hends₂ hc he hread₂ with ⟨f₃, rfl, hread₃, -⟩
      exact ⟨f₃, by simp only [List.append_assoc], hread₃⟩

/-- What is read in a text in front of a word lies in front of the word, unless a table is expected
    there. -/
theorem target?_within {before f name more rest : List Char} {c : Char}
    (hbefore : EndsWord before) (hfree : ¬ Expects (before ++ f)) (hf : f ≠ []) (hends : EndsWord f)
    (hc : isWord c = true) (hn : sameLetter 'n' c = false) (he : sameLetter 'e' c = false)
    (h : target? (f ++ c :: more) = some (name, rest)) : (c :: more).length ≤ rest.length := by
  rcases target?_sound h with ⟨introduction, hintroduces, hname, hread⟩
  refine Nat.le_of_not_lt fun hlong => hfree ?_
  have hletters : ∀ {ks w : List Char}, Spells ks w → ks.all isAsciiWord = true →
      ∀ d ∈ w, isWord d = true := fun hw hks => isWord_of_letters hw hks
  cases hintroduces with
  | word hk hw hgap =>
      have hall : ∀ k ∈ introducers, k.all isAsciiWord = true := by decide
      rcases exists_behind_gap (hletters hw (hall _ hk)) hgap hf hends hc hread with
        ⟨f', rfl, hread', -⟩
      exact expects_of_name hbefore (.word hk hw hgap) hname hc hread' hlong
  | table hw hgap =>
      rcases exists_behind_gap (hletters hw (by decide)) hgap hf hends hc hread with
        ⟨f', rfl, hread', -⟩
      exact expects_of_name hbefore (.table hw hgap) hname hc hread' hlong
  | conditional hw hgap hcondition =>
      rw [List.append_assoc] at hread
      rcases exists_behind_gap (hletters hw (by decide)) hgap hf hends hc hread with
        ⟨f', rfl, hread', hends'⟩
      by_cases hf' : f' = []
      · subst hf'
        -- The condition has not begun, and a table is expected in its place.
        exact ⟨before, _, [], c, [], by simp only [List.append_nil], hbefore,
          .table hw hgap, hc, isTableName_singleton hc⟩
      · rcases hcondition.exists_behind hf' hends' hc hn he hread' with ⟨f'', rfl, hread''⟩
        have hexpects := expects_of_name hbefore (.conditional hw hgap hcondition) hname hc hread''
          hlong
        rwa [List.append_assoc] at hexpects

/-! ### What is found -/

theorem passing_none (cs : List Char) : passing none cs = cs.getLast? := by
  rw [passing_eq, Option.or_none]

theorem atWordStart_iff (cs : List Char) :
    atWordStart (passing none cs) = true ↔ EndsWord cs := by
  rw [passing_none, atWordStart, Bool.not_eq_true']
  cases hlast : cs.getLast? with
  | none =>
      refine ⟨fun _ c hc => ?_, fun _ => rfl⟩
      rw [hlast] at hc
      cases hc
  | some d =>
      refine ⟨fun hd c hc => ?_, fun hends => hends d hlast⟩
      rw [hlast] at hc
      cases hc
      exact hd

/-- A match is found if every match in front of it lies in front of it. -/
theorem mem_foundIn_of_within {α : Type} {p : Pattern α} {a : α} {k : Nat} {c : Char}
    {rest : List Char} {front : List Char} {passed : Option Char}
    (hwithin : ∀ before f, front = before ++ f → f ≠ [] → ∀ a' k',
      p (passing passed before) (f ++ c :: rest) = some (a', k') → k' < f.length)
    (h : p (passing passed front) (c :: rest) = some (a, k)) :
    a ∈ foundIn (pieces p passed 0 (front ++ c :: rest)) := by
  -- By induction on the text in front, of which a match skips a part.
  induction hlength : front.length using Nat.strongRecOn generalizing front passed with
  | _ n ih =>
      cases front with
      | nil =>
          have hhere : p passed (c :: rest) = some (a, k) := h
          rw [List.nil_append, pieces_found hhere]
          exact List.mem_cons_self
      | cons d front =>
          rw [List.cons_append]
          have hrest : ∀ skipped behind, front = skipped ++ behind →
              a ∈ foundIn (pieces p (passing (some d) skipped) 0 (behind ++ c :: rest)) := by
            rintro skipped behind rfl
            refine ih behind.length ?_ (fun before f hf hne a' k' hmatch => ?_) ?_ rfl
            · rw [← hlength, List.length_cons, List.length_append]
              omega
            · refine hwithin (d :: skipped ++ before) f ?_ hne a' k' ?_
              · rw [hf, List.cons_append, List.cons_append, List.append_assoc]
              · rw [passing, List.foldl_append]
                exact hmatch
            · rw [passing, List.foldl_cons, List.foldl_append] at h
              exact h
          cases hmatch : p passed (d :: (front ++ c :: rest)) with
          | none =>
              rw [pieces_char hmatch]
              exact hrest [] front rfl
          | some found =>
              rcases found with ⟨a', k'⟩
              have hshort : k' < (d :: front).length :=
                hwithin [] (d :: front) rfl (List.cons_ne_nil d front) a' k' hmatch
              rw [List.length_cons, Nat.lt_succ_iff] at hshort
              have hskip := pieces_append p (front.take k') (front.drop k' ++ c :: rest) (some d)
              rw [List.length_take_of_le hshort, ← List.append_assoc, List.take_append_drop]
                at hskip
              rw [pieces_found hmatch, hskip]
              exact List.mem_cons_of_mem _
                (hrest (front.take k') (front.drop k') (List.take_append_drop k' front).symm)

theorem mem_distinctNames {name : String} {names : List String} (h : name ∈ names) :
    name ∈ distinctNames names := by
  have hfold : ∀ (names seen : List String), name ∈ seen ∨ name ∈ names →
      name ∈ names.foldl (fun seen name => if seen.contains name then seen else seen ++ [name])
        seen := by
    intro names
    induction names with
    | nil => exact fun seen h => h.resolve_right List.not_mem_nil
    | cons next names ih =>
        intro seen h
        refine ih _ ?_
        dsimp only
        by_cases hseen : seen.contains next = true
        · rw [if_pos hseen]
          rcases h with h | h
          · exact Or.inl h
          · rcases List.mem_cons.mp h with rfl | h
            · exact Or.inl (List.contains_iff_mem.mp hseen)
            · exact Or.inr h
        · rw [if_neg hseen, List.mem_append, List.mem_singleton]
          rcases h with h | h
          · exact Or.inl (Or.inl h)
          · exact (List.mem_cons.mp h).imp_left Or.inr
  exact hfold names [] (Or.inr h)

theorem Introduces.exists_first {introduction : List Char} (h : Introduces introduction) :
    ∃ c rest, introduction = c :: rest ∧ isWord c = true ∧ sameLetter 'n' c = false
      ∧ sameLetter 'e' c = false := by
  have hfirst : ∀ {l : Char} {ks w behind : List Char}, Spells (l :: ks) w →
      l ∈ ['i', 'u', 'f', 't'] → ∃ c rest, w ++ behind = c :: rest ∧ isWord c = true
        ∧ sameLetter 'n' c = false ∧ sameLetter 'e' c = false := by
    intro l ks w behind hw hl
    have hplain : isAsciiWord l = true ∧ (l == 'k' || l == 's') = false ∧ l ≠ 'n' ∧ l ≠ 'e' := by
      simp only [List.mem_cons, List.not_mem_nil, or_false] at hl
      rcases hl with rfl | rfl | rfl | rfl <;> decide
    rcases hplain with ⟨hword, hlow, hn, he⟩
    rcases hw.exists_first with ⟨c, rest, rfl, hc⟩
    exact ⟨c, rest ++ behind, rfl, isWord_of_sameLetter hword hc,
      sameLetter_other hc hlow (by decide) hn, sameLetter_other hc hlow (by decide) he⟩
  cases h with
  | word hk hw hgap =>
      simp only [introducers, List.mem_cons, List.not_mem_nil, or_false] at hk
      rcases hk with rfl | rfl | rfl
      all_goals exact hfirst hw (by decide)
  | table hw hgap => exact hfirst hw (by decide)
  | conditional hw hgap hcondition =>
      rw [List.append_assoc]
      exact hfirst hw (by decide)

/-- A name without its quotes. -/
def unquoted (cs : List Char) : List Char :=
  cs.filter fun c => !isNameQuote c

theorem unquoted_quotation {cs : List Char} (h : IsQuotation cs) : unquoted cs = [] := by
  rcases h with rfl | ⟨c, hc, rfl⟩
  · rfl
  · rw [unquoted, List.filter_cons_of_neg (by rw [hc]; decide), List.filter_nil]

theorem IsSegment.unquoted {word segment : List Char} (h : IsSegment word segment) :
    unquoted segment = word := by
  rcases h with ⟨opening, closing, hopening, hclosing, -, hword, rfl⟩
  have hplain : SqlMapper.unquoted word = word := by
    refine List.filter_eq_self.mpr fun c hc => ?_
    rw [isNameQuote_of_isWord (hword c hc)]
    rfl
  have hsplit : ∀ cs ds : List Char,
      SqlMapper.unquoted (cs ++ ds) = SqlMapper.unquoted cs ++ SqlMapper.unquoted ds :=
    fun cs ds => List.filter_append cs ds
  rw [hsplit, hsplit, unquoted_quotation hopening, unquoted_quotation hclosing, hplain,
    List.nil_append, List.append_nil]

/-- What is read behind a word is found, unless a table is expected in front of it already. -/
theorem found_of_target {front introduction text read behind : List Char} (hfront : EndsWord front)
    (hfree : ¬ Expects front) (hintroduces : Introduces introduction)
    (htarget : target? (introduction ++ text) = some (read, behind)) :
    String.ofList (unquoted read)
      ∈ foundIn (scan targetPattern (front ++ (introduction ++ text))) := by
  rcases hintroduces.exists_first with ⟨c, more, rfl, hc, hn, he⟩
  rw [List.cons_append] at htarget ⊢
  refine mem_foundIn_of_within (k := (c :: (more ++ text)).length - behind.length - 1)
    (fun before f hf hne found k hmatch => ?_) ?_
  · rw [targetPattern] at hmatch
    by_cases hstart : atWordStart (passing none before) = true
    · rw [if_pos hstart] at hmatch
      rcases Option.bind_eq_some_iff.mp hmatch with ⟨⟨read', left⟩, hread, hk⟩
      cases hk
      subst hf
      have hlength := target?_within ((atWordStart_iff before).mp hstart) hfree hne
        hfront.of_append hc hn he hread
      have hpos := List.length_pos_of_ne_nil hne
      simp only [List.length_append, List.length_cons] at hlength ⊢
      omega
    · rw [if_neg hstart] at hmatch
      cases hmatch
  · rw [targetPattern, if_pos ((atWordStart_iff front).mpr hfront), htarget]
    rfl

theorem unquoted_path {schema name a b closing : List Char} (ha : IsSegment schema a)
    (hb : IsSegment name b) (hclosing : IsQuotation closing) :
    unquoted (a ++ '.' :: b ++ closing) = schema ++ '.' :: name := by
  rw [unquoted, List.filter_append, List.filter_append, List.filter_cons_of_pos (by decide)]
  rw [show List.filter _ a = schema from ha.unquoted,
    show List.filter _ b = name from hb.unquoted,
    show List.filter _ closing = [] from unquoted_quotation hclosing, List.append_nil]

/-- A table that is named is found. -/
theorem Names.found {schema name text : List Char} (h : Names schema name text) :
    String.ofList (schema ++ '.' :: name) ∈ foundIn (scan targetPattern text) := by
  cases h with
  | intro front introduction a b rest hfront hfree hintroduces ha hb hends =>
      rcases target?_complete hintroduces ha hb hends with
        ⟨closing, behind, hclosing, hbehind, htarget⟩
      have hfound := found_of_target hfront hfree hintroduces htarget
      rwa [unquoted_path ha hb hclosing, ← List.append_assoc, ← List.append_assoc] at hfound

theorem splitOn_of_segments {table schema name : String}
    (h : segments '.' table = [schema, name]) :
    table.toList.splitOn '.' = [schema.toList, name.toList] := by
  have hsplit := congrArg (List.map String.toList) h
  rw [segments, List.map_map] at hsplit
  simpa using hsplit

theorem toList_of_segments {table schema name : String}
    (h : segments '.' table = [schema, name]) :
    table.toList = schema.toList ++ '.' :: name.toList := by
  have hjoined : ['.'].intercalate (table.toList.splitOn '.') = table.toList :=
    List.intercalate_splitOn '.'
  rw [← hjoined, splitOn_of_segments h]
  simp only [List.intercalate, List.intersperse, List.flatten_cons, List.flatten_nil,
    List.append_nil, List.singleton_append]

/-- A table that a statement names is one that it may write, with its schema and without it. -/
theorem Names.written {table schema name sql : String}
    (hsegments : segments '.' table = [schema, name])
    (h : Names schema.toList name.toList sql.toList) :
    table ∈ writtenTables sql ∧ name ∈ writtenTables sql := by
  have hfound := h.found
  rw [← toList_of_segments hsegments, String.ofList_toList] at hfound
  have hspellings : spellings table = [table, name] := by
    rw [spellings, lastSegment?, hsegments]
    rfl
  have hmem : ∀ spelling ∈ [table, name], spelling ∈ writtenTables sql := by
    intro spelling hspelling
    refine mem_distinctNames (List.mem_flatMap.mpr ⟨table, hfound, ?_⟩)
    rwa [hspellings]
  exact ⟨hmem table List.mem_cons_self, hmem name (by simp)⟩

end SqlMapper
