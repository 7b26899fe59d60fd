import SqlMapper.Proofs.Cache.Spellings

/-!
# Tables of Hand-Written Writes

The table of a write statement is found, unless a conflict clause hides it.

A write statement begins with its verb, and a few words may follow before the
table: those of a conflict clause, `INTO`, `FROM`, or `TABLE` with its
condition. The search for tables knows the last word of them only. So a statement
is found to write its table as long as that word stands directly before the
table, whatever the case of its letters, the blanks between its words, the quotes
of the table and the text behind it. `UPDATE` alone stands before a conflict
clause as well as before a table, and the first word of the clause is taken for
the table. The table itself is then missed.

## Main definitions

* `IsPlain`, `Preamble`: Words that do not stand before a table.
* `Conflict`: The conflict clause of a write.
* `Leads`: The words of a write up to its table.
* `Called`: What a table is called in front of a text.

## Theorems

* `Preamble.free`: No table is expected behind such words.
* `Leads.target`: The table is read behind the words of a write.
* `written_of_leads`: The table of a write is one that it may write.
* `writtenTables_update`: The word behind `UPDATE` is taken for the table.
* `conflict_hides`: So a conflict clause is, and the table behind it is missed.
-/

namespace SqlMapper

open Text

/-- A word that no table follows. -/
def IsPlain (w : List Char) : Prop :=
  w ≠ [] ∧ (∀ c ∈ w, isWord c = true) ∧ ∀ word ∈ targetWords, ¬ Spells word w

/-- Such words, with blanks behind each. -/
inductive Preamble : List Char → Prop where
  | nil : Preamble []
  | word {w gap rest : List Char} (hw : IsPlain w) (hgap : IsGap gap) (hrest : Preamble rest) :
      Preamble (w ++ gap ++ rest)

/-- What a write does with rows that conflict: nothing said of it, `OR` and a word, or `IGNORE`. -/
inductive Conflict : List Char → Prop where
  | none : Conflict []
  | or {w gap w' gap' : List Char} (hor : Spells ['o', 'r'] w) (hgap : IsGap gap)
      (hresolution : IsPlain w') (hgap' : IsGap gap') : Conflict (w ++ gap ++ (w' ++ gap'))
  | ignore {w gap : List Char} (hignore : Spells ['i', 'g', 'n', 'o', 'r', 'e'] w)
      (hgap : IsGap gap) : Conflict (w ++ gap)

/-- The verbs of the statements that define tables. -/
def definers : List (List Char) :=
  [['c', 'r', 'e', 'a', 't', 'e'], ['a', 'l', 't', 'e', 'r'], ['d', 'r', 'o', 'p'],
    ['t', 'r', 'u', 'n', 'c', 'a', 't', 'e']]

/-- A text begins with a condition and a table. -/
def Conditional (text : List Char) : Prop :=
  ∃ condition table rest, IsCondition condition ∧ IsTableName table
    ∧ text = condition ++ (table ++ rest)

/-- The words of a write statement up to its table, in front of the table and what follows. -/
inductive Leads (text : List Char) : List Char → Prop where
  | insert {w gap clause w' gap' : List Char} (hinsert : Spells ['i', 'n', 's', 'e', 'r', 't'] w)
      (hgap : IsGap gap) (hclause : Conflict clause) (hinto : Spells ['i', 'n', 't', 'o'] w')
      (hgap' : IsGap gap') : Leads text (w ++ gap ++ clause ++ (w' ++ gap'))
  | replace {w gap w' gap' : List Char} (hreplace : Spells ['r', 'e', 'p', 'l', 'a', 'c', 'e'] w)
      (hgap : IsGap gap) (hinto : Spells ['i', 'n', 't', 'o'] w') (hgap' : IsGap gap') :
      Leads text (w ++ gap ++ (w' ++ gap'))
  | update {w gap : List Char} (hupdate : Spells ['u', 'p', 'd', 'a', 't', 'e'] w)
      (hgap : IsGap gap) : Leads text (w ++ gap)
  | delete {w gap w' gap' : List Char} (hdelete : Spells ['d', 'e', 'l', 'e', 't', 'e'] w)
      (hgap : IsGap gap) (hfrom : Spells ['f', 'r', 'o', 'm'] w') (hgap' : IsGap gap') :
      Leads text (w ++ gap ++ (w' ++ gap'))
  | define {verb w gap w' gap' : List Char} (hverb : verb ∈ definers) (hw : Spells verb w)
      (hgap : IsGap gap) (htable : Spells ['t', 'a', 'b', 'l', 'e'] w') (hgap' : IsGap gap')
      (hplain : ¬ Conditional text) : Leads text (w ++ gap ++ (w' ++ gap'))
  | defineIf {verb w gap w' gap' condition : List Char} (hverb : verb ∈ definers)
      (hw : Spells verb w) (hgap : IsGap gap) (htable : Spells ['t', 'a', 'b', 'l', 'e'] w')
      (hgap' : IsGap gap') (hcondition : IsCondition condition) :
      Leads text (w ++ gap ++ (w' ++ gap' ++ condition))

/-- A text begins with a table with a schema. -/
def Qualified (text : List Char) : Prop :=
  ∃ schema name a b rest, IsSegment schema a ∧ IsSegment name b
    ∧ text = a ++ '.' :: (b ++ rest)

/-- What the table is called that a text begins with, where a word ends: its name, and its name
    with the schema, if it has one. -/
inductive Called : List Char → List String → Prop where
  | alone {name : String} {b rest : List Char} (hb : IsSegment name.toList b)
      (hends : wordRun rest = [] ∨ ∃ c, b.getLast? = some c ∧ isNameQuote c = true)
      (halone : ¬ Qualified (b ++ rest)) : Called (b ++ rest) [name]
  | path {schema name : String} {a b rest : List Char} (ha : IsSegment schema.toList a)
      (hb : IsSegment name.toList b)
      (hends : wordRun rest = [] ∨ ∃ c, b.getLast? = some c ∧ isNameQuote c = true) :
      Called (a ++ '.' :: b ++ rest) [schema ++ "." ++ name, name]

/-! ### Words that no table follows -/

/-- Whether two words differ in their lengths, or in their first letters whatever the case. -/
def unlike : List Char → List Char → Bool
  | k :: ks, l :: ls =>
    ks.length != ls.length || (k != l && !(k == 'k' || k == 's') && !(l == 'k' || l == 's'))
  | ks, ls => ks.length != ls.length

theorem not_spells_of_unlike {ks ls w : List Char} (h : Spells ks w) (hne : unlike ks ls = true) :
    ¬ Spells ls w := by
  intro hls
  have hlength : ks.length = ls.length := h.length_eq.trans hls.length_eq.symm
  cases h with
  | nil =>
      cases hls
      cases hne
  | cons hk hks =>
      cases hls with
      | cons hl hls =>
          rw [List.length_cons, List.length_cons, Nat.add_right_cancel_iff] at hlength
          simp only [unlike, hlength, bne_self_eq_false, Bool.false_or, Bool.and_eq_true,
            bne_iff_ne, Bool.not_eq_true'] at hne
          rw [sameLetter_other hk hne.1.2 hne.2 hne.1.1] at hl
          cases hl

/-- A verb or a word of a conflict clause is plain, in either case. -/
theorem Spells.isPlain {word w : List Char} (h : Spells word w)
    (hword : (word != [] && word.all isAsciiWord && targetWords.all (unlike word)) = true) :
    IsPlain w := by
  simp only [Bool.and_eq_true, bne_iff_ne] at hword
  rcases hword with ⟨⟨hne, hascii⟩, hunlike⟩
  refine ⟨?_, isWord_of_letters h hascii, fun target htarget =>
    not_spells_of_unlike h (List.all_eq_true.mp hunlike target htarget)⟩
  rintro rfl
  cases h
  exact hne rfl

theorem IsPlain.preamble {w gap : List Char} (hw : IsPlain w) (hgap : IsGap gap) :
    Preamble (w ++ gap) := by
  have hword := Preamble.word hw hgap .nil
  rwa [List.append_nil] at hword

namespace Preamble

variable {front : List Char}

theorem ends (h : Preamble front) : EndsWord front := by
  induction h with
  | nil => exact nofun
  | word hw hgap hrest ih =>
      rename_i w gap rest
      intro c hlast
      rw [List.getLast?_append, List.getLast?_append_of_ne_nil w hgap.1] at hlast
      cases hrest' : rest.getLast? with
      | some d =>
          rw [hrest'] at hlast
          cases hlast
          exact ih c hrest'
      | none =>
          rw [hrest', Option.none_or] at hlast
          exact isWord_of_isBlank (hgap.2 c (List.mem_of_getLast? hlast))

/-- No word of it is one that a table may follow. -/
theorem no_word (h : Preamble front) {before w gap behind word : List Char}
    (hbefore : EndsWord before) (hword : word ∈ targetWords) (hw : Spells word w)
    (hgap : IsGap gap) : front ≠ before ++ (w ++ gap ++ behind) := by
  have hletters : word ≠ [] ∧ word.all isAsciiWord = true :=
    (show ∀ word ∈ targetWords, word ≠ [] ∧ word.all isAsciiWord = true by decide) word hword
  have hall := isWord_of_letters hw hletters.2
  have hne : w ≠ [] := by
    rintro rfl
    cases hw
    exact hletters.1 rfl
  have hrun : ∀ {u gap' more : List Char}, (∀ c ∈ u, isWord c = true) → IsGap gap' →
      wordRun (u ++ gap' ++ more) = u := by
    intro u gap' more hu hgap'
    rw [List.append_assoc, wordRun_of_all hu, wordRun_of_blank (hgap'.head_blank more),
      List.append_nil]
  -- By induction on the words, whether the text in front has any of them or none.
  induction h generalizing before with
  | nil =>
      intro hempty
      simp only [List.nil_eq, List.append_eq_nil_iff] at hempty
      exact hne hempty.2.1.1
  | word hplain hgap' hrest ih =>
      intro hsplit
      by_cases hnil : before = []
      · subst hnil
        have hsame := congrArg wordRun hsplit
        rw [List.nil_append, hrun hplain.2.1 hgap', hrun hall hgap] at hsame
        exact hplain.2.2 word hword (hsame ▸ hw)
      · rcases List.exists_cons_of_ne_nil hne with ⟨c, letters, rfl⟩
        have hc := hall c List.mem_cons_self
        simp only [List.cons_append] at hsplit
        rcases exists_behind_gap hplain.2.1 hgap' hnil hbefore hc hsplit.symm with
          ⟨before', rfl, hbehind, hends⟩
        exact ih hends hbehind.symm

/-- No table is expected behind it. -/
theorem free (h : Preamble front) : ¬ Expects front := by
  rintro ⟨before, introduction, begun, c, rest, rfl, hbefore, hintroduces, -, -⟩
  rcases hintroduces.exists_word with ⟨word, hword, w, gap, behind, rfl, hw, hgap⟩
  have hsplit : before ++ (w ++ gap ++ behind) ++ begun
      = before ++ (w ++ gap ++ (behind ++ begun)) := by
    simp only [List.append_assoc]
  exact h.no_word hbefore hword hw hgap hsplit

end Preamble

theorem Conflict.preamble {clause w gap : List Char} (h : Conflict clause) (hw : IsPlain w)
    (hgap : IsGap gap) : Preamble (w ++ gap ++ clause) := by
  refine .word hw hgap ?_
  cases h with
  | none => exact .nil
  | or hor hgap₁ hresolution hgap₂ =>
      exact .word (hor.isPlain (by decide)) hgap₁ (hresolution.preamble hgap₂)
  | ignore hignore hgap₁ => exact (hignore.isPlain (by decide)).preamble hgap₁

/-! ### Names of tables -/

theorem tableName?_alone {name b rest : List Char} (hb : IsSegment name b)
    (hends : wordRun rest = [] ∨ ∃ c, b.getLast? = some c ∧ isNameQuote c = true)
    (halone : ¬ Qualified (b ++ rest)) :
    ∃ closing behind, IsQuotation closing ∧ rest = closing ++ behind
      ∧ tableName? (b ++ rest) = some (b ++ closing, behind) := by
  rcases nameSegment?_complete hb hends with ⟨closing, behind, hclosing, hbehind, hread⟩
  refine ⟨closing, behind, hclosing, hbehind, ?_⟩
  rw [tableName?, hread]
  simp only [Option.bind_eq_bind, Option.bind_some]
  split
  · rename_i afterDot
    cases hsecond : nameSegment? afterDot with
    | none => rfl
    | some found =>
        rcases nameSegment?_sound hread with ⟨word, hword, hfirst⟩
        rcases nameSegment?_sound hsecond with ⟨word', hword', rfl⟩
        exact absurd ⟨word, word', _, _, _, hword, hword', hfirst⟩ halone
  · rfl

/-- A name with a schema has its dot in front of the first blank. -/
theorem Qualified.dot_mem {text : List Char} (h : Qualified text) :
    '.' ∈ text.takeWhile fun c => !isBlank c := by
  rcases h with ⟨schema, name, a, b, rest, ha, -, rfl⟩
  have hplain : ∀ c ∈ a, (!isBlank c) = true := fun c hc => by rw [ha.not_blank c hc]; rfl
  rw [List.takeWhile_append_of_pos hplain, List.takeWhile_cons_of_pos (by decide)]
  exact List.mem_append_right a List.mem_cons_self

theorem spellings_word {name : String} (h : ∀ c ∈ name.toList, isWord c = true) :
    spellings name = [name] := by
  have hdot : '.' ∉ name.toList := fun hmem => absurd (h '.' hmem) (by decide)
  rw [spellings, lastSegment?, segments, List.splitOn_eq_singleton hdot]
  rfl

theorem spellings_path {schema name : String} (hschema : ∀ c ∈ schema.toList, isWord c = true)
    (hname : ∀ c ∈ name.toList, isWord c = true) :
    spellings (schema ++ "." ++ name) = [schema ++ "." ++ name, name] := by
  have hdot : ∀ {s : String}, (∀ c ∈ s.toList, isWord c = true) → '.' ∉ s.toList :=
    fun hs hmem => absurd (hs '.' hmem) (by decide)
  have hsegments : segments '.' (schema ++ "." ++ name) = [schema, name] := by
    rw [segments, String.toList_append, String.toList_append, List.append_assoc,
      show ".".toList ++ name.toList = '.' :: name.toList from rfl,
      List.splitOn_append_cons_self_of_not_mem (hdot hschema),
      List.splitOn_eq_singleton (hdot hname), List.map_cons, List.map_cons, List.map_nil,
      String.ofList_toList, String.ofList_toList]
  rw [spellings, lastSegment?, hsegments]
  rfl

theorem IsSegment.isWord {word segment : List Char} (h : IsSegment word segment) :
    ∀ c ∈ word, Text.isWord c = true := by
  rcases h with ⟨-, -, -, -, -, hword, -⟩
  exact hword

namespace Called

variable {text : List Char} {names : List String}

theorem head_not_blank (h : Called text names) : ∀ c ∈ text.head?, isBlank c = false := by
  cases h with
  | alone hb hends halone => exact hb.head_not_blank _
  | path ha hb hends =>
      rw [List.append_assoc]
      exact ha.head_not_blank _

/-- A table is read as what it is called. -/
theorem read (h : Called text names) :
    ∃ read behind, tableName? text = some (read, behind)
      ∧ spellings (String.ofList (unquoted read)) = names := by
  cases h with
  | alone hb hends halone =>
      rename_i name b rest
      rcases tableName?_alone hb hends halone with ⟨closing, behind, hclosing, -, hread⟩
      refine ⟨_, behind, hread, ?_⟩
      have hname : unquoted (b ++ closing) = name.toList := by
        rw [unquoted, List.filter_append, show List.filter _ b = name.toList from hb.unquoted,
          show List.filter _ closing = [] from unquoted_quotation hclosing, List.append_nil]
      rw [hname, String.ofList_toList, spellings_word hb.isWord]
  | path ha hb hends =>
      rename_i schema name a b rest
      rcases tableName?_complete ha hb hends with ⟨closing, behind, hclosing, -, hread⟩
      refine ⟨_, behind, hread, ?_⟩
      have hpath : schema.toList ++ '.' :: name.toList = (schema ++ "." ++ name).toList := by
        rw [String.toList_append, String.toList_append, List.append_assoc]
        rfl
      rw [unquoted_path ha hb hclosing, hpath, String.ofList_toList,
        spellings_path ha.isWord hb.isWord]

end Called

/-! ### Words in front of a table -/

theorem IsCondition.head_not_blank {condition : List Char} (h : IsCondition condition)
    (rest : List Char) : ∀ c ∈ (condition ++ rest).head?, isBlank c = false := by
  have hif : ∃ w behind, condition = w ++ behind ∧ Spells ['i', 'f'] w := by
    cases h with
    | plain hif _ _ _ => exact ⟨_, _, List.append_assoc _ _ _, hif⟩
    | negated hif _ _ _ _ _ => exact ⟨_, _, List.append_assoc _ _ _, hif⟩
  rcases hif with ⟨w, behind, rfl, hw⟩
  have hword := isWord_of_letters hw (by decide)
  rcases hw.exists_first with ⟨d, others, rfl, -⟩
  intro c hc
  cases hc
  exact isBlank_of_isWord (hword _ List.mem_cons_self)

/-- Where no condition stands before a table, none is read. -/
theorem afterIfExists?_plain {gap text : List Char} (hgap : IsGap gap)
    (hfirst : ∀ c ∈ text.head?, isBlank c = false) (hplain : ¬ Conditional text) :
    (afterIfExists? (gap ++ text)).bind tableBehind? = none := by
  cases hread : (afterIfExists? (gap ++ text)).bind tableBehind? with
  | none => rfl
  | some found =>
      rcases found with ⟨name, rest⟩
      rcases Option.bind_eq_some_iff.mp hread with ⟨behind, hexists, hbehind⟩
      rcases Option.bind_eq_some_iff.mp hbehind with ⟨afterGap, hafter, hname⟩
      rcases afterIfExists?_sound hexists hafter with ⟨gap', condition, hgap', hcondition, hsplit⟩
      rcases tableName?_sound hname with ⟨htable, rfl⟩
      -- Both texts begin behind the same blanks.
      have hsame := congrArg gap? hsplit
      rw [List.append_assoc, gap?_complete hgap hfirst,
        gap?_complete hgap' (hcondition.head_not_blank _), Option.some.injEq] at hsame
      exact absurd ⟨condition, name, rest, hcondition, htable, hsame⟩ hplain

/-- What is read of a name in front of a text is read as a table behind the words of a write. -/
theorem Leads.target {text opening : List Char} {found : List Char × List Char}
    (h : Leads text opening) (hfirst : ∀ c ∈ text.head?, isBlank c = false)
    (hname : tableName? text = some found) :
    ∃ front introduction, opening = front ++ introduction ∧ Preamble front
      ∧ Introduces introduction ∧ target? (introduction ++ text) = some found := by
  have hinto : ['i', 'n', 't', 'o'] ∈ introducers := by decide
  have hupdate : ['u', 'p', 'd', 'a', 't', 'e'] ∈ introducers := by decide
  have hfrom : ['f', 'r', 'o', 'm'] ∈ introducers := by decide
  have hdefiner : ∀ verb ∈ definers, (verb != [] && verb.all isAsciiWord
      && targetWords.all (unlike verb)) = true := by decide
  cases h with
  | insert hw hgap hclause hw' hgap' =>
      exact ⟨_, _, rfl, hclause.preamble (hw.isPlain (by decide)) hgap, .word hinto hw' hgap',
        (target?_word hinto hw' hgap' hfirst).trans hname⟩
  | replace hw hgap hw' hgap' =>
      exact ⟨_, _, rfl, (hw.isPlain (by decide)).preamble hgap, .word hinto hw' hgap',
        (target?_word hinto hw' hgap' hfirst).trans hname⟩
  | update hw hgap =>
      exact ⟨[], _, rfl, .nil, .word hupdate hw hgap,
        (target?_word hupdate hw hgap hfirst).trans hname⟩
  | delete hw hgap hw' hgap' =>
      exact ⟨_, _, rfl, (hw.isPlain (by decide)).preamble hgap, .word hfrom hw' hgap',
        (target?_word hfrom hw' hgap' hfirst).trans hname⟩
  | define hverb hw hgap hw' hgap' hplain =>
      exact ⟨_, _, rfl, (hw.isPlain (hdefiner _ hverb)).preamble hgap, .table hw' hgap',
        (target?_table hw' hgap' hfirst (afterIfExists?_plain hgap' hfirst hplain)).trans hname⟩
  | defineIf hverb hw hgap hw' hgap' hcondition =>
      exact ⟨_, _, rfl, (hw.isPlain (hdefiner _ hverb)).preamble hgap,
        .conditional hw' hgap' hcondition, target?_conditional hw' hgap' hcondition hfirst hname⟩

/-! ### What is found to be written -/

/-- The table of a write statement is found, under its name and with its schema, unless a conflict
    clause stands between `UPDATE` and the table. -/
theorem written_of_leads {sql : String} {opening text : List Char} {names : List String}
    (hsql : sql.toList = opening ++ text) (hleads : Leads text opening)
    (hcalled : Called text names) : ∀ name ∈ names, name ∈ writtenTables sql := by
  rcases hcalled.read with ⟨read, behind, hread, hspellings⟩
  rcases hleads.target hcalled.head_not_blank hread with
    ⟨front, introduction, rfl, hfront, hintroduces, htarget⟩
  have hfound := found_of_target hfront.ends hfront.free hintroduces htarget
  intro name hname
  rw [writtenTables, hsql, List.append_assoc]
  exact mem_distinctNames (List.mem_flatMap.mpr ⟨_, hfound, hspellings ▸ hname⟩)

/-- A row that is inserted in either spelling of its table, and a table that is dropped. -/
theorem written_of_leads_quoted :
    let inserted := "`main`.\"t\"(a) VALUES (1)"
    let dropped := "\"t\";"
    (Leads inserted.toList "Insert OR Replace\n\tINTO ".toList
        ∧ Called inserted.toList ["main.t", "t"]
        ∧ ∀ name ∈ ["main.t", "t"],
          name ∈ writtenTables ("Insert OR Replace\n\tINTO " ++ inserted))
      ∧ Leads dropped.toList "drop table If Exists ".toList ∧ Called dropped.toList ["t"]
      ∧ ∀ name ∈ ["t"], name ∈ writtenTables ("drop table If Exists " ++ dropped) := by
  intro inserted dropped
  have hspace : IsGap [' '] := isGap_of_all (by decide)
  have hbreak : IsGap ['\n', '\t'] := isGap_of_all (by decide)
  have hor : Spells "or".toList "OR".toList := by decide
  have hreplace : Spells "replace".toList "Replace".toList := by decide
  have hclause : Conflict "OR Replace\n\t".toList :=
    .or hor hspace (hreplace.isPlain (by decide)) hbreak
  have hverb : Spells "insert".toList "Insert".toList := by decide
  have hinto : Spells "into".toList "INTO".toList := by decide
  have hinsert : Leads inserted.toList "Insert OR Replace\n\tINTO ".toList :=
    .insert hverb hspace hclause hinto hspace
  have hpath : Called inserted.toList ["main" ++ "." ++ "t", "t"] := by
    rw [show inserted.toList = (['`'] ++ "main".toList ++ ['`'])
      ++ '.' :: (['"'] ++ "t".toList ++ ['"']) ++ "(a) VALUES (1)".toList by decide]
    exact .path (isSegment_quoted (by decide) (by decide) (List.all_eq_true.mp (by decide)))
      (isSegment_quoted (by decide) (by decide) (List.all_eq_true.mp (by decide)))
      (Or.inl (by decide))
  have hif : Spells "if".toList "If".toList := by decide
  have hexists : Spells "exists".toList "Exists".toList := by decide
  have hcondition : IsCondition "If Exists ".toList := .plain hif hspace hexists hspace
  have hdropping : Spells "drop".toList "drop".toList := by decide
  have htable : Spells "table".toList "table".toList := by decide
  have hdrop : Leads dropped.toList "drop table If Exists ".toList :=
    .defineIf (by decide) hdropping hspace htable hspace hcondition
  have halone : Called dropped.toList ["t"] := by
    rw [show dropped.toList = (['"'] ++ "t".toList ++ ['"']) ++ [';'] by decide]
    exact .alone (isSegment_quoted (by decide) (by decide) (List.all_eq_true.mp (by decide)))
      (Or.inl (by decide)) fun hqualified => absurd hqualified.dot_mem (by decide)
  exact ⟨⟨hinsert, hpath, written_of_leads String.toList_append hinsert hpath⟩, hdrop, halone,
    written_of_leads String.toList_append hdrop halone⟩

/-! ### What is missed -/

/-- Where no word stands that a table may follow, nothing is found. -/
theorem foundIn_of_not_mentions {text : List Char} (h : mentions text = false)
    (passed : Option Char) : foundIn (pieces targetPattern passed 0 text) = [] := by
  have hnone : ∀ front c behind, text = front ++ c :: behind →
      targetPattern (passing passed front) (c :: (behind ++ [])) = none := by
    intro front c behind hsplit
    rw [List.append_nil, targetPattern]
    by_cases hstart : atWordStart (passing passed front) = true
    · rw [if_pos hstart]
      cases htarget : target? (c :: behind) with
      | none => rfl
      | some found =>
          rcases target?_sound htarget with ⟨introduction, hintroduces, -, hread⟩
          rw [hsplit, hread, mentions_of_introduces hintroduces] at h
          cases h
    · rw [if_neg hstart]
  have hchars := pieces_chars hnone
  rw [List.append_nil, pieces_nil] at hchars
  rw [hchars, foundIn_chars]
  rfl

/-- A word in front of a blank is read as it is. -/
theorem tableName?_word {word rest : List Char} (hne : word ≠ [])
    (hword : ∀ c ∈ word, isWord c = true) (hblank : ∀ c ∈ rest.head?, isBlank c = true) :
    tableName? (word ++ rest) = some (word, rest) := by
  have hplain : ∀ c ∈ word, (!isBlank c) = true := fun c hc => by
    rw [isBlank_of_isWord (hword c hc)]
    rfl
  have hstop : rest.takeWhile (fun c => !isBlank c) = [] := by
    cases rest with
    | nil => rfl
    | cons c rest => exact List.takeWhile_cons_of_neg (by rw [hblank c rfl]; decide)
  have halone : ¬ Qualified (word ++ rest) := by
    intro hqualified
    have hdot := hqualified.dot_mem
    rw [List.takeWhile_append_of_pos hplain, hstop, List.append_nil] at hdot
    exact absurd (hword '.' hdot) (by decide)
  rcases tableName?_alone (isSegment_bare hne hword) (Or.inl (wordRun_of_blank hblank)) halone with
    ⟨closing, behind, hclosing, rfl, hread⟩
  -- A quote is no blank.
  have hnone : closing = [] := by
    have hplain := hclosing.not_blank
    rcases hclosing with hnil | ⟨c, -, rfl⟩
    · exact hnil
    · have hc := hblank c rfl
      rw [hplain c (List.mem_singleton_self c)] at hc
      cases hc
  rw [hread, hnone, List.append_nil, List.nil_append]

/-- The word behind `UPDATE` is taken for the table, and nothing else is, unless another word that
    a table may follow stands in the rest. -/
theorem writtenTables_update {sql : String} {w gap word rest : List Char}
    (hsql : sql.toList = w ++ gap ++ (word ++ rest))
    (hw : Spells ['u', 'p', 'd', 'a', 't', 'e'] w) (hgap : IsGap gap) (hne : word ≠ [])
    (hword : ∀ c ∈ word, isWord c = true) (hblank : ∀ c ∈ rest.head?, isBlank c = true)
    (hfree : mentions rest = false) : writtenTables sql = [String.ofList word] := by
  have hsegment := isSegment_bare hne hword
  have htarget : target? (w ++ gap ++ word ++ rest) = some (word, rest) := by
    rw [List.append_assoc (w ++ gap)]
    exact (target?_word (by decide) hw hgap (hsegment.head_not_blank rest)).trans
      (tableName?_word hne hword hblank)
  have hlength : (w ++ gap ++ word ++ rest).length - rest.length = (w ++ gap ++ word).length := by
    rw [List.length_append, Nat.add_sub_cancel]
  have hmatch : targetPattern none (w ++ gap ++ word ++ rest)
      = some (String.ofList word, (w ++ gap ++ word).length - 1) := by
    rw [targetPattern, if_pos (show atWordStart none = true from rfl), htarget]
    show some (String.ofList (unquoted word), _) = _
    rw [hlength, hsegment.unquoted]
  have hsource : w ++ gap ++ word ≠ [] := fun hnil => hne (List.append_eq_nil_iff.mp hnil).2
  have hname : ∀ c ∈ (String.ofList word).toList, isWord c = true := by
    rwa [String.toList_ofList]
  rw [writtenTables, hsql, ← List.append_assoc, scan, pieces_match hsource hmatch]
  show distinctNames ((String.ofList word :: foundIn (pieces _ _ 0 rest)).flatMap spellings) = _
  rw [foundIn_of_not_mentions hfree, List.flatMap_singleton, spellings_word hname]
  rfl

theorem mentions_append {cs ds : List Char} (h : mentions (cs ++ ds) = false) :
    mentions ds = false := by
  rw [Bool.eq_false_iff] at h ⊢
  intro hds
  refine h ?_
  rcases List.any_eq_true.mp hds with ⟨tail, htail, hword⟩
  rw [List.mem_tails] at htail
  exact List.any_eq_true.mpr
    ⟨tail, (List.mem_tails _ _).mpr (htail.trans (List.suffix_append cs ds)), hword⟩

theorem Conflict.exists_word {clause : List Char} (h : Conflict clause) (hne : clause ≠ []) :
    ∃ word gap rest, clause = word ++ (gap ++ rest) ∧ IsGap gap
      ∧ (Spells ['o', 'r'] word ∨ Spells ['i', 'g', 'n', 'o', 'r', 'e'] word) := by
  cases h with
  | none => exact absurd rfl hne
  | or hor hgap hresolution hgap' => exact ⟨_, _, _, List.append_assoc _ _ _, hgap, Or.inl hor⟩
  | ignore hignore hgap => exact ⟨_, _, [], by rw [List.append_nil], hgap, Or.inr hignore⟩

/-- A conflict clause behind `UPDATE` is taken for the table, which is missed. -/
theorem conflict_hides {sql : String} {w gap clause text : List Char}
    (hsql : sql.toList = w ++ gap ++ (clause ++ text))
    (hw : Spells ['u', 'p', 'd', 'a', 't', 'e'] w) (hgap : IsGap gap) (hclause : Conflict clause)
    (hne : clause ≠ []) (hfree : mentions (clause ++ text) = false) :
    ∃ word, (Spells ['o', 'r'] word ∨ Spells ['i', 'g', 'n', 'o', 'r', 'e'] word)
      ∧ writtenTables sql = [String.ofList word] := by
  rcases hclause.exists_word hne with ⟨word, gap', rest, rfl, hgap', hword⟩
  have hplain : IsPlain word := by
    rcases hword with hor | hignore
    · exact hor.isPlain (by decide)
    · exact hignore.isPlain (by decide)
  rw [List.append_assoc word, List.append_assoc gap'] at hsql hfree
  exact ⟨word, hword, writtenTables_update hsql hw hgap hplain.1 hplain.2.1
    (hgap'.head_blank (rest ++ text)) (mentions_append hfree)⟩

/-- Rows of a table are updated, and those that conflict are left alone. The table is missed. -/
theorem conflict_hides_table :
    let text := "t SET a = 1"
    Conflict "OR IGNORE ".toList ∧ Conflict "IGNORE ".toList ∧ Called text.toList ["t"]
      ∧ "t" ∉ writtenTables ("UPDATE " ++ "OR IGNORE " ++ text)
      ∧ "t" ∉ writtenTables ("UPDATE " ++ "IGNORE " ++ text) := by
  intro text
  have hspace : IsGap [' '] := isGap_of_all (by decide)
  have hor : Spells "or".toList "OR".toList := by decide
  have hignore : Spells "ignore".toList "IGNORE".toList := by decide
  have hclause : Conflict "OR IGNORE ".toList :=
    .or hor hspace (hignore.isPlain (by decide)) hspace
  have hcalled : Called text.toList ["t"] := by
    rw [show text.toList = "t".toList ++ " SET a = 1".toList by decide]
    exact .alone (isSegment_bare (by decide) (List.all_eq_true.mp (by decide)))
      (Or.inl (by decide)) fun hqualified => absurd hqualified.dot_mem (by decide)
  have hmissed : ∀ {sql : String} {clause : List Char},
      sql.toList = "UPDATE".toList ++ [' '] ++ (clause ++ text.toList) → Conflict clause →
      clause ≠ [] → mentions (clause ++ text.toList) = false → "t" ∉ writtenTables sql := by
    intro sql clause hsql hclause hne hfree hmem
    rcases conflict_hides hsql (by decide) hspace hclause hne hfree with
      ⟨word, hword, htables⟩
    rw [htables, List.mem_singleton] at hmem
    have hshort : word = ['t'] := by rw [← String.toList_ofList (l := word), ← hmem]; rfl
    rw [hshort] at hword
    revert hword
    decide
  have hplain : Conflict "IGNORE ".toList := .ignore hignore hspace
  exact ⟨hclause, hplain, hcalled,
    hmissed (by decide) hclause (by decide) (by decide),
    hmissed (by decide) hplain (by decide) (by decide)⟩

end SqlMapper
