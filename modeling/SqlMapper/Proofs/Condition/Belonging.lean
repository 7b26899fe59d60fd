import SqlMapper.Proofs.Condition.Conjunction
import SqlMapper.Proofs.Condition.Listing
import SqlMapper.Proofs.Condition.Written

/-!
# Belonging to a List

What is true of a value that is looked for in a list.

SQL asks whether a value is in a list by comparing it with one item after the
other, and a comparison with `NULL` is neither true nor false. So the answer is
yes if one item is equal, no if all items differ, and unknown if none is equal
and one is `NULL`. `NOT` leaves what is unknown as it is, and only a yes
satisfies a condition.

The question is read off the compiled text. It is an atom whose lexemes end with
the word `IN` and parentheses around the items; the operand is whatever stands
in front, and `NOT` may stand between. Spreading changes nothing but the items,
so the compiled text asks the same question of other items.

For a list that is not empty this is membership, in both polarities. The empty
list is written as `NULL`. That satisfies no `IN`, as it should, and no `NOT IN`
either, although nothing is in the list.

## Main definitions

* `Truth`: Yes, no and unknown.
* `among`: Whether a value is among others.
* `question?`: The question that an atom asks.
* `satisfied`: An atom is satisfied, given the values of operands.

## Theorems

* `question?_items`: The items alone decide which items are asked about.
* `lexFrom?_asking`: The lexemes of a text that asks about items.
* `compile_belongs`: What compiled conditions say about membership.
* `compile_excludes_nothing`: Nothing is outside of the empty list.
-/

namespace SqlMapper

open Text

/-! ### Truth -/

/-- What a condition is for a row. -/
inductive Truth where
  | yes
  | no
  | unknown
  deriving DecidableEq

namespace Truth

/-- One of two is true. -/
def or : Truth → Truth → Truth
  | .yes, _ => .yes
  | _, .yes => .yes
  | .no, .no => .no
  | _, _ => .unknown

/-- The contrary is true. -/
def not : Truth → Truth
  | .yes => .no
  | .no => .yes
  | .unknown => .unknown

theorem or_eq_yes_iff {t u : Truth} : t.or u = .yes ↔ t = .yes ∨ u = .yes := by
  cases t <;> cases u <;> decide

theorem or_eq_no_iff {t u : Truth} : t.or u = .no ↔ t = .no ∧ u = .no := by
  cases t <;> cases u <;> decide

theorem not_eq_yes_iff {t : Truth} : t.not = .yes ↔ t = .no := by
  cases t <;> decide

end Truth

section

variable (same : Value → Value → Bool)

/-- Whether two values are equal, which is unknown if one of them is absent. -/
def equalTo (v w : Value) : Truth :=
  if v = .null ∨ w = .null then .unknown else if same v w then .yes else .no

/-- Whether a value is equal to one of several. -/
def among (v : Value) (ws : List Value) : Truth :=
  ws.foldr (fun w t => (equalTo same v w).or t) .no

variable {same} {v : Value} {ws : List Value}

theorem equalTo_cases (hv : v ≠ .null) (w : Value) :
    (equalTo same v w = .yes ↔ w ≠ .null ∧ same v w = true)
      ∧ (equalTo same v w = .no ↔ w ≠ .null ∧ same v w = false) := by
  unfold equalTo
  by_cases hw : w = .null
  · simp [hw]
  · cases hsame : same v w <;> simp [hv, hw]

theorem among_eq_yes_iff (hv : v ≠ .null) :
    among same v ws = .yes ↔ ∃ w ∈ ws, w ≠ .null ∧ same v w = true := by
  induction ws with
  | nil => simp [among]
  | cons w ws ih =>
      rw [among, List.foldr_cons, Truth.or_eq_yes_iff, (equalTo_cases hv w).1,
        List.exists_mem_cons_iff]
      exact or_congr_right ih

theorem among_eq_no_iff (hv : v ≠ .null) :
    among same v ws = .no ↔ ∀ w ∈ ws, w ≠ .null ∧ same v w = false := by
  induction ws with
  | nil => simp [among]
  | cons w ws ih =>
      rw [among, List.foldr_cons, Truth.or_eq_no_iff, (equalTo_cases hv w).2, List.forall_mem_cons]
      exact and_congr_right fun _ => ih

end

/-! ### Questions -/

/-- A question for membership. -/
structure Question where
  /-- The operand that is looked for. -/
  operand : List (Lexeme Words)
  /-- Whether it is not to be found. -/
  negated : Bool
  /-- The items among which it is looked for. -/
  items : List Words

/-- Whether a word asks for membership. -/
def isIn (word : List Char) : Bool :=
  word.map Char.toLower == "in".toList

/-- The operand in front of the word `IN`, and whether `NOT` stands between them; the lexemes are
    read from behind. -/
def asked? : List (Lexeme Words) → Option (List (Lexeme Words) × Bool)
  | .part words :: front =>
    if words.getLast?.any isIn then
      match words.dropLast, front with
      | [], .not :: before => some (before.reverse, true)
      | [], before => some (before.reverse, false)
      | behind, before => some (before.reverse ++ [.part behind], false)
    else none
  | _ => none

/-- The question that an atom asks, if it is one for membership. -/
def question? (atom : List (Lexeme Words)) : Option Question :=
  match atom.reverse with
  | .closing :: .part words :: .opening :: front =>
    (asked? front).map fun (operand, negated) =>
      { operand, negated, items := words.splitOn [','] }
  | _ => none

section

variable (same : Value → Value → Bool) (ν : List (Lexeme Words) → Value) (b : Binds)

/-- The value of an item: what is bound to a placeholder, or nothing. Anything else that is written
    there has the value of an operand. -/
def itemValue : Words → Value
  | [word] =>
    if word.head? = some ':' then (b.get? (String.ofList word)).getD .null
    else if word.map Char.toLower = "null".toList then .null
    else ν [.part [word]]
  | words => ν [.part words]

/-- The answer to a question, given the values of operands. -/
def Question.answer (q : Question) : Truth :=
  let found := among same (ν q.operand) (q.items.map (itemValue ν b))
  if q.negated then found.not else found

/-- Whether an atom that asks for membership is satisfied: a row for which the answer is unknown is
    not selected. -/
def satisfied (atom : List (Lexeme Words)) : Bool :=
  (question? atom).any fun q => decide (q.answer same ν b = .yes)

end

/-- The items alone decide which items are asked about. -/
theorem question?_items {front : List (Lexeme Words)} {words : Words} {q : Question}
    (h : question? (front ++ [Lexeme.opening, .part words, .closing]) = some q) (words' : Words) :
    question? (front ++ [Lexeme.opening, .part words', .closing])
      = some { q with items := words'.splitOn [','] } := by
  have hreverse : ∀ words : Words, (front ++ [Lexeme.opening, .part words, .closing]).reverse
      = .closing :: .part words :: .opening :: front.reverse := by
    intro words
    rw [List.reverse_append]
    rfl
  rw [question?, hreverse] at h ⊢
  dsimp only at h ⊢
  rw [Option.map_eq_some_iff] at h ⊢
  rcases h with ⟨⟨operand, negated⟩, hasked, rfl⟩
  exact ⟨_, hasked, rfl⟩

/-! ### Items -/

/-- A place for a list behind a text, cut at its parentheses. -/
theorem Asking.append_written (a : Asking) (text argument : List Char) :
    text ++ a.written argument
      = (text ++ (a.word ++ a.gap)) ++ ('(' :: a.before ++ (argument ++ (a.after ++ [')']))) := by
  simp only [written, opening, closing, List.append_assoc, List.cons_append]

/-- The texts between the commas of a list. -/
def itemTexts (name : String) (vs : List Value) : List (List Char) :=
  if vs.isEmpty then ["NULL".toList] else (elementNames name 0 vs.length).map String.toList

theorem itemTexts_ne_nil (name : String) (vs : List Value) : itemTexts name vs ≠ [] := by
  unfold itemTexts
  cases vs with
  | nil => exact List.cons_ne_nil _ _
  | cons v vs =>
      have hlength := length_elementNames name 0 (v :: vs).length
      intro hnil
      have hnames := List.map_eq_nil_iff.mp (show (elementNames name 0 (v :: vs).length).map
        String.toList = [] from hnil)
      rw [hnames] at hlength
      cases hlength

theorem elementList_eq (name : String) (vs : List Value) :
    elementList name vs = [',', ' '].intercalate (itemTexts name vs) := by
  unfold elementList itemTexts
  cases vs with
  | nil => rfl
  | cons v vs => exact String.toList_intercalate

namespace Lexis

variable (x : Lexis)

/-- A text is one word where a word can begin, and no keyword. -/
structure IsWord (word : List Char) : Prop where
  plain : keyword word = none
  ne_nil : word ≠ []
  reads : ∀ s hanging, s.place = .outside hanging → s.run = [] →
    word.foldlM (Lexer.step x) s = some { s with run := word, place := .outside none }

variable {x}

theorem isWord_bindName {name : String} (h : IsBindName name) : x.IsWord name.toList := by
  rcases h with ⟨word, hname, hword⟩
  rw [hname]
  refine ⟨keyword_name (Or.inl rfl) word, List.cons_ne_nil _ _, fun s hanging hs hrun => ?_⟩
  rw [Lexer.over_name (Or.inl rfl) hword hs, Lexer.endWord_of_nil hrun]

theorem isWord_itemTexts {name : String} (h : IsBindName name) (vs : List Value) :
    ∀ text ∈ itemTexts name vs, x.IsWord text := by
  intro text htext
  unfold itemTexts at htext
  split at htext
  · rw [List.mem_singleton.mp htext]
    refine ⟨by decide, by decide, fun s hanging hs hrun => ?_⟩
    have hword : ∀ c ∈ "NULL".toList, Text.isWord c = true := List.all_eq_true.mp (by decide)
    rw [Lexer.over_word hs (by decide) hword, hrun, List.nil_append]
  · rcases List.mem_map.mp htext with ⟨t, ht, rfl⟩
    rcases mem_elementNames ht with ⟨i, -, rfl⟩
    exact isWord_bindName (isBindName_numbered h _)

/-- Words with commas between them, as words of a part. -/
def listedWords (texts : List (List Char)) : Words :=
  [[',']].intercalate (texts.map fun text => [text])

theorem listedWords_ne_nil {texts : List (List Char)} (h : texts ≠ []) : listedWords texts ≠ [] := by
  rcases texts with _ | ⟨text, _ | ⟨next, texts⟩⟩
  · exact absurd rfl h
  · exact List.cons_ne_nil _ _
  · exact List.cons_ne_nil _ _

/-- Words with commas between them are read over. -/
theorem over_words {texts : List (List Char)} (hne : texts ≠ [])
    (h : ∀ text ∈ texts, x.IsWord text) {s : Lexer} {hanging : Option Char}
    (hs : s.place = .outside hanging) (hrun : s.run = []) :
    ∃ t, ([',', ' '].intercalate texts).foldlM (Lexer.step x) s = some t
      ∧ t.place = .outside none ∧ t.endWord.out = s.out
      ∧ t.endWord.words = s.words ++ listedWords texts := by
  induction texts generalizing s hanging with
  | nil => exact absurd rfl hne
  | cons text texts ih =>
      have hfirst := h text List.mem_cons_self
      let t : Lexer := { s with run := text, place := .outside none }
      have hover : text.foldlM (Lexer.step x) s = some t := hfirst.reads s hanging hs hrun
      have hend : t.endWord
          = { s with words := s.words ++ [text], run := [], place := .outside none } := by
        rw [Lexer.endWord, if_neg (show t.run ≠ [] from hfirst.ne_nil),
          show keyword t.run = none from hfirst.plain]
      rcases texts with _ | ⟨next, texts⟩
      · refine ⟨t, ?_, rfl, ?_, ?_⟩
        · rwa [List.intercalate_singleton]
        · rw [hend]
        · rw [hend, listedWords, List.map_singleton, List.intercalate_singleton]
      · -- A comma and a blank stand between this word and the next.
        let u : Lexer :=
          { s with words := s.words ++ [text] ++ [[',']], run := [], place := .outside none }
        have hcomma : t.step x ',' = some u := by
          rw [Lexer.step_pass rfl (by decide) (by simp [isForeign]), hend]
          rfl
        have hblank : u.step x ' ' = some u := by
          rw [Lexer.step_blank rfl (by decide), Lexer.endWord_of_nil rfl]
        rcases ih (List.cons_ne_nil next texts) (fun w hw => h w (List.mem_cons_of_mem text hw))
          (s := u) rfl rfl with ⟨last, hlast, hplace, hout, hwords⟩
        refine ⟨last, ?_, hplace, hout, ?_⟩
        · rw [List.intercalate_cons_cons, List.append_assoc, Lexer.over_append hover]
          rw [List.cons_append, Lexer.over_cons hcomma, List.cons_append, Lexer.over_cons hblank]
          exact hlast
        · have hjoined : listedWords (text :: next :: texts)
              = [text] ++ [[',']] ++ listedWords (next :: texts) := List.intercalate_cons_cons
          rw [hwords, hjoined]
          simp only [u, List.append_assoc]

/-- Behind the operand and the word in front of it, a parenthesis is opened. -/
theorem over_opening {s : Lexer} {hanging : Option Char} (h : s.place = .outside hanging)
    {before : List Char} (hbefore : ∀ c ∈ before, isBlank c = true) :
    ('(' :: before).foldlM (Lexer.step x) s
      = some { out := s.endWord.out ++ s.endWord.part ++ [.opening] } := by
  have hstep : s.step x '(' = some { out := s.endWord.out ++ s.endWord.part ++ [.opening] } := by
    rw [Lexer.step_pass h (by decide) (by simp [isForeign])]
    rfl
  rw [Lexer.over_cons hstep]
  induction before with
  | nil => rfl
  | cons c before ih =>
      rcases List.forall_mem_cons.mp hbefore with ⟨hc, hrest⟩
      rw [Lexer.over_cons (Lexer.step_blank rfl hc), Lexer.endWord_of_nil rfl]
      exact ih hrest

/-- The parenthesis that is closed is the last lexeme. -/
theorem lexFrom?_closing {s : Lexer} {hanging : Option Char} (h : s.place = .outside hanging)
    {after : List Char} (hafter : ∀ c ∈ after, isBlank c = true) :
    x.lexFrom? s (after ++ [')']) = some (s.endWord.out ++ s.endWord.part ++ [.closing]) := by
  induction after generalizing s hanging with
  | nil =>
      have hstep : s.step x ')'
          = some { out := s.endWord.out ++ s.endWord.part ++ [.closing] } := by
        rw [Lexer.step_pass h (by decide) (by simp [isForeign])]
        rfl
      rw [List.nil_append, lexFrom?, Lexer.over_cons hstep]
      exact congrArg some (List.append_nil _)
  | cons c after ih =>
      rcases List.forall_mem_cons.mp hafter with ⟨hc, hrest⟩
      let t : Lexer := { s.endWord with place := .outside none }
      have hnext := ih (s := t) rfl hrest
      rw [Lexer.endWord_of_nil (show t.run = [] from s.run_endWord)] at hnext
      rw [List.cons_append, lexFrom?, Lexer.over_cons (Lexer.step_blank h hc)]
      exact hnext

/-- The lexemes of a text that asks about items: the items are one part in parentheses. -/
theorem lexFrom?_asking (a : Asking) {text : List Char} {s : Lexer} {hanging : Option Char}
    (h : (text ++ (a.word ++ a.gap)).foldlM (Lexer.step x) { } = some s)
    (hs : s.place = .outside hanging) {texts : List (List Char)} (hne : texts ≠ [])
    (hwords : ∀ w ∈ texts, x.IsWord w) :
    x.lexFrom? { } (text ++ (a.written ([',', ' '].intercalate texts)))
      = some (s.endWord.out ++ s.endWord.part
          ++ [.opening, .part (listedWords texts), .closing]) := by
  have hopening := over_opening (x := x) hs a.blank_before
  rcases over_words hne hwords (s := { out := s.endWord.out ++ s.endWord.part ++ [.opening] }) rfl
    rfl with ⟨t, ht, hplace, hout, hlisted⟩
  have hpart : t.endWord.part = [.part (listedWords texts)] := by
    rw [Lexer.part, hlisted, List.nil_append, if_neg (listedWords_ne_nil hne)]
  rw [a.append_written, x.lexFrom?_over h, x.lexFrom?_over hopening, x.lexFrom?_over ht,
    lexFrom?_closing hplace a.blank_after, hout, hpart]
  simp only [List.append_assoc, List.cons_append, List.nil_append]

/-- Outside of quotes is where the word `IN` stands, if the text can be read. -/
theorem exists_outside (a : Asking) {text name : List Char} {word : List Char}
    (hname : name = ':' :: word) (hword : ∀ c ∈ word, Text.isWord c = true)
    (h : (x.lexFrom? { } (text ++ a.written name)).isSome = true) :
    ∃ s hanging, (text ++ (a.word ++ a.gap)).foldlM (Lexer.step x) { } = some s
      ∧ s.place = .outside hanging := by
  rw [a.append_written, lexFrom?_append] at h
  rcases hover : (text ++ (a.word ++ a.gap)).foldlM (Lexer.step x) { } with _ | s
  · rw [hover] at h
    cases h
  · rcases hplace : s.place with hanging | ⟨mark, escaped⟩
    · exact ⟨s, hanging, rfl, hplace⟩
    · -- Quotes that are open here are never closed.
      have hsign : ∀ c, c = '(' ∨ c = ')' → mark.Holds [c] := by
        rintro c (rfl | rfl) <;>
          exact List.forall_mem_singleton.mpr (by cases mark <;> decide)
      have hholds : mark.Holds ('(' :: a.before ++ (name ++ (a.after ++ [')']))) := by
        rw [hname]
        refine Mark.Holds.append ((hsign '(' (Or.inl rfl)).append (Mark.holds_of_blank
          a.blank_before)) ((Mark.holds_name hword).append ((Mark.holds_of_blank
          a.blank_after).append (hsign ')' (Or.inr rfl))))
      have hne : '(' :: a.before ++ (name ++ (a.after ++ [')'])) ≠ [] :=
        List.append_ne_nil_of_left_ne_nil (List.cons_ne_nil _ _) _
      rw [hover, Option.bind_some, lexFrom?, Lexer.over_inside hplace hne hholds] at h
      cases h

end Lexis

/-! ### Answers -/

theorem comma_not_mem_itemTexts {name : String} (h : IsBindName name) (vs : List Value) :
    [','] ∉ itemTexts name vs := by
  unfold itemTexts
  split
  · decide
  · intro hmem
    rcases List.mem_map.mp hmem with ⟨t, ht, hcomma⟩
    rcases mem_elementNames ht with ⟨i, -, rfl⟩
    rcases isBindName_numbered h (0 + i) with ⟨word, hword, -⟩
    rw [hword, List.cons.injEq] at hcomma
    exact absurd hcomma.1 (by decide)

/-- A placeholder stands for the value that is bound to it. -/
theorem itemValue_bound {name : String} (h : IsBindName name) (ν : List (Lexeme Words) → Value)
    {b : Binds} {v : Value} (hb : b.get? name = some v) : itemValue ν b [name.toList] = v := by
  rcases h with ⟨word, hname, -⟩
  rw [itemValue, if_pos (by rw [hname]; rfl), String.ofList_toList, hb, Option.getD_some]

/-- The items that are written for a list are its values, or nothing if it has none. -/
theorem itemValues {name : String} (hname : IsBindName name) (vs : List Value)
    (ν : List (Lexeme Words) → Value) {b : Binds}
    (hb : b.entries = (elementNames name 0 vs.length).zip vs) :
    ((Lexis.listedWords (itemTexts name vs)).splitOn [',']).map (itemValue ν b)
      = if vs.isEmpty then [.null] else vs := by
  have hsplit : (Lexis.listedWords (itemTexts name vs)).splitOn [',']
      = (itemTexts name vs).map fun text => [text] := by
    refine List.splitOn_intercalate [','] (List.forall_mem_map.mpr fun text htext hcomma => ?_) ?_
    · exact comma_not_mem_itemTexts hname vs (List.mem_singleton.mp hcomma ▸ htext)
    · exact fun hnil => itemTexts_ne_nil name vs (List.map_eq_nil_iff.mp hnil)
  rw [hsplit, List.map_map, itemTexts]
  by_cases hempty : vs.isEmpty = true
  · rw [if_pos hempty, if_pos hempty]
    rfl
  · have hkeys : b.keys.Nodup := by
      rw [OrderedMap.keys, hb, map_fst_zip_elementNames]
      exact nodup_elementNames name 0 vs.length
    have hvalue : ∀ e ∈ (elementNames name 0 vs.length).zip vs,
        itemValue ν b [e.1.toList] = e.2 := by
      intro e he
      have hmem : e.1 ∈ elementNames name 0 vs.length :=
        map_fst_zip_elementNames name vs ▸ List.mem_map_of_mem he
      rcases mem_elementNames hmem with ⟨i, -, hi⟩
      exact itemValue_bound (hi ▸ isBindName_numbered hname _) ν
        ((OrderedMap.mem_entries_iff hkeys).mp (hb ▸ he))
    rw [if_neg hempty, if_neg hempty, List.map_map, ← map_fst_zip_elementNames name vs,
      List.map_map]
    refine (List.map_congr_left hvalue).trans ?_
    exact List.map_snd_zip (Nat.le_of_eq (length_elementNames name 0 vs.length).symm)

/-- The answer to a question for the items of a list is yes if the operand is equal to one of the
    values, and for `NOT` if there are values and it is equal to none. -/
theorem Question.answer_listed {same : Value → Value → Bool} {ν : List (Lexeme Words) → Value}
    {b : Binds} {q : Question} {vs : List Value} (hvs : ∀ v ∈ vs, v ≠ .null)
    (hitems : q.items.map (itemValue ν b) = if vs.isEmpty then [.null] else vs)
    (hoperand : ν q.operand ≠ .null) :
    decide (q.answer same ν b = .yes)
      = if q.negated then !vs.isEmpty && vs.all fun v => !same (ν q.operand) v
        else vs.any (same (ν q.operand)) := by
  have hno : ∀ v ∈ vs, (v ≠ .null ∧ same (ν q.operand) v = false ↔ same (ν q.operand) v = false) :=
    fun v hv => and_iff_right (hvs v hv)
  rw [answer, hitems, Bool.eq_iff_iff, decide_eq_true_iff]
  cases vs with
  | nil =>
      have hunknown : among same (ν q.operand) [.null] = .unknown := by
        simp only [among, List.foldr_cons, List.foldr_nil, equalTo, or_true, if_true]
        rfl
      cases q.negated <;> simp [hunknown, Truth.not]
  | cons v vs =>
      simp only [List.isEmpty_cons, Bool.false_eq_true, if_false, Bool.not_false, Bool.true_and]
      cases q.negated with
      | false =>
          simp only [Bool.false_eq_true, if_false, among_eq_yes_iff hoperand, List.any_eq_true]
          exact exists_congr fun w => and_congr_right fun hw => and_iff_right (hvs w hw)
      | true =>
          simp only [if_true, Truth.not_eq_yes_iff, among_eq_no_iff hoperand, List.all_eq_true,
            Bool.not_eq_true']
          exact forall_congr' fun w => imp_congr_right fun hw => hno w hw

/-! ### Compiled questions -/

/-- A text that asks a question about a list is read, with the items of the list written out, as the
    same question about these items. -/
theorem Lexis.read?_listed {x : Lexis} {a : Asking} {text : List Char} {name : String}
    (hname : IsBindName name) {atom : List (Lexeme Words)} {q : Question}
    (hread : x.read? (String.ofList (text ++ a.written name.toList)) = some (.atom atom))
    (hquestion : question? atom = some q) (vs : List Value) :
    ∃ atom', x.read? (String.ofList (text ++ a.written (elementList name vs)))
        = some (.atom atom')
      ∧ question? atom'
        = some { q with items := (Lexis.listedWords (itemTexts name vs)).splitOn [','] } := by
  rcases hname with ⟨word, hcolon, hword⟩
  rw [Lexis.read?, String.toList_ofList, Option.bind_eq_some_iff] at hread
  rcases hread with ⟨ls, hls, hformula⟩
  have hatom : atom = ls := lexemes_of_readFormula? hformula
  rcases Lexis.exists_outside (x := x) a hcolon hword (Option.isSome_iff_exists.mpr ⟨ls, hls⟩) with
    ⟨s, hanging, hover, hplace⟩
  have hasked := Lexis.lexFrom?_asking a hover hplace (List.cons_ne_nil name.toList [])
    (List.forall_mem_singleton.mpr (Lexis.isWord_bindName ⟨word, hcolon, hword⟩))
  have hlisted := Lexis.lexFrom?_asking a hover hplace (itemTexts_ne_nil name vs)
    (Lexis.isWord_itemTexts ⟨word, hcolon, hword⟩ vs)
  rw [List.intercalate_singleton, hls, Option.some.injEq] at hasked
  subst hatom
  rw [hasked] at hformula hquestion
  refine ⟨_, ?_, question?_items hquestion _⟩
  rw [Lexis.read?, String.toList_ofList, elementList_eq, hlisted, Option.bind_some]
  refine readFormula?_of_kinds hformula (t := fun _ => ()) ?_
  simp only [List.map_append, List.map_cons, Lexeme.map]

/-- Conditions with one fragment that asks whether an operand is in a list, or is not, are compiled,
    and for a row in which the operand is present they can be told to be satisfied: an `IN` if the
    operand is equal to a value of the list, and a `NOT IN` if it is equal to none and the list is
    not empty. -/
theorem compile_belongs (x : Lexis) {c : Conditions} {n : String} {value : Operand}
    {vs : List Value} {p : Passage} {text : List Char} {a : Asking}
    {hstart : atWordStart text.getLast? = true} {atom : List (Lexeme Words)} {q : Question}
    (hn : isPlaceholder n = true) (hbindings : c.bindings = [(withColon n, value)])
    (hlists : Lists value vs) (hvs : ∀ v ∈ vs, v ≠ .null)
    (hp : p = .asking text a hstart (.rest [])) (hasks : p.Asks (withColon n))
    (hclauses : c.clauses = [.raw (p.text (withColon n))])
    (hread : x.read? (p.text (withColon n)) = some (.atom atom))
    (hquestion : question? atom = some q) :
    ∃ r, c.compile = .ok r
      ∧ ∀ (same : Value → Value → Bool) (ν : List (Lexeme Words) → Value), ν q.operand ≠ .null →
        x.truth? (satisfied same ν r.binds) r.fragment
          = some (if q.negated then !vs.isEmpty && vs.all fun v => !same (ν q.operand) v
            else vs.any (same (ν q.operand))) := by
  rcases withColon_word hn with ⟨word, hname, hne, hword⟩
  rcases bound_of_lists (isPlaceholder_withColon hn) hbindings hlists with
    ⟨b, hbound, helements, hkeys, hnames⟩
  have hplaces : ∃ p' ∈ [p], p'.places ≠ 0 := by
    rw [hp]
    exact ⟨_, List.mem_cons_self, Nat.succ_ne_zero _⟩
  have hall : ∀ p' ∈ [p], p'.Asks (withColon n) := List.forall_mem_singleton.mpr hasks
  have hcompile := compile_of_bound hname hne hword hbound helements hkeys hnames hall hplaces
    hclauses
  refine ⟨_, hcompile, fun same ν hoperand => ?_⟩
  have htext : ∀ argument : List Char, p.written argument = text ++ a.written argument := by
    intro argument
    rw [hp, Passage.written, Passage.written, List.append_nil]
  rw [Passage.text, htext] at hread
  rcases Lexis.read?_listed ⟨word, hname, hword⟩ hread hquestion vs with ⟨atom', hatom, hasked⟩
  rw [List.map_singleton, String.intercalate_singleton, Passage.text, htext, ← elementList_listed]
  rw [truth?_of_read? hatom, Formula.holds, satisfied, hasked, Option.any_some]
  exact congrArg some (Question.answer_listed hvs
    (itemValues ⟨word, hname, hword⟩ vs ν (zip_elementNames _ vs).symm) hoperand)

/-- A field that must not be in a list. -/
def Conditions.excluding (vs : List Value) : Conditions :=
  (Conditions.raw { } "id NOT IN (:ids)").bind "ids" (.list vs)

/-- The field. -/
def excludedField : List (Lexeme Words) :=
  [.part ["id".toList]]

/-- The field is not in a list of two values if it differs from both. -/
theorem compile_belongs_excluding :
    let p : Passage := .asking "id NOT ".toList
      { word := ['I', 'N'], gap := [' '], before := [], after := [], letters := rfl
        blank_gap := List.all_eq_true.mp rfl, blank_before := nofun, blank_after := nofun }
      (by decide) (.rest [])
    let vs : List Value := [.int 3, .int 4]
    let atom : List (Lexeme Words) := excludedField
      ++ [.not, .part ["IN".toList], .opening, .part [":ids".toList], .closing]
    let r : CompiledCondition := {
      fragment := "id NOT IN (:ids_0, :ids_1)"
      binds := .ofList [(":ids_0", .int 3), (":ids_1", .int 4)] }
    isPlaceholder "ids" = true ∧ (Conditions.excluding vs).bindings = [(withColon "ids", .list vs)]
      ∧ Lists (.list vs) vs ∧ (∀ v ∈ vs, v ≠ .null) ∧ p.Asks (withColon "ids")
      ∧ (Conditions.excluding vs).clauses = [.raw (p.text (withColon "ids"))]
      ∧ Lexis.standard.read? (p.text (withColon "ids")) = some (.atom atom)
      ∧ question? atom = some ⟨excludedField, true, [[":ids".toList]]⟩
      ∧ (Conditions.excluding vs).compile = .ok r
      ∧ ∀ (same : Value → Value → Bool) (ν : List (Lexeme Words) → Value),
        ν excludedField ≠ .null →
        Lexis.standard.truth? (satisfied same ν r.binds) r.fragment
          = some (!same (ν excludedField) (.int 3) && !same (ν excludedField) (.int 4)) := by
  intro p vs atom r
  have hn : isPlaceholder "ids" = true := by decide
  have hbindings : (Conditions.excluding vs).bindings = [(withColon "ids", .list vs)] := by decide
  have hvs : ∀ v ∈ vs, v ≠ .null := by decide
  have hasks : p.Asks (withColon "ids") := by
    rw [Passage.Asks]
    decide
  have hclauses : (Conditions.excluding vs).clauses = [.raw (p.text (withColon "ids"))] := by decide
  have hread : Lexis.standard.read? (p.text (withColon "ids")) = some (.atom atom) := by
    decide +kernel
  have hquestion : question? atom = some ⟨excludedField, true, [[":ids".toList]]⟩ := by rfl
  have hcompile : (Conditions.excluding vs).compile = .ok r := by decide
  rcases compile_belongs .standard hn hbindings (.list vs) hvs rfl hasks hclauses hread hquestion
    with ⟨r', hr', htruth⟩
  obtain rfl : r = r' := Except.ok.inj (hcompile.symm.trans hr')
  refine ⟨hn, hbindings, .list vs, hvs, hasks, hclauses, hread, hquestion, hcompile,
    fun same ν hpresent => ?_⟩
  rw [htruth same ν hpresent]
  simp only [vs, if_true, List.isEmpty_cons, Bool.not_false, Bool.true_and, List.all_cons,
    List.all_nil, Bool.and_true]

/-- No field is outside of the empty list, although nothing in the list is equal to it. -/
theorem compile_excludes_nothing :
    (Conditions.excluding []).compile = .ok { fragment := "id NOT IN (NULL)", binds := ∅ }
      ∧ ¬ ∀ (same : Value → Value → Bool) (ν : List (Lexeme Words) → Value),
        ν excludedField ≠ .null →
        (Lexis.standard.truth? (satisfied same ν ∅) "id NOT IN (NULL)" = some true
          ↔ ∀ v ∈ ([] : List Value), same (ν excludedField) v = false) := by
  refine ⟨by decide, fun h => ?_⟩
  have hsatisfied := (h (fun v w => decide (v = w)) (fun _ => .int 1) (by decide)).mpr
    (List.forall_mem_nil _)
  exact absurd hsatisfied (by decide +kernel)

end SqlMapper
