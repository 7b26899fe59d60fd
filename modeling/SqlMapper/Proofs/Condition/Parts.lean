import SqlMapper.Proofs.Condition.Dangling
import SqlMapper.Proofs.Condition.Lexing

/-!
# Parts of Conditions

Which texts a lexer reads as words of one part.

Two lexers go on alike if they stand in the same place and, outside of quotes, at
the same beginning of a word, whatever the words in front of it are: no text
behind them makes a difference, apart from the texts of the parts. Lexers within
the same part are such a pair as soon as the words they stand in are ended.

Names, quoted texts and symbols begin a word wherever they stand outside of
quotes, and so they keep a lexer within its part. What is made of them and of
blanks, such as a named equality, is one part.

## Main definitions

* `outline`: Lexemes without the texts of the parts.
* `Lexer.Alike`: Lexers between which no text makes a difference.
* `Lexer.Within`: A lexer behind some word of a part.
* `Lexis.Begins`: A text that is made of words wherever it stands.
* `Lexis.Keeps`: A text that keeps a lexer within a part.

## Theorems

* `step_alike`: Lexers that are alike stay so.
* `Within.same`: Within the same part, a text that continues no word has the same lexemes.
* `Begins.name`, `Begins.quoted`, `Begins.joined`: Texts that begin words.
* `read?_equality`: A named equality is an atom.
-/

namespace SqlMapper

open Text

/-- Lexemes without the texts of the parts. -/
def outline (ls : List (Lexeme Words)) : List (Lexeme Words) :=
  ls.map (Lexeme.map fun _ => [])

theorem outline_append (ls ls' : List (Lexeme Words)) :
    outline (ls ++ ls') = outline ls ++ outline ls' :=
  List.map_append

namespace Lexer

/-- Lexers between which no text makes a difference. -/
structure Alike (s t : Lexer) : Prop where
  out : outline s.out = outline t.out
  place : s.place = t.place
  -- Outside of quotes it matters whether there is a part, and which word begins.
  words : ∀ hanging, s.place = .outside hanging → (s.words = [] ↔ t.words = [])
  run : ∀ hanging, s.place = .outside hanging → s.run = t.run

theorem Alike.of_inside {s t : Lexer} {mark : Mark} {escaped : Bool} (hout : s.out = t.out)
    (hs : s.place = .inside mark escaped) (ht : t.place = .inside mark escaped) : s.Alike t := by
  refine ⟨congrArg outline hout, hs.trans ht.symm, fun _ h => ?_, fun _ h => ?_⟩ <;>
    exact nomatch hs.symm.trans h

section

variable {s t : Lexer} (h : s.Alike t) {hanging : Option Char}

include h

theorem Alike.all (hplace : s.place = .outside hanging) :
    outline (s.out ++ s.part) = outline (t.out ++ t.part) := by
  have hwords := h.words hanging hplace
  rw [outline_append, outline_append, h.out]
  by_cases hnil : s.words = []
  · rw [part, part, if_pos hnil, if_pos (hwords.mp hnil)]
  · rw [part, part, if_neg hnil, if_neg fun hnil' => hnil (hwords.mpr hnil')]
    rfl

theorem Alike.put (hplace : s.place = .outside hanging) (l : Lexeme Words) :
    (s.put l).Alike (t.put l) := by
  refine ⟨?_, rfl, fun _ _ => Iff.rfl, fun _ _ => rfl⟩
  exact (outline_append (s.out ++ s.part) [l]).trans <|
    (congrArg (· ++ outline [l]) (h.all hplace)).trans (outline_append (t.out ++ t.part) [l]).symm

theorem Alike.endWord (hplace : s.place = .outside hanging) : s.endWord.Alike t.endWord := by
  unfold Lexer.endWord
  rw [← h.run hanging hplace]
  by_cases hrun : s.run = []
  · rwa [if_pos hrun, if_pos hrun]
  · rw [if_neg hrun, if_neg hrun]
    rcases keyword s.run with _ | l
    · exact ⟨h.out, h.place, fun _ _ => iff_of_false (by simp) (by simp), fun _ _ => rfl⟩
    · exact h.put hplace l

theorem Alike.pass (hplace : s.place = .outside hanging) (c : Char) :
    (s.pass c).Alike (t.pass c) := by
  have hrun := h.run hanging hplace
  unfold Lexer.pass
  by_cases hblank : isBlank c = true
  · rw [if_pos hblank, if_pos hblank]
    exact ⟨h.out, rfl, fun _ _ => h.words hanging hplace, fun _ _ => hrun⟩
  rw [if_neg hblank, if_neg hblank]
  by_cases hopening : c = '('
  · rw [if_pos hopening, if_pos hopening]
    exact h.put hplace .opening
  rw [if_neg hopening, if_neg hopening]
  by_cases hclosing : c = ')'
  · rw [if_pos hclosing, if_pos hclosing]
    exact h.put hplace .closing
  rw [if_neg hclosing, if_neg hclosing]
  rcases Mark.begun c with _ | mark
  · by_cases hsigil : isSigil c = true
    · simp only [hsigil, if_true]
      exact ⟨h.out, rfl, fun _ _ => h.words hanging hplace, fun _ _ => rfl⟩
    · simp only [hsigil, if_false, Bool.false_eq_true]
      exact ⟨h.out, rfl, fun _ _ => iff_of_false (by simp) (by simp), fun _ _ => hrun⟩
  · exact ⟨h.out, rfl, fun _ hout => (nomatch hout), fun _ hout => (nomatch hout)⟩

theorem Alike.quote (x : Lexis) (mark : Mark) (escaped : Bool) (c : Char) :
    (s.quote x mark escaped c).Alike (t.quote x mark escaped c) := by
  unfold Lexer.quote
  split_ifs
  · exact ⟨h.out, rfl, fun _ _ => iff_of_false (by simp) (by simp), fun _ _ => rfl⟩
  · exact ⟨h.out, rfl, fun _ hout => (nomatch hout), fun _ hout => (nomatch hout)⟩

/-- Lexers that are alike stay so. -/
theorem step_alike (x : Lexis) (c : Char) : Option.Rel Alike (s.step x c) (t.step x c) := by
  have hsame := h.place
  rcases hplace : s.place with hanging | ⟨mark, escaped⟩
  · rw [hplace] at hsame
    rcases outside_endWord hplace with ⟨hanging', hend⟩
    rw [step, step, hplace, ← hsame]
    dsimp only
    split_ifs
    · rw [h.run hanging hplace]
      exact .some ⟨h.out, rfl, fun _ _ => h.words hanging hplace, fun _ _ => rfl⟩
    · exact .none
    · exact .some ((h.endWord hplace).pass hend c)
  · rw [hplace] at hsame
    rw [step, step, hplace, ← hsame]
    exact .some (h.quote x mark escaped c)

end

end Lexer

namespace Lexis

variable (x : Lexis)

theorem lexFrom?_alike {s t : Lexer} (h : s.Alike t) (cs : List Char) :
    (x.lexFrom? s cs).map outline = (x.lexFrom? t cs).map outline := by
  induction cs generalizing s t with
  | nil =>
      have hsame := h.place
      simp only [lexFrom?, List.foldlM_nil, Option.pure_def, Option.bind_some, Lexer.finish]
      rw [← hsame]
      rcases hplace : s.place with hanging | ⟨mark, escaped⟩
      · rcases Lexer.outside_endWord hplace with ⟨hanging', hend⟩
        exact congrArg some ((h.endWord hplace).all hend)
      · rfl
  | cons c cs ih =>
      simp only [lexFrom?, List.foldlM_cons] at ih ⊢
      have hstep := Lexer.step_alike h x c
      generalize s.step x c = next, t.step x c = next' at hstep
      cases hstep with
      | none => rfl
      | some halike => exact ih halike

end Lexis

/-! ### Inside of a part -/

namespace Lexer

/-- A lexer behind some word of a part. -/
structure Within (out : List (Lexeme Words)) (s : Lexer) : Prop where
  place : s.place = .outside none
  out : s.endWord.out = out
  words : s.endWord.words ≠ []

variable {x : Lexis} {out : List (Lexeme Words)} {s t : Lexer} {cs : List Char}

theorem endWord_of_nil (h : s.run = []) : s.endWord = s := by
  rw [endWord, if_pos h]

theorem Within.of_word (hplace : s.place = .outside none) (hout : s.out = out) (hrun : s.run ≠ [])
    (hkeyword : keyword s.run = none) : s.Within out := by
  have hend : s.endWord = { s with words := s.words ++ [s.run], run := [] } := by
    rw [endWord, if_neg hrun, hkeyword]
  exact ⟨hplace, by rw [hend, hout], by simp [hend]⟩

theorem Within.of_nil (hplace : s.place = .outside none) (hout : s.out = out) (hrun : s.run = [])
    (hwords : s.words ≠ []) : s.Within out := by
  have hend := endWord_of_nil hrun
  exact ⟨hplace, by rw [hend, hout], by rwa [hend]⟩

theorem Within.place_endWord (h : s.Within out) : s.endWord.place = .outside none :=
  s.place_endWord.elim (·.trans h.place) id

/-- Behind their words, lexers within the same part are alike. -/
theorem Within.alike (hs : s.Within out) (ht : t.Within out) : s.endWord.Alike t.endWord where
  out := by rw [hs.out, ht.out]
  place := by rw [hs.place_endWord, ht.place_endWord]
  words _ _ := iff_of_false hs.words ht.words
  run _ _ := by rw [run_endWord, run_endWord]

/-- Where a word ends anyway, it may as well be ended. -/
theorem Within.lexFrom? (h : s.Within out) (hcs : wordRun cs = []) :
    x.lexFrom? s cs = x.lexFrom? s.endWord cs := by
  have hsame := endWord_of_nil s.run_endWord
  rcases cs with _ | ⟨c, cs⟩
  · simp only [Lexis.lexFrom?, List.foldlM_nil, Option.pure_def, Option.bind_some, finish, h.place,
      h.place_endWord, hsame]
  · have hc : isWord c = false := by
      rw [Bool.eq_false_iff]
      intro hc
      rw [wordRun, List.takeWhile_cons, if_pos hc] at hcs
      cases hcs
    simp only [Lexis.lexFrom?, List.foldlM_cons, step, h.place, h.place_endWord, hc, hsame,
      Bool.false_eq_true, if_false]

/-- Within the same part, a text that continues no word has the same lexemes. -/
theorem Within.same (hs : s.Within out) (ht : t.Within out) (hcs : wordRun cs = []) :
    (x.lexFrom? s cs).map outline = (x.lexFrom? t cs).map outline := by
  rw [hs.lexFrom? hcs, ht.lexFrom? hcs]
  exact x.lexFrom?_alike (hs.alike ht) cs

end Lexer

/-- Signs in front of names, around them and between them. -/
def isSign (c : Char) : Bool :=
  [':', '%', ','].contains c

/-- Characters that are neither a mark nor may escape one. -/
def Mark.Holds (mark : Mark) (cs : List Char) : Prop :=
  ∀ c ∈ cs, c ≠ mark.char ∧ c ≠ '\\'

namespace Mark

theorem char_inj {mark mark' : Mark} (h : mark.char = mark'.char) : mark = mark' := by
  cases mark <;> cases mark' <;>
    first
      | rfl
      | exact absurd h (by decide)

variable {mark : Mark} {cs cs' : List Char}

theorem Holds.append (h : mark.Holds cs) (h' : mark.Holds cs') : mark.Holds (cs ++ cs') :=
  fun c hc => (List.mem_append.mp hc).elim (h c) (h' c)

/-- No character of a kind is a mark if no mark is of the kind. -/
theorem Holds.of_kind {p : Char → Bool} (hmark : p mark.char = false) (hescape : p '\\' = false)
    (h : ∀ c ∈ cs, p c = true) : mark.Holds cs := by
  intro c hc
  have hkind := h c hc
  refine ⟨?_, ?_⟩
  · rintro rfl
    rw [hmark] at hkind
    cases hkind
  · rintro rfl
    rw [hescape] at hkind
    cases hkind

theorem holds_of_word (h : ∀ c ∈ cs, isWord c = true) : mark.Holds cs :=
  .of_kind (by cases mark <;> decide) (by decide) h

theorem holds_of_blank (h : ∀ c ∈ cs, isBlank c = true) : mark.Holds cs :=
  .of_kind (by cases mark <;> decide) (by decide) h

theorem holds_of_sign (h : ∀ c ∈ cs, isSign c = true) : mark.Holds cs :=
  .of_kind (by cases mark <;> decide) (by decide) h

theorem holds_name {word : List Char} (h : ∀ c ∈ word, isWord c = true) :
    mark.Holds (':' :: word) :=
  (holds_of_sign (List.forall_mem_singleton.mpr (by decide))).append (holds_of_word h)

end Mark

namespace Lexer

variable {x : Lexis} {s : Lexer}

/-- Inside of quotes a text is read over. -/
theorem over_inside {mark : Mark} {escaped : Bool} (h : s.place = .inside mark escaped)
    {cs : List Char} (hne : cs ≠ []) (hcs : mark.Holds cs) :
    cs.foldlM (step x) s = some { s with run := s.run ++ cs, place := .inside mark false } := by
  induction cs generalizing s escaped with
  | nil => exact absurd rfl hne
  | cons c cs ih =>
      have hstep : s.step x c
          = some { s with run := s.run ++ [c], place := .inside mark false } := by
        have hc := hcs c List.mem_cons_self
        simp only [step, h, quote, hc.1, false_and, if_false, beq_eq_false_iff_ne.mpr hc.2,
          Bool.and_false, Bool.false_and]
      rw [over_cons hstep]
      rcases cs with _ | ⟨d, cs⟩
      · rfl
      · rw [ih rfl (List.cons_ne_nil d cs) fun c hc => hcs c (List.mem_cons_of_mem _ hc)]
        simp only [List.append_assoc, List.singleton_append]

theorem step_open {hanging : Option Char} (h : s.place = .outside hanging) {c : Char} {mark : Mark}
    (hmark : Mark.begun c = some mark) :
    s.step x c = some { s.endWord with run := [c], place := .inside mark false } := by
  have hcases : c = '\'' ∨ c = '"' ∨ c = backtick ∨ c = '[' := by
    unfold Mark.begun at hmark
    split_ifs at hmark <;> tauto
  rcases hcases with rfl | rfl | rfl | rfl
  all_goals
    rw [step_pass h (by decide) (by simp [Lexis.isForeign, backtick])]
    cases hmark
    rfl

/-- A name is read over as one word. -/
theorem over_name {c : Char} (hc : c = ':' ∨ c = '.') {word : List Char}
    (hword : ∀ c ∈ word, isWord c = true) {hanging : Option Char}
    (h : s.place = .outside hanging) :
    (c :: word).foldlM (step x) s
      = some { s.endWord with run := c :: word, place := .outside none } := by
  have hstep : s.step x c = some { s.endWord with run := [c], place := .outside none } := by
    rcases hc with rfl | rfl
    all_goals
      rw [step_pass h (by decide) (by simp [Lexis.isForeign])]
      rfl
  rw [over_cons hstep]
  by_cases hne : word = []
  · rw [hne]
    rfl
  · exact over_word rfl hne hword

theorem step_close {mark : Mark} (h : s.place = .inside mark false) :
    s.step x mark.char
      = some { s with
          words := s.words ++ [s.run ++ [mark.char]], run := [], place := .outside none } := by
  rw [step, h]
  exact congrArg some (if_pos ⟨rfl, rfl⟩)

end Lexer

/-- A text that is made of words wherever it stands outside of quotes. -/
def Lexis.Begins (x : Lexis) (cs : List Char) : Prop :=
  ∀ s hanging, s.place = .outside hanging →
    ∃ t, cs.foldlM (Lexer.step x) s = some t ∧ t.Within s.endWord.out

/-- A text that keeps a lexer within a part. -/
def Lexis.Keeps (x : Lexis) (cs : List Char) : Prop :=
  ∀ out s, s.Within out → ∃ t, cs.foldlM (Lexer.step x) s = some t ∧ t.Within out

/-- Symbols that are nothing but a word of their own. -/
def isPlain (c : Char) : Bool :=
  [',', '%', '='].contains c

namespace Lexis

variable {x : Lexis} {cs cs' : List Char}

theorem Begins.keeps (h : x.Begins cs) : x.Keeps cs := by
  intro out s hs
  rw [← hs.out]
  exact h s none hs.place

theorem Begins.append (h : x.Begins cs) (h' : x.Keeps cs') : x.Begins (cs ++ cs') := by
  intro s hanging hs
  rcases h s hanging hs with ⟨t, ht, hwithin⟩
  rcases h' _ t hwithin with ⟨u, hu, hwithin'⟩
  refine ⟨u, ?_, hwithin'⟩
  rwa [Lexer.over_append ht]

theorem Keeps.append (h : x.Keeps cs) (h' : x.Keeps cs') : x.Keeps (cs ++ cs') := by
  intro out s hs
  rcases h out s hs with ⟨t, ht, hwithin⟩
  rcases h' out t hwithin with ⟨u, hu, hwithin'⟩
  refine ⟨u, ?_, hwithin'⟩
  rwa [Lexer.over_append ht]

theorem Keeps.of_forall (h : ∀ c ∈ cs, x.Keeps [c]) : x.Keeps cs := by
  induction cs with
  | nil => exact fun out s hs => ⟨s, rfl, hs⟩
  | cons c cs ih =>
      exact (h c List.mem_cons_self).append (ih fun d hd => h d (List.mem_cons_of_mem c hd))

theorem Keeps.blank {c : Char} (hc : isBlank c = true) : x.Keeps [c] := by
  intro out s hs
  refine ⟨{ s.endWord with place := .outside none }, ?_, ?_⟩
  · exact Lexer.over_cons (Lexer.step_blank hs.place hc) []
  · exact .of_nil rfl hs.out s.run_endWord hs.words

theorem Begins.plain {c : Char} (hc : isPlain c = true) : x.Begins [c] := by
  intro s hanging hs
  refine ⟨{ s.endWord with words := s.endWord.words ++ [[c]], place := .outside none }, ?_,
    .of_nil rfl rfl s.run_endWord (by simp)⟩
  simp only [isPlain, List.contains_cons, List.contains_nil, Bool.or_false, Bool.or_eq_true,
    beq_iff_eq] at hc
  rcases hc with rfl | rfl | rfl
  all_goals
    exact Lexer.over_cons (Lexer.step_pass hs (by decide) (by simp [isForeign])) []

/-- A name is a word, whatever character marks it as a name. -/
theorem Begins.name {c : Char} (hc : c = ':' ∨ c = '.') {word : List Char}
    (hword : ∀ c ∈ word, isWord c = true) : x.Begins (c :: word) := fun _ _ hs =>
  ⟨_, Lexer.over_name hc hword hs, .of_word rfl rfl (List.cons_ne_nil _ _) (keyword_name hc word)⟩

/-- What is quoted is a word. -/
theorem Begins.quoted {c : Char} {mark : Mark} (hmark : Mark.begun c = some mark)
    (hcs : mark.Holds cs) : x.Begins (c :: cs ++ [mark.char]) := by
  intro s hanging hs
  have hinside : cs.foldlM (Lexer.step x)
        { s.endWord with run := [c], place := .inside mark false }
      = some { s.endWord with run := c :: cs, place := .inside mark false } := by
    by_cases hne : cs = []
    · rw [hne]
      rfl
    · exact Lexer.over_inside rfl hne hcs
  have hall : (c :: cs ++ [mark.char]).foldlM (Lexer.step x) s = some { s.endWord with
      words := s.endWord.words ++ [c :: cs ++ [mark.char]]
      run := []
      place := .outside none } := by
    rw [List.cons_append, Lexer.over_cons (Lexer.step_open hs hmark), Lexer.over_append hinside]
    exact Lexer.over_cons (Lexer.step_close rfl) []
  exact ⟨_, hall, .of_nil rfl rfl rfl (by simp)⟩

/-- Texts between separators that end no part. -/
theorem Begins.joined {sep : String} (hsep : x.Keeps sep.toList) {texts : List String}
    (hne : texts ≠ []) (h : ∀ text ∈ texts, x.Begins text.toList) :
    x.Begins (sep.intercalate texts).toList := by
  induction texts with
  | nil => exact absurd rfl hne
  | cons text texts ih =>
      rcases texts with _ | ⟨next, texts⟩
      · rw [String.intercalate_singleton]
        exact h text List.mem_cons_self
      · rw [String.intercalate_cons_cons, String.toList_append, String.toList_append]
        exact ((h text List.mem_cons_self).append hsep).append
          (ih (List.cons_ne_nil _ _) fun t ht => h t (List.mem_cons_of_mem _ ht)).keeps

theorem Begins.bindName {name : String} (h : IsBindName name) : x.Begins name.toList := by
  rcases h with ⟨word, hname, hword⟩
  rw [hname]
  exact .name (Or.inl rfl) hword

/-- What begins words is a part, if there is nothing else. -/
theorem Begins.read? {text : String} (h : x.Begins text.toList) :
    ∃ words, x.read? text = some (.atom [.part words]) := by
  rcases h { } none rfl with ⟨t, ht, hwithin⟩
  refine ⟨t.endWord.words, ?_⟩
  rw [Lexis.read?, lexFrom?, ht, Option.bind_some, Lexer.finish, hwithin.place]
  simp only [hwithin.out, Lexer.part, hwithin.words, if_false]
  rfl

/-- A named equality is an atom. -/
theorem read?_equality {field t : String} (h : isIdentifier field = true) (ht : IsBindName t) :
    ∃ words, x.read? (quotePath field ++ " = " ++ t) = some (.atom [.part words]) := by
  have hname : ∀ name ∈ (segments '.' field).map quoteName, x.Begins name.toList := by
    intro name hname
    rcases List.mem_map.mp hname with ⟨segment, hsegment, rfl⟩
    rcases List.mem_map.mp hsegment with ⟨chars, hchars, rfl⟩
    have hholds : Mark.backtick.Holds (doubled backtick chars) :=
      Mark.holds_of_word fun c hc => mem_identifier h chars hchars c (mem_doubled hc)
    rw [quoteName, String.toList_ofList, String.toList_ofList]
    exact .quoted (show Mark.begun backtick = some .backtick by decide) hholds
  have hne : (segments '.' field).map quoteName ≠ [] := by
    simp [segments, List.splitOn_ne_nil]
  have hdot : x.Keeps ".".toList :=
    (show x.Begins ['.'] from .name (Or.inr rfl) (List.forall_mem_nil _)).keeps
  have hequals : x.Keeps " = ".toList :=
    .append (.append (.blank (by decide)) (Begins.plain (by decide)).keeps) (.blank (by decide))
  refine Begins.read? ?_
  rw [String.toList_append, String.toList_append]
  exact ((Begins.joined hdot hne hname).append hequals).append (Begins.bindName ht).keeps

end Lexis

end SqlMapper
