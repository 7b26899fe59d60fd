import SqlMapper.Condition.Similarity
import SqlMapper.Identifier
import SqlMapper.Proofs.Condition.Formula
import SqlMapper.Proofs.Text.Scanning

/-!
# Lexing Conditions

The lexemes of a condition that is written in SQL.

A word ends where no word character follows, quotes hold together whatever stands
between them, and a word behind a colon or a dot is a name even if it is spelled
like a keyword. Engines do not agree on everything: a backslash in a text may or
may not escape, and two bars join texts in one engine and conditions in another.
Both readings are covered, and a text is refused if it holds a comment, a second
statement, or an operator between conditions that is not a word.

## Main definitions

* `Lexis`: What an engine makes of the characters on which engines differ.
* `Lexer.step`: One character taken in.
* `Lexis.read?`: A condition, read as a formula.
* `Lexis.truth?`: Its truth, given that of its atoms.

## Theorems

* `keyword_name`: A name is no keyword.
* `lexFrom?_and`: Texts joined by `AND` have the lexemes of both, joined by `AND`.
* `read?_and`: Conditions without `OR` at their top are joined to their conjunction.
-/

namespace SqlMapper

open Text

/-- The words of a part. -/
abbrev Words :=
  List (List Char)

/-- What an engine makes of the characters on which engines differ. -/
structure Lexis where
  -- Whether a backslash in a text takes away the meaning of the character behind it.
  escapes : Bool
  -- Whether two bars join texts. Where they do not, they join conditions.
  bars : Bool

/-- The words that are lexemes of their own. -/
def keywords : List (List Char × Lexeme Words) :=
  [("and".toList, .and), ("or".toList, .or), ("xor".toList, .xor), ("not".toList, .not),
    ("between".toList, .between), ("case".toList, .begins), ("end".toList, .ends)]

/-- The lexeme that a word is, if it is a keyword. -/
def keyword (word : List Char) : Option (Lexeme Words) :=
  keywords.lookup (word.map Char.toLower)

/-- What holds characters together. -/
inductive Mark where
  | apostrophe
  | quotation
  | backtick
  | bracket
  deriving DecidableEq

namespace Mark

/-- The character that ends what a mark holds together. -/
def char : Mark → Char
  | .apostrophe => '\''
  | .quotation => '"'
  | .backtick => SqlMapper.backtick
  | .bracket => ']'

/-- The mark that is begun by a character. -/
def begun (c : Char) : Option Mark :=
  if c = '\'' then some .apostrophe
  else if c = '"' then some .quotation
  else if c = SqlMapper.backtick then some .backtick
  else if c = '[' then some .bracket
  else none

end Mark

/-- Whether a word behind a character is a name, however it is spelled. -/
def isSigil (c : Char) : Bool :=
  [':', '@', '.', '$'].contains c

/-- A symbol, if it begins a longer one that is no part of a condition. -/
def hangs (c : Char) : Option Char :=
  if ['-', '/', '&', '|'].contains c then some c else none

/-- Where a lexer stands. -/
inductive Place where
  -- Outside of quotes, maybe behind a character that begins a longer symbol.
  | outside (hanging : Option Char)
  -- Inside of quotes that end with a mark, maybe behind a backslash that escapes.
  | inside (mark : Mark) (escaped : Bool)
  deriving DecidableEq

/-- What has been read of a text. -/
structure Lexer where
  -- The lexemes.
  out : List (Lexeme Words) := []
  -- The words of the part behind them.
  words : Words := []
  -- The beginning of the next word.
  run : List Char := []
  place : Place := .outside none

namespace Lexer

/-- The part behind the lexemes, if there is one. -/
def part (s : Lexer) : List (Lexeme Words) :=
  if s.words = [] then [] else [.part s.words]

/-- A lexer behind another lexeme. -/
def put (s : Lexer) (l : Lexeme Words) : Lexer where
  out := s.out ++ s.part ++ [l]

/-- A lexer behind the word it stands in. -/
def endWord (s : Lexer) : Lexer :=
  if s.run = [] then s
  else
    match keyword s.run with
    | some l => s.put l
    | none => { s with words := s.words ++ [s.run], run := [] }

/-- A lexer outside of quotes, behind a character that is in no word. -/
def pass (s : Lexer) (c : Char) : Lexer :=
  if isBlank c then { s with place := .outside none }
  else if c = '(' then s.put .opening
  else if c = ')' then s.put .closing
  else
    match Mark.begun c with
    | some mark => { s with run := [c], place := .inside mark false }
    | none =>
      if isSigil c then { s with run := [c], place := .outside none }
      else
        { s with words := s.words ++ [[c]], place := .outside (hangs c) }

/-- A lexer inside of quotes, behind another character. -/
def quote (x : Lexis) (s : Lexer) (mark : Mark) (escaped : Bool) (c : Char) : Lexer :=
  if c = mark.char ∧ escaped = false then
    { s with words := s.words ++ [s.run ++ [c]], run := [], place := .outside none }
  else
    { s with
      run := s.run ++ [c]
      place := .inside mark (x.escapes && isQuote mark.char && c == '\\' && !escaped) }

end Lexer

/-- Whether a character ends a condition, or begins what is no part of one. -/
def Lexis.isForeign (x : Lexis) (hanging : Option Char) (c : Char) : Bool :=
  [';', '#'].contains c
    || [(some '-', '-'), (some '/', '*'), (some '&', '&')].contains (hanging, c)
    || !x.bars && (hanging, c) == (some '|', '|')

/-- A lexer behind one more character. -/
def Lexer.step (x : Lexis) (s : Lexer) (c : Char) : Option Lexer :=
  match s.place with
  | .inside mark escaped => some (s.quote x mark escaped c)
  | .outside hanging =>
    if isWord c then some { s with run := s.run ++ [c], place := .outside none }
    else if x.isForeign hanging c then none
    else some (s.endWord.pass c)

/-- All lexemes, at the end of a text. -/
def Lexer.finish (s : Lexer) : Option (List (Lexeme Words)) :=
  match s.place with
  | .inside _ _ => none
  | .outside _ => some (s.endWord.out ++ s.endWord.part)

namespace Lexis

variable (x : Lexis)

/-- The lexemes of a text that goes on behind what has been read. -/
def lexFrom? (s : Lexer) (cs : List Char) : Option (List (Lexeme Words)) :=
  (cs.foldlM (Lexer.step x) s).bind Lexer.finish

/-- A condition, read as a formula. -/
def read? (text : String) : Option (Condition Words) :=
  (x.lexFrom? { } text.toList).bind readFormula?

/-- Whether a condition is true, given the truth of its atoms. An empty one demands nothing. -/
def truth? (ν : List (Lexeme Words) → Bool) (text : String) : Option Bool :=
  if text = "" then some true else (x.read? text).map (Formula.holds ν)

end Lexis

theorem exists_keyword {word : List Char} {l : Lexeme Words} (h : keyword word = some l) :
    ∃ key ∈ keywords, key.1 = word.map Char.toLower := by
  rcases List.lookup_eq_some_iff.mp h with ⟨before, behind, htable, -⟩
  refine ⟨(word.map Char.toLower, l), ?_, rfl⟩
  rw [htable]
  exact List.mem_append_right _ List.mem_cons_self

/-- A name is no keyword. -/
theorem keyword_name {c : Char} (hc : c = ':' ∨ c = '.') (word : List Char) :
    keyword (c :: word) = none := by
  rcases hkeyword : keyword (c :: word) with _ | l
  · rfl
  · rcases exists_keyword hkeyword with ⟨key, hkey, heq⟩
    have hsigil : ∀ key ∈ keywords, key.1.head? ≠ some ':' ∧ key.1.head? ≠ some '.' := by decide
    have hhead := congrArg List.head? heq
    rcases hc with rfl | rfl
    · exact absurd hhead (hsigil key hkey).1
    · exact absurd hhead (hsigil key hkey).2

namespace Lexer

variable {x : Lexis} {s : Lexer} {c : Char}

theorem step_word {hanging : Option Char} (h : s.place = .outside hanging) (hc : isWord c = true) :
    s.step x c = some { s with run := s.run ++ [c], place := .outside none } := by
  rw [step, h]
  exact if_pos hc

/-- A character that is in no word and begins no symbol ends the word in front of it. -/
theorem step_pass {hanging : Option Char} (h : s.place = .outside hanging) (hc : isWord c = false)
    (hforeign : x.isForeign hanging c = false) : s.step x c = some (s.endWord.pass c) := by
  rw [step, h]
  simp only [hc, hforeign, Bool.false_eq_true, if_false]

theorem run_endWord (s : Lexer) : s.endWord.run = [] := by
  unfold endWord
  by_cases hrun : s.run = []
  · rw [if_pos hrun, hrun]
  · rw [if_neg hrun]
    rcases keyword s.run with _ | l <;> rfl

theorem place_endWord (s : Lexer) :
    s.endWord.place = s.place ∨ s.endWord.place = .outside none := by
  unfold endWord
  by_cases hrun : s.run = []
  · rw [if_pos hrun]
    exact Or.inl rfl
  · rw [if_neg hrun]
    rcases keyword s.run with _ | l
    · exact Or.inl rfl
    · exact Or.inr rfl

/-- Behind a word a lexer is still outside of quotes. -/
theorem outside_endWord {hanging : Option Char} (h : s.place = .outside hanging) :
    ∃ hanging', s.endWord.place = .outside hanging' := by
  rcases s.place_endWord with hend | hend
  · exact ⟨hanging, hend.trans h⟩
  · exact ⟨none, hend⟩

/-- A character is read, and then what stands behind it. -/
theorem over_cons {t : Lexer} (h : s.step x c = some t) (cs : List Char) :
    (c :: cs).foldlM (step x) s = cs.foldlM (step x) t := by
  rw [List.foldlM_cons, h]
  rfl

/-- A text is read, and then what stands behind it. -/
theorem over_append {t : Lexer} {cs : List Char} (h : cs.foldlM (step x) s = some t)
    (cs' : List Char) : (cs ++ cs').foldlM (step x) s = cs'.foldlM (step x) t := by
  rw [List.foldlM_append, h]
  rfl

/-- A word is read to its end. -/
theorem over_word {hanging : Option Char} (h : s.place = .outside hanging) {word : List Char}
    (hne : word ≠ []) (hword : ∀ c ∈ word, isWord c = true) :
    word.foldlM (step x) s = some { s with run := s.run ++ word, place := .outside none } := by
  induction word generalizing s hanging with
  | nil => exact absurd rfl hne
  | cons c word ih =>
      rw [over_cons (step_word h (hword c List.mem_cons_self))]
      rcases word with _ | ⟨d, word⟩
      · rfl
      · rw [ih rfl (List.cons_ne_nil d word) fun c hc => hword c (List.mem_cons_of_mem _ hc)]
        simp only [List.append_assoc, List.singleton_append]

theorem isForeign_of_isBlank {hanging : Option Char} (hc : isBlank c = true) :
    x.isForeign hanging c = false := by
  have hne : ∀ d : Char, isBlank d = false → c ≠ d := by
    rintro d hd rfl
    rw [hc] at hd
    cases hd
  simp [Lexis.isForeign, hne ';' (by decide), hne '#' (by decide), hne '-' (by decide),
    hne '*' (by decide), hne '&' (by decide), hne '|' (by decide)]

/-- A blank ends the word in front of it. -/
theorem step_blank {hanging : Option Char} (h : s.place = .outside hanging)
    (hc : isBlank c = true) : s.step x c = some { s.endWord with place := .outside none } := by
  rw [step_pass h (isWord_of_isBlank hc) (isForeign_of_isBlank hc), pass, if_pos hc]

end Lexer

/-! ### Lexemes in front -/

namespace Lexer

/-- A lexer with lexemes in front of its own. -/
def after (ls : List (Lexeme Words)) (s : Lexer) : Lexer :=
  { s with out := ls ++ s.out }

variable (ls : List (Lexeme Words)) (s : Lexer)

theorem put_after (l : Lexeme Words) : (s.after ls).put l = (s.put l).after ls := by
  have hout : ls ++ s.out ++ s.part ++ [l] = ls ++ (s.out ++ s.part ++ [l]) := by
    simp only [List.append_assoc]
  exact congrArg (fun out => ({ out } : Lexer)) hout

theorem endWord_after : (s.after ls).endWord = s.endWord.after ls := by
  unfold endWord
  by_cases hrun : s.run = []
  · rw [if_pos hrun, if_pos (show (s.after ls).run = [] from hrun)]
  · rw [if_neg hrun, if_neg (show (s.after ls).run ≠ [] from hrun)]
    rcases hkeyword : keyword s.run with _ | l
    · simp only [after, hkeyword]
    · simp only [show keyword (s.after ls).run = some l from hkeyword, put_after]

theorem pass_after (c : Char) : (s.after ls).pass c = (s.pass c).after ls := by
  unfold pass
  rcases Mark.begun c with _ | mark <;> dsimp only <;> split_ifs <;>
    first
      | rfl
      | exact put_after ls s _

theorem quote_after (x : Lexis) (mark : Mark) (escaped : Bool) (c : Char) :
    (s.after ls).quote x mark escaped c = (s.quote x mark escaped c).after ls := by
  unfold quote
  split_ifs <;> rfl

theorem step_after (x : Lexis) (c : Char) :
    (s.after ls).step x c = (s.step x c).map (after ls) := by
  have hplace : (s.after ls).place = s.place := rfl
  unfold step
  rw [hplace]
  rcases s.place with hanging | ⟨mark, escaped⟩
  · simp only
    split_ifs
    · rfl
    · rfl
    · rw [endWord_after, pass_after, Option.map_some]
  · simp only [quote_after, Option.map_some]

theorem finish_after : (s.after ls).finish = s.finish.map (ls ++ ·) := by
  have hplace : (s.after ls).place = s.place := rfl
  unfold finish
  rw [hplace]
  rcases s.place with hanging | ⟨mark, escaped⟩
  · simp only [endWord_after, Option.map_some, ← List.append_assoc]
    rfl
  · rfl

end Lexer

namespace Lexis

variable (x : Lexis)

theorem lexFrom?_after (ls : List (Lexeme Words)) (s : Lexer) (cs : List Char) :
    x.lexFrom? (s.after ls) cs = (x.lexFrom? s cs).map (ls ++ ·) := by
  induction cs generalizing s with
  | nil => exact s.finish_after ls
  | cons c cs ih =>
      simp only [lexFrom?] at ih
      simp only [lexFrom?, List.foldlM_cons, Lexer.step_after]
      rcases s.step x c with _ | s'
      · rfl
      · exact ih s'

theorem lexFrom?_append (s : Lexer) (cs rest : List Char) :
    x.lexFrom? s (cs ++ rest)
      = (cs.foldlM (Lexer.step x) s).bind fun t => x.lexFrom? t rest := by
  rw [lexFrom?, List.foldlM_append, Option.bind_eq_bind, Option.bind_assoc]
  rfl

theorem lexFrom?_over {s t : Lexer} {cs : List Char}
    (h : cs.foldlM (Lexer.step x) s = some t) (rest : List Char) :
    x.lexFrom? s (cs ++ rest) = x.lexFrom? t rest := by
  rw [lexFrom?_append, h, Option.bind_some]

/-- Texts joined by `AND` have the lexemes of both, joined by `AND`. -/
theorem lexFrom?_and {cs cs' : List Char} {ls ls' : List (Lexeme Words)}
    (h : x.lexFrom? { } cs = some ls) (h' : x.lexFrom? { } cs' = some ls') :
    x.lexFrom? { } (cs ++ (" AND ".toList ++ cs')) = some (ls ++ .and :: ls') := by
  rcases Option.bind_eq_some_iff.mp h with ⟨s, hs, hfinish⟩
  have hand : " AND ".toList.foldlM (Lexer.step x) s
      = some (Lexer.after (ls ++ [.and]) { }) := by
    rcases hplace : s.place with hanging | ⟨mark, escaped⟩
    · rw [Lexer.finish, hplace, Option.some.injEq] at hfinish
      have hspace := Lexer.step_blank (x := x) hplace (show isBlank ' ' = true by decide)
      have hword : "AND".toList.foldlM (Lexer.step x) { s.endWord with place := .outside none }
          = some { s.endWord with run := "AND".toList, place := .outside none } := by
        have hrun := Lexer.over_word (x := x) (s := { s.endWord with place := .outside none }) rfl
          (show "AND".toList ≠ [] by decide) (List.all_eq_true.mp (by decide))
        rwa [Lexer.run_endWord] at hrun
      have hend : Lexer.endWord { s.endWord with run := "AND".toList, place := .outside none }
          = Lexer.after (ls ++ [.and]) { } := by
        rw [← hfinish]
        exact congrArg (fun out => ({ out } : Lexer)) (List.append_nil _).symm
      rw [show " AND ".toList = ' ' :: ("AND".toList ++ [' ']) from rfl, Lexer.over_cons hspace,
        Lexer.over_append hword, Lexer.over_cons (Lexer.step_blank rfl (by decide)), hend]
      rfl
    · rw [Lexer.finish, hplace] at hfinish
      cases hfinish
  rw [lexFrom?_over x hs, lexFrom?_over x hand, lexFrom?_after, h', Option.map_some,
    List.append_assoc]
  rfl

/-- Conditions without `OR` at their top are joined to a condition that is true if both are. -/
theorem read?_and {text text' : String} {f g : Condition Words} (hf : x.read? text = some f)
    (hg : x.read? text' = some g) (hfor : f.isOr = false) (hgor : g.isOr = false) :
    ∃ h, x.read? (text ++ " AND " ++ text') = some h ∧ h.isOr = false
      ∧ ∀ ν, h.holds ν = (f.holds ν && g.holds ν) := by
  rcases Option.bind_eq_some_iff.mp hf with ⟨ls, hls, hread⟩
  rcases Option.bind_eq_some_iff.mp hg with ⟨ls', hls', hread'⟩
  rcases readFormula?_and hread hread' hfor hgor with ⟨h, hh, hor, hholds⟩
  refine ⟨h, ?_, hor, hholds⟩
  rw [read?, String.append_assoc, String.toList_append, String.toList_append,
    x.lexFrom?_and hls hls']
  exact hh

end Lexis

end SqlMapper
