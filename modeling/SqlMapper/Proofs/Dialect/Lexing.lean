import Mathlib.Data.List.Chain
import Mathlib.Data.List.ReduceOption
import SqlMapper.Identifier
import SqlMapper.Proofs.Value.Literal

/-!
# Lexing Declarations

The tokens of a table declaration, as a database takes it apart.

Between backticks stands a name and between apostrophes a text, whatever the
characters are; a mark inside is written twice. Databases differ in one respect:
in a text, a backslash may be a character like any other, or it may take the
character behind it as it is. Outside of quotes there are words, which are
keywords, numbers and names that need no quotes, and signs.

A declaration that is put together from tokens and blanks is lexed to these
tokens, as long as no two of them run together, and as long as its texts do
without backslashes where a backslash has a meaning. This is all that the
reading of declarations needs to know about characters.

## Main definitions

* `Rules`: In what databases differ.
* `Token`: A token.
* `lex`: The tokens of a text.
* `Piece`: A token or a blank, and how it is written.
* `Separated`: Between two words or quoted tokens stands something else.

## Theorems

* `lexFrom_doubled`: Reading up to the end of the quotes.
* `lex_spelled`: A text that is put together from tokens is lexed to them.
-/

namespace SqlMapper

namespace Ddl

open Text

/-- The databases whose declarations are read. -/
inductive Flavor where
  | sqlite
  | mysql

/-- In what databases differ when they read declarations. -/
structure Rules where
  flavor : Flavor
  -- Whether a word without quotes is a name, and neither a keyword nor a number.
  isName : String → Bool

/-- Whether a backslash in a text takes the character behind it as it is. -/
def Rules.escapes (r : Rules) : Bool :=
  match r.flavor with
  | .sqlite => false
  | .mysql => true

/-- What stands between quotes. -/
inductive Quote where
  | name
  | text
  deriving DecidableEq

/-- The mark at both ends. -/
def Quote.mark : Quote → Char
  | .name => backtick
  | .text => '\''

/-- A token of a declaration. -/
inductive Token where
  | word (w : String)
  | quoted (q : Quote) (s : String)
  | sign (c : Char)
  -- Quotes that are not closed.
  | unclosed
  deriving DecidableEq

/-- Whether a character is part of a word. The point is one because of numbers. -/
def isWordChar (c : Char) : Bool :=
  c.isAlphanum || ['_', '$', '.'].contains c || decide (0x80 ≤ c.toNat)

/-- Where a lexer stands. -/
inductive Mode where
  -- Outside of quotes, behind the beginning of a word.
  | outside (run : List Char)
  | inside (q : Quote) (read : List Char)
  -- Behind a mark that ends the quotes, unless it is followed by another.
  | behind (q : Quote) (read : List Char)
  -- Behind a backslash in a text.
  | escaped (read : List Char)

/-- The word that a run of characters is. -/
def endWord (run : List Char) : List Token :=
  if run.isEmpty then [] else [.word (String.ofList run)]

/-- What is left at the end of a text. -/
def Mode.finish : Mode → List Token
  | .outside run => endWord run
  | .behind q read => [.quoted q (String.ofList read)]
  | .inside _ _ | .escaped _ => [.unclosed]

/-- A character outside of words and quotes, and where the lexer stands behind it. -/
def enter (c : Char) : List Token × Mode :=
  if isWordChar c then ([], .outside [c])
  else if c = Quote.name.mark then ([], .inside .name [])
  else if c = Quote.text.mark then ([], .inside .text [])
  else if c.isWhitespace then ([], .outside [])
  else ([.sign c], .outside [])

/-- One more character. -/
def advance (r : Rules) : Mode → Char → List Token × Mode
  | .outside run, c =>
    if isWordChar c then ([], .outside (run ++ [c]))
    else (endWord run ++ (enter c).1, (enter c).2)
  | .inside q read, c =>
    if c = q.mark then ([], .behind q read)
    else if q = .text ∧ r.escapes = true ∧ c = '\\' then ([], .escaped read)
    else ([], .inside q (read ++ [c]))
  | .behind q read, c =>
    if c = q.mark then ([], .inside q (read ++ [c]))
    else (.quoted q (String.ofList read) :: (enter c).1, (enter c).2)
  | .escaped read, c => ([], .inside .text (read ++ [c]))

/-- The tokens of a text, from some mode on. -/
def lexFrom (r : Rules) (m : Mode) : List Char → List Token
  | [] => m.finish
  | c :: cs => (advance r m c).1 ++ lexFrom r (advance r m c).2 cs

/-- The tokens of a text. -/
def lex (r : Rules) (cs : List Char) : List Token :=
  lexFrom r (.outside []) cs

/-- Whether a text continues no word and no quotes in front of it. -/
def Open (cs : List Char) : Prop :=
  ∀ c ∈ cs.head?, isWordChar c = false ∧ ∀ q : Quote, c ≠ q.mark

variable {r : Rules} {cs rest : List Char}

theorem lexFrom_outside (h : ∀ c ∈ rest.head?, isWordChar c = false) (run : List Char) :
    lexFrom r (.outside run) rest = endWord run ++ lex r rest := by
  cases rest with
  | nil => exact (List.append_nil _).symm
  | cons c rest =>
      have hc := h c rfl
      simp only [lex, lexFrom, advance, hc, Bool.false_eq_true, if_false, endWord,
        List.isEmpty_nil, if_true, List.nil_append, List.append_assoc]

theorem lexFrom_word (h : ∀ c ∈ cs, isWordChar c = true) (run : List Char) :
    lexFrom r (.outside run) (cs ++ rest) = lexFrom r (.outside (run ++ cs)) rest := by
  induction cs generalizing run with
  | nil => rw [List.append_nil, List.nil_append]
  | cons c cs ih =>
      have hc := h c List.mem_cons_self
      simp only [List.cons_append, lexFrom, advance, hc, if_true, List.nil_append]
      rw [ih (fun d hd => h d (List.mem_cons_of_mem c hd)), List.append_assoc,
        List.singleton_append]

theorem advance_outside (c : Char) : advance r (.outside []) c = enter c := by
  rw [advance, enter]
  by_cases hc : isWordChar c = true
  · rw [if_pos hc, if_pos hc, List.nil_append]
  · rw [if_neg hc, if_neg hc]
    rfl

theorem lexFrom_behind {q : Quote} (h : ∀ c ∈ rest.head?, c ≠ q.mark) (read : List Char) :
    lexFrom r (.behind q read) rest = .quoted q (String.ofList read) :: lex r rest := by
  cases rest with
  | nil => rfl
  | cons c rest =>
      rw [lex, lexFrom, lexFrom, advance_outside, advance, if_neg (h c rfl), List.cons_append]

/-- Between quotes, doubled marks are read as one and a single one ends the token. -/
theorem lexFrom_doubled (q : Quote) (h : q = .text → r.escapes = true → '\\' ∉ cs)
    (hrest : ∀ c ∈ rest.head?, c ≠ q.mark) (read : List Char) :
    lexFrom r (.inside q read) (doubled q.mark cs ++ q.mark :: rest)
      = .quoted q (String.ofList (read ++ cs)) :: lex r rest := by
  induction cs generalizing read with
  | nil =>
      rw [doubled_nil, List.nil_append, List.append_nil]
      simp only [lexFrom, advance, if_true, List.nil_append]
      exact lexFrom_behind hrest read
  | cons c cs ih =>
      have hnext := ih (fun hq hr hmem => h hq hr (List.mem_cons_of_mem c hmem)) (read ++ [c])
      rw [List.append_assoc, List.singleton_append] at hnext
      rw [doubled_cons, List.append_assoc]
      by_cases hc : c = q.mark
      · rw [if_pos hc]
        simp only [List.cons_append, List.nil_append, lexFrom, advance, hc, if_true]
        rwa [hc] at hnext
      · have hplain : ¬ (q = .text ∧ r.escapes = true ∧ c = '\\') := by
          rintro ⟨hq, hr, rfl⟩
          exact h hq hr List.mem_cons_self
        rw [if_neg hc]
        simp only [List.cons_append, List.nil_append, lexFrom, advance, hc, hplain, if_false]
        exact hnext

/-- A token, or a blank. -/
abbrev Piece :=
  Option Token

/-- How a piece is written. -/
def Piece.spelling : Piece → List Char
  | none => [' ']
  | some (.word w) => w.toList
  | some (.quoted q s) => q.mark :: doubled q.mark s.toList ++ [q.mark]
  | some (.sign c) => [c]
  | some .unclosed => []

/-- Pieces written one behind the other. -/
def spelled (pieces : List Piece) : List Char :=
  pieces.flatMap Piece.spelling

/-- Whether a character is a sign. -/
def isSign (c : Char) : Bool :=
  !(isWordChar c || c == backtick || c == '\'' || c.isWhitespace)

/-- Whether a text is a word. -/
def IsWord (w : String) : Prop :=
  w.toList ≠ [] ∧ ∀ c ∈ w.toList, isWordChar c = true

theorem isWord_iff (w : String) :
    (!w.toList.isEmpty && w.toList.all isWordChar) = true ↔ IsWord w := by
  rw [IsWord, Bool.and_eq_true, Bool.not_eq_true', List.isEmpty_eq_false_iff, List.all_eq_true]

instance (w : String) : Decidable (IsWord w) :=
  decidable_of_iff _ (isWord_iff w)

/-- Whether a token can be read back from how it is written. -/
def Token.Writable (r : Rules) : Token → Prop
  | .word w => IsWord w
  | .quoted q s => q = .text → r.escapes = true → '\\' ∉ s.toList
  | .sign c => isSign c = true
  | .unclosed => False

/-- Whether a piece can stand beside any other. -/
def Piece.isLoose : Piece → Bool
  | none | some (.sign _) => true
  | _ => false

/-- Whether a piece can stand in front of another. -/
def Piece.Apart (p p' : Piece) : Prop :=
  p.isLoose = true ∨ p'.isLoose = true

/-- Whether a piece can be read back from how it is written. -/
def Piece.Writable (r : Rules) (p : Piece) : Prop :=
  ∀ t ∈ p, t.Writable r

/-- Pieces that can be read back: between two words or quoted tokens stands something else. -/
structure Legible (r : Rules) (pieces : List Piece) : Prop where
  writable : ∀ p ∈ pieces, p.Writable r
  separated : pieces.IsChain Piece.Apart

theorem spelled_append (pieces others : List Piece) :
    spelled (pieces ++ others) = spelled pieces ++ spelled others :=
  List.flatMap_append

theorem open_of_isSign {c : Char} (h : isSign c = true) (cs : List Char) : Open (c :: cs) := by
  simp only [isSign, Bool.not_eq_true', Bool.or_eq_false_iff, beq_eq_false_iff_ne] at h
  intro d hd
  rw [List.head?_cons, Option.mem_some_iff] at hd
  refine ⟨hd ▸ h.1.1.1, fun q => ?_⟩
  cases q with
  | name => exact hd ▸ h.1.1.2
  | text => exact hd ▸ h.1.2

theorem open_blank (cs : List Char) : Open (' ' :: cs) := by
  intro d hd
  rw [List.head?_cons, Option.mem_some_iff] at hd
  subst hd
  exact ⟨by decide, fun q => by cases q <;> decide⟩

/-- What can stand beside any piece continues no word and no quotes. -/
theorem Piece.isLoose.open {p : Piece} (h : p.isLoose = true) (hw : p.Writable r) (cs : List Char) :
    Open (p.spelling ++ cs) := by
  rcases p with _ | ⟨w | ⟨q, s⟩ | c | _⟩
  · exact open_blank cs
  · cases h
  · cases h
  · exact open_of_isSign (hw _ rfl) cs
  · cases h

theorem lex_blank (cs : List Char) : lex r (' ' :: cs) = lex r cs := rfl

theorem lex_sign {c : Char} (h : isSign c = true) (cs : List Char) :
    lex r (c :: cs) = .sign c :: lex r cs := by
  simp only [isSign, Bool.not_eq_true', Bool.or_eq_false_iff, beq_eq_false_iff_ne] at h
  rcases h with ⟨⟨⟨hword, hname⟩, htext⟩, hblank⟩
  simp only [lex, lexFrom, advance, hword, Bool.false_eq_true, if_false, endWord, List.isEmpty_nil,
    if_true, List.nil_append, enter, Quote.mark, hname, htext, hblank, List.cons_append]

theorem lex_word {w : String} (h : IsWord w) (hrest : ∀ c ∈ rest.head?, isWordChar c = false) :
    lex r (w.toList ++ rest) = .word w :: lex r rest := by
  rw [lex, lexFrom_word h.2, List.nil_append, lexFrom_outside hrest, endWord,
    if_neg (fun hempty => h.1 (List.isEmpty_iff.mp hempty)), String.ofList_toList]
  rfl

theorem lex_quoted {q : Quote} {s : String} (h : q = .text → r.escapes = true → '\\' ∉ s.toList)
    (hrest : ∀ c ∈ rest.head?, c ≠ q.mark) :
    lex r (Piece.spelling (some (.quoted q s)) ++ rest) = .quoted q s :: lex r rest := by
  have hmark : advance r (.outside []) q.mark = ([], .inside q []) := by cases q <;> rfl
  have hinside := lexFrom_doubled q h hrest []
  rw [List.nil_append, String.ofList_toList] at hinside
  rw [Piece.spelling, lex, List.cons_append, List.cons_append, List.append_assoc,
    List.singleton_append, lexFrom, hmark, List.nil_append, hinside]

/-- A token that is followed by something else is lexed to itself. -/
theorem lex_token {t : Token} (h : t.Writable r) (hrest : Open rest) :
    lex r (Piece.spelling (some t) ++ rest) = t :: lex r rest := by
  cases t with
  | word w => exact lex_word h fun c hc => (hrest c hc).1
  | quoted q s => exact lex_quoted h fun c hc => (hrest c hc).2 q
  | sign c => exact lex_sign h rest
  | unclosed => exact absurd h not_false

namespace Legible

variable {pieces others : List Piece}

theorem nil : Legible r [] :=
  ⟨fun _ h => absurd h List.not_mem_nil, .nil⟩

theorem tail {p : Piece} (h : Legible r (p :: pieces)) : Legible r pieces :=
  ⟨fun p' hp' => h.writable p' (List.mem_cons_of_mem p hp'), h.separated.tail⟩

theorem cons {p : Piece} (hp : p.Writable r) (h : Legible r pieces)
    (hends : p.isLoose = true ∨ pieces.head?.all Piece.isLoose = true) :
    Legible r (p :: pieces) := by
  refine ⟨List.forall_mem_cons.mpr ⟨hp, h.writable⟩,
    List.isChain_cons.mpr ⟨fun p' hp' => ?_, h.separated⟩⟩
  rw [Option.mem_def] at hp'
  rwa [hp', Option.all_some] at hends

/-- Pieces can be put one behind the other if one of the two ends that meet can stand beside any
    piece. -/
theorem append (h : Legible r pieces) (h' : Legible r others)
    (hends : pieces.getLast?.all Piece.isLoose = true ∨ others.head?.all Piece.isLoose = true) :
    Legible r (pieces ++ others) := by
  refine ⟨List.forall_mem_append.mpr ⟨h.writable, h'.writable⟩,
    List.isChain_append.mpr ⟨h.separated, h'.separated, fun p hp p' hp' => ?_⟩⟩
  rw [Option.mem_def] at hp hp'
  rwa [hp, hp', Option.all_some, Option.all_some] at hends

end Legible

/-- A text that is put together from tokens and blanks is lexed to the tokens, if none of them run
    together, and if what follows runs into none of them either. -/
theorem lex_spelled {pieces : List Piece} (h : Legible r pieces)
    (hrest : Open rest ∨ pieces.getLast?.all Piece.isLoose = true) :
    lex r (spelled pieces ++ rest) = pieces.reduceOption ++ lex r rest := by
  induction pieces with
  | nil => rfl
  | cons p pieces ih =>
      have htail : Open rest ∨ pieces.getLast?.all Piece.isLoose = true := by
        refine hrest.imp_right fun hlast => ?_
        cases pieces with
        | nil => rfl
        | cons p' pieces => rwa [List.getLast?_cons_cons] at hlast
      have hnext := ih h.tail htail
      have hp := h.writable p List.mem_cons_self
      rw [spelled, List.flatMap_cons, List.append_assoc]
      rcases p with _ | t
      · rw [List.reduceOption_cons_of_none, ← hnext]
        exact lex_blank _
      · rw [List.reduceOption_cons_of_some, List.cons_append, ← hnext]
        by_cases hsign : Piece.isLoose (some t) = true
        · -- A sign ends by itself.
          rcases t with w | ⟨q, s⟩ | c | _
          · cases hsign
          · cases hsign
          · exact lex_sign (hp _ rfl) _
          · cases hsign
        · refine lex_token (hp t rfl) ?_
          cases pieces with
          | nil =>
              refine hrest.resolve_right fun hlast => hsign ?_
              rwa [List.getLast?_singleton, Option.all_some] at hlast
          | cons p' pieces =>
              have hloose : p'.isLoose = true :=
                (List.isChain_cons_cons.mp h.separated).1.resolve_left hsign
              rw [List.flatMap_cons, List.append_assoc]
              have hp' := h.writable p' (List.mem_cons_of_mem _ List.mem_cons_self)
              exact Piece.isLoose.open hloose hp' _

end Ddl

end SqlMapper
