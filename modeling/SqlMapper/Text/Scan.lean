/-!
# Scanning for Patterns

Finding every place in a text where a pattern matches.

Conditions and statements are searched for a handful of patterns: an operand of
`IN`, an operand of `LIKE`, a placeholder, the target of a write. Each search
goes from left to right, takes the first place where the pattern matches, and
goes on behind the match, so matches never overlap. `pieces` does this once for
every pattern. A pattern is a function that looks at the text ahead and at the
character just passed, and says how far it reaches.

## Main definitions

* `Piece`: A character of the text, or a match.
* `Pattern`: What a match is, and how many characters it takes.
* `pieces`: A text cut into the matches of a pattern and the characters between.
* `matches?`: Only the matches.

## Theorems

* `pieces_skip`: Skipping is dropping.
* `pieces_eq_chars`: A text in which the pattern nowhere matches is cut into its characters.
-/

namespace SqlMapper

namespace Text

/-- A character of the text, or a match. -/
inductive Piece (α : Type) where
  /-- A character outside every match. -/
  | char (c : Char)
  /-- A match. -/
  | found (a : α)
  deriving Repr, DecidableEq

/-- A match at the place in front of a text, given the character just passed, with the number
    of characters it takes beyond the first. -/
abbrev Pattern (α : Type) :=
  Option Char → List Char → Option (α × Nat)

/-- A text cut into the matches of a pattern and the characters between them, where the first
    `skip` characters belong to a match already found. -/
def pieces {α : Type} (p : Pattern α) (passed : Option Char) (skip : Nat) :
    List Char → List (Piece α)
  | [] => []
  | c :: rest =>
    match skip with
    | k + 1 => pieces p (some c) k rest
    | 0 =>
      match p passed (c :: rest) with
      | some (a, k) => .found a :: pieces p (some c) k rest
      | none => .char c :: pieces p (some c) 0 rest

/-- A whole text, cut into matches and the characters between them. -/
def scan {α : Type} (p : Pattern α) (cs : List Char) : List (Piece α) :=
  pieces p none 0 cs

/-- The matches among the pieces of a text. -/
def foundIn {α : Type} (ps : List (Piece α)) : List α :=
  ps.filterMap fun
    | .char _ => none
    | .found a => some a

theorem pieces_nil {α : Type} (p : Pattern α) (passed : Option Char) (skip : Nat) :
    pieces p passed skip [] = [] := by
  cases skip <;> rfl

theorem pieces_skip {α : Type} (p : Pattern α) (passed : Option Char) (c : Char) (k : Nat)
    (rest : List Char) :
    pieces p passed (k + 1) (c :: rest) = pieces p (some c) k rest := rfl

theorem pieces_found {α : Type} {p : Pattern α} {passed : Option Char} {c : Char}
    {rest : List Char} {a : α} {k : Nat} (h : p passed (c :: rest) = some (a, k)) :
    pieces p passed 0 (c :: rest) = .found a :: pieces p (some c) k rest := by
  simp only [pieces, h]

theorem pieces_char {α : Type} {p : Pattern α} {passed : Option Char} {c : Char}
    {rest : List Char} (h : p passed (c :: rest) = none) :
    pieces p passed 0 (c :: rest) = .char c :: pieces p (some c) 0 rest := by
  simp only [pieces, h]

theorem pieces_eq_chars {α : Type} (p : Pattern α) (cs : List Char) (passed : Option Char)
    (h : ∀ before c rest, p before (c :: rest) = none) :
    pieces p passed 0 cs = cs.map .char := by
  induction cs generalizing passed with
  | nil => rfl
  | cons c rest ih => rw [pieces_char (h passed c rest), ih, List.map_cons]

end Text

end SqlMapper
