import SqlMapper.Condition.Basic

/-!
# Similarity to a Pattern

Moving the wildcards of `LIKE` onto the bound value.

A fragment such as `name LIKE '%:n%'` reads well but is not SQL: a placeholder
inside quotes is text. The quotes and wildcards around the placeholder are taken
away, and the wildcards are put around the value that is bound to it. A value
that serves several fragments gets its wildcards from the first one.

## Main definitions

* `Similarity`: An occurrence of `LIKE` with a placeholder.
* `similarityPattern`: Where such occurrences are.
* `Patterned`: Bindings, and the names whose values carry wildcards.
* `placeWildcards`: A fragment with its wildcards moved.
-/

namespace SqlMapper

/-- An occurrence of `LIKE` with a placeholder, cut into its parts. -/
structure Similarity where
  /-- The keyword, as written. -/
  word : List Char
  /-- The blanks behind it. -/
  gap : List Char
  /-- The quote in front, if there is one. -/
  openQuote : List Char
  /-- The wildcard in front, if there is one. -/
  lead : List Char
  /-- The placeholder. -/
  name : List Char
  /-- The wildcard behind, if there is one. -/
  trail : List Char
  /-- The quote behind, if there is one. -/
  closeQuote : List Char
  deriving DecidableEq

/-- The occurrence as it is written. -/
def Similarity.source (s : Similarity) : List Char :=
  s.word ++ s.gap ++ s.openQuote ++ s.lead ++ s.name ++ s.trail ++ s.closeQuote

/-- The character a text begins with, if it is one of those asked for, and what follows. -/
def optionalChar (wanted : Char → Bool) : List Char → List Char × List Char
  | c :: rest => if wanted c then ([c], rest) else ([], c :: rest)
  | [] => ([], [])

/-- Whether a character is a quote of either kind. -/
def isQuote (c : Char) : Bool :=
  c == '\'' || c == '"'

/-- Occurrences of `LIKE` with a placeholder, in any case, whether or not quotes and wildcards
    stand around the placeholder. -/
def similarityPattern : Text.Pattern Similarity := fun passed cs =>
  if Text.atWordStart passed then do
    let (word, afterLike) ← Text.keyword? ['l', 'i', 'k', 'e'] cs
    let gap := Text.blankRun afterLike
    -- Without a blank the word goes on, as in `LIKE_` or `LIKE:n`.
    if gap.isEmpty then
      none
    else
      let (openQuote, r₁) := optionalChar isQuote (Text.afterBlanks afterLike)
      let (lead, r₂) := optionalChar (· == '%') r₁
      let (name, r₃) ← Text.placeholder? r₂
      let (trail, r₄) := optionalChar (· == '%') r₃
      let (closeQuote, _) := optionalChar isQuote r₄
      let s : Similarity := { word, gap, openQuote, lead, name, trail, closeQuote }
      return (s, s.source.length - 1)
  else
    none

/-- Bindings, and the names whose values carry wildcards. -/
structure Patterned where
  /-- The bindings. -/
  binds : Binds
  /-- The names whose values carry wildcards. -/
  wrapped : List String := []

/-- The value of a placeholder as a text with wildcards around it. -/
def wrappedValue (s : Similarity) (v : Value) : Value :=
  .text (String.ofList (s.lead ++ v.plain.toList ++ s.trail))

/-- A fragment, cut into its pieces, with its wildcards moved onto the bound values. -/
def placePieces (p : Patterned) : List (Text.Piece Similarity) → List Char × Patterned
  | [] => ([], p)
  | .char c :: rest =>
    let (text, p') := placePieces p rest
    (c :: text, p')
  | .found s :: rest =>
    let name := String.ofList s.name
    match p.binds.get? name with
    -- Without a value nothing could carry the wildcards, so the text stays.
    | none =>
      let (text, p') := placePieces p rest
      (s.source ++ text, p')
    | some v =>
      -- A second fragment on the same value must not wrap it twice.
      let p₁ : Patterned :=
        if p.wrapped.contains name then p
        else { binds := p.binds.insert name (wrappedValue s v), wrapped := p.wrapped ++ [name] }
      let (text, p') := placePieces p₁ rest
      (s.word ++ ' ' :: s.name ++ text, p')

/-- A fragment with its wildcards moved onto the bound values. -/
def placeWildcards (p : Patterned) (sql : List Char) : List Char × Patterned :=
  placePieces p (Text.scan similarityPattern sql)

end SqlMapper
