import SqlMapper.Identifier
import SqlMapper.Placeholder

/-!
# Targets of Writes

The tables that a hand-written statement may write.

A statement that was not compiled here does not say which tables it touches.
They are found by the words that stand before a table in a write: `INTO`,
`UPDATE`, `FROM` and `TABLE`, the last perhaps with `IF EXISTS` or `IF NOT
EXISTS` behind it. A table named in vain only costs a cache miss, so the search
need not understand the statement. A name with a schema counts both with it and
without it.

## Main definitions

* `targetPattern`: Where tables are named.
* `tableWord?`: The words that stand before a table.
* `tableName?`: A table, quoted or not, perhaps with a schema.
* `writtenTables`: The tables found, each once.
-/

namespace SqlMapper

/-- Blanks, at least one, and what follows them. -/
def gap? (cs : List Char) : Option (List Char) :=
  if (Text.blankRun cs).isEmpty then none else some (Text.afterBlanks cs)

/-- What follows a word that stands behind blanks. -/
def afterWord? (word : List Char) (cs : List Char) : Option (List Char) := do
  let (_, rest) ← Text.keyword? word (← gap? cs)
  return rest

/-- What follows `IF EXISTS` or `IF NOT EXISTS`, behind blanks. -/
def afterIfExists? (cs : List Char) : Option (List Char) := do
  let afterIf ← afterWord? ['i', 'f'] cs
  let afterNot := (afterWord? ['n', 'o', 't'] afterIf).getD afterIf
  afterWord? ['e', 'x', 'i', 's', 't', 's'] afterNot

/-- Whether a character quotes a name. -/
def isNameQuote (c : Char) : Bool :=
  c == backtick || c == '"'

/-- A quote at the beginning of a text, if there is one, and what follows. -/
def nameQuote (cs : List Char) : List Char × List Char :=
  match cs with
  | c :: rest => if isNameQuote c then ([c], rest) else ([], cs)
  | [] => ([], [])

/-- One segment of a name, with its quotes, and what follows. -/
def nameSegment? (cs : List Char) : Option (List Char × List Char) :=
  let (opening, r₁) := nameQuote cs
  let word := Text.wordRun r₁
  let (closing, r₂) := nameQuote (Text.afterWord r₁)
  if word.isEmpty then none else some (opening ++ word ++ closing, r₂)

/-- The name of a table, with its quotes and perhaps with a schema, and what follows. -/
def tableName? (cs : List Char) : Option (List Char × List Char) := do
  let (first, r₁) ← nameSegment? cs
  match r₁ with
  | '.' :: r₂ =>
    match nameSegment? r₂ with
    | some (second, r₃) => return (first ++ '.' :: second, r₃)
    | none => return (first, r₁)
  | _ => return (first, r₁)

/-- What follows one of the words that stand directly before a table. -/
def tableWord? (cs : List Char) : Option (List Char) :=
  let words := [['i', 'n', 't', 'o'], ['u', 'p', 'd', 'a', 't', 'e'], ['f', 'r', 'o', 'm']]
  words.findSome? fun word => (Text.keyword? word cs).map (·.2)

/-- The name of a table behind blanks, and what follows. -/
def tableBehind? (cs : List Char) : Option (List Char × List Char) := do
  tableName? (← gap? cs)

/-- The name of a table behind one of the words, and what follows. The words `IF EXISTS` belong
    to `TABLE` only if a name follows them; otherwise the table is called `if`. -/
def target? (cs : List Char) : Option (List Char × List Char) :=
  match tableWord? cs with
  | some rest => tableBehind? rest
  | none => do
    let (_, rest) ← Text.keyword? ['t', 'a', 'b', 'l', 'e'] cs
    ((afterIfExists? rest).bind tableBehind?) <|> tableBehind? rest

/-- The names of tables behind one of the words. -/
def targetPattern : Text.Pattern String := fun passed cs =>
  if Text.atWordStart passed then do
    let (name, rest) ← target? cs
    return (String.ofList (name.filter fun c => !isNameQuote c), cs.length - rest.length - 1)
  else
    none

/-- A name with a schema, and the name without it. -/
def spellings (name : String) : List String :=
  name :: (Text.lastSegment? '.' name).toList

/-- Names, each once, in the order of their first occurrence. -/
def distinctNames (names : List String) : List String :=
  names.foldl (fun seen name => if seen.contains name then seen else seen ++ [name]) []

/-- The tables that a statement may write. -/
def writtenTables (sql : String) : List String :=
  distinctNames ((Text.foundIn (Text.scan targetPattern sql.toList)).flatMap spellings)

end SqlMapper
