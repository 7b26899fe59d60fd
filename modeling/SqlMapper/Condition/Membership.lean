import SqlMapper.Condition.Basic

/-!
# Membership in a List

Spreading a bound list over the operand of `IN`.

SQL has no placeholder for a list, so `IN (:ids)` becomes `IN (:ids_0, :ids_1)`
with one placeholder per element. An empty list becomes `IN (NULL)`, which no
value satisfies. The list may be bound as such; a bound text is taken as a list
written with commas, and any other value as a list of one.

## Main definitions

* `Membership`: An occurrence of `IN (:name)`.
* `membershipPattern`: Where such occurrences are.
* `elements?`: The elements a placeholder stands for.
* `bindElements`: One placeholder per element.
* `Spread`: Bindings, and the names whose values were spread.
* `spreadLists`: A fragment with every bound list spread.
-/

namespace SqlMapper

/-- An occurrence of `IN (:name)`, cut at the ends of the name. -/
structure Membership where
  /-- The text up to the name. -/
  opening : List Char
  /-- The placeholder. -/
  name : List Char
  /-- The text behind the name. -/
  closing : List Char
  deriving DecidableEq

/-- The occurrence as it is written. -/
def Membership.source (m : Membership) : List Char :=
  m.opening ++ m.name ++ m.closing

/-- Occurrences of `IN (:name)`, in any case and with blanks wherever SQL allows them. -/
def membershipPattern : Text.Pattern Membership := fun passed cs =>
  if Text.atWordStart passed then do
    let (word, afterIn) ← Text.keyword? ['i', 'n'] cs
    match Text.afterBlanks afterIn with
    | '(' :: inside =>
      let opening := word ++ Text.blankRun afterIn ++ '(' :: Text.blankRun inside
      let (name, afterName) ← Text.placeholder? (Text.afterBlanks inside)
      match Text.afterBlanks afterName with
      | ')' :: _ =>
        let m : Membership :=
          { opening, name, closing := Text.blankRun afterName ++ [')'] }
        return (m, m.source.length - 1)
      | _ => none
    | _ => none
  else
    none

/-- The elements of a list written with commas; none if the text is blank. -/
def listedValues (s : String) : List Value :=
  if (Text.trim s).isEmpty then []
  else (Text.segments ',' s).map fun part => .text (Text.trim part)

/-- The elements a placeholder stands for, if it is bound. The first list bound to a name counts,
    and a list counts before a single value. -/
def elements? (lists : List (String × List Value)) (b : Binds) (name : String) :
    Option (List Value) :=
  match lists.find? fun l => l.1 == name with
  | some (_, vs) => some vs
  | none =>
    match b.get? name with
    | none => none
    | some (.text s) => some (listedValues s)
    | some v => some [v]

/-- The placeholders of elements, counted on from an index. -/
def elementNames (name : String) (start count : Nat) : List String :=
  (List.range count).map fun i => numbered name (start + i)

/-- Bindings with each element bound to its placeholder. -/
def bindElements (b : Binds) (name : String) (vs : List Value) : Binds :=
  b.insertAll ((elementNames name 0 vs.length).zip vs)

/-- What stands between the parentheses once the elements are bound. -/
def elementList (name : String) (vs : List Value) : List Char :=
  if vs.isEmpty then
    ['N', 'U', 'L', 'L']
  else
    (", ".intercalate (elementNames name 0 vs.length)).toList

/-- Bindings, and the names whose values were spread. -/
structure Spread where
  /-- The bindings, elements included. -/
  binds : Binds
  /-- The names whose values were spread, oldest first. -/
  spent : List String := []

/-- A fragment, cut into its pieces, with every bound list spread. -/
def spreadPieces (lists : List (String × List Value)) (s : Spread) :
    List (Text.Piece Membership) → List Char × Spread
  | [] => ([], s)
  | .char c :: rest =>
    let (text, s') := spreadPieces lists s rest
    (c :: text, s')
  | .found m :: rest =>
    let name := String.ofList m.name
    match elements? lists s.binds name with
    -- A placeholder without a value is left for whoever binds it.
    | none =>
      let (text, s') := spreadPieces lists s rest
      (m.source ++ text, s')
    | some vs =>
      let s₁ : Spread := { binds := bindElements s.binds name vs, spent := s.spent ++ [name] }
      let (text, s') := spreadPieces lists s₁ rest
      (m.opening ++ elementList name vs ++ m.closing ++ text, s')

/-- A fragment with every bound list spread. -/
def spreadLists (lists : List (String × List Value)) (s : Spread) (sql : List Char) :
    List Char × Spread :=
  spreadPieces lists s (Text.scan membershipPattern sql)

end SqlMapper
