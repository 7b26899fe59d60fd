import SqlMapper.Binds
import SqlMapper.Text.Keyword

/-!
# Placeholders

Names that stand for bound values in a statement.

A placeholder is a colon followed by word characters. Callers choose the names
of the values they bind themselves; for the values of named conditions and
assignments a name is made up, and `freshPlaceholder` keeps it apart from every
name that is already bound.

## Main definitions

* `isPlaceholder`: Whether a text names a placeholder, with or without its colon.
* `withColon`: A name with its colon.
* `underscored`: A dotted name as a part of a placeholder.
* `freshPlaceholder`: A name that is not bound yet.
* `placeholderPattern`: Placeholders inside a statement.
-/

namespace SqlMapper

/-- Whether a text names a placeholder, with or without its colon. -/
def isPlaceholder (name : String) : Bool :=
  let word :=
    match name.toList with
    | ':' :: rest => rest
    | cs => cs
  !word.isEmpty && word.all Text.isWord

/-- A name with its colon. -/
def withColon (name : String) : String :=
  if Text.startsWith name ":" then name else ":" ++ name

/-- A dotted name as a part of a placeholder, its dots replaced. -/
def underscored (name : String) : String :=
  String.ofList (name.toList.map fun c => if c = '.' then '_' else c)

/-- A base name with a number behind it. -/
def numbered (base : String) (n : Nat) : String :=
  base ++ "_" ++ toString n

/-- The base name itself if it is not bound, else the base name with the smallest number from
    two on that is not bound. Among as many numbers as there are bindings one is free, since the
    base name takes one of the bindings itself. -/
def freshPlaceholder (base : String) (b : Binds) : String :=
  if b.contains base then
    let candidates := (List.range b.size).map fun i => numbered base (i + 2)
    (candidates.find? fun name => !b.contains name).getD base
  else
    base

/-- Placeholders inside a statement. -/
def placeholderPattern : Text.Pattern String := fun _ cs => do
  let (name, _) ← Text.placeholder? cs
  return (String.ofList name, name.length - 1)

end SqlMapper
