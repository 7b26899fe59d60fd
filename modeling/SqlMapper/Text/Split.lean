/-!
# Cutting and Searching Texts

The few ways in which names, lists and statements are taken apart.

A dotted path is cut at its dots, a comma-separated list at its commas, a
message is searched for a fragment. All of it is stated on characters, so that
a law about a text is a law about a list.

## Main definitions

* `segments`: The parts of a text between separators.
* `lastSegment?`: The part after the last separator.
* `startsWith`: Whether a text begins with another.
* `hasFragment`: Whether a text contains another.
* `doubled`: A text with every occurrence of one character written twice.

## Theorems

* `startsWith_append`: A text begins with each of its beginnings.
* `doubled_append`: Doubling is done character by character.
-/

namespace SqlMapper

namespace Text

/-- The parts of a text between occurrences of a separator; one part if there is none. -/
def segments (separator : Char) (s : String) : List String :=
  (s.toList.splitOn separator).map String.ofList

/-- The part after the last separator, if there is a separator. -/
def lastSegment? (separator : Char) (s : String) : Option String :=
  match segments separator s with
  | _ :: rest@(_ :: _) => rest.getLast?
  | _ => none

/-- Whether a text begins with another. -/
def startsWith (s start : String) : Bool :=
  start.toList.isPrefixOf s.toList

/-- Whether a list of characters contains another, without a gap. -/
def hasInfix (fragment : List Char) : List Char → Bool
  | [] => fragment.isEmpty
  | c :: rest => fragment.isPrefixOf (c :: rest) || hasInfix fragment rest

/-- Whether a text contains another. -/
def hasFragment (s fragment : String) : Bool :=
  hasInfix fragment.toList s.toList

/-- A text with every occurrence of one character written twice. -/
def doubled (mark : Char) (cs : List Char) : List Char :=
  cs.flatMap fun c => if c = mark then [c, c] else [c]

theorem startsWith_append (start rest : String) : startsWith (start ++ rest) start = true := by
  rw [startsWith, String.toList_append, List.isPrefixOf_iff_prefix]
  exact List.prefix_append _ _

theorem doubled_nil (mark : Char) : doubled mark [] = [] := rfl

theorem doubled_append (mark : Char) (cs ds : List Char) :
    doubled mark (cs ++ ds) = doubled mark cs ++ doubled mark ds := by
  simp only [doubled, List.flatMap_append]

end Text

end SqlMapper
