import SqlMapper.Text.CharSet

/-!
# Blank Characters

White space, and texts with their surrounding white space removed.

White space is the Unicode property of that name, twenty-five characters in
all. Values typed into settings and conditions are trimmed by it, and it
separates the words of SQL that conditions and write statements are searched
for.

## Main definitions

* `blankSet`: The twenty-five characters.
* `isBlank`: Membership.
* `trimmed`: A text without the blanks around it, character by character.
* `trim`: The same on strings.
-/

namespace SqlMapper

namespace Text

/-- The white space characters, by code point. -/
def blankSet : CharSet where
  ranges := [(0x9, 0xd), (0x20, 0x20), (0x85, 0x85), (0xa0, 0xa0), (0x1680, 0x1680),
    (0x2000, 0x200a), (0x2028, 0x2029), (0x202f, 0x202f), (0x205f, 0x205f), (0x3000, 0x3000)]

/-- Whether a character is white space. -/
def isBlank (c : Char) : Bool :=
  blankSet.has c

/-- A text without the blanks it begins and ends with. -/
def trimmed (cs : List Char) : List Char :=
  ((cs.dropWhile isBlank).reverse.dropWhile isBlank).reverse

/-- A string without the blanks it begins and ends with. -/
def trim (s : String) : String :=
  String.ofList (trimmed s.toList)

end Text

end SqlMapper
