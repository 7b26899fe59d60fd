import SqlMapper.Error
import SqlMapper.Text.Split
import SqlMapper.Text.Word

/-!
# Identifiers

Names of tables and columns, and how they are quoted.

A name that comes from a caller is checked before it enters a statement: it is
made of ASCII letters, digits and underscores, in segments joined by dots. Both
supported databases accept backticks around a name, so one quoting serves all
statements. A backtick inside a name is written twice; then the name can be read
back from the quoted text, whatever it holds.

## Main definitions

* `isIdentifier`: Whether a name is acceptable.
* `checkIdentifier`: The refusal of one that is not.
* `quoteName`: One name between backticks.
* `quotePath`: A dotted name, segment by segment.
* `quoteNames`: Several names, joined by commas.
-/

namespace SqlMapper

/-- The character that quotes names. -/
def backtick : Char := '\x60'

/-- Whether a name is made of segments of ASCII letters, digits and underscores. -/
def isIdentifier (name : String) : Bool :=
  (name.toList.splitOn '.').all fun s => !s.isEmpty && s.all Text.isAsciiWord

/-- Refuses a name that is not an identifier. -/
def checkIdentifier (name : String) : Except Error Unit :=
  if isIdentifier name then .ok () else .error (.field name "disallowed field name")

/-- The characters of a name between backticks. -/
def quotedChars (name : List Char) : List Char :=
  backtick :: Text.doubled backtick name ++ [backtick]

/-- A name between backticks, the backticks inside it doubled. -/
def quoteName (name : String) : String :=
  String.ofList (quotedChars name.toList)

/-- A dotted name with each segment quoted on its own. -/
def quotePath (path : String) : String :=
  ".".intercalate ((Text.segments '.' path).map quoteName)

/-- Quoted names joined by commas. -/
def quoteNames (names : List String) : String :=
  ",".intercalate (names.map quoteName)

end SqlMapper
