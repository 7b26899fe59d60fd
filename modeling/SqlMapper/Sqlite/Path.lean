import SqlMapper.Text.Blank

/-!
# Where an SQLite Database Is

The location that a database name stands for.

One name stands for a database in memory, and the empty name for a file in the
working directory; any other name is the path of a file. Blanks around a name
do not count. A path is taken apart at its slashes, where empty parts and parts
that stay where they are do not count either. Lengths are counted in bytes, since
that is how the system and SQLite bound them.

## Main definitions

* `location?`: The path of a database file; none in memory.
* `pathParts`: The parts of a path.
* `parentPath`: The path of the directory that a file is in.
* `nameLimit`, `pathLimit`, `databasePathLimit`: How long names and paths may be.
-/

namespace SqlMapper

namespace Sqlite

/-- The file of a database without a name. -/
def defaultFile : String :=
  "database.sqlite"

/-- The path of a database file; none for a database in memory. -/
def location? (database : String) : Option String :=
  let name := Text.trim database
  if name = ":memory:" then none
  else if name.isEmpty then some defaultFile
  else some name

/-- Whether a part of a path leads nowhere else. -/
def isIdle (part : List Char) : Bool :=
  decide (part = []) || decide (part = ['.'])

/-- The parts of a path that lead somewhere. -/
def pathParts (path : String) : List (List Char) :=
  (path.toList.splitOn '/').filter fun part => !isIdle part

/-- Parts of a path without those at the end that lead nowhere; the first part stays. -/
def withoutIdleEnd : List (List Char) → List (List Char)
  | [] => []
  | first :: rest => first :: (rest.reverse.dropWhile isIdle).reverse

/-- The path of the directory that a file is in, as it is written in the path of the file; empty
    for the working directory. -/
def parentPath (path : String) : String :=
  let parts := withoutIdleEnd ((withoutIdleEnd (path.toList.splitOn '/')).dropLast)
  if parts = [[]] then "/" else String.ofList (['/'].intercalate parts)

/-- The length of a text in bytes. -/
def byteSize (cs : List Char) : Nat :=
  (String.ofList cs).utf8ByteSize

/-- The length of the path of a place in bytes, with a slash before each name. -/
def placeSize (place : List (List Char)) : Nat :=
  place.foldr (fun name rest => byteSize name + 1 + rest) 0

/-- The longest name the system takes. -/
def nameLimit : Nat := 255

/-- The longest path the system takes. -/
def pathLimit : Nat := 4095

/-- The longest path of a database file, so that the path of its journal has at most 512 bytes. -/
def databasePathLimit : Nat := 504

/-- The longest path that SQLite keeps on the way to a database file, not counting its last
    slash. -/
def walkedPathLimit : Nat := 510

/-- The longest path of a database whose file system is in memory. -/
def memoryPathLimit : Nat := 1016

end Sqlite

end SqlMapper
