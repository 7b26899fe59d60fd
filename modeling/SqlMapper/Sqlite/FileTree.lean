import SqlMapper.Error
import SqlMapper.Sqlite.Path
import SqlMapper.Sqlite.Uri

/-!
# Opening SQLite Databases

What opening a database does to the files around it.

The directories on the way to a database file are made if they are missing. That
fails where a file stands in their place or a name is too long, and what was
made before the failure stays. Whatever the name of the database means to
SQLite, the directories are those of the name as it is written.

Only then is the database opened. SQLite follows the path by its names alone, so
a directory that is left again need not exist. The database cannot be opened
where a directory is, nor where the path has no room for the journal beside it;
its file need not be there, unless the name asks for one that is.

## Main definitions

* `FileTree`: Directories and files.
* `FileTree.makeDirectories`: Making the directories on a path.
* `FileTree.locate?`: The place that SQLite finds under a path.
* `FileTree.openDatabase`: Opening a database.
-/

namespace SqlMapper

/-- What can be found in a directory. -/
inductive FileKind where
  /-- A directory. -/
  | directory
  /-- A file. -/
  | file
  deriving Repr, DecidableEq

/-- Directories and files, each with its place: the names on the way to it. The place without
    names is the directory that holds everything. -/
structure FileTree where
  /-- What is where. -/
  entries : List (List (List Char) × FileKind) := []
  /-- The place that paths start from, unless they begin with a slash. -/
  working : List (List Char) := []
  deriving DecidableEq

/-- Why directories could not be made. -/
inductive DirectoryFailure where
  /-- A file stands where the last of them should be. -/
  | fileExists
  /-- A file stands on the way to the last of them. -/
  | notDirectory
  /-- A name on the way is too long, or the path is. -/
  | nameTooLong
  /-- There is a zero character in the path. -/
  | zeroCharacter
  deriving Repr, DecidableEq

/-- The wording of a failure. -/
def DirectoryFailure.message : DirectoryFailure → String
  | .fileExists => "File exists (os error 17)"
  | .notDirectory => "Not a directory (os error 20)"
  | .nameTooLong => "File name too long (os error 36)"
  | .zeroCharacter => "file name contained an unexpected NUL byte"

/-- The failure to open a file, with the name of its database. -/
def cannotOpen (name : String) : ClientFailure where
  code := some 14
  message := "unable to open database file: " ++ name

/-- The failure to read a file. -/
def cannotRead : ClientFailure where
  code := some 266
  message := "disk I/O error"

/-- The failure to look at a file. -/
def cannotInspect : ClientFailure where
  code := some 1802
  message := "disk I/O error"

/-- The failure of a name with a zero character, given its place in bytes. -/
def zeroCharacterAt (position : Nat) : ClientFailure where
  code := none
  message := "nul byte found in provided data at position: " ++ toString position

namespace FileTree

/-- What is at a place. -/
def kind? (t : FileTree) (place : List (List Char)) : Option FileKind :=
  if place.isEmpty then some .directory
  else (t.entries.find? fun e => decide (e.1 = place)).map (·.2)

/-- Whether a directory is at a place. -/
def isDirectory (t : FileTree) (place : List (List Char)) : Bool :=
  decide (t.kind? place = some .directory)

/-- Something put at a place. -/
def add (t : FileTree) (place : List (List Char)) (kind : FileKind) : FileTree :=
  { t with entries := t.entries ++ [(place, kind)] }

/-- The place that a path starts from. -/
def start (t : FileTree) (path : String) : List (List Char) :=
  if Text.startsWith path "/" then [] else t.working

/-- The place that a part of a path leads to. -/
def step (place : List (List Char)) (part : List Char) : List (List Char) :=
  if part = ['.', '.'] then place.dropLast else place ++ [part]

/-- The place that a path leads to. -/
def follow (t : FileTree) (path : String) : List (List Char) :=
  (Sqlite.pathParts path).foldl step (t.start path)

/-- Makes the directories on a path that are missing, one after the other. -/
def makeDirectories (t : FileTree) (place : List (List Char)) :
    List (List Char) → Except DirectoryFailure Unit × FileTree
  | [] => (.ok (), t)
  | part :: rest =>
    if Sqlite.nameLimit < Sqlite.byteSize part then
      (.error .nameTooLong, t)
    else
      let next := step place part
      match t.kind? next with
      | some .directory => t.makeDirectories next rest
      | none => (t.add next .directory).makeDirectories next rest
      -- What was made so far stays, so the tree that comes back is the one reached.
      | some .file => (.error (if rest.isEmpty then .fileExists else .notDirectory), t)

/-- Makes the directories on a path as it is written. A path that cannot be handed to the system
    makes none at all. -/
def makePath (t : FileTree) (path : String) : Except DirectoryFailure Unit × FileTree :=
  if path.toList.contains '\x00' then (.error .zeroCharacter, t)
  else if Sqlite.pathLimit < path.utf8ByteSize then (.error .nameTooLong, t)
  else t.makeDirectories (t.start path) (Sqlite.pathParts path)

/-- Whether SQLite can go on from a place to a name. There must be room for it in the path. SQLite
    also looks at every name on the way: a directory has no names that are too long, and a file has
    none at all. -/
def admits (t : FileTree) (place : List (List Char)) (part : List Char) : Bool :=
  decide (Sqlite.placeSize place + Sqlite.byteSize part ≤ Sqlite.walkedPathLimit)
    && match t.kind? place with
      | some .directory => decide (Sqlite.byteSize part ≤ Sqlite.nameLimit)
      | some .file => false
      -- Nothing is found where nothing is, which is no fault so far.
      | none => true

/-- The place that SQLite finds behind a place, by the parts of a path. -/
def locate? (t : FileTree) (place : List (List Char)) :
    List (List Char) → Option (List (List Char))
  | [] => some place
  | part :: rest =>
    if part = ['.', '.'] then t.locate? place.dropLast rest
    else if t.admits place part then t.locate? (place ++ [part]) rest
    else none

/-- Whether a database can be opened at a place; the failure names the database. -/
def openAt (t : FileTree) (name : String) (access : Sqlite.Access)
    (place : List (List Char)) : Except ClientFailure Unit :=
  match t.kind? place, access with
  | some .file, _ => .ok ()
  -- To open a directory for reading is no fault yet; to read it is.
  | some .directory, .readOnly => .error cannotRead
  | some .directory, _ => .error (cannotOpen name)
  | none, .create => if t.isDirectory place.dropLast then .ok () else .error (cannotOpen name)
  | none, _ => .error (cannotOpen name)

/-- Whether the file is missing that a new one should be like. -/
def lacksModel (t : FileTree) (o : Sqlite.Opening) : Bool :=
  o.model.any fun path => path.isEmpty || (t.kind? (t.follow path)).isNone

/-- Whether a database can be opened; the failure names the database. -/
def attempt (t : FileTree) (name : String) (o : Sqlite.Opening) : Except ClientFailure Unit :=
  if o.isFileless then
    .ok ()
  else if o.system = "memdb" then
    if o.path.utf8ByteSize ≤ Sqlite.memoryPathLimit then .ok () else .error (cannotOpen name)
  else
    match t.locate? (t.start o.path) (Sqlite.pathParts o.path) with
    | none => .error (cannotOpen name)
    | some place =>
      if place = [] ∨ Sqlite.databasePathLimit < Sqlite.placeSize place then
        .error (cannotOpen name)
      else if t.lacksModel o then
        .error cannotInspect
      else
        t.openAt name o.access place

/-- What opening a name comes to, once its directories are there. -/
def openNamed (t : FileTree) (name : String) : Except ClientFailure Unit :=
  if name.toList.contains '\x00' then
    .error (zeroCharacterAt (Sqlite.byteSize (name.toList.takeWhile (· != '\x00'))))
  else
    match Sqlite.Opening.ofName name with
    | .error e => .error e.failure
    | .ok o => t.attempt name o

/-- The failure of a database whose directories could not be made. -/
def directoryError (parent : String) (failure : DirectoryFailure) : Error :=
  .connect "sqlite" none ("cannot create " ++ parent ++ ": " ++ failure.message)

/-- Opens a database: the directories on the way to it are made first. -/
def openDatabase (t : FileTree) (database : String) : Except Error Unit × FileTree :=
  match Sqlite.location? database with
  | none => (.ok (), t)
  | some path =>
    let parent := Sqlite.parentPath path
    match t.makePath parent with
    | (.error failure, t) => (.error (directoryError parent failure), t)
    | (.ok (), t) =>
      ((t.openNamed path).mapError fun f => .connect "sqlite" f.code f.message, t)

/-- A directory and all directories on the way to it. -/
def withDirectory (t : FileTree) (path : String) : FileTree :=
  (t.makePath path).2

/-- A file, and all directories on the way to it. -/
def withFile (t : FileTree) (path : String) : FileTree :=
  (t.withDirectory (Sqlite.parentPath path)).add (t.follow path) .file

end FileTree

end SqlMapper
