import SqlMapper.Client.Failure
import SqlMapper.Text.Hex
import SqlMapper.Text.Split
import SqlMapper.Text.Utf8

/-!
# SQLite File Names

What SQLite opens under a name, and how.

A name is a path, unless it begins with `file:`. Then it is a URI: after a host,
which can only be this one, come a path, options behind a question mark, and a
fragment that does not count. Any character may be written as a percent sign and
two hexadecimal digits. The byte zero cannot be part of a path or an option, so
what follows it there is dropped.

Options choose the access, the cache and the file system; later options can only
narrow the access. Those with any other name are left to whoever knows them, and
those without a name do not count.

## Main definitions

* `Access`: What may be done with a database file.
* `Opening`: A database to be opened.
* `UriError`: Why a URI was refused.
* `percentDecoded`: A part of a URI with its escapes resolved.
* `Opening.ofName`: What a name stands for.
-/

namespace SqlMapper

namespace Sqlite

/-- What may be done with a database file. -/
inductive Access where
  /-- It is read. -/
  | readOnly
  /-- It is read and written, but must be there. -/
  | readWrite
  /-- It is read and written, and made if it is missing. -/
  | create
  /-- It stays in memory. -/
  | memory
  deriving Repr, DecidableEq

/-- An access by its name in options. -/
def Access.named? (name : String) : Option Access :=
  if name = "ro" then some .readOnly
  else if name = "rw" then some .readWrite
  else if name = "rwc" then some .create
  else if name = "memory" then some .memory
  else none

/-- Whether an access may be narrowed to another. Memory harms no file, so it may replace any
    access and be replaced by any. -/
def Access.narrowsTo : Access → Access → Bool
  | .readOnly, .readWrite | .readOnly, .create | .readWrite, .create => false
  | _, _ => true

/-- A database to be opened. -/
structure Opening where
  /-- The path; nothing for a database without a file. -/
  path : String
  /-- What may be done with the file. -/
  access : Access := .create
  /-- The name of the file system. -/
  system : String := "unix"
  /-- The file whose permissions a new file gets. -/
  model : Option String := none
  deriving Repr, DecidableEq

/-- Why a URI was refused. -/
inductive UriError where
  /-- The host is not this one. -/
  | authority (host : String)
  /-- There is no such access, or no such kind of cache. -/
  | unknownMode (kind value : String)
  /-- The access would be wider than the one before. -/
  | forbiddenAccess (value : String)
  /-- There is no such file system. -/
  | unknownSystem (name : String)
  deriving Repr, DecidableEq

/-- The failure that a caller sees. -/
def UriError.failure : UriError → ClientFailure
  | .authority host => { code := some 1, message := "invalid uri authority: " ++ host }
  | .unknownMode kind value =>
    { code := some 1, message := "no such " ++ kind ++ " mode: " ++ value }
  | .forbiddenAccess value => { code := some 3, message := "access mode not allowed: " ++ value }
  | .unknownSystem name => { code := some 1, message := "no such vfs: " ++ name }

/-- The bytes of a part of a URI, up to the first that is zero. -/
def octets : List Char → List UInt8
  | [] => []
  | '%' :: a :: b :: rest =>
    match Text.hexDigit? a, Text.hexDigit? b with
    | some high, some low =>
      if high * 16 + low = 0 then [] else UInt8.ofNat (high * 16 + low) :: octets rest
    -- Without two digits behind it the percent sign stands for itself.
    | _, _ => Text.toBytes "%" ++ octets (a :: b :: rest)
  | c :: rest => Text.toBytes (String.singleton c) ++ octets rest

/-- A part of a URI with its escapes resolved. -/
def percentDecoded (cs : List Char) : String :=
  Text.ofBytesLossy (octets cs)

/-- The file systems there are. The last one keeps its files in memory. -/
def fileSystems : List String :=
  ["unix", "unix-none", "unix-dotfile", "unix-excl", "memdb"]

/-- What follows the host of a URI, given what follows its scheme. -/
def afterAuthority : List Char → Except UriError (List Char)
  | '/' :: '/' :: rest =>
    let host := String.ofList (rest.takeWhile (· != '/'))
    if host = "" ∨ host = "localhost" then .ok (rest.dropWhile (· != '/'))
    else .error (.authority host)
  | cs => .ok cs

/-- An option, cut at its first equals sign. -/
def uriOption (cs : List Char) : String × String :=
  (percentDecoded (cs.takeWhile (· != '=')), percentDecoded ((cs.dropWhile (· != '=')).drop 1))

/-- The options of a URI that have a name. -/
def uriOptions (cs : List Char) : List (String × String) :=
  ((cs.splitOn '&').map uriOption).filter fun o => !o.1.isEmpty

namespace Opening

/-- An opening changed by an option. -/
def apply (o : Opening) (option : String × String) : Except UriError Opening :=
  if option.1 = "vfs" then
    .ok { o with system := option.2 }
  else if option.1 = "cache" then
    if option.2 = "shared" ∨ option.2 = "private" then .ok o
    else .error (.unknownMode "cache" option.2)
  else if option.1 = "mode" then
    match Access.named? option.2 with
    | none => .error (.unknownMode "access" option.2)
    | some access =>
      if o.access.narrowsTo access then .ok { o with access := access }
      else .error (.forbiddenAccess option.2)
  else
    .ok o

/-- What a URI stands for, given what follows its scheme. -/
def ofUri (cs : List Char) : Except UriError Opening := do
  let cs := (← afterAuthority cs).takeWhile (· != '#')
  let options := uriOptions ((cs.dropWhile (· != '?')).drop 1)
  let model := (options.find? fun o => o.1 == "modeof").map (·.2)
  let o ← options.foldlM apply { path := percentDecoded (cs.takeWhile (· != '?')), model }
  -- The file system is looked for last, after every other option has been understood.
  if fileSystems.contains o.system then
    return o
  else
    throw (.unknownSystem o.system)

/-- What a name stands for. -/
def ofName (name : String) : Except UriError Opening :=
  if Text.startsWith name "file:" then ofUri (name.toList.drop 5) else .ok { path := name }

/-- Whether no file is opened at all. -/
def isFileless (o : Opening) : Bool :=
  o.path.isEmpty || o.path == ":memory:" || o.access == .memory

end Opening

end Sqlite

end SqlMapper
