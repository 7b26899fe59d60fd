import SqlMapper.Digest.Sha256
import SqlMapper.Json.Shape
import SqlMapper.Text.Utf8

/-!
# Connection Parameters

Where a database is, and how to get in.

SQLite only needs the path of its file, which stands in the place of the
database name; the network fields are ignored then. The fingerprint tells
connections apart: every parameter goes into it with an end mark behind it, so
that no two parameters can trade characters.

## Main definitions

* `Config`: The parameters of one connection.
* `Config.fingerprint`: A digest of all of them.
* `Config.shape`, `Config.json`: The parameters in JSON.
-/

namespace SqlMapper

/-- The parameters of one connection. -/
structure Config where
  /-- The host of the server. -/
  host : String := "127.0.0.1"
  /-- The tag of the dialect. -/
  dialect : String := "mysql"
  /-- The port of the server. -/
  port : UInt16 := 3306
  /-- The user. -/
  username : String := "root"
  /-- The password. -/
  password : String := ""
  /-- The name of the database, or the path of its file. -/
  database : String := ""
  /-- The character set. -/
  charset : String := "utf8mb4"
  deriving Repr, DecidableEq

namespace Config

/-- The parameters of an SQLite database. -/
def sqlite (path : String) : Config where
  dialect := "sqlite"
  database := path

/-- The parameters as texts, in a fixed order. -/
def parts (c : Config) : List String :=
  [c.host, c.dialect, toString c.port.toNat, c.username, c.password, c.database, c.charset]

/-- The bytes that the fingerprint is taken of: each parameter with a zero byte behind it. -/
def material (c : Config) : List UInt8 :=
  c.parts.flatMap fun part => Text.toBytes part ++ [0]

/-- A digest of all parameters. -/
def fingerprint (c : Config) : String :=
  Sha256.hex c.material

/-- The parameters in JSON; an absent one has its default. -/
def shape : Json.Shape Config := fun node => do
  let names := ["host", "dialect", "port", "username", "password", "database", "charset"]
  let fields ← Json.Fields.read? names node
  let standard : Config := { }
  let text (i : Nat) (absent : String) := fields.getD i Json.Shape.string absent
  let port ← fields.getD 2 (Json.Shape.natural UInt16.size) standard.port.toNat
  return {
    host := ← text 0 standard.host
    dialect := ← text 1 standard.dialect
    port := UInt16.ofNat port
    username := ← text 3 standard.username
    password := ← text 4 standard.password
    database := ← text 5 standard.database
    charset := ← text 6 standard.charset }

/-- The parameters as JSON. -/
def json (c : Config) : Json :=
  .object (Json.ofPairs [
    ("host", .string c.host), ("dialect", .string c.dialect),
    ("port", .number (.int c.port.toNat)), ("username", .string c.username),
    ("password", .string c.password), ("database", .string c.database),
    ("charset", .string c.charset)])

end Config

end SqlMapper
