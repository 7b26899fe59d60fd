import SqlMapper.Binds
import SqlMapper.Digest.Sha256

/-!
# Keys of the Cache

Where the cache keeps what.

A cached read lies under the digest of its table and the digest of its text and
bindings, so that all reads of a table share the beginning of their keys. The
version of a table's schema lies under the table's name, apart from its reads,
and outlives them.

## Main definitions

* `digestHex`: The digest of a text.
* `tablePrefix`: What the keys of a table's reads begin with.
* `queryMaterial`: The text that a read's digest is taken of.
* `queryKey`: The key of a read.
* `versionKey`: The key of a schema version.

## Theorems

* `startsWith_queryKey`: The key of a read begins with what is its table's.
-/

namespace SqlMapper

/-- The digest of a text, in hexadecimal. -/
def digestHex (s : String) : String :=
  Sha256.hex (Text.toBytes s)

/-- What the keys of a table's reads begin with. -/
def tablePrefix (table : String) : String :=
  "sql/" ++ digestHex table ++ "/"

/-- The text that a read's digest is taken of: the statement, and its bindings on a line of their
    own. -/
def queryMaterial (sql : String) (b : Binds) : String :=
  sql ++ "\n" ++ b.fingerprint

/-- The key of a read. -/
def queryKey (table sql : String) (b : Binds) : String :=
  tablePrefix table ++ digestHex (queryMaterial sql b)

theorem startsWith_queryKey (table sql : String) (b : Binds) :
    Text.startsWith (queryKey table sql b) (tablePrefix table) = true :=
  Text.startsWith_append _ _

/-- The key of a table's schema version. -/
def versionKey (table : String) : String :=
  "table_version_" ++ table

end SqlMapper
