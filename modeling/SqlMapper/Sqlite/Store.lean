import SqlMapper.Binds
import SqlMapper.Client.Failure
import SqlMapper.Row
import SqlMapper.Sqlite.Cell

/-!
# An SQLite Session

A session with a table whose key counts up by itself.

The table has two columns, the key `id` and a column `v` that stores every value
as it was bound. A key that is not given is one more than the largest that was
ever stored, even if its row is gone; when there is no larger key the store is
full. A failed insert changes nothing, and a full store moreover gives up the
transaction that is open. Rolling back brings back the rows and the count of
keys, but not the latest key, which belongs to the session.

## Main definitions

* `Table`: Rows, and the largest key ever stored.
* `Session`: A table, its state at the beginning of a transaction, and the latest key.
* `Session.insert`, `Session.update`, `Session.deleteAll`, `Session.rows`: The table.
* `Session.begin`, `Session.commit`, `Session.rollback`: Transactions.
* `Session.lastInsertId`: The latest key.
* `echo`: Values bound and read back.
-/

namespace SqlMapper

namespace Sqlite

/-- Rows under their keys. -/
structure Table where
  /-- The rows, in the order of their keys. -/
  rows : List (Int64 × Cell) := []
  /-- The largest key ever stored, or zero. -/
  largest : Int64 := 0
  deriving DecidableEq

/-- A session with a table. -/
structure Session where
  /-- The table. -/
  table : Table := { }
  /-- The table when the open transaction began. -/
  saved : Option Table := none
  /-- The key of the latest insert, or zero. -/
  lastKey : Int64 := 0
  deriving DecidableEq

namespace Table

/-- Whether a key is taken. -/
def has (t : Table) (key : Int64) : Bool :=
  t.rows.any fun r => r.1 == key

/-- A row put among others, in the order of keys. -/
def place (key : Int64) (cell : Cell) : List (Int64 × Cell) → List (Int64 × Cell)
  | [] => [(key, cell)]
  | r :: rest => if key < r.1 then (key, cell) :: r :: rest else r :: place key cell rest

/-- One more row. -/
def add (t : Table) (key : Int64) (cell : Cell) : Table where
  rows := place key cell t.rows
  largest := max t.largest key

end Table

/-- The key is taken. -/
def duplicateKey : ClientFailure where
  code := some 1555
  message := "UNIQUE constraint failed: t.id"

/-- There is no larger key. -/
def storeFull : ClientFailure where
  code := some 13
  message := "database or disk is full"

/-- The key is no integer. -/
def wrongType : ClientFailure where
  code := some 20
  message := "datatype mismatch"

/-- A transaction was begun in a transaction. -/
def nestedTransaction : ClientFailure where
  code := some 1
  message := "cannot start a transaction within a transaction"

/-- A transaction was ended, but none was open. -/
def noTransaction (verb : String) : ClientFailure where
  code := some 1
  message := "cannot " ++ verb ++ " - no transaction is active"

/-- A table is not there. -/
def missingTable (table : String) : ClientFailure where
  code := some 1
  message := "no such table: " ++ table

/-- A statement was run for its effect, but returned rows. -/
def unexpectedRows : ClientFailure where
  code := none
  message := "Execute returned results - did you mean to call query?"

namespace Session

/-- The session with one more row. -/
def added (s : Session) (key : Int64) (cell : Cell) : Session :=
  { s with table := s.table.add key cell, lastKey := key }

/-- The session after it gave up the transaction that is open. -/
def givenUp (s : Session) : Session :=
  { s with table := s.saved.getD s.table, saved := none }

/-- Inserts a row under the next key. -/
def insertNext (s : Session) (cell : Cell) : Except ClientFailure UInt64 × Session :=
  if s.table.largest = Int64.maxValue then (.error storeFull, s.givenUp)
  else (.ok 1, s.added (s.table.largest + 1) cell)

/-- Inserts a row under a key. -/
def insertAt (s : Session) (key : Int64) (cell : Cell) : Except ClientFailure UInt64 × Session :=
  if s.table.has key then (.error duplicateKey, s) else (.ok 1, s.added key cell)

/-- Inserts a row, given its key; without one the row gets the next. -/
def insert (s : Session) (key value : Value) : Except ClientFailure UInt64 × Session :=
  match Cell.ofValue key with
  -- A key without a value asks for the next one.
  | .null => s.insertNext (Cell.ofValue value)
  | cell =>
    match cell.key? with
    | some k => s.insertAt k (Cell.ofValue value)
    | none => (.error wrongType, s)

/-- Changes every row, and yields their number. -/
def update (s : Session) (value : Value) : UInt64 × Session :=
  let rows := s.table.rows.map fun r => (r.1, Cell.ofValue value)
  (UInt64.ofNat rows.length, { s with table := { s.table with rows := rows } })

/-- Removes every row, and yields their number. -/
def deleteAll (s : Session) : UInt64 × Session :=
  (UInt64.ofNat s.table.rows.length, { s with table := { s.table with rows := [] } })

/-- The rows, in the order of their keys. -/
def rows (s : Session) : List Row :=
  s.table.rows.map fun r => { cells := [("id", .int r.1), ("v", r.2.value)] }

/-- The latest key, if it is positive. -/
def lastInsertId (s : Session) : Option Int64 :=
  if 0 < s.lastKey then some s.lastKey else none

/-- Begins a transaction. -/
def begin (s : Session) : Except ClientFailure Unit × Session :=
  match s.saved with
  | none => (.ok (), { s with saved := some s.table })
  | some _ => (.error nestedTransaction, s)

/-- Commits the open transaction. -/
def commit (s : Session) : Except ClientFailure Unit × Session :=
  match s.saved with
  | none => (.error (noTransaction "commit"), s)
  | some _ => (.ok (), { s with saved := none })

/-- Rolls the open transaction back. -/
def rollback (s : Session) : Except ClientFailure Unit × Session :=
  match s.saved with
  | none => (.error (noTransaction "rollback"), s)
  | some _ => (.ok (), s.givenUp)

end Session

/-- The value that comes back of a bound one. -/
def stored (v : Value) : Value :=
  (Cell.ofValue v).value

/-- A row with a column for each placeholder, holding what was bound to it; a placeholder without
    a value holds nothing. -/
def echo (binds : Binds) (placeholders : List String) : Row where
  cells := placeholders.map fun p => (p, ((binds.get? p).map stored).getD .null)

/-- A value cast to a floating-point number. -/
def asReal (v : Value) : Value :=
  (Cell.ofValue v).toReal.value

end Sqlite

end SqlMapper
