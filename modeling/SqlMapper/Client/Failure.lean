import SqlMapper.Retry

/-!
# Failures of a Client

What a database client reports when a call fails.

The code is optional, since not every failure comes from the server. The
failures of a MySQL client are brought into this form here: those that mean a
lost or refused session get the code that says so, even where the client gives
none, so that they are retried.

## Main definitions

* `ClientFailure`: A code and a message.
* `ClientFailure.text`: The failure as text.
* `ClientFailure.isTransient`: Whether it looks like a dropped session.
* `MySqlFailure`: What a MySQL client reports.
* `ClientFailure.ofMySql`: The same as a client failure.
-/

namespace SqlMapper

/-- A failure as a database client reports it. -/
structure ClientFailure where
  /-- The code, if one was reported. -/
  code : Option Int64
  /-- The message. -/
  message : String
  deriving Repr, DecidableEq

/-- What a MySQL client reports. -/
inductive MySqlFailure where
  /-- The server refused a statement. -/
  | server (code : UInt16) (text : String)
  /-- The connection broke. -/
  | io (text : String)
  /-- A packet could not be decoded. -/
  | codec (text : String)
  /-- Packets arrived out of order. -/
  | outOfSync
  /-- No connection could be opened. -/
  | unreachable (text : String)
  /-- Anything else. -/
  | other (text : String)
  deriving Repr, DecidableEq

namespace ClientFailure

/-- The failure as text, its code in brackets. -/
def text (f : ClientFailure) : String :=
  match f.code with
  | some code => "[" ++ toString code.toInt ++ "] " ++ f.message
  | none => f.message

/-- Whether the failure looks like a dropped session. -/
def isTransient (f : ClientFailure) : Bool :=
  SqlMapper.isTransient f.code f.message

/-- The code of a server that has gone away. -/
def serverGone : Int64 := 2006

/-- The code of a connection lost during a statement. -/
def serverLost : Int64 := 2013

/-- The code of a host that cannot be reached. -/
def hostUnreachable : Int64 := 2003

/-- A MySQL client's report as a client failure. -/
def ofMySql : MySqlFailure → ClientFailure
  | .server code text => { code := some (Int64.ofNat code.toNat), message := text }
  | .io text =>
    { code := some serverLost, message := "Lost connection to MySQL server: " ++ text }
  | .codec text =>
    { code := some serverGone, message := "MySQL server has gone away: " ++ text }
  | .outOfSync =>
    { code := some serverGone, message := "MySQL server has gone away: packets out of order" }
  | .unreachable text =>
    { code := some hostUnreachable, message := "Error connecting to MySQL server: " ++ text }
  | .other text => { code := none, message := text }

end ClientFailure

end SqlMapper
