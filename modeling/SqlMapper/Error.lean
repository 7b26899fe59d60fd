import SqlMapper.Log

/-!
# Errors

Why an operation failed.

The causes are those a caller has to tell apart: the database could not be
reached, a statement failed, the caller handed in a malformed field, or a stored
structured value could not be read. Each error has one wording, and each but the
last is reported in the log at the moment it arises.

## Main definitions

* `CodecError`: Why a structured value could not be read.
* `Error`: Why an operation failed.
* `Error.message`: The wording.
* `Error.record?`: The log record.
-/

namespace SqlMapper

/-- Why a structured value could not be read. -/
inductive CodecError where
  /-- The text is not a well-formed envelope around a value of the wanted type. -/
  | malformed
  /-- The envelope carries a version that is not understood. -/
  | unsupportedVersion (version : Nat)
  deriving Repr, DecidableEq

/-- Why an operation failed. -/
inductive Error where
  /-- The database could not be reached. -/
  | connect (dialect : String) (code : Option Int64) (message : String)
  /-- A statement failed. -/
  | execute (sql : String) (message : String)
  /-- A field, a key or a placeholder was refused before anything was sent. -/
  | field (field : String) (message : String)
  /-- A structured value could not be read. -/
  | codec (cause : CodecError)
  deriving Repr, DecidableEq

/-- The wording of a codec error. -/
def CodecError.message : CodecError → String
  | .malformed => "malformed envelope"
  | .unsupportedVersion v => "unsupported envelope version " ++ toString v

namespace Error

/-- The wording of an error. -/
def message : Error → String
  | .connect dialect _ message => "connect error [" ++ dialect ++ "]: " ++ message
  | .execute sql message => "execute error: " ++ message ++ "\n  sql: " ++ sql
  | .field name message => "field error `" ++ name ++ "`: " ++ message
  | .codec cause => "serde error: " ++ cause.message

/-- The log record of an error, made when it arises. -/
def record? : Error → Option LogRecord
  | .connect dialect code message =>
    some {
      level := .error
      message := message
      fields := [("dialect", dialect), ("code", optionalNumber code)] }
  | .execute sql message => some { level := .error, message, fields := [("sql", sql)] }
  | .field name message => some { level := .error, message, fields := [("field", name)] }
  | .codec _ => none

/-- Whether a field, a key or a placeholder was refused. -/
def isField : Error → Bool
  | .field _ _ => true
  | _ => false

/-- The statement that failed, if one did. -/
def sql? : Error → Option String
  | .execute sql _ => some sql
  | _ => none

end Error

end SqlMapper
