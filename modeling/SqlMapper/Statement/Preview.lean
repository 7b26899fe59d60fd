import SqlMapper.Placeholder

/-!
# Previews

A statement with its values written out.

Previews go into the log, where a statement with placeholders says too little.
They are never run: a placeholder is replaced wherever its text occurs, even
inside quotes.

## Main definitions

* `preview`: A statement with its values written out.
-/

namespace SqlMapper

/-- A piece of a statement with the value of a placeholder in its place, if one is bound. -/
def previewPiece (b : Binds) : Text.Piece String → List Char
  | .char c => [c]
  | .found name => (((b.get? name).map Value.literal).getD name).toList

/-- A statement with the values of its placeholders written out. -/
def preview (sql : String) (b : Binds) : String :=
  String.ofList ((Text.scan placeholderPattern sql.toList).flatMap (previewPiece b))

end SqlMapper
