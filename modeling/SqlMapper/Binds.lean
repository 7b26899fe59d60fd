import SqlMapper.OrderedMap
import SqlMapper.Value

/-!
# Bindings

The values bound to the placeholders of a statement.

A placeholder keeps its leading colon and its place: binding it again replaces
the value where it stands. The order matters, because the fingerprint that keys
a cached read lists the bindings in it.

## Main definitions

* `Binds`: Placeholders and their values, in the order they were bound.
* `Binds.fingerprint`: The bindings as text.
-/

namespace SqlMapper

/-- Placeholders and their values, in the order they were first bound. -/
abbrev Binds :=
  OrderedMap String Value

/-- The bindings as text, each placeholder with the literal of its value. -/
def Binds.fingerprint (b : Binds) : String :=
  "&".intercalate (b.entries.map fun e => e.1 ++ "=" ++ e.2.literal)

end SqlMapper
