import SqlMapper.Json.Basic

/-!
# Merging JSON

Laying one JSON value over another.

Objects are merged member by member, at every depth. Anything else in the upper
value replaces what it covers, arrays included. A `null` in an object covers
nothing: it stands for a setting that is left as it was.

## Main definitions

* `Json.merge`: One value laid over another.
* `Json.mergeMembers`: Members laid over members.
-/

namespace SqlMapper

namespace Json

mutual

/-- One value laid over another. -/
def merge (lower : Json) : Json → Json
  | .object upper =>
    match lower with
    | .object members => .object (mergeMembers members upper)
    | _ => .object upper
  | upper => upper

/-- Members laid over members, from the first to the last. -/
def mergeMembers (lower : List (String × Json)) : List (String × Json) → List (String × Json)
  | [] => lower
  | (key, value) :: rest =>
    if value.isNull then
      mergeMembers lower rest
    else
      let merged :=
        match get? key lower with
        | some covered => merge covered value
        | none => value
      mergeMembers (put key merged lower) rest

end

end Json

end SqlMapper
