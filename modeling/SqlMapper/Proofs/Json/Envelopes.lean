import SqlMapper.Proofs.Json.Rereading
import SqlMapper.Proofs.Text.Utf8
import SqlMapper.Row

/-!
# Structured Columns Read Back

What is stored in a structured column is what is read from it.

An envelope is printed like an object of two members, the version and the data,
so the reader of values reads it back. The two members are found by their names
at the outermost level only, and what the data holds cannot be taken for them,
even if it is an envelope itself.

The depth of a text is measured with the envelope, which takes one level. The
reader goes as deep as `Json.nestingLimit` in all, so data is accepted exactly
if it is nested less deeply than that. Deeper data is written all the same, and
the text is refused when it is read.

## Theorems

* `Envelope.read?_encode`: An envelope is read back if its data is not nested too deeply.
* `Envelope.structured_read_back`: So is a structured column, from text and from bytes.
-/

namespace SqlMapper

namespace Envelope

/-- An envelope as an object. -/
def object (data : Json) : Json :=
  .object [("v", .number (.int version)), ("data", data)]

theorem numberChars_version : Json.numberChars (.int version) = ['1'] := by
  have hdigits := Json.numberChars_ofNat version
  rwa [Nat.toDigits_of_lt_base (by decide)] at hdigits

theorem opening_eq : "\x7b\"v\":1,\"data\":".toList
    = '\x7b' :: Json.stringChars "v" ++ ':' :: '1' :: ',' :: Json.stringChars "data" ++ [':'] := by
  decide

theorem chars_object (data : Json) : (object data).chars
    = '\x7b' :: Json.stringChars "v" ++ ':' :: Json.numberChars (.int version)
      ++ (',' :: Json.stringChars "data" ++ ':' :: data.chars ++ ['\x7d']) := by
  unfold object
  rw [Json.chars, Json.chars, Json.memberChars, Json.memberChars]

theorem encode_eq_text (data : Json) : encode data = (object data).text := by
  refine congrArg String.ofList ?_
  show "\x7b\"v\":1,\"data\":".toList ++ data.chars ++ ['\x7d'] = (object data).chars
  rw [opening_eq, chars_object, numberChars_version]
  simp only [List.cons_append, List.append_assoc, List.nil_append]

theorem exact_object {data : Json} (h : data.Exact) : (object data).Exact :=
  ⟨⟨by decide, by decide⟩, h, trivial⟩

/-- An envelope is read back if its data is not nested too deeply. -/
theorem read?_encode {data : Json} (hexact : data.Exact) (hordered : data.Ordered) :
    read? (Json.Shape.json nestingLimit) none (encode data)
      = if data.node.nesting < Json.nestingLimit then some (version, data) else none := by
  have hread : Json.Node.read? (encode data) = some (object data).node := by
    rw [encode_eq_text, Json.read?_text (exact_object hexact)]
  have hfields : Json.Fields.read? ["v", "data"] (object data).node
      = some { nodes := [some (.number (some (.int version))), some data.node],
               byPosition := false } := rfl
  have hlimit : data.node.nesting ≤ nestingLimit ↔ data.node.nesting < Json.nestingLimit := by
    unfold nestingLimit Json.nestingLimit
    omega
  have hversion : Json.Shape.natural UInt32.size (.number (some (.int version))) = some version :=
    rfl
  have hdata : Json.Shape.json nestingLimit data.node
      = if data.node.nesting < Json.nestingLimit then some data else none := by
    simp only [Json.Shape.json, hlimit, Json.json?_node hordered]
  simp only [read?, hread, hfields, Json.Fields.at?, Option.bind_eq_bind, Option.bind_some,
    List.getElem?_cons_zero, List.getElem?_cons_succ, Option.join_some, hversion, hdata]
  by_cases hdeep : data.node.nesting < Json.nestingLimit
  · simp only [if_pos hdeep]
    rfl
  · simp only [if_neg hdeep]
    rfl

theorem decode_encode {data : Json} (hexact : data.Exact) (hordered : data.Ordered) :
    decode (Json.Shape.json nestingLimit) none (encode data)
      = if data.node.nesting < Json.nestingLimit then .ok data
        else .error (.codec .malformed) := by
  rw [decode, read?_encode hexact hordered]
  by_cases hdeep : data.node.nesting < Json.nestingLimit
  · simp only [if_pos hdeep, if_true]
  · simp only [if_neg hdeep]

/-- A column that holds the text of an envelope, or its bytes, is read by what the text decodes
    to. -/
theorem structured_eq_decode {α : Type} (shape : Json.Shape α) {r : Row} {column s : String}
    (h : r.get? column = some (.text s) ∨ r.get? column = some (.bytes (Text.toBytes s))) :
    r.structured shape column = (decode shape none s).map some := by
  rcases h with h | h
  · have hrequire : r.require column = .ok (.text s) := by
      simp only [Row.require, h]
    simp only [Row.structured, hrequire, bind, Except.bind]
    cases decode shape none s <;> rfl
  · have hrequire : r.require column = .ok (.bytes (Text.toBytes s)) := by
      simp only [Row.require, h]
    simp only [Row.structured, hrequire, bind, Except.bind, Text.ofBytesLossy_toBytes]
    cases decode shape none s <;> rfl

/-- What is stored in a structured column is what is read from it, up to the depth at which texts
    are refused. -/
theorem structured_read_back {data : Json} (hexact : data.Exact) (hordered : data.Ordered) :
    decode (Json.Shape.json nestingLimit) none (encode data)
        = (if data.node.nesting < Json.nestingLimit then .ok data
           else .error (.codec .malformed))
      ∧ ∀ (r : Row) (column : String),
          r.get? column = some (.text (encode data))
            ∨ r.get? column = some (.bytes (Text.toBytes (encode data))) →
          r.structured (Json.Shape.json nestingLimit) column
            = if data.node.nesting < Json.nestingLimit then .ok (some data)
              else .error (.codec .malformed) := by
  have hdecoded := decode_encode hexact hordered
  refine ⟨hdecoded, fun r column hcell => ?_⟩
  rw [structured_eq_decode _ hcell, hdecoded]
  by_cases hdeep : data.node.nesting < Json.nestingLimit
  · simp only [if_pos hdeep]
    rfl
  · simp only [if_neg hdeep]
    rfl

/-- Data that holds an envelope of another version, both ends of the integers, and keys and texts
    that have to be escaped. -/
theorem inner_envelope_read_back :
    let data : Json := .object [
      ("\n\"\\", .array [.number (.int (-0x8000000000000000)), .number (.int 0xffffffffffffffff)]),
      ("data", .object [("data", .string "\x01\u2028/😀"), ("v", .number (.int 2))]),
      ("v", .array [.null, .bool true, .object []])]
    data.Exact ∧ data.Ordered
      ∧ decode (Json.Shape.json nestingLimit) none (encode data) = .ok data
      ∧ (Row.mk [("id", .int 1), ("tags", .bytes (Text.toBytes (encode data)))]).structured
          (Json.Shape.json nestingLimit) "tags" = .ok (some data) := by
  intro data
  have hexact : data.Exact :=
    ⟨⟨⟨by decide, by decide⟩, ⟨by decide, by decide⟩, trivial⟩,
      ⟨trivial, ⟨by decide, by decide⟩, trivial⟩, ⟨trivial, trivial, trivial, trivial⟩, trivial⟩
  have hordered : data.Ordered :=
    ⟨by decide, ⟨trivial, trivial, trivial⟩, ⟨by decide, trivial, trivial, trivial⟩,
      ⟨trivial, trivial, ⟨List.Pairwise.nil, trivial⟩, trivial⟩, trivial⟩
  have hnested : data.node.nesting < Json.nestingLimit := by decide
  rcases structured_read_back hexact hordered with ⟨hdecoded, hcolumn⟩
  have hcell := hcolumn (Row.mk [("id", .int 1), ("tags", .bytes (Text.toBytes (encode data)))])
    "tags" (.inr rfl)
  rw [if_pos hnested] at hdecoded hcell
  exact ⟨hexact, hordered, hdecoded, hcell⟩

end Envelope

end SqlMapper
