import SqlMapper.Proofs.Json.Rereading
import SqlMapper.Row

/-!
# Accepted Envelopes

Which texts are decoded, and where the value comes from.

A text is decoded if it spells an object with exactly one member `v`, which is
the version, and with a value for `data`: the only member of that name, as the
target reads it, or what stands for its absence if there is no such member.
Other members may stand beside them. They only have to be well formed, whatever
they hold, but every key of the object has to be readable.

There is a second form. A record may be listed instead of named, so an array of
the version and the value is decoded as well. It is the only array that is, and
no other text without members is decoded at all: an absent value needs an object
that it is absent from.

## Main definitions

* `Json.Sole`: The only member of a name.
* `Envelope.Holds`: What a node holds as an envelope.

## Theorems

* `Json.Fields.wellNamed_iff`: When the members of an object can be read as fields.
* `Envelope.read?_eq_some_iff`: The texts that hold a version and a value.
* `Envelope.accepts_iff`: The texts and the columns that are decoded.
* `Envelope.decodes_listed`: An array that is decoded.
-/

namespace SqlMapper

namespace Json

/-- A member is the only one of its name. -/
def Sole (name : String) (node : Node) (members : List (Option String × Node)) : Prop :=
  members.filter (fun m => m.1 == some name) = [(some name, node)]

theorem Sole.countP_le {name : String} {node : Node} {members : List (Option String × Node)}
    (h : Sole name node members) : members.countP (fun m => m.1 == some name) ≤ 1 := by
  rw [List.countP_eq_length_filter, h]
  exact Nat.le_refl 1

namespace Fields

/-- The fields of an object can be read if every key can, and if no field is named twice. -/
theorem wellNamed_iff {names : List String} {members : List (Option String × Node)} :
    wellNamed names members = true ↔
      (∀ m ∈ members, m.1 ≠ none) ∧
        ∀ name ∈ names, members.countP (fun m => m.1 == some name) ≤ 1 := by
  induction members with
  | nil => simp [wellNamed]
  | cons m rest ih =>
      rcases m with ⟨_ | key, value⟩
      · simp [wellNamed]
      · simp only [wellNamed, Bool.and_eq_true, ih, List.forall_mem_cons, List.countP_cons,
          beq_iff_eq, Option.some.injEq]
        constructor
        · rintro ⟨hkey, hreadable, hsole⟩
          refine ⟨⟨Option.some_ne_none key, hreadable⟩, fun name hname => ?_⟩
          by_cases heq : key = name
          · subst heq
            have hnone : rest.countP (fun m => m.1 == some key) = 0 := by
              simpa [hname] using hkey
            rw [hnone, if_pos rfl]
          · rw [if_neg heq]
            exact hsole name hname
        · rintro ⟨⟨-, hreadable⟩, hsole⟩
          refine ⟨?_, hreadable, fun name hname => ?_⟩
          · by_cases hname : key ∈ names
            · have hone := hsole key hname
              rw [if_pos rfl] at hone
              have hnone : rest.countP (fun m => m.1 == some key) = 0 := by omega
              simpa [hname] using hnone
            · simp [hname]
          · have hone := hsole name hname
            omega

/-- The node of the only member of a name, if there is at most one. -/
theorem node_eq_some_iff {name : String} {node : Node} {members : List (Option String × Node)}
    (h : members.countP (fun m => m.1 == some name) ≤ 1) :
    (members.find? fun m => m.1 == some name).map (·.2) = some node ↔ Sole name node members := by
  rw [← List.head?_filter, Sole]
  rw [List.countP_eq_length_filter] at h
  rcases hkept : members.filter fun m => m.1 == some name with _ | ⟨m, more⟩
  · rw [hkept]
    exact iff_of_false nofun nofun
  · have hm := List.mem_filter.mp (hkept ▸ List.mem_cons_self : m ∈ members.filter _)
    have hkey : m.1 = some name := beq_iff_eq.mp hm.2
    have hmore : more = [] := by
      rw [hkept, List.length_cons] at h
      exact List.length_eq_zero_iff.mp (by omega)
    rw [hkept, hmore, ← hkey]
    simp only [List.head?_cons, Option.map_some, Option.some.injEq, List.cons.injEq, and_true]
    exact ⟨fun hnode => hnode ▸ rfl, fun hm => congrArg (·.2) hm⟩

theorem node_eq_none_iff {name : String} {members : List (Option String × Node)} :
    (members.find? fun m => m.1 == some name).map (·.2) = none ↔
      ∀ m ∈ members, m.1 ≠ some name := by
  simp only [Option.map_eq_none_iff, List.find?_eq_none, beq_iff_eq, ne_eq]

/-- The fields of an object, if they can be read. -/
theorem read?_object_eq_some_iff {names : List String} {members : List (Option String × Node)}
    {fields : Fields} :
    read? names (.object members) = some fields ↔
      ((∀ m ∈ members, m.1 ≠ none) ∧
        ∀ name ∈ names, members.countP (fun m => m.1 == some name) ≤ 1) ∧
      { nodes := names.map fun name => (members.find? fun m => m.1 == some name).map (·.2),
        byPosition := false } = fields := by
  rw [read?, Option.ite_none_right_eq_some, wellNamed_iff, Option.some.injEq]

end Fields

namespace Shape

theorem natural_eq_some_iff {bound v : Nat} {node : Node} :
    natural bound node = some v ↔ node = .number (some (.int v)) ∧ v < bound := by
  simp only [natural, integer, Option.bind_eq_bind, Option.bind_eq_some_iff,
    Option.ite_none_right_eq_some, Option.some.injEq]
  constructor
  · rintro ⟨n, hn, ⟨hpos, hbound⟩, rfl⟩
    split at hn
    · cases hn
      rw [Int.toNat_of_nonneg hpos]
      exact ⟨rfl, hbound⟩
    · cases hn
  · rintro ⟨rfl, hbound⟩
    exact ⟨v, rfl, ⟨Int.natCast_nonneg v, hbound⟩, rfl⟩

end Shape

end Json

namespace Envelope

variable {α : Type} {shape : Json.Shape α} {absent : Option α} {v : Nat} {a : α}

/-- A node holds a version and a value. -/
inductive Holds (shape : Json.Shape α) (absent : Option α) (v : Nat) (a : α) : Json.Node → Prop
  /-- An object with a version and data. -/
  | given {members : List (Option String × Json.Node)} {data : Json.Node}
      (hreadable : ∀ m ∈ members, m.1 ≠ none)
      (hversion : Json.Sole "v" (.number (some (.int v))) members)
      (hdata : Json.Sole "data" data members) (h : shape data = some a) :
      Holds shape absent v a (.object members)
  /-- An object with a version and no data. -/
  | missing {members : List (Option String × Json.Node)}
      (hreadable : ∀ m ∈ members, m.1 ≠ none)
      (hversion : Json.Sole "v" (.number (some (.int v))) members)
      (hdata : ∀ m ∈ members, m.1 ≠ some "data") (h : absent = some a) :
      Holds shape absent v a (.object members)
  /-- An array of a version and data. -/
  | listed {data : Json.Node} (h : shape data = some a) :
      Holds shape absent v a (.array [.number (some (.int v)), data])

/-- An envelope is read off the two fields of a record. -/
theorem holds_iff_fields {n : Json.Node} :
    Holds shape absent v a n ↔
      ∃ fields, Json.Fields.read? ["v", "data"] n = some fields ∧
        fields.at? 0 = some (.number (some (.int v))) ∧
        ((∃ data, fields.at? 1 = some data ∧ shape data = some a) ∨
          (fields.at? 1 = none ∧ fields.byPosition = false ∧ absent = some a)) := by
  constructor
  · intro h
    cases h with
    | given hreadable hversion hdata h =>
        refine ⟨_, Json.Fields.read?_object_eq_some_iff.mpr ⟨⟨hreadable, ?_⟩, rfl⟩,
          (Json.Fields.node_eq_some_iff hversion.countP_le).mpr hversion,
          .inl ⟨_, (Json.Fields.node_eq_some_iff hdata.countP_le).mpr hdata, h⟩⟩
        simpa using ⟨hversion.countP_le, hdata.countP_le⟩
    | @missing members hreadable hversion hdata h =>
        have hnone : members.countP (fun m => m.1 == some "data") = 0 :=
          List.countP_eq_zero.mpr fun m hm => by simpa using hdata m hm
        refine ⟨_, Json.Fields.read?_object_eq_some_iff.mpr ⟨⟨hreadable, ?_⟩, rfl⟩,
          (Json.Fields.node_eq_some_iff hversion.countP_le).mpr hversion,
          .inr ⟨Json.Fields.node_eq_none_iff.mpr hdata, rfl, h⟩⟩
        simpa using ⟨hversion.countP_le, hnone.le.trans (Nat.zero_le 1)⟩
    | listed h => exact ⟨_, rfl, rfl, .inl ⟨_, rfl, h⟩⟩
  · rintro ⟨fields, hread, hversion, hdata⟩
    cases n with
    | object members =>
        rcases Json.Fields.read?_object_eq_some_iff.mp hread with ⟨⟨hreadable, hsole⟩, rfl⟩
        have hversion := (Json.Fields.node_eq_some_iff (hsole "v" (by decide))).mp hversion
        rcases hdata with ⟨data, hdata, h⟩ | ⟨hdata, -, h⟩
        · exact .given hreadable hversion
            ((Json.Fields.node_eq_some_iff (hsole "data" (by decide))).mp hdata) h
        · exact .missing hreadable hversion (Json.Fields.node_eq_none_iff.mp hdata) h
    | array items =>
        rcases items with _ | ⟨first, _ | ⟨second, _ | ⟨third, more⟩⟩⟩
        · cases hread
          cases hversion
        · cases hread
          rcases hdata with ⟨data, hdata, -⟩ | ⟨-, hnamed, -⟩
          · cases hdata
          · cases hnamed
        · cases hread
          cases hversion
          rcases hdata with ⟨data, hdata, h⟩ | ⟨-, hnamed, -⟩
          · cases hdata
            exact .listed h
          · cases hnamed
        · cases hread
    | _ => cases hread

theorem read?_eq_some_iff {s : String} :
    read? shape absent s = some (v, a) ↔
      v < UInt32.size ∧ ∃ n, Json.Padded n s.toList ∧ Holds shape absent v a n := by
  simp only [read?, Option.bind_eq_bind, Option.bind_eq_some_iff, Json.Node.read?_eq_some_iff,
    Json.Shape.natural_eq_some_iff, holds_iff_fields]
  constructor
  · rintro ⟨n, hn, fields, hfields, node, hnode, v', ⟨rfl, hv⟩, h⟩
    split at h
    next data hdata =>
      simp only [Option.bind_eq_some_iff, Option.pure_def, Option.some.injEq,
        Prod.mk.injEq] at h
      rcases h with ⟨_, h, rfl, rfl⟩
      exact ⟨hv, n, hn, fields, hfields, hnode, .inl ⟨data, hdata, h⟩⟩
    next hdata =>
      simp only [Option.bind_eq_some_iff, Option.pure_def, Option.some.injEq, Prod.mk.injEq,
        Option.ite_none_left_eq_some, Bool.not_eq_true] at h
      rcases h with ⟨hnamed, _, h, rfl, rfl⟩
      exact ⟨hv, n, hn, fields, hfields, hnode, .inr ⟨hdata, hnamed, h⟩⟩
  · rintro ⟨hv, n, hn, fields, hfields, hnode, h⟩
    refine ⟨n, hn, fields, hfields, _, hnode, v, ⟨rfl, hv⟩, ?_⟩
    rcases h with ⟨data, hdata, h⟩ | ⟨hdata, hnamed, h⟩
    · simp only [hdata, h]
      rfl
    · simp only [hdata, hnamed, h]
      rfl

theorem decode_eq_ok_iff {s : String} :
    decode shape absent s = .ok a ↔
      ∃ n, Json.Padded n s.toList ∧ Holds shape absent version a n := by
  have hread : read? shape absent s = some (version, a) ↔
      ∃ n, Json.Padded n s.toList ∧ Holds shape absent version a n :=
    read?_eq_some_iff.trans (and_iff_right (by decide))
  rw [← hread, decode]
  split
  next hnone =>
    rw [hnone]
    exact iff_of_false nofun nofun
  next v data hsome =>
    rw [hsome, Option.some.injEq, Prod.mk.injEq]
    split
    next hversion =>
      rw [Except.ok.injEq]
      exact (and_iff_right hversion).symm
    next hversion => exact iff_of_false nofun fun h => hversion h.1

/-- A column is read by what the text in it is decoded to. -/
theorem structured_eq_ok_iff {r : Row} {column : String} :
    r.structured shape column = .ok (some a) ↔
      ∃ s, (r.get? column = some (.text s) ∨
          ∃ b, r.get? column = some (.bytes b) ∧ Text.ofBytesLossy b = s) ∧
        decode shape none s = .ok a := by
  have decoded (s : String) :
      (decode shape none s >>= fun data => pure (some data)) = (.ok (some a) : Except Error _) ↔
        decode shape none s = .ok a := by
    cases decode shape none s <;> simp [bind, Except.bind, pure, Except.pure]
  simp only [Row.structured, Row.require]
  cases r.get? column with
  | none => exact iff_of_false nofun nofun
  | some cell =>
      cases cell with
      | text s => exact (decoded s).trans (by simp)
      | bytes b => exact (decoded (Text.ofBytesLossy b)).trans (by simp)
      | _ => exact iff_of_false nofun (by simp)

/-- A text is decoded exactly if it spells an object whose only `v` is the version, or an array of
    the version and the data; the value is what the data is read as, or what stands for its
    absence. A structured column is read exactly if it holds such a text, or its bytes. -/
theorem accepts_iff {α : Type} (shape : Json.Shape α) (absent : Option α) (s : String) (a : α) :
    (decode shape absent s = .ok a ↔
      ∃ n, Json.Padded n s.toList ∧ Holds shape absent version a n) ∧
    ∀ (r : Row) (column : String),
      r.structured shape column = .ok (some a) ↔
        ∃ s, (r.get? column = some (.text s) ∨
            ∃ b, r.get? column = some (.bytes b) ∧ Text.ofBytesLossy b = s) ∧
          ∃ n, Json.Padded n s.toList ∧ Holds shape none version a n :=
  ⟨decode_eq_ok_iff, fun r column => by simp only [structured_eq_ok_iff, decode_eq_ok_iff]⟩

/-- An array is decoded although it is no object. -/
theorem decodes_listed :
    decode (Json.Shape.list Json.Shape.int64) none "[1,[2]]" = .ok [2] ∧
      ¬ ∃ members, Json.Padded (.object members) "[1,[2]]".toList := by
  let listed : Json := .array [.number (.int 1), .array [.number (.int 2)]]
  have hexact : listed.Exact :=
    ⟨⟨by decide, by decide⟩, ⟨⟨by decide, by decide⟩, trivial⟩, trivial⟩
  have htext : listed.text = "[1,[2]]" := by decide
  have hread : Json.Node.read? "[1,[2]]" = some listed.node := htext ▸ Json.read?_text hexact
  have hpadded := Json.Node.read?_eq_some_iff.mp hread
  refine ⟨decode_eq_ok_iff.mpr ⟨_, hpadded, .listed rfl⟩, ?_⟩
  rintro ⟨members, hobject⟩
  cases hread.symm.trans (Json.Node.read?_eq_some_iff.mpr hobject)

end Envelope

end SqlMapper
