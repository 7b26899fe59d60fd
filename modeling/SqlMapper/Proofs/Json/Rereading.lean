import SqlMapper.Proofs.Json.Grammar
import SqlMapper.Proofs.Json.Merging

/-!
# Values Read Back

What the reader makes of a printed value.

A printed value is a text of the grammar that spells the value, provided that it
holds no floating-point number and no integer beyond 64 bits, so it is read back.
No blank is printed. The lists are printed with the comma in front of every
entry but the first, and with the bracket behind the last one, so the entries of
a list are what stands between a comma and the bracket.

What is read back is a node. It denotes the value that was printed if the keys
of every object stand in order, because giving a node its meaning puts the
members in order, the last of equal keys winning.

## Main definitions

* `Json.Exact`: No floating-point number, and no integer beyond 64 bits.

## Theorems

* `Json.spelled_chars`: A printed value is a text that spells it.
* `Json.read?_text`: A printed text is read back.
* `Json.json?_node`: A value with its keys in order is what its node denotes.
-/

namespace SqlMapper

namespace Json

mutual

/-- There is no floating-point number, and every integer is kept exactly. -/
def Exact : Json → Prop
  | .number (.int n) => Fits64 n
  | .number (.float _) => False
  | .array items => ExactItems items
  | .object members => ExactMembers members
  | _ => True

/-- Every item is exact. -/
def ExactItems : List Json → Prop
  | [] => True
  | item :: rest => Exact item ∧ ExactItems rest

/-- The value of every member is exact. -/
def ExactMembers : List (String × Json) → Prop
  | [] => True
  | (_, value) :: rest => Exact value ∧ ExactMembers rest

end

theorem Spelled.padded {n : Node} {text : List Char} (h : Spelled n text) : Padded n text := by
  have hpadded := Padded.mk blank_nil h blank_nil
  rwa [List.nil_append, List.append_nil] at hpadded

/-- A printed string is an opening quote and what is read behind it. -/
theorem stringChars_eq (s : String) :
    ∃ quoted, stringChars s = '"' :: quoted ∧ string? quoted = some (some s, []) :=
  ⟨_, rfl, string?_flatMap s []⟩

theorem paddedKey_stringChars (key : String) : PaddedKey (some key) (stringChars key) := by
  rcases stringChars_eq key with ⟨quoted, htext, hread⟩
  exact ⟨[], quoted, [], blank_nil, hread, blank_nil, by rw [htext, List.append_nil]; rfl⟩

mutual

/-- A printed value spells the value. -/
theorem spelled_chars : ∀ {j : Json}, j.Exact → Spelled j.node (chars j)
  | .null, _ => .nullWord
  | .bool true, _ => .trueWord
  | .bool false, _ => .falseWord
  | .number (.float _), h => h.elim
  | .number (.int n), h => by
      rcases @numeral?_numberChars n h [] stops_nil with ⟨m, hread, hvalue⟩
      rw [List.append_nil] at hread
      rw [node, ← hvalue]
      exact .number hread
  | .string s, _ => by
      rcases stringChars_eq s with ⟨quoted, htext, hread⟩
      rw [chars, htext]
      exact .string hread
  | .array [], _ => .noItems blank_nil
  | .array (item :: more), h => by
      rcases spelledItems_itemChars h nofun with ⟨text, htext, hchars⟩
      have htail : chars item ++ itemChars more = text ++ [']'] := (List.cons.inj hchars).2
      rw [chars, List.cons_append, htail]
      exact .array htext
  | .object [], _ => .noMembers blank_nil
  | .object ((key, value) :: more), h => by
      rcases spelledMembers_memberChars h nofun with ⟨text, htext, hchars⟩
      have htail : stringChars key ++ ':' :: chars value ++ memberChars more = text ++ ['\x7d'] :=
        (List.cons.inj hchars).2
      rw [chars, List.cons_append, List.cons_append, htail]
      exact .object htext

/-- So do the items of an array. -/
theorem spelledItems_itemChars : ∀ {items : List Json}, ExactItems items → items ≠ [] →
    ∃ text, SpelledItems (itemNodes items) text ∧ itemChars items = ',' :: text ++ [']']
  | [], _, hne => absurd rfl hne
  | [item], h, _ => ⟨_, .last (spelled_chars h.1).padded, rfl⟩
  | item :: next :: more, h, _ => by
      rcases spelledItems_itemChars h.2 nofun with ⟨text, htext, hchars⟩
      refine ⟨_, .next (spelled_chars h.1).padded htext, ?_⟩
      rw [itemChars, hchars]
      simp only [List.cons_append, List.append_assoc]

/-- And the members of an object. -/
theorem spelledMembers_memberChars : ∀ {members : List (String × Json)}, ExactMembers members →
    members ≠ [] → ∃ text, SpelledMembers (memberNodes members) text
      ∧ memberChars members = ',' :: text ++ ['\x7d']
  | [], _, hne => absurd rfl hne
  | [(key, value)], h, _ => by
      refine ⟨_, .last (paddedKey_stringChars key) (spelled_chars h.1).padded, ?_⟩
      simp only [memberChars, List.cons_append, List.append_assoc]
  | (key, value) :: next :: more, h, _ => by
      rcases spelledMembers_memberChars h.2 nofun with ⟨text, htext, hchars⟩
      refine ⟨_, .next (paddedKey_stringChars key) (spelled_chars h.1).padded htext, ?_⟩
      rw [memberChars, hchars]
      simp only [List.cons_append, List.append_assoc]

end

/-- A printed text is read back. -/
theorem read?_text {j : Json} (h : j.Exact) : Node.read? j.text = some j.node := by
  rw [Node.read?_eq_some_iff, text, String.toList_ofList]
  exact (spelled_chars h).padded

/-! ### Nodes -/

/-- A key beyond all others is set behind them. -/
theorem put_last {key : String} {members : List (String × Json)}
    (h : ∀ k ∈ members.map (·.1), k < key) (value : Json) :
    put key value members = members ++ [(key, value)] := by
  induction members with
  | nil => rfl
  | cons m rest ih =>
      have hm : m.1 < key := h m.1 List.mem_cons_self
      rw [put, if_neg hm.ne', if_neg hm.not_gt, ih fun k hk => h k (List.mem_cons_of_mem _ hk)]
      rfl

/-- Members that stand in order stay as they are. -/
theorem ofPairs_of_pairwise {members : List (String × Json)}
    (h : (members.map (·.1)).Pairwise (· < ·)) : ofPairs members = members := by
  -- Whatever was gathered so far stands before the rest.
  suffices hfold : ∀ gathered : List (String × Json),
      ((gathered ++ members).map (·.1)).Pairwise (· < ·) →
      members.foldl (fun ms p => put p.1 p.2 ms) gathered = gathered ++ members from
    hfold [] h
  induction members with
  | nil => exact fun gathered _ => (List.append_nil gathered).symm
  | cons m rest ih =>
      intro gathered hgathered
      have hbefore : ∀ k ∈ gathered.map (·.1), k < m.1 := by
        rw [List.map_append, List.pairwise_append] at hgathered
        exact fun k hk => hgathered.2.2 k hk m.1 List.mem_cons_self
      have hsame : gathered ++ m :: rest = gathered ++ [m] ++ rest := by
        rw [List.append_assoc, List.singleton_append]
      rw [hsame] at hgathered ⊢
      rw [List.foldl_cons, put_last hbefore]
      exact ih (List.pairwise_cons.mp h).2 _ hgathered

mutual

/-- A value with its keys in order is what its node denotes. -/
theorem json?_node : ∀ {j : Json}, j.Ordered → j.node.json? = some j
  | .null, _ | .bool _, _ | .number _, _ | .string _, _ => rfl
  | .array items, h => by
      rw [node, Node.json?, itemsJson?_itemNodes h, Option.map_some]
  | .object members, h => by
      rw [node, Node.json?, membersJson?_memberNodes h.2, Option.map_some,
        ofPairs_of_pairwise h.1]

theorem itemsJson?_itemNodes : ∀ {items : List Json}, OrderedItems items →
    Node.itemsJson? (itemNodes items) = some items
  | [], _ => rfl
  | item :: rest, h => by
      simp only [itemNodes, Node.itemsJson?, json?_node h.1, itemsJson?_itemNodes h.2,
        Option.bind_eq_bind, Option.bind_some]
      rfl

theorem membersJson?_memberNodes : ∀ {members : List (String × Json)}, OrderedMembers members →
    Node.membersJson? (memberNodes members) = some members
  | [], _ => rfl
  | (key, value) :: rest, h => by
      simp only [memberNodes, Node.membersJson?, json?_node h.1, membersJson?_memberNodes h.2,
        Option.bind_eq_bind, Option.bind_some]
      rfl

end

end Json

end SqlMapper
