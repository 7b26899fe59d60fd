import SqlMapper.Proofs.Json.Lexemes

/-!
# JSON Texts

Which texts are JSON, and which values they spell.

A grammar says how a text is put together from tokens. It knows blanks around
values and keys, commas between the entries of a list and colons behind keys,
and neither fuel nor what is left of a text. The reader is then right in both
directions. What it takes off a text is spelled by the characters that it takes,
which goes by induction on the fuel. And a text that spells a value is read as
that value, up to what follows it, provided that no number goes on there; this
goes by induction on the grammar.

A value inside of a list takes two calls, one for the value and one for the list
that goes on behind it, and it takes two characters, its own and the comma or
the bracket. Twice the length is therefore fuel enough.

## Main definitions

* `Json.Blank`: Nothing but blanks.
* `Json.Spelled`: A text spells a value.
* `Json.Padded`: A text spells a value with blanks around it.
* `Json.SpelledItems`, `Json.SpelledMembers`: A text spells the entries of a list.

## Theorems

* `Json.readsSpelled`: Whatever is read is spelled.
* `Json.Spelled.value?`: Whatever is spelled is read.
* `Json.Node.read?_eq_some_iff`: The whole texts that are read, and as what.
-/

namespace SqlMapper

namespace Json

/-- Nothing but blanks. -/
def Blank (cs : List Char) : Prop :=
  ∀ c ∈ cs, isSpace c = true

/-! ### Blanks -/

theorem blank_nil : Blank [] :=
  nofun

theorem skipSpace_cons {c : Char} (h : isSpace c = false) (cs : List Char) :
    skipSpace (c :: cs) = c :: cs :=
  List.dropWhile_cons_of_neg (by rw [h]; decide)

theorem skipSpace_append {before : List Char} (h : Blank before) (cs : List Char) :
    skipSpace (before ++ cs) = skipSpace cs :=
  List.dropWhile_append_of_pos h

theorem exists_blank (cs : List Char) : ∃ before, Blank before ∧ cs = before ++ skipSpace cs :=
  ⟨cs.takeWhile isSpace, fun _ => List.mem_takeWhile_imp, List.takeWhile_append_dropWhile.symm⟩

theorem skipSpace_skipSpace (cs : List Char) : skipSpace (skipSpace cs) = skipSpace cs := by
  rcases exists_blank cs with ⟨before, hbefore, hcs⟩
  rw [← skipSpace_append hbefore, ← hcs]

theorem isEmpty_skipSpace {cs : List Char} : (skipSpace cs).isEmpty = true ↔ Blank cs := by
  rw [List.isEmpty_iff, skipSpace, List.dropWhile_eq_nil_iff]
  rfl

/-! ### Grammar -/

/-- A text spells a key with blanks around it. -/
def PaddedKey (key : Option String) (text : List Char) : Prop :=
  ∃ before quoted behind, Blank before ∧ string? quoted = some (key, []) ∧ Blank behind
    ∧ text = before ++ '"' :: quoted ++ behind

mutual

/-- A text spells a value, from its first character to its last. -/
inductive Spelled : Node → List Char → Prop
  /-- The word `null`. -/
  | nullWord : Spelled .null ['n', 'u', 'l', 'l']
  /-- The word `true`. -/
  | trueWord : Spelled (.bool true) ['t', 'r', 'u', 'e']
  /-- The word `false`. -/
  | falseWord : Spelled (.bool false) ['f', 'a', 'l', 's', 'e']
  /-- A number. -/
  | number {m : Numeral} {text : List Char} (h : numeral? text = some (m, [])) :
      Spelled (.number m.value?) text
  /-- A string, from its opening quote to its closing one. -/
  | string {s : Option String} {text : List Char} (h : string? text = some (s, [])) :
      Spelled (.string s) ('"' :: text)
  /-- An array without items. -/
  | noItems {blank : List Char} (h : Blank blank) :
      Spelled (.array []) ('[' :: blank ++ [']'])
  /-- An array with items. -/
  | array {items : List Node} {text : List Char} (h : SpelledItems items text) :
      Spelled (.array items) ('[' :: text ++ [']'])
  /-- An object without members. -/
  | noMembers {blank : List Char} (h : Blank blank) :
      Spelled (.object []) ('\x7b' :: blank ++ ['\x7d'])
  /-- An object with members. -/
  | object {members : List (Option String × Node)} {text : List Char}
      (h : SpelledMembers members text) : Spelled (.object members) ('\x7b' :: text ++ ['\x7d'])

/-- A text spells a value with blanks around it. -/
inductive Padded : Node → List Char → Prop
  /-- Blanks before and behind. -/
  | mk {node : Node} {before text behind : List Char} (hbefore : Blank before)
      (h : Spelled node text) (hbehind : Blank behind) : Padded node (before ++ text ++ behind)

/-- A text spells items with commas between them. -/
inductive SpelledItems : List Node → List Char → Prop
  /-- The last item. -/
  | last {item : Node} {text : List Char} (h : Padded item text) : SpelledItems [item] text
  /-- An item with others behind it. -/
  | next {item : Node} {items : List Node} {text more : List Char} (h : Padded item text)
      (hmore : SpelledItems items more) : SpelledItems (item :: items) (text ++ ',' :: more)

/-- A text spells members with commas between them, each a key and a value with a colon between
    them. -/
inductive SpelledMembers : List (Option String × Node) → List Char → Prop
  /-- The last member. -/
  | last {key : Option String} {value : Node} {keyText text : List Char}
      (hkey : PaddedKey key keyText) (h : Padded value text) :
      SpelledMembers [(key, value)] (keyText ++ ':' :: text)
  /-- A member with others behind it. -/
  | next {key : Option String} {value : Node} {members : List (Option String × Node)}
      {keyText text more : List Char} (hkey : PaddedKey key keyText) (h : Padded value text)
      (hmore : SpelledMembers members more) :
      SpelledMembers ((key, value) :: members) (keyText ++ ':' :: text ++ ',' :: more)

end

/-! ### Blanks in front -/

theorem Blank.append {before behind : List Char} (h : Blank before) (hbehind : Blank behind) :
    Blank (before ++ behind) := by
  intro c hc
  exact (List.mem_append.mp hc).elim (h c) (hbehind c)

variable {blank : List Char} (hblank : Blank blank)

include hblank

theorem Padded.blank_append {node : Node} {text : List Char} (h : Padded node text) :
    Padded node (blank ++ text) := by
  rcases h with ⟨hbefore, htext, hbehind⟩
  rw [← List.append_assoc, ← List.append_assoc]
  exact .mk (hblank.append hbefore) htext hbehind

theorem SpelledItems.blank_append {items : List Node} {text : List Char}
    (h : SpelledItems items text) : SpelledItems items (blank ++ text) := by
  cases h with
  | last h => exact .last (h.blank_append hblank)
  | next h hmore =>
      rw [← List.append_assoc]
      exact .next (h.blank_append hblank) hmore

theorem PaddedKey.blank_append {key : Option String} {text : List Char} (h : PaddedKey key text) :
    PaddedKey key (blank ++ text) := by
  rcases h with ⟨before, quoted, behind, hbefore, hread, hbehind, rfl⟩
  refine ⟨blank ++ before, quoted, behind, hblank.append hbefore, hread, hbehind, ?_⟩
  simp only [List.append_assoc]

theorem SpelledMembers.blank_append {members : List (Option String × Node)} {text : List Char}
    (h : SpelledMembers members text) : SpelledMembers members (blank ++ text) := by
  cases h with
  | last hkey h =>
      rw [← List.append_assoc]
      exact .last (hkey.blank_append hblank) h
  | next hkey h hmore =>
      rw [← List.append_assoc, ← List.append_assoc]
      exact .next (hkey.blank_append hblank) h hmore

omit hblank

/-! ### Whatever is read is spelled -/

theorem after?_eq_some_iff {word cs rest : List Char} :
    after? word cs = some rest ↔ cs = word ++ rest := by
  rw [after?, Option.ite_none_right_eq_some, List.isPrefixOf_iff_prefix, Option.some.injEq]
  constructor
  · rintro ⟨⟨more, rfl⟩, rfl⟩
    rw [List.drop_left]
  · rintro rfl
    exact ⟨List.prefix_append _ _, List.drop_left⟩

/-- Whatever is read with so much fuel is spelled by the characters that it takes. -/
structure ReadsSpelled (fuel : Nat) : Prop where
  value : ∀ {cs rest : List Char} {n : Node}, Node.value? fuel cs = some (n, rest) →
    ∃ text, Padded n text ∧ cs = text ++ skipSpace rest
  items : ∀ {cs rest : List Char} {items : List Node}, Node.items? fuel cs = some (items, rest) →
    ∃ text, SpelledItems items text ∧ cs = text ++ ']' :: rest
  members : ∀ {cs rest : List Char} {members : List (Option String × Node)},
    Node.members? fuel cs = some (members, rest) →
      ∃ text, SpelledMembers members text ∧ cs = text ++ '\x7d' :: rest

variable {fuel : Nat} {cs rest : List Char}

theorem ReadsSpelled.spelled (hfuel : ReadsSpelled fuel) {n : Node}
    (h : Node.value? (fuel + 1) cs = some (n, rest)) :
    ∃ text, Spelled n text ∧ skipSpace cs = text ++ rest := by
  unfold Node.value? at h
  split at h
  next => cases h
  next behind hcs =>
    simp only [Option.map_eq_some_iff, Prod.mk.injEq] at h
    rcases h with ⟨⟨s, after⟩, hread, rfl, rfl⟩
    rcases string?_takes hread with ⟨text, rfl, htakes⟩
    exact ⟨'"' :: text, .string htakes.whole, hcs⟩
  next behind hcs =>
    rcases exists_blank behind with ⟨blank, hblank, hbehind⟩
    split at h
    next after hafter =>
      cases h
      refine ⟨_, .noItems hblank, ?_⟩
      rw [hcs, hbehind, hafter]
      simp only [List.cons_append, List.append_assoc, List.nil_append]
    next =>
      simp only [Option.map_eq_some_iff, Prod.mk.injEq] at h
      rcases h with ⟨⟨items, after⟩, hread, rfl, rfl⟩
      rcases hfuel.items hread with ⟨text, htext, hafter⟩
      refine ⟨_, .array (htext.blank_append hblank), ?_⟩
      rw [hcs, hbehind, hafter]
      simp only [List.cons_append, List.append_assoc, List.nil_append]
  next behind hcs =>
    rcases exists_blank behind with ⟨blank, hblank, hbehind⟩
    split at h
    next after hafter =>
      cases h
      refine ⟨_, .noMembers hblank, ?_⟩
      rw [hcs, hbehind, hafter]
      simp only [List.cons_append, List.append_assoc, List.nil_append]
    next =>
      simp only [Option.map_eq_some_iff, Prod.mk.injEq] at h
      rcases h with ⟨⟨members, after⟩, hread, rfl, rfl⟩
      rcases hfuel.members hread with ⟨text, htext, hafter⟩
      refine ⟨_, .object (htext.blank_append hblank), ?_⟩
      rw [hcs, hbehind, hafter]
      simp only [List.cons_append, List.append_assoc, List.nil_append]
  next c behind _ _ _ hcs =>
    rw [hcs]
    split_ifs at h with hn ht hf
    · simp only [Option.map_eq_some_iff, Prod.mk.injEq] at h
      rcases h with ⟨after, hafter, rfl, rfl⟩
      exact ⟨_, .nullWord, by rw [hn, after?_eq_some_iff.mp hafter]; rfl⟩
    · simp only [Option.map_eq_some_iff, Prod.mk.injEq] at h
      rcases h with ⟨after, hafter, rfl, rfl⟩
      exact ⟨_, .trueWord, by rw [ht, after?_eq_some_iff.mp hafter]; rfl⟩
    · simp only [Option.map_eq_some_iff, Prod.mk.injEq] at h
      rcases h with ⟨after, hafter, rfl, rfl⟩
      exact ⟨_, .falseWord, by rw [hf, after?_eq_some_iff.mp hafter]; rfl⟩
    · simp only [Option.map_eq_some_iff, Prod.mk.injEq] at h
      rcases h with ⟨⟨m, after⟩, hread, rfl, rfl⟩
      rcases numeral?_takes hread with ⟨d, text, hnumber, -, htakes⟩
      exact ⟨d :: text, .number htakes.whole, hnumber⟩

theorem ReadsSpelled.padded (hfuel : ReadsSpelled fuel) {n : Node}
    (h : Node.value? (fuel + 1) cs = some (n, rest)) :
    ∃ text, Padded n text ∧ cs = text ++ skipSpace rest := by
  rcases hfuel.spelled h with ⟨text, htext, hcs⟩
  rcases exists_blank cs with ⟨before, hbefore, hbeforecs⟩
  rcases exists_blank rest with ⟨behind, hbehind, hrest⟩
  refine ⟨before ++ text ++ behind, .mk hbefore htext hbehind, ?_⟩
  rw [hbeforecs, hcs, List.append_assoc, List.append_assoc, ← hrest]

theorem ReadsSpelled.listed (hfuel : ReadsSpelled fuel) {items : List Node}
    (h : Node.items? (fuel + 1) cs = some (items, rest)) :
    ∃ text, SpelledItems items text ∧ cs = text ++ ']' :: rest := by
  simp only [Node.items?, Option.bind_eq_bind, Option.bind_eq_some_iff] at h
  rcases h with ⟨⟨item, behind⟩, hread, h⟩
  rcases hfuel.value hread with ⟨text, htext, rfl⟩
  split at h
  next after hafter => 
    cases h
    exact ⟨text, .last htext, by rw [hafter]⟩
  next more hmore => 
    simp only [Option.bind_eq_some_iff, Option.pure_def, Option.some.injEq, Prod.mk.injEq] at h
    rcases h with ⟨⟨items, after⟩, hread, rfl, rfl⟩
    rcases hfuel.items hread with ⟨text', htext', rfl⟩
    refine ⟨_, .next htext htext', ?_⟩
    rw [hmore]
    simp only [List.cons_append, List.append_assoc]
  next => cases h

theorem ReadsSpelled.named (hfuel : ReadsSpelled fuel) {members : List (Option String × Node)}
    (h : Node.members? (fuel + 1) cs = some (members, rest)) :
    ∃ text, SpelledMembers members text ∧ cs = text ++ '\x7d' :: rest := by
  rcases exists_blank cs with ⟨before, hbefore, hcs⟩
  unfold Node.members? at h
  split at h
  next quoted hquoted =>
    simp only [Option.bind_eq_bind, Option.bind_eq_some_iff] at h
    rcases h with ⟨⟨key, behindKey⟩, hkey, h⟩
    rcases string?_takes hkey with ⟨keyText, rfl, htakes⟩
    rcases exists_blank behindKey with ⟨behind, hbehind, hcolon⟩
    split at h
    next beforeValue hvalue =>
      simp only [Option.bind_eq_some_iff] at h
      rcases h with ⟨⟨value, behindValue⟩, hread, h⟩
      rcases hfuel.value hread with ⟨text, htext, rfl⟩
      have hpadded : PaddedKey key (before ++ '"' :: keyText ++ behind) :=
        ⟨before, keyText, behind, hbefore, htakes.whole, hbehind, rfl⟩
      split at h
      next after hafter =>
        cases h
        refine ⟨_, .last hpadded htext, ?_⟩
        rw [hcs, hquoted, hcolon, hvalue, hafter]
        simp only [List.cons_append, List.append_assoc]
      next more hmore =>
        simp only [Option.bind_eq_some_iff, Option.pure_def, Option.some.injEq,
          Prod.mk.injEq] at h
        rcases h with ⟨⟨members, after⟩, hread, rfl, rfl⟩
        rcases hfuel.members hread with ⟨text', htext', rfl⟩
        refine ⟨_, .next hpadded htext htext', ?_⟩
        rw [hcs, hquoted, hcolon, hvalue, hmore]
        simp only [List.cons_append, List.append_assoc]
      next => cases h
    next => cases h
  next => cases h

theorem readsSpelled (fuel : Nat) : ReadsSpelled fuel := by
  induction fuel with
  | zero => exact ⟨nofun, nofun, nofun⟩
  | succ fuel ih => exact ⟨ih.padded, ih.listed, ih.named⟩

/-! ### Whatever is spelled is read -/

theorem value?_skipSpace (fuel : Nat) (cs : List Char) :
    Node.value? fuel (skipSpace cs) = Node.value? fuel cs := by
  cases fuel with
  | zero => rfl
  | succ fuel =>
      unfold Node.value?
      rw [skipSpace_skipSpace]

theorem items?_skipSpace (fuel : Nat) (cs : List Char) :
    Node.items? fuel (skipSpace cs) = Node.items? fuel cs := by
  cases fuel with
  | zero => rfl
  | succ fuel => simp only [Node.items?, value?_skipSpace]

theorem members?_skipSpace (fuel : Nat) (cs : List Char) :
    Node.members? fuel (skipSpace cs) = Node.members? fuel cs := by
  cases fuel with
  | zero => rfl
  | succ fuel =>
      unfold Node.members?
      rw [skipSpace_skipSpace]

/-- The first character of an integer is not one that begins anything else. -/
theorem ne_of_leading {c d : Char} (hc : c = '-' ∨ Decimal.isDigit c = true)
    (hd : d ≠ '-' ∧ Decimal.isDigit d = false) : c ≠ d := by
  rintro rfl
  rcases hc with hc | hc
  · exact hd.1 hc
  · rw [hd.2] at hc
    cases hc

theorem isSpace_of_leading {c : Char} (hc : c = '-' ∨ Decimal.isDigit c = true) :
    isSpace c = false := by
  simp only [isSpace, Bool.or_eq_false_iff, beq_eq_false_iff_ne]
  exact ⟨⟨⟨ne_of_leading hc (by decide), ne_of_leading hc (by decide)⟩,
    ne_of_leading hc (by decide)⟩, ne_of_leading hc (by decide)⟩

theorem noNumeral_of_isSpace {c : Char} (h : isSpace c = true) : NoNumeral c := by
  simp only [isSpace, Bool.or_eq_true, beq_iff_eq] at h
  rcases h with ((rfl | rfl) | rfl) | rfl <;> decide

theorem stops_cons {c : Char} (h : NoNumeral c) (rest : List Char) :
    ∀ d ∈ (c :: rest).head?, NoNumeral d :=
  fun _ hd => Option.mem_some.mp hd ▸ h

theorem stops_append {behind rest : List Char} (hbehind : Blank behind)
    (hrest : ∀ c ∈ rest.head?, NoNumeral c) : ∀ c ∈ (behind ++ rest).head?, NoNumeral c := by
  intro c hc
  rcases mem_head?_append hc with hc | hc
  · exact noNumeral_of_isSpace (hbehind c (List.mem_of_mem_head? hc))
  · exact hrest c hc

/-- No blank stands in front of a value, and no value begins like the end of an array. -/
theorem Spelled.leading {n : Node} {text : List Char} (h : Spelled n text) :
    ∃ c behind, text = c :: behind ∧ isSpace c = false ∧ c ≠ ']' := by
  cases h with
  | number h =>
      rcases numeral?_takes h with ⟨c, behind, rfl, hc, -⟩
      exact ⟨c, _, rfl, isSpace_of_leading hc, ne_of_leading hc (by decide)⟩
  | _ => exact ⟨_, _, rfl, by decide⟩

theorem Padded.length_pos {n : Node} {text : List Char} (h : Padded n text) :
    0 < text.length := by
  rcases h with ⟨-, htext, -⟩
  rcases htext.leading with ⟨c, behind, rfl, -⟩
  simp only [List.length_append, List.length_cons]
  omega

theorem SpelledItems.leading {items : List Node} {text : List Char} (h : SpelledItems items text)
    (rest : List Char) : ∃ c behind, skipSpace (text ++ rest) = c :: behind ∧ c ≠ ']' := by
  have padded {n : Node} {text : List Char} (h : Padded n text) (rest : List Char) :
      ∃ c behind, skipSpace (text ++ rest) = c :: behind ∧ c ≠ ']' := by
    rcases h with ⟨hbefore, htext, -⟩
    rcases htext.leading with ⟨c, behind, rfl, hspace, hc⟩
    rw [List.append_assoc, List.append_assoc, skipSpace_append hbefore, List.cons_append,
      skipSpace_cons hspace]
    exact ⟨c, _, rfl, hc⟩
  cases h with
  | last h => exact padded h rest
  | next h _ =>
      rw [List.append_assoc]
      exact padded h _

theorem PaddedKey.leading {key : Option String} {text : List Char} (h : PaddedKey key text)
    (rest : List Char) : ∃ quoted behind, Blank behind
      ∧ (∀ other, string? (quoted ++ other) = some (key, other))
      ∧ skipSpace (text ++ rest) = '"' :: (quoted ++ (behind ++ rest)) := by
  rcases h with ⟨before, quoted, behind, hbefore, hread, hbehind, rfl⟩
  rcases string?_takes hread with ⟨_, hcs, htakes⟩
  rw [List.append_nil] at hcs
  refine ⟨quoted, behind, hbehind, fun other => hcs ▸ htakes other fun _ _ => trivial, ?_⟩
  rw [List.append_assoc, List.append_assoc, skipSpace_append hbefore, List.cons_append,
    skipSpace_cons (by decide)]

theorem SpelledMembers.leading {members : List (Option String × Node)} {text : List Char}
    (h : SpelledMembers members text) (rest : List Char) :
    ∃ behind, skipSpace (text ++ rest) = '"' :: behind := by
  cases h with
  | last hkey _ =>
      rw [List.append_assoc]
      rcases hkey.leading _ with ⟨_, _, -, -, hskip⟩
      exact ⟨_, hskip⟩
  | next hkey _ _ =>
      rw [List.append_assoc, List.append_assoc]
      rcases hkey.leading _ with ⟨_, _, -, -, hskip⟩
      exact ⟨_, hskip⟩

theorem value?_bracket {cs behind : List Char} {c : Char} (hcs : skipSpace cs = c :: behind)
    (hc : c ≠ ']') (fuel : Nat) :
    Node.value? (fuel + 1) ('[' :: cs) = (Node.items? fuel cs).map fun r => (.array r.1, r.2) := by
  rw [← items?_skipSpace]
  unfold Node.value?
  rw [skipSpace_cons (by decide)]
  simp only [hcs]
  split
  next h => exact absurd (List.cons.inj h).1 hc
  next => rfl

theorem value?_brace {cs behind : List Char} (hcs : skipSpace cs = '"' :: behind) (fuel : Nat) :
    Node.value? (fuel + 1) ('\x7b' :: cs)
      = (Node.members? fuel cs).map fun r => (.object r.1, r.2) := by
  rw [← members?_skipSpace]
  unfold Node.value?
  rw [skipSpace_cons (by decide)]
  simp only [hcs]
  rfl

theorem value?_noItems {blank : List Char} (h : Blank blank) (fuel : Nat) (rest : List Char) :
    Node.value? (fuel + 1) ('[' :: (blank ++ ']' :: rest)) = some (.array [], rest) := by
  unfold Node.value?
  rw [skipSpace_cons (by decide)]
  simp only [skipSpace_append h, skipSpace_cons (show isSpace ']' = false by decide)]

theorem value?_noMembers {blank : List Char} (h : Blank blank) (fuel : Nat) (rest : List Char) :
    Node.value? (fuel + 1) ('\x7b' :: (blank ++ '\x7d' :: rest)) = some (.object [], rest) := by
  unfold Node.value?
  rw [skipSpace_cons (by decide)]
  simp only [skipSpace_append h, skipSpace_cons (show isSpace '\x7d' = false by decide)]

theorem value?_number {c : Char} (hc : c = '-' ∨ Decimal.isDigit c = true) (fuel : Nat)
    (behind : List Char) :
    Node.value? (fuel + 1) (c :: behind)
      = (numeral? (c :: behind)).map fun r => (.number r.1.value?, r.2) := by
  unfold Node.value?
  rw [skipSpace_cons (isSpace_of_leading hc)]
  split
  next h => cases h
  next h => exact absurd (List.cons.inj h).1 (ne_of_leading hc (by decide))
  next h => exact absurd (List.cons.inj h).1 (ne_of_leading hc (by decide))
  next h => exact absurd (List.cons.inj h).1 (ne_of_leading hc (by decide))
  next h =>
    rcases List.cons.inj h with ⟨rfl, rfl⟩
    rw [if_neg (ne_of_leading hc (by decide)), if_neg (ne_of_leading hc (by decide)),
      if_neg (ne_of_leading hc (by decide))]

theorem items?_of_last {cs behind rest : List Char} {fuel : Nat} {n : Node} (hbehind : Blank behind)
    (h : Node.value? fuel cs = some (n, behind ++ ']' :: rest)) :
    Node.items? (fuel + 1) cs = some ([n], rest) := by
  simp only [Node.items?, h, Option.bind_eq_bind, Option.bind_some, skipSpace_append hbehind,
    skipSpace_cons (show isSpace ']' = false by decide)]
  rfl

theorem items?_of_next {cs behind more rest : List Char} {fuel : Nat} {n : Node} {ns : List Node}
    (hbehind : Blank behind) (h : Node.value? fuel cs = some (n, behind ++ ',' :: more))
    (hmore : Node.items? fuel more = some (ns, rest)) :
    Node.items? (fuel + 1) cs = some (n :: ns, rest) := by
  simp only [Node.items?, h, hmore, Option.bind_eq_bind, Option.bind_some,
    skipSpace_append hbehind, skipSpace_cons (show isSpace ',' = false by decide)]
  rfl

theorem members?_of_last {key : Option String} {keyText cs behind rest : List Char} {fuel : Nat}
    {n : Node} (hkey : PaddedKey key keyText) (hbehind : Blank behind)
    (h : Node.value? fuel cs = some (n, behind ++ '\x7d' :: rest)) :
    Node.members? (fuel + 1) (keyText ++ ':' :: cs) = some ([(key, n)], rest) := by
  rcases hkey.leading (':' :: cs) with ⟨quoted, colon, hcolon, hread, hskip⟩
  unfold Node.members?
  rw [hskip]
  simp only [hread _, h, Option.bind_eq_bind, Option.bind_some, skipSpace_append hcolon,
    skipSpace_append hbehind, skipSpace_cons (show isSpace ':' = false by decide),
    skipSpace_cons (show isSpace '\x7d' = false by decide)]
  rfl

theorem members?_of_next {key : Option String} {keyText cs behind more rest : List Char}
    {fuel : Nat} {n : Node} {ms : List (Option String × Node)} (hkey : PaddedKey key keyText)
    (hbehind : Blank behind) (h : Node.value? fuel cs = some (n, behind ++ ',' :: more))
    (hmore : Node.members? fuel more = some (ms, rest)) :
    Node.members? (fuel + 1) (keyText ++ ':' :: cs) = some ((key, n) :: ms, rest) := by
  rcases hkey.leading (':' :: cs) with ⟨quoted, colon, hcolon, hread, hskip⟩
  unfold Node.members?
  rw [hskip]
  simp only [hread _, h, hmore, Option.bind_eq_bind, Option.bind_some, skipSpace_append hcolon,
    skipSpace_append hbehind, skipSpace_cons (show isSpace ':' = false by decide),
    skipSpace_cons (show isSpace ',' = false by decide)]
  rfl

mutual

/-- A text is read as the value that it spells, up to what follows it. -/
theorem Spelled.value? : ∀ {n : Node} {text : List Char}, Spelled n text →
    ∀ (fuel : Nat) (rest : List Char), 2 * text.length ≤ fuel + 2 →
      (∀ c ∈ rest.head?, NoNumeral c) → Node.value? (fuel + 1) (text ++ rest) = some (n, rest)
  | _, _, .nullWord, _, _, _, _ => rfl
  | _, _, .trueWord, _, _, _, _ => rfl
  | _, _, .falseWord, _, _, _, _ => rfl
  | _, _, .number h, fuel, rest, _, hrest => by
      rcases numeral?_takes h with ⟨c, behind, hcs, hc, htakes⟩
      rw [List.append_nil] at hcs
      rw [hcs, List.cons_append, value?_number hc, ← List.cons_append, htakes rest hrest,
        Option.map_some]
  | _, _, .string h, fuel, rest, _, _ => by
      rcases string?_takes h with ⟨text, hcs, htakes⟩
      rw [List.append_nil] at hcs
      unfold Node.value?
      rw [List.cons_append, skipSpace_cons (by decide)]
      simp only [hcs, htakes rest fun _ _ => trivial, Option.map_some]
  | _, _, .noItems h, fuel, rest, _, _ => by
      simpa only [List.cons_append, List.append_assoc, List.nil_append]
        using value?_noItems h fuel rest
  | _, _, .array h, fuel, rest, hfuel, _ => by
      have hitems := h.items? fuel rest (by
        simp only [List.cons_append, List.length_cons, List.length_append, List.length_nil] at hfuel
        omega)
      rcases h.leading (']' :: rest) with ⟨c, behind, hskip, hc⟩
      simp only [List.cons_append, List.append_assoc, List.nil_append]
      rw [value?_bracket hskip hc, hitems, Option.map_some]
  | _, _, .noMembers h, fuel, rest, _, _ => by
      simpa only [List.cons_append, List.append_assoc, List.nil_append]
        using value?_noMembers h fuel rest
  | _, _, .object h, fuel, rest, hfuel, _ => by
      have hmembers := h.members? fuel rest (by
        simp only [List.cons_append, List.length_cons, List.length_append, List.length_nil] at hfuel
        omega)
      rcases h.leading ('\x7d' :: rest) with ⟨behind, hskip⟩
      simp only [List.cons_append, List.append_assoc, List.nil_append]
      rw [value?_brace hskip, hmembers, Option.map_some]

theorem Padded.value? : ∀ {n : Node} {text : List Char}, Padded n text →
    ∀ (fuel : Nat) (rest : List Char), 2 * text.length ≤ fuel + 2 →
      (∀ c ∈ rest.head?, NoNumeral c) →
        ∃ behind, Blank behind ∧ Node.value? (fuel + 1) (text ++ rest) = some (n, behind ++ rest)
  | _, _, @Padded.mk n before text behind hbefore h hbehind, fuel, rest, hfuel, hrest => by
      have hread := h.value? fuel (behind ++ rest) (by
        simp only [List.length_append] at hfuel
        omega) (stops_append hbehind hrest)
      refine ⟨behind, hbehind, ?_⟩
      rw [List.append_assoc, List.append_assoc, ← value?_skipSpace, skipSpace_append hbefore,
        value?_skipSpace, hread]

theorem SpelledItems.items? : ∀ {items : List Node} {text : List Char}, SpelledItems items text →
    ∀ (fuel : Nat) (rest : List Char), 2 * (text.length + 1) ≤ fuel →
      Node.items? fuel (text ++ ']' :: rest) = some (items, rest)
  | _, _, .last h, fuel, rest, hfuel => by
      -- A value and the list around it take a call each, and at least two characters.
      obtain ⟨fuel, rfl⟩ : ∃ k, fuel = k + 2 := ⟨fuel - 2, by omega⟩
      rcases h.value? fuel (']' :: rest) (by omega) (stops_cons (by decide) rest) with
        ⟨behind, hbehind, hread⟩
      exact items?_of_last hbehind hread
  | _, _, .next h hmore, fuel, rest, hfuel => by
      have hpos := h.length_pos
      simp only [List.length_append, List.length_cons] at hfuel
      obtain ⟨fuel, rfl⟩ : ∃ k, fuel = k + 2 := ⟨fuel - 2, by omega⟩
      have hothers := hmore.items? (fuel + 1) rest (by omega)
      rcases h.value? fuel (',' :: _) (by omega) (stops_cons (by decide) _) with
        ⟨behind, hbehind, hread⟩
      rw [List.append_assoc]
      exact items?_of_next hbehind hread hothers

theorem SpelledMembers.members? : ∀ {members : List (Option String × Node)} {text : List Char},
    SpelledMembers members text → ∀ (fuel : Nat) (rest : List Char),
      2 * (text.length + 1) ≤ fuel →
        Node.members? fuel (text ++ '\x7d' :: rest) = some (members, rest)
  | _, _, .last hkey h, fuel, rest, hfuel => by
      simp only [List.length_append, List.length_cons] at hfuel
      obtain ⟨fuel, rfl⟩ : ∃ k, fuel = k + 2 := ⟨fuel - 2, by omega⟩
      rcases h.value? fuel ('\x7d' :: rest) (by omega) (stops_cons (by decide) rest) with
        ⟨behind, hbehind, hread⟩
      rw [List.append_assoc]
      exact members?_of_last hkey hbehind hread
  | _, _, .next hkey h hmore, fuel, rest, hfuel => by
      simp only [List.length_append, List.length_cons] at hfuel
      obtain ⟨fuel, rfl⟩ : ∃ k, fuel = k + 2 := ⟨fuel - 2, by omega⟩
      have hothers := hmore.members? (fuel + 1) rest (by omega)
      rcases h.value? fuel (',' :: _) (by omega) (stops_cons (by decide) _) with
        ⟨behind, hbehind, hread⟩
      rw [List.append_assoc, List.append_assoc]
      exact members?_of_next hkey hbehind hread hothers

end

/-- A text is read as the value that it spells, with blanks around it or without, and no other
    text is read. -/
theorem Node.read?_eq_some_iff {s : String} {n : Node} :
    Node.read? s = some n ↔ Padded n s.toList := by
  simp only [Node.read?, Option.bind_eq_bind, Option.bind_eq_some_iff]
  constructor
  · rintro ⟨⟨node, rest⟩, hread, h⟩
    split_ifs at h with hrest
    cases h
    rcases (readsSpelled _).value hread with ⟨text, htext, hs⟩
    rw [List.isEmpty_iff.mp hrest, List.append_nil] at hs
    rwa [hs]
  · intro h
    rcases h.value? (2 * s.toList.length + 1) [] (by omega) stops_nil with
      ⟨behind, hbehind, hread⟩
    rw [List.append_nil, List.append_nil] at hread
    exact ⟨(n, behind), hread, if_pos (isEmpty_skipSpace.mpr hbehind)⟩

end Json

end SqlMapper
