import SqlMapper.Proofs.Dialect.Paths

/-!
# Reading Quoted Names

Quoted names say what was quoted, and nothing else.

A name between backticks is read up to the first backtick that is not doubled,
so it ends where it was ended, whatever it holds: dots and commas inside it are
characters of the name, and so are doubled backticks. Only a backtick right
behind it could be taken for a part of it. Between the names of a path or of a
list stands a separator, which is no backtick, so the names of both are read
back one by one.

The reader is exact: it accepts a text only if that is how the names it reads
are written.

## Main definitions

* `readName?`: The name that a text begins with, and what stands behind it.
* `readNames?`: The names in a text, with a separator between them.
* `readList?`: The names of a list, which may be empty.

## Theorems

* `readName?_eq_some_iff`, `readNames?_eq_some_iff`: What is read is how names are written.
* `quoted_names_read`: Names, paths and lists of names are read back, so they can be told apart.
-/

namespace SqlMapper

/-- The characters up to the first backtick that is not doubled, and what stands behind that. -/
def readBody? : List Char → Option (List Char × List Char)
  | [] => none
  | [c] => if c = backtick then some ([], []) else none
  | c :: d :: rest =>
    if c = backtick then
      if d = backtick then (readBody? rest).map (Prod.map (backtick :: ·) id)
      else some ([], d :: rest)
    else (readBody? (d :: rest)).map (Prod.map (c :: ·) id)

/-- The name between backticks that a text begins with, and what stands behind it. -/
def readName? : List Char → Option (String × List Char)
  | [] => none
  | c :: rest => if c = backtick then (readBody? rest).map (Prod.map String.ofList id) else none

/-- A doubled text with a backtick behind it is read up to there. -/
theorem readBody?_doubled (name : List Char) {rest : List Char} (h : rest.head? ≠ some backtick) :
    readBody? (Text.doubled backtick name ++ backtick :: rest) = some (name, rest) := by
  induction name with
  | nil =>
      cases rest with
      | nil => rfl
      | cons d rest =>
          have hd : d ≠ backtick := fun hd => h (congrArg some hd)
          rw [Text.doubled_nil, List.nil_append, readBody?, if_pos rfl, if_neg hd]
  | cons c name ih =>
      rw [Text.doubled_cons, List.append_assoc]
      by_cases hc : c = backtick
      · rw [if_pos hc, hc, List.cons_append, List.singleton_append, readBody?, if_pos rfl,
          if_pos rfl, ih]
        rfl
      · rw [if_neg hc, List.singleton_append]
        -- At least the last backtick stands behind the character.
        rcases hbehind : Text.doubled backtick name ++ backtick :: rest with _ | ⟨d, later⟩
        · exact absurd hbehind (List.append_ne_nil_of_right_ne_nil _ (List.cons_ne_nil _ _))
        · rw [readBody?, if_neg hc, ← hbehind, ih]
          rfl

/-- What is read is doubled text up to a backtick that has none behind it. -/
theorem eq_of_readBody? {cs name rest : List Char} (h : readBody? cs = some (name, rest)) :
    cs = Text.doubled backtick name ++ backtick :: rest ∧ rest.head? ≠ some backtick := by
  induction cs using readBody?.induct generalizing name with
  | case1 => cases h
  | case2 =>
      cases h
      exact ⟨rfl, by decide⟩
  | case3 c hc =>
      rw [readBody?, if_neg hc] at h
      cases h
  | case4 later ih =>
      -- Two backticks are one of the name.
      rw [readBody?, if_pos rfl, if_pos rfl, Option.map_eq_some_iff] at h
      rcases h with ⟨⟨inner, behind⟩, hinner, hpair⟩
      cases hpair
      rcases ih hinner with ⟨htext, hend⟩
      rw [Text.doubled_cons, if_pos rfl, htext]
      exact ⟨rfl, hend⟩
  | case5 d later hd =>
      rw [readBody?, if_pos rfl, if_neg hd, Option.some.injEq] at h
      cases h
      exact ⟨rfl, fun hhead => hd (Option.some.inj hhead)⟩
  | case6 c d later hc ih =>
      rw [readBody?, if_neg hc, Option.map_eq_some_iff] at h
      rcases h with ⟨⟨inner, behind⟩, hinner, hpair⟩
      cases hpair
      rcases ih hinner with ⟨htext, hend⟩
      rw [Text.doubled_cons, if_neg hc, htext]
      exact ⟨rfl, hend⟩

/-- A name is read where its quoted form stands, with no backtick behind it. -/
theorem readName?_eq_some_iff {cs rest : List Char} {name : String} :
    readName? cs = some (name, rest)
      ↔ cs = (quoteName name).toList ++ rest ∧ rest.head? ≠ some backtick := by
  have hquoted : (quoteName name).toList ++ rest
      = backtick :: (Text.doubled backtick name.toList ++ backtick :: rest) := by
    rw [quoteName, String.toList_ofList, quotedChars, List.cons_append, List.cons_append,
      List.append_assoc, List.singleton_append]
  rw [hquoted]
  constructor
  · intro h
    cases cs with
    | nil => cases h
    | cons c cs =>
        rw [readName?] at h
        split at h
        · rename_i hc
          rw [Option.map_eq_some_iff] at h
          rcases h with ⟨⟨read, behind⟩, hread, hpair⟩
          cases hpair
          rcases eq_of_readBody? hread with ⟨rfl, hend⟩
          rw [hc, String.toList_ofList]
          exact ⟨rfl, hend⟩
        · cases h
  · rintro ⟨rfl, hend⟩
    rw [readName?, if_pos rfl, readBody?_doubled name.toList hend, Option.map_some, Prod.map_apply,
      String.ofList_toList]
    rfl

theorem length_quoteName (name : String) : 2 ≤ (quoteName name).toList.length := by
  rw [quoteName, String.toList_ofList, quotedChars, List.length_append, List.length_cons,
    List.length_singleton]
  omega

theorem length_of_readName? {cs rest : List Char} {name : String}
    (h : readName? cs = some (name, rest)) : rest.length < cs.length := by
  have hlength := length_quoteName name
  rw [(readName?_eq_some_iff.mp h).1, List.length_append]
  omega

/-- The names in a text, with a separator between each two of them. -/
def readNames? (separator : Char) (cs : List Char) : Option (List String) :=
  match _ : readName? cs with
  | none => none
  | some (name, []) => some [name]
  | some (name, c :: rest) =>
    if c = separator then (readNames? separator rest).map (name :: ·) else none
termination_by cs.length
decreasing_by
  rename_i hread _
  have hlength := length_of_readName? hread
  rw [List.length_cons] at hlength
  omega

/-- The names of a list; there are none in a text that is empty. -/
def readList? (s : String) : Option (List String) :=
  if s = "" then some [] else readNames? ',' s.toList

/-- Names in quotes with a separator between them. -/
def joinedNames (separator : Char) (names : List String) : List Char :=
  [separator].intercalate (names.map fun name => (quoteName name).toList)

theorem joinedNames_cons (separator : Char) (name : String) {names : List String} (h : names ≠ []) :
    joinedNames separator (name :: names)
      = (quoteName name).toList ++ separator :: joinedNames separator names := by
  cases names with
  | nil => exact absurd rfl h
  | cons next names =>
      rw [joinedNames, List.map_cons, List.map_cons, List.intercalate_cons_cons, List.append_assoc]
      rfl

theorem readNames?_of_none {separator : Char} {cs : List Char} (h : readName? cs = none) :
    readNames? separator cs = none := by
  rw [readNames?]
  split
  · rfl
  · rename_i hsome
    rw [h] at hsome
    cases hsome
  · rename_i hsome
    rw [h] at hsome
    cases hsome

/-- One name is read, and behind a separator the others. -/
theorem readNames?_of_some {separator : Char} {cs rest : List Char} {name : String}
    (h : readName? cs = some (name, rest)) :
    readNames? separator cs = match rest with
      | [] => some [name]
      | c :: later =>
        if c = separator then (readNames? separator later).map (name :: ·) else none := by
  rw [readNames?]
  split
  · rename_i hnone
    rw [h] at hnone
    cases hnone
  · rename_i hsome
    rw [h] at hsome
    cases hsome
    rfl
  · rename_i hsome
    rw [h] at hsome
    cases hsome
    rfl

/-- Names are read if the only one ends the text, or if a separator and others are behind the
    first. -/
theorem cases_of_readNames? {separator : Char} {cs : List Char} {names : List String}
    (h : readNames? separator cs = some names) :
    (∃ name, names = [name] ∧ readName? cs = some (name, []))
      ∨ ∃ name others later, names = name :: others
        ∧ readName? cs = some (name, separator :: later)
        ∧ readNames? separator later = some others := by
  rcases hread : readName? cs with _ | ⟨name, _ | ⟨c, later⟩⟩
  · rw [readNames?_of_none hread] at h
    cases h
  · rw [readNames?_of_some hread] at h
    exact Or.inl ⟨name, (Option.some.inj h).symm, rfl⟩
  · rw [readNames?_of_some hread] at h
    dsimp only at h
    split at h
    · rename_i hc
      rw [Option.map_eq_some_iff] at h
      rcases h with ⟨others, hothers, rfl⟩
      exact Or.inr ⟨name, others, later, rfl, by rw [hc], hothers⟩
    · cases h

theorem joinedNames_singleton (separator : Char) (name : String) :
    joinedNames separator [name] = (quoteName name).toList ++ [] := by
  rw [joinedNames, List.map_singleton, List.intercalate_singleton, List.append_nil]

/-- Names are read where their quoted forms stand with separators between them. -/
theorem readNames?_eq_some_iff {separator : Char} (hseparator : separator ≠ backtick)
    {cs : List Char} {names : List String} :
    readNames? separator cs = some names ↔ names ≠ [] ∧ cs = joinedNames separator names := by
  constructor
  · intro h
    induction names generalizing cs with
    | nil => rcases cases_of_readNames? h with ⟨_, hnil, -⟩ | ⟨_, _, _, hnil, -⟩ <;> cases hnil
    | cons name names ih =>
        refine ⟨List.cons_ne_nil name names, ?_⟩
        rcases cases_of_readNames? h with ⟨_, hnames, hread⟩ | ⟨_, _, later, hnames, hread, hlater⟩
        · cases hnames
          rw [(readName?_eq_some_iff.mp hread).1, joinedNames_singleton]
        · cases hnames
          rcases ih hlater with ⟨hne, rfl⟩
          rw [(readName?_eq_some_iff.mp hread).1, joinedNames_cons separator name hne]
  · rintro ⟨hne, rfl⟩
    induction names with
    | nil => exact absurd rfl hne
    | cons name names ih =>
        by_cases hnames : names = []
        · have hread := readName?_eq_some_iff.mpr ⟨joinedNames_singleton separator name, by decide⟩
          rw [hnames, readNames?_of_some hread]
        · -- The separator behind the name is no backtick.
          have hend : (separator :: joinedNames separator names).head? ≠ some backtick :=
            fun hhead => hseparator (Option.some.inj hhead)
          have hread := readName?_eq_some_iff.mpr ⟨joinedNames_cons separator name hnames, hend⟩
          rw [readNames?_of_some hread]
          simp only [if_true, ih hnames, Option.map_some]

theorem quotePath_joined (path : String) :
    (quotePath path).toList = joinedNames '.' (Text.segments '.' path) := by
  rw [quotePath, String.toList_intercalate, List.map_map]
  rfl

theorem quoteNames_joined (names : List String) :
    (quoteNames names).toList = joinedNames ',' names := by
  rw [quoteNames, String.toList_intercalate, List.map_map]
  rfl

/-- A path is read as its segments. -/
theorem readNames?_quotePath (path : String) :
    readNames? '.' (quotePath path).toList = some (Text.segments '.' path) := by
  rw [readNames?_eq_some_iff (by decide)]
  exact ⟨Ddl.segments_ne_nil path, quotePath_joined path⟩

/-- A list of names is read as these names. -/
theorem readList?_quoteNames (names : List String) : readList? (quoteNames names) = some names := by
  cases names with
  | nil => rfl
  | cons name names =>
      have hread := (readNames?_eq_some_iff (show ',' ≠ backtick by decide)).mpr
        ⟨List.cons_ne_nil name names, quoteNames_joined (name :: names)⟩
      have hne : quoteNames (name :: names) ≠ "" := by
        intro hempty
        rw [hempty, readNames?_of_none rfl] at hread
        cases hread
      rw [readList?, if_neg hne, hread]

/-- A quoted name is read back with whatever stands behind it, unless that goes on with a backtick;
    a path is read as its segments and a list as its names. So different paths and different lists
    are written differently. -/
theorem quoted_names_read :
    (∀ (name : String) (rest : List Char), rest.head? ≠ some backtick →
        readName? ((quoteName name).toList ++ rest) = some (name, rest))
      ∧ (∀ path, readNames? '.' (quotePath path).toList = some (Text.segments '.' path))
      ∧ (∀ names, readList? (quoteNames names) = some names)
      ∧ Function.Injective quotePath ∧ Function.Injective quoteNames := by
  refine ⟨fun name rest hrest => readName?_eq_some_iff.mpr ⟨rfl, hrest⟩, readNames?_quotePath,
    readList?_quoteNames, fun path other h => ?_, fun names others h => ?_⟩
  · have hsegments := readNames?_quotePath path
    rw [h, readNames?_quotePath other, Option.some.injEq] at hsegments
    exact Text.segments_inj hsegments.symm
  · have hnames := readList?_quoteNames names
    rw [h, readList?_quoteNames others, Option.some.injEq] at hnames
    exact hnames.symm

/-- A name that holds both separators and backticks, in front of a comma. -/
theorem quoted_names_read_marks :
    [',', backtick].head? ≠ some backtick
      ∧ quoteName "a\x60,.b\x60" = "\x60a\x60\x60,.b\x60\x60\x60"
      ∧ readName? ("\x60a\x60\x60,.b\x60\x60\x60".toList ++ [',', backtick])
        = some ("a\x60,.b\x60", [',', backtick]) := by
  have hrest : [',', backtick].head? ≠ some backtick := by decide
  have hquoted : quoteName "a\x60,.b\x60" = "\x60a\x60\x60,.b\x60\x60\x60" := by decide
  have hread := quoted_names_read.1 "a\x60,.b\x60" [',', backtick] hrest
  rw [hquoted] at hread
  exact ⟨hrest, hquoted, hread⟩

end SqlMapper
