import Mathlib
import SqlMapper.Proofs.Condition.Passages

/-!
# Fragments That Ask for One List

What conditions are compiled to if one list is bound and all fragments ask for it.

Every place of every fragment is taken by the elements of the list. Binding the
elements again changes nothing, so it does not matter how many places there are,
and the list itself stays bound until all fragments are done. It is taken out in
the end, and what is left are the elements in their order.

A list may also be bound as a text that is written with commas.

## Main definitions

* `Lists`: The values that an operand lists.
* `listed`: The names of the elements, as they are written for a list.
* `Passage.text`: A passage as a text.

## Theorems

* `lists_text_iff`: A text lists the values between its commas.
* `iterate_bound`: Binding elements again changes nothing.
* `Passage.addRaw`: What a fragment that asks for a list is compiled to.
* `compile_spreads_list`: What conditions that ask for one list are compiled to.
-/

namespace SqlMapper

open Text

/-- The values that an operand lists: those of a list, and the parts of a text between its commas,
    unless all of it is blank. -/
inductive Lists : Operand → List Value → Prop where
  -- A list as such.
  | list (vs : List Value) : Lists (.list vs) vs
  -- A blank text.
  | blank {s : String} (hblank : ∀ c ∈ s.toList, isBlank c = true) : Lists (.scalar (.text s)) []
  -- Parts with commas between them.
  | parts {parts : List String} (hcomma : ∀ part ∈ parts, ',' ∉ part.toList)
    (hfilled : ∃ c ∈ (",".intercalate parts).toList, isBlank c = false) :
    Lists (.scalar (.text (",".intercalate parts))) (parts.map fun part => .text (trim part))

/-- The names of the elements, as they are written for a list. -/
def listed (name : String) (count : Nat) : String :=
  if count = 0 then "NULL"
  else ", ".intercalate ((List.range count).map fun i => name ++ "_" ++ toString i)

/-- A passage as a text, with something in its places. -/
def Passage.text (p : Passage) (argument : String) : String :=
  String.ofList (p.written argument.toList)

/-! ### Listed values -/

/-- The parts of a text with commas between them are those it was joined from. -/
theorem segments_intercalate {parts : List String} (hne : parts ≠ [])
    (hcomma : ∀ part ∈ parts, ',' ∉ part.toList) :
    segments ',' (",".intercalate parts) = parts := by
  have hsplit : ([','].intercalate (parts.map String.toList)).splitOn ','
      = parts.map String.toList := by
    refine List.splitOn_intercalate ',' (fun part hpart => ?_) ?_
    · rcases List.mem_map.mp hpart with ⟨p, hp, rfl⟩
      exact hcomma p hp
    · exact fun hnil => hne (List.map_eq_nil_iff.mp hnil)
  rw [segments, String.toList_intercalate]
  refine (congrArg (List.map String.ofList) hsplit).trans ?_
  rw [List.map_map]
  exact (List.map_congr_left fun part _ => String.ofList_toList).trans (List.map_id _)

/-- A text is joined from its parts. -/
theorem intercalate_segments (s : String) : ",".intercalate (segments ',' s) = s := by
  rw [← String.toList_inj, String.toList_intercalate]
  exact toList_segments ',' s

/-- A text lists the values that are found in it. -/
theorem lists_text_iff {s : String} {vs : List Value} :
    Lists (.scalar (.text s)) vs ↔ vs = listedValues s := by
  constructor
  · intro h
    generalize hvalue : Operand.scalar (.text s) = value at h
    cases h with
    | list vs => cases hvalue
    | blank hblank =>
        cases hvalue
        rw [listedValues, isEmpty_trim, if_pos (List.all_eq_true.mpr hblank)]
    | @parts parts hcomma hfilled =>
        cases hvalue
        have hne : parts ≠ [] := by
          rintro rfl
          rcases hfilled with ⟨c, hc, -⟩
          cases hc
        have hnot : ¬ (trim (",".intercalate parts)).isEmpty = true := by
          rw [isEmpty_trim, List.all_eq_true]
          rcases hfilled with ⟨c, hc, hblank⟩
          intro hall
          rw [hall c hc] at hblank
          cases hblank
        rw [listedValues, if_neg hnot, segments_intercalate hne hcomma]
  · rintro rfl
    rw [listedValues]
    by_cases hblank : (trim s).isEmpty = true
    · rw [if_pos hblank]
      rw [isEmpty_trim, List.all_eq_true] at hblank
      exact .blank hblank
    · rw [if_neg hblank]
      have hjoined := intercalate_segments s
      rw [isEmpty_trim, Bool.not_eq_true, List.all_eq_false] at hblank
      rcases hblank with ⟨c, hc, hfilled⟩
      have hcomma : ∀ part ∈ segments ',' s, ',' ∉ part.toList := by
        intro part hpart
        rcases List.mem_map.mp hpart with ⟨segment, hsegment, rfl⟩
        rw [String.toList_ofList]
        exact not_mem_segment hsegment
      have hlists := Lists.parts hcomma ⟨c, hjoined.symm ▸ hc, Bool.eq_false_iff.mpr hfilled⟩
      rwa [hjoined] at hlists

/-! ### Bound elements -/

section

variable {name : String} {vs : List Value}

theorem elementList_listed (name : String) (vs : List Value) :
    elementList name vs = (listed name vs.length).toList := by
  rcases vs with _ | ⟨v, vs⟩
  · simp only [elementList, listed, List.isEmpty_nil, List.length_nil, if_true]
    decide
  · have hnames : elementNames name 0 (v :: vs).length
        = (List.range (v :: vs).length).map fun i => name ++ "_" ++ toString i :=
      List.map_congr_left fun i _ => by rw [Nat.zero_add, numbered]
    rw [elementList, listed, hnames]
    rfl

theorem zip_elementNames (name : String) (vs : List Value) :
    (elementNames name 0 vs.length).zip vs
      = vs.mapIdx fun i v => (name ++ "_" ++ toString i, v) := by
  refine List.ext_getElem? fun i => ?_
  rw [List.getElem?_mapIdx]
  rcases hv : vs[i]? with _ | v
  · rw [List.getElem?_eq_none, Option.map_none]
    rw [List.length_zip, length_elementNames, Nat.min_self]
    exact List.getElem?_eq_none_iff.mp hv
  · have hi := (List.getElem?_eq_some_iff.mp hv).1
    rw [Option.map_some, List.getElem?_zip_eq_some, elementNames, List.getElem?_map,
      List.getElem?_range hi, Option.map_some, Nat.zero_add, numbered]
    exact ⟨rfl, hv⟩

/-- Binding elements again changes nothing. -/
theorem bindElements_bindElements (b : Binds) (name : String) (vs : List Value) :
    bindElements (bindElements b name vs) name vs = bindElements b name vs := by
  refine OrderedMap.insertAll_of_get? fun e he => OrderedMap.get?_insertAll_mem ?_ he b
  rw [map_fst_zip_elementNames]
  exact nodup_elementNames name 0 vs.length

/-- However often a list is spread, its elements are bound once. -/
theorem iterate_bound (s : Spread) (k : Nat) :
    (Spread.bound · name vs)^[k + 1] s
      = { binds := bindElements s.binds name vs
          spent := s.spent ++ List.replicate (k + 1) name } := by
  induction k with
  | zero => rfl
  | succ k ih =>
      rw [Function.iterate_succ_apply', ih, Spread.bound, bindElements_bindElements,
        List.append_assoc, ← List.replicate_succ']

/-- The elements are what is left once the list itself is taken out. -/
theorem entries_spread {b : Binds} (hb : ∀ t ∈ b.keys, t = name) (k : Nat) :
    ((List.replicate (k + 1) name).foldl OrderedMap.erase (bindElements b name vs)).entries
      = vs.mapIdx fun i v => (name ++ "_" ++ toString i, v) := by
  have helement : ∀ e ∈ (elementNames name 0 vs.length).zip vs, e.1 ≠ name := by
    intro e he
    have hmem : e.1 ∈ elementNames name 0 vs.length :=
      map_fst_zip_elementNames name vs ▸ List.mem_map_of_mem he
    rcases mem_elementNames hmem with ⟨i, -, hi⟩
    rw [hi]
    exact numbered_ne name _
  have hnodup : (((elementNames name 0 vs.length).zip vs).map (·.1)).Nodup := by
    rw [map_fst_zip_elementNames]
    exact nodup_elementNames name 0 vs.length
  rw [entries_eraseAll, bindElements, OrderedMap.entries_insertAll hnodup
      fun e he hkey => helement e he (hb _ hkey), List.filter_append, ← zip_elementNames]
  have hkept : ∀ t, decide (t ∉ List.replicate (k + 1) name) = decide (t ≠ name) := by
    intro t
    simp only [List.mem_replicate, Nat.succ_ne_zero, ne_eq, not_false_eq_true, true_and]
  simp only [hkept]
  rw [List.filter_eq_nil_iff.mpr fun e he => ?_, List.nil_append,
    List.filter_eq_self.mpr fun e he => decide_eq_true (helement e he)]
  have hkey : e.1 = name := hb e.1 (List.mem_map_of_mem he)
  simp only [hkey, ne_eq, not_true_eq_false, decide_false, Bool.false_eq_true, not_false_eq_true]

/-! ### Compiled fragments -/

variable {lists : List (String × List Value)}

/-- A fragment that asks for a list is compiled to the same fragment with the elements written
    into its places. -/
theorem Passage.addRaw {word : List Char} (hname : name.toList = ':' :: word) (hne : word ≠ [])
    (hword : ∀ c ∈ word, isWord c = true) {p : Passage} (hasks : p.Asks name) {q : Progress}
    (h : elements? lists q.binds name = some vs) :
    q.addRaw lists (p.text name) = { q with
      binds := ((Spread.bound · name vs)^[p.places] { binds := q.binds, spent := q.spent }).binds
      spent := ((Spread.bound · name vs)^[p.places] { binds := q.binds, spent := q.spent }).spent
      fragments := q.fragments ++ [p.text (listed name vs.length)] } := by
  have hspread : q.spread lists (p.text name)
      = (p.written (elementList name vs),
        (Spread.bound · name vs)^[p.places] { binds := q.binds, spent := q.spent }) := by
    rw [Progress.spread, spreadLists, Passage.text, String.toList_ofList, scan,
      p.pieces_written hname hne hword hasks rfl, p.spread_written h]
  have hoperands : foundIn (scan similarityPattern (q.spread lists (p.text name)).1) = [] := by
    rw [Progress.spread, spread_operands, Passage.text, String.toList_ofList]
    exact p.no_operands hname hne hword hasks none
  have hplaced : q.placed lists (p.text name) = ((q.spread lists (p.text name)).1,
      { binds := (q.spread lists (p.text name)).2.binds, wrapped := q.wrapped }) := by
    rw [Progress.placed, placeWildcards, scan_of_foundIn hoperands, placePieces_chars]
  rw [addRaw_eq, hplaced, hspread, elementList_listed]
  rfl

/-- A name that is spread any number of times stands for the same elements. -/
theorem elements?_iterate {s : Spread} (h : elements? lists s.binds name = some vs) (k : Nat) :
    elements? lists ((Spread.bound · name vs)^[k] s).binds name = some vs := by
  induction k with
  | zero => exact h
  | succ k ih =>
      rw [Function.iterate_succ_apply']
      exact elements?_bound ih

/-- Fragments that ask for a list are compiled one after the other. -/
theorem compile_passages {word : List Char} (hname : name.toList = ':' :: word) (hne : word ≠ [])
    (hword : ∀ c ∈ word, isWord c = true) {passages : List Passage}
    (hasks : ∀ p ∈ passages, p.Asks name) {q : Progress}
    (h : elements? lists q.binds name = some vs) :
    ∃ r, (passages.map fun p => Clause.raw (p.text name)).foldlM (Clause.compile lists) q = .ok r
      ∧ ({ binds := r.binds, spent := r.spent } : Spread)
        = (Spread.bound · name vs)^[(passages.map Passage.places).sum]
            { binds := q.binds, spent := q.spent }
      ∧ r.fragments = q.fragments ++ passages.map fun p => p.text (listed name vs.length) := by
  induction passages generalizing q with
  | nil => exact ⟨q, rfl, rfl, (List.append_nil _).symm⟩
  | cons p passages ih =>
      rcases List.forall_mem_cons.mp hasks with ⟨hp, hpassages⟩
      have hhere := p.addRaw hname hne hword hp h
      have hnext := elements?_iterate (s := { binds := q.binds, spent := q.spent }) h p.places
      rcases ih hpassages (q := q.addRaw lists (p.text name)) (by rw [hhere]; exact hnext)
        with ⟨r, hr, hspread, hfragments⟩
      refine ⟨r, ?_, ?_, ?_⟩
      · rw [List.map_cons, List.foldlM_cons]
        exact hr
      · rw [hspread, hhere, List.map_cons, List.sum_cons, Nat.add_comm p.places,
          Function.iterate_add_apply]
      · rw [hfragments, hhere, List.map_cons]
        exact List.append_assoc _ _ _

end

/-! ### Compiled conditions -/

/-- A name with its colon is a colon with word characters behind it. -/
theorem withColon_word {n : String} (h : isPlaceholder n = true) :
    ∃ word, (withColon n).toList = ':' :: word ∧ word ≠ [] ∧ ∀ c ∈ word, isWord c = true := by
  unfold isPlaceholder at h
  have hopening : ∀ s : String, startsWith s ":" = [':'].isPrefixOf s.toList := fun _ => rfl
  rcases hcs : n.toList with _ | ⟨c, cs⟩
  · simp only [hcs, List.isEmpty_nil, Bool.not_true, Bool.false_and, Bool.false_eq_true] at h
  · by_cases hc : c = ':'
    · rw [hcs, hc] at h
      simp only [Bool.and_eq_true, Bool.not_eq_true', List.isEmpty_eq_false_iff,
        List.all_eq_true] at h
      refine ⟨cs, ?_, h⟩
      rw [withColon, hopening, hcs, hc]
      exact hcs.trans (congrArg (· :: cs) hc)
    · have hword : (!(c :: cs).isEmpty && (c :: cs).all isWord) = true := by
        rw [hcs] at h
        split at h
        next rest hrest => exact absurd (List.cons.inj hrest).1 hc
        next => exact h
      simp only [Bool.and_eq_true, Bool.not_eq_true', List.isEmpty_eq_false_iff,
        List.all_eq_true] at hword
      refine ⟨c :: cs, ?_, hword⟩
      have hnot : [':'].isPrefixOf (c :: cs) = false := by
        simp only [List.isPrefixOf, Bool.and_true, beq_eq_false_iff_ne, ne_eq]
        exact fun heq => hc heq.symm
      rw [withColon, hopening, hcs, hnot, if_neg Bool.false_ne_true, String.toList_append, hcs]
      rfl

/-- An operand under the name of a placeholder can be bound, and the name stands for the values
    that it lists. -/
theorem bound_of_lists {c : Conditions} {name : String} {value : Operand} {vs : List Value}
    (hname : isPlaceholder name = true) (hbindings : c.bindings = [(name, value)])
    (hlists : Lists value vs) :
    ∃ b, c.bound = .ok b ∧ elements? b.lists b.scalars name = some vs
      ∧ (∀ t ∈ b.scalars.keys, t = name) ∧ ∀ l ∈ b.lists, l.1 = name := by
  cases value with
  | scalar v =>
      have hbound : c.bound = .ok { scalars := (∅ : Binds).insert name v } := by
        simp only [Conditions.bound, hbindings, List.foldlM_cons, List.foldlM_nil, Bound.add, hname,
          if_true]
        rfl
      have htext : elements? [] ((∅ : Binds).insert name v) name = some vs := by
        rw [elements?, List.find?_nil, OrderedMap.get?_insert_self]
        cases hlists with
        | blank hblank => exact congrArg some (lists_text_iff.mp (.blank hblank)).symm
        | parts hcomma hfilled =>
            exact congrArg some (lists_text_iff.mp (.parts hcomma hfilled)).symm
      exact ⟨_, hbound, htext, fun t ht => List.mem_singleton.mp ht,
        fun l hl => absurd hl List.not_mem_nil⟩
  | list ws =>
      cases hlists
      have hbound : c.bound = .ok { lists := [(name, vs)] } := by
        simp only [Conditions.bound, hbindings, List.foldlM_cons, List.foldlM_nil, Bound.add, hname,
          if_true]
        rfl
      refine ⟨_, hbound, ?_, fun t ht => absurd ht List.not_mem_nil, fun l hl => ?_⟩
      · simp only [elements?, List.find?_cons, beq_self_eq_true]
      · rw [List.mem_singleton.mp hl]

/-- Fragments that ask for the one list that is bound are compiled to the same fragments with the
    elements written into their places. -/
theorem compile_of_bound {c : Conditions} {b : Bound} {name : String} {word : List Char}
    {vs : List Value} {passages : List Passage} (hname : name.toList = ':' :: word)
    (hne : word ≠ []) (hword : ∀ c ∈ word, isWord c = true) (hbound : c.bound = .ok b)
    (helements : elements? b.lists b.scalars name = some vs)
    (hkeys : ∀ t ∈ b.scalars.keys, t = name) (hnames : ∀ l ∈ b.lists, l.1 = name)
    (hasks : ∀ p ∈ passages, p.Asks name) (hplaces : ∃ p ∈ passages, p.places ≠ 0)
    (hclauses : c.clauses = passages.map fun p => .raw (p.text name)) :
    c.compile = .ok {
      fragment := " AND ".intercalate (passages.map fun p => p.text (listed name vs.length))
      binds := ⟨vs.mapIdx fun i v => (name ++ "_" ++ toString i, v)⟩ } := by
  rcases compile_passages hname hne hword hasks (q := { binds := b.scalars }) helements with
    ⟨r, hr, hspread, hfragments⟩
  obtain ⟨k, hk⟩ : ∃ k, (passages.map Passage.places).sum = k + 1 := by
    rcases hplaces with ⟨p, hp, hpos⟩
    refine Nat.exists_eq_succ_of_ne_zero fun hzero => hpos ?_
    exact List.sum_eq_zero_iff_forall_eq_nat.mp hzero _ (List.mem_map_of_mem hp)
  rw [hk, iterate_bound, Spread.mk.injEq, List.nil_append] at hspread
  have hunused : b.lists.find? (fun l => !r.spent.contains l.1) = none := by
    refine List.find?_eq_none.mpr fun l hl => ?_
    rw [hnames l hl, hspread.2, List.contains_iff_mem.mpr (by simp), Bool.not_true]
    exact Bool.false_ne_true
  have hbinds : (r.spent.foldl OrderedMap.erase r.binds).entries
      = vs.mapIdx fun i v => (name ++ "_" ++ toString i, v) := by
    rw [hspread.1, hspread.2, entries_spread hkeys]
  rw [← hclauses] at hr
  rw [← hbinds, ← List.nil_append (passages.map _), ← hfragments]
  simp only [Conditions.compile, hbound, bind, Except.bind, hr, hunused]
  rfl

/-- A name with its colon is a placeholder if the name is one. -/
theorem isPlaceholder_withColon {n : String} (h : isPlaceholder n = true) :
    isPlaceholder (withColon n) = true := by
  rcases withColon_word h with ⟨word, hname, hne, hword⟩
  simp only [isPlaceholder, hname, Bool.and_eq_true, Bool.not_eq_true',
    List.isEmpty_eq_false_iff, List.all_eq_true]
  exact ⟨hne, hword⟩

/-- If one list is bound and its name is the only placeholder of the fragments, the elements are
    written into the places where the fragments ask for it, and nothing else is changed. The
    elements are bound in their order, and the list itself is not bound any more. -/
theorem compile_spreads_list {c : Conditions} {n : String} {value : Operand} {vs : List Value}
    {passages : List Passage} (hn : isPlaceholder n = true)
    (hbindings : c.bindings = [(withColon n, value)]) (hlists : Lists value vs)
    (hclauses : c.clauses = passages.map fun p => .raw (p.text (withColon n)))
    (hasks : ∀ p ∈ passages, p.Asks (withColon n)) (hplaces : ∃ p ∈ passages, p.places ≠ 0) :
    c.compile = .ok {
      fragment := " AND ".intercalate
        (passages.map fun p => p.text (listed (withColon n) vs.length))
      binds := ⟨vs.mapIdx fun i v => (withColon n ++ "_" ++ toString i, v)⟩ } := by
  rcases withColon_word hn with ⟨word, hname, hne, hword⟩
  rcases bound_of_lists (isPlaceholder_withColon hn) hbindings hlists with
    ⟨b, hbound, helements, hkeys, hnames⟩
  exact compile_of_bound hname hne hword hbound helements hkeys hnames hasks hplaces hclauses

/-- A text with commas that several fragments ask for, among them one with a colon that begins no
    placeholder. -/
def Conditions.shared : Conditions where
  clauses := [.raw "id IN (:ids) OR ref in( :ids\t)", .raw "x LIKE '%:%' AND y NOT IN (:ids)",
    .raw "deleted = 0"]
  bindings := [(":ids", .scalar (.text " a, b c,"))]

/-- The places where these fragments ask for it. -/
def Passage.shared : List Passage :=
  [.asking "id ".toList
      { word := ['I', 'N'], gap := [' '], before := [], after := [], letters := rfl
        blank_gap := List.all_eq_true.mp rfl, blank_before := nofun, blank_after := nofun }
      (by decide)
      (.asking " OR ref ".toList
        { word := ['i', 'n'], gap := [], before := [' '], after := ['\t'], letters := rfl
          blank_gap := nofun, blank_before := List.all_eq_true.mp rfl
          blank_after := List.all_eq_true.mp rfl }
        (by decide) (.rest [])),
    .asking "x LIKE '%:%' AND y NOT ".toList
      { word := ['I', 'N'], gap := [' '], before := [], after := [], letters := rfl
        blank_gap := List.all_eq_true.mp rfl, blank_before := nofun, blank_after := nofun }
      (by decide) (.rest []),
    .rest "deleted = 0".toList]

theorem compile_spreads_list_shared :
    isPlaceholder "ids" = true
      ∧ Conditions.shared.bindings = [(withColon "ids", .scalar (.text " a, b c,"))]
      ∧ Lists (.scalar (.text " a, b c,")) [.text "a", .text "b c", .text ""]
      ∧ Conditions.shared.clauses = Passage.shared.map (fun p => .raw (p.text (withColon "ids")))
      ∧ (∀ p ∈ Passage.shared, p.Asks (withColon "ids"))
      ∧ (∃ p ∈ Passage.shared, p.places ≠ 0)
      ∧ Conditions.shared.compile = .ok {
          fragment := "id IN (:ids_0, :ids_1, :ids_2) OR ref in( :ids_0, :ids_1, :ids_2\t)"
            ++ " AND x LIKE '%:%' AND y NOT IN (:ids_0, :ids_1, :ids_2) AND deleted = 0"
          binds := .ofList
            [(":ids_0", .text "a"), (":ids_1", .text "b c"), (":ids_2", .text "")] } := by
  have hn : isPlaceholder "ids" = true := by decide
  have hbindings : Conditions.shared.bindings
      = [(withColon "ids", .scalar (.text " a, b c,"))] := by
    decide
  have hlists : Lists (.scalar (.text " a, b c,")) [.text "a", .text "b c", .text ""] := by
    rw [lists_text_iff]
    decide
  have hclauses : Conditions.shared.clauses
      = Passage.shared.map (fun p => .raw (p.text (withColon "ids"))) := by decide
  have hasks : ∀ p ∈ Passage.shared, p.Asks (withColon "ids") := by
    simp only [Passage.shared, List.forall_mem_cons, Passage.Asks]
    exact ⟨by decide, by decide, by decide, fun p hp => absurd hp List.not_mem_nil⟩
  have hplaces : ∃ p ∈ Passage.shared, p.places ≠ 0 :=
    ⟨_, List.mem_cons_self, Nat.succ_ne_zero _⟩
  refine ⟨hn, hbindings, hlists, hclauses, hasks, hplaces, ?_⟩
  rw [compile_spreads_list hn hbindings hlists hclauses hasks hplaces]
  decide

end SqlMapper
