import SqlMapper.Proofs.Condition.Evenness

/-!
# Operands of LIKE

What the operands of `LIKE` compare with once conditions are compiled.

The wildcards around a placeholder are moved onto the value that is bound to it.
There is one value for each name, and the first operand that is met puts its
wildcards around it. A later operand of the same name is written bare as well,
but it does not change the value any more, so it compares with the wildcards of
the first one. An operand with the same wildcards loses nothing by that. One
with other wildcards does, and so does any other place where the name stands.

Lists are spread before wildcards are moved. Spreading leaves the operands of
`LIKE` as they are: what is found at a place depends on the text up to the next
parenthesis, an operand holds no parenthesis, and nothing is found within the
parentheses of an `IN`.

## Main definitions

* `Conditions.operands`: The operands of `LIKE` in the raw fragments.
* `comparing`: The operands that compare with a name.
* `bareText`: A text whose operands are written bare, as far as their names are bound.
* `followed`: The operands, each with the word that stands behind it.
* `Clause.Bared`: A clause is compiled to a text in which the operands of a name are bare.
* `dressed`: A value with the wildcards of the first operand.

## Theorems

* `spread_operands`, `spread_followed`: Spreading lists leaves the operands of `LIKE` and the words
  behind them as they are.
* `placePieces_text`: Moving wildcards writes the operands bare.
* `placePieces_dressed`: Moving wildcards puts those of the first operand around the value.
* `compile_moves_wildcards`: So does compiling conditions.
* `compile_shares_wildcards`: An operand may compare with wildcards that are not its own.
-/

namespace SqlMapper

open Text

/-- The operands of `LIKE` in a clause. -/
def Clause.operands : Clause → List Similarity
  | .equals _ _ => []
  | .raw sql => foundIn (scan similarityPattern sql.toList)

/-- The operands of `LIKE` in the raw fragments. -/
def Conditions.operands (c : Conditions) : List Similarity :=
  c.clauses.flatMap Clause.operands

/-- The operands that compare with a name. -/
def comparing (name : String) (operands : List Similarity) : List Similarity :=
  operands.filter fun s => String.ofList s.name = name

/-- A text, cut into its pieces, whose operands are written bare if their names are bound. -/
def bareText (bound : String → Bool) : List (Piece Similarity) → List Char
  | [] => []
  | .char c :: rest => c :: bareText bound rest
  | .found s :: rest =>
    (if bound (String.ofList s.name) then s.word ++ ' ' :: s.name else s.source)
      ++ bareText bound rest

/-- The operands of `LIKE` among the pieces of a text, each with the word that stands behind it. -/
def followed : List (Piece Similarity) → List (Similarity × List Char)
  | [] => []
  | .char _ :: rest => followed rest
  | .found s :: rest => (s, wordRun (bareText (fun _ => false) rest)) :: followed rest

/-- A raw clause is compiled to a text in which the operands of a name are bare: its lists are
    spread, which leaves its operands as they are, and then every operand whose name is bound is
    written bare. -/
def Clause.Bared (name : String) : Clause → String → Prop
  | .equals _ _, _ => True
  | .raw sql, text => ∃ lists s bound, bound name = true
    ∧ foundIn (scan similarityPattern (spreadLists lists s sql.toList).1)
        = (Clause.raw sql).operands
    ∧ text = String.ofList (bareText bound
        (scan similarityPattern (spreadLists lists s sql.toList).1))

/-- A value with the wildcards of the first operand around it. -/
def dressed (v : Value) : List Similarity → Value
  | [] => v
  | s :: _ => wrappedValue s v

/-- What stands behind an operand is what is left once the operand is skipped. -/
theorem drop_source {s : Similarity} {c : Char} {rest behind : List Char} {k : Nat}
    (hcs : c :: rest = s.source ++ behind) (hlength : s.source.length = k + 1) :
    rest.drop k = behind := by
  have hdrop := congrArg (List.drop (k + 1)) hcs
  rwa [List.drop_succ_cons, List.drop_left' hlength] at hdrop

theorem followed_fst (ps : List (Piece Similarity)) : (followed ps).map (·.1) = foundIn ps := by
  induction ps with
  | nil => rfl
  | cons piece ps ih =>
      cases piece with
      | char c => exact ih
      | found s => exact congrArg (s :: ·) ih

/-- Where no operand is written bare, the pieces make up the text, as far as it is not skipped. -/
theorem bareText_none (passed : Option Char) (k : Nat) (cs : List Char) :
    bareText (fun _ => false) (pieces similarityPattern passed k cs) = cs.drop k := by
  induction cs generalizing passed k with
  | nil => rw [pieces_nil, List.drop_nil, bareText]
  | cons c rest ih =>
      rcases k with _ | k
      · rcases hfound : similarityPattern passed (c :: rest) with _ | ⟨s, k⟩
        · rw [pieces_char hfound, bareText, ih]
          rfl
        · rcases similarity_fits hfound with ⟨behind, hcs, hlength, -⟩
          rw [pieces_found hfound, bareText, if_neg Bool.false_ne_true, ih,
            drop_source hcs hlength, ← hcs]
          rfl
      · rw [pieces_skip, ih, List.drop_succ_cons]

/-! ### Spread lists -/

/-- Texts that agree up to a parenthesis and have the same operands with the same words behind
    them, also if the scan begins within an operand. -/
structure SameOperands (cs cs' : List Char) : Prop where
  agree : Agree cs cs'
  found : ∀ passed k, k ≤ cs.length → (∀ c ∈ cs.take k, c ≠ '(') →
    followed (pieces similarityPattern passed k cs')
      = followed (pieces similarityPattern passed k cs)

/-- A place where no operand is found plays no part in what is read off the operands. -/
theorem passesOver_pieces {β : Type} (read : List (Piece Similarity) → β)
    (h : ∀ c ps, read (.char c :: ps) = read ps) :
    PassesOver fun passed cs => read (pieces similarityPattern passed 0 cs) := by
  intro passed c rest hnone
  dsimp only
  rw [pieces_char hnone, h]

namespace SameOperands

variable {cs cs' : List Char}

theorem nil : SameOperands [] [] :=
  ⟨.nil, fun _ _ _ _ => rfl⟩

theorem char (c : Char) {rest rest' : List Char} (h : SameOperands rest rest') :
    SameOperands (c :: rest) (c :: rest') := by
  refine ⟨h.agree.char c, fun passed k hk htake => ?_⟩
  rcases k with _ | k
  · have hsame := (h.agree.char c).similarityPattern passed
    rcases hfound : similarityPattern passed (c :: rest) with _ | ⟨s, k⟩
    · rw [pieces_char hfound, pieces_char (hsame ▸ hfound)]
      exact h.found (some c) 0 (Nat.zero_le _) fun d hd => nomatch hd
    · rcases similarity_fits hfound with ⟨behind, hcs, hlength, hfits⟩
      have hsource : (c :: rest).take (k + 1) = s.source := by
        rw [hcs, List.take_left' hlength]
      have hword : wordRun (rest'.drop k) = wordRun (rest.drop k) := by
        rcases similarity_fits (hsame ▸ hfound) with ⟨behind', hcs', -, -⟩
        have hagree := h.agree.char c
        rw [hcs, hcs'] at hagree
        rw [drop_source hcs hlength, drop_source hcs' hlength]
        exact (hagree.of_append hfits.source_ne).word.1.symm
      rw [pieces_found hfound, pieces_found (hsame ▸ hfound), followed, followed, bareText_none,
        bareText_none, hword]
      refine congrArg ((s, _) :: ·) (h.found (some c) k ?_ fun d hd => ?_)
      · have hlong := congrArg List.length hcs
        rw [List.length_append, List.length_cons] at hlong
        omega
      · refine hfits.source_ne d ?_
        rw [← hsource, List.take_succ_cons]
        exact List.mem_cons_of_mem c hd
  · rw [pieces_skip, pieces_skip]
    refine h.found (some c) k (Nat.le_of_succ_le_succ hk) fun d hd => htake d ?_
    rw [List.take_succ_cons]
    exact List.mem_cons_of_mem c hd

theorem append (h : SameOperands cs cs') (front : List Char) :
    SameOperands (front ++ cs) (front ++ cs') := by
  induction front with
  | nil => exact h
  | cons c front ih => exact ih.char c

/-- Behind a parenthesis only the operands count. -/
theorem parenthesis {rest rest' : List Char}
    (h : ∀ passed, followed (pieces similarityPattern passed 0 ('(' :: rest'))
      = followed (pieces similarityPattern passed 0 ('(' :: rest))) :
    SameOperands ('(' :: rest) ('(' :: rest') := by
  refine ⟨.parenthesis rest rest', fun passed k _ htake => ?_⟩
  rcases k with _ | k
  · exact h passed
  · exact absurd rfl (htake '(' List.mem_cons_self)

/-- Spreading the operand of an `IN` changes no operand of `LIKE`. -/
theorem spread {m : Membership} {rest text : List Char} (hm : m.Fits rest) (vs : List Value)
    (h : SameOperands rest text) :
    SameOperands (m.source ++ rest)
      (m.opening ++ elementList (String.ofList m.name) vs ++ m.closing ++ text) := by
  rcases hm.cut vs text with ⟨before, behind, blanks, hletters, hblanks, -, hsource, hspread⟩
  rw [hsource, hspread]
  refine append (parenthesis fun passed => ?_) before
  have hname : ∀ name ∈ [String.ofList m.name], IsBindName name :=
    List.forall_mem_singleton.mpr hm.isBindName
  have hsingle : m.name = (", ".intercalate [String.ofList m.name]).toList := by
    rw [String.intercalate_singleton, String.toList_ofList]
  have hpasses := passesOver_pieces followed fun _ _ => rfl
  have hover := hpasses.first hletters passed
  have hnames := hpasses.names (List.cons_ne_nil _ _) hname hblanks
  have helements := hpasses.elements hm.isBindName vs hblanks
  rw [← hsingle] at hnames
  simp only [List.cons_append] at hover
  rw [hover, hover, helements, hnames]
  exact h.found (some ')') 0 (Nat.zero_le _) fun d hd => nomatch hd

end SameOperands

theorem spreadPieces_sameOperands {lists : List (String × List Value)} {cs : List Char}
    {ps : List (Piece Membership)} (h : Cut Membership.source Membership.Fits cs ps)
    (s : Spread) : SameOperands cs (spreadPieces lists s ps).1 := by
  induction h generalizing s with
  | nil => exact .nil
  | char c _ ih => exact (ih s).char c
  | @found m rest ps hm _ ih =>
      rcases hbound : elements? lists s.binds (String.ofList m.name) with _ | vs
      · rw [spreadPieces_unbound hbound]
        exact (ih s).append m.source
      · rw [spreadPieces_bound hbound]
        exact .spread hm vs (ih _)

/-- Spreading lists leaves the operands of `LIKE` and the words behind them as they are. -/
theorem spread_followed (lists : List (String × List Value)) (s : Spread) (cs : List Char) :
    followed (scan similarityPattern (spreadLists lists s cs).1)
      = followed (scan similarityPattern cs) :=
  (spreadPieces_sameOperands (membership_cut cs) s).found none 0 (Nat.zero_le _)
    fun _ hd => nomatch hd

/-- Spreading lists leaves the operands of `LIKE` as they are. -/
theorem spread_operands (lists : List (String × List Value)) (s : Spread) (cs : List Char) :
    foundIn (scan similarityPattern (spreadLists lists s cs).1)
      = foundIn (scan similarityPattern cs) := by
  rw [← followed_fst, spread_followed, followed_fst]

/-- Spreading lists leaves a name alone that is neither spread nor that of an element. -/
theorem spreadPieces_apart {lists : List (String × List Value)} {n : String}
    {ps : List (Piece Membership)}
    (h : ∀ m ∈ foundIn ps, n ≠ String.ofList m.name ∧ ∀ i, n ≠ numbered (String.ofList m.name) i)
    (s : Spread) :
    (spreadPieces lists s ps).2.binds.get? n = s.binds.get? n
      ∧ (n ∈ (spreadPieces lists s ps).2.spent ↔ n ∈ s.spent) := by
  induction ps generalizing s with
  | nil => exact ⟨rfl, Iff.rfl⟩
  | cons piece ps ih =>
      cases piece with
      | char c => exact ih h s
      | found m =>
          rcases List.forall_mem_cons.mp h with ⟨⟨hname, helement⟩, hrest⟩
          rcases hbound : elements? lists s.binds (String.ofList m.name) with _ | vs
          · rw [spreadPieces_unbound hbound]
            exact ih hrest s
          · rw [spreadPieces_bound hbound]
            rcases ih hrest (s.bound (String.ofList m.name) vs) with ⟨hbinds, hspent⟩
            refine ⟨hbinds.trans (get?_bindElements_ne (fun i _ => helement i) _), ?_⟩
            rw [hspent, Spread.bound, List.mem_append, List.mem_singleton, or_iff_left hname]

/-! ### Moved wildcards -/

theorem wrap_contains (p : Patterned) (s : Similarity) {v : Value}
    (h : p.binds.get? (String.ofList s.name) = some v) (t : String) :
    (p.wrap s v).binds.contains t = p.binds.contains t := by
  unfold Patterned.wrap
  split
  · rfl
  · rw [OrderedMap.contains_insert]
    by_cases ht : t = String.ofList s.name
    · rw [ht, OrderedMap.contains_of_get? h, Bool.or_true]
    · rw [decide_eq_false ht, Bool.false_or]

/-- Moving wildcards writes the operands bare. -/
theorem placePieces_text (p : Patterned) (ps : List (Piece Similarity)) :
    (placePieces p ps).1 = bareText p.binds.contains ps := by
  induction ps generalizing p with
  | nil => rfl
  | cons piece ps ih =>
      cases piece with
      | char c => exact congrArg (c :: ·) (ih p)
      | found s =>
          rcases hvalue : p.binds.get? (String.ofList s.name) with _ | v
          · have hunbound : p.binds.contains (String.ofList s.name) = false := by
              rw [OrderedMap.contains, hvalue, Option.isSome_none]
            rw [placePieces_unbound hvalue, ih, bareText, hunbound, if_neg Bool.false_ne_true]
          · have hsame : (p.wrap s v).binds.contains = p.binds.contains :=
              funext (wrap_contains p s hvalue)
            rw [placePieces_bound hvalue, ih, hsame, bareText, OrderedMap.contains_of_get? hvalue,
              if_pos rfl]

/-- The value of a name has the wildcards of the first of the operands that are done. -/
structure Dressed (n : String) (v : Value) (done : List Similarity) (p : Patterned) : Prop where
  value : p.binds.get? n = some (dressed v done)
  wrapped : n ∈ p.wrapped ↔ done ≠ []

section

variable {n : String} {v : Value} {done : List Similarity}

theorem comparing_cons (s : Similarity) (operands : List Similarity) :
    comparing n (s :: operands)
      = if String.ofList s.name = n then s :: comparing n operands else comparing n operands := by
  simp only [comparing, List.filter_cons, decide_eq_true_eq]

/-- An operand of another name plays no part. -/
theorem Dressed.wrap_ne {p : Patterned} (h : Dressed n v done p) {s : Similarity}
    (hname : String.ofList s.name ≠ n) (w : Value) : Dressed n v done (p.wrap s w) := by
  unfold Patterned.wrap
  split
  · exact h
  · refine ⟨?_, ?_⟩
    · rw [OrderedMap.get?_insert_ne _ hname.symm, h.value]
    · rw [List.mem_append, List.mem_singleton, or_iff_left hname.symm, h.wrapped]

/-- The first operand of the name puts its wildcards around the value, and a later one leaves it
    as it is. -/
theorem Dressed.wrap {p : Patterned} (h : Dressed n v done p) {s : Similarity}
    (hname : String.ofList s.name = n) {w : Value} (hw : p.binds.get? n = some w) :
    Dressed n v (done ++ [s]) (p.wrap s w) := by
  have hmore : done ++ [s] ≠ [] := List.append_ne_nil_of_right_ne_nil _ (List.cons_ne_nil _ _)
  unfold Patterned.wrap
  rw [hname]
  cases done with
  | nil =>
      have hfirst : ¬ p.wrapped.contains n = true := by
        rw [List.contains_iff_mem, h.wrapped]
        exact fun hne => hne rfl
      obtain rfl : v = w := Option.some.inj (h.value.symm.trans hw)
      rw [if_neg hfirst]
      refine ⟨OrderedMap.get?_insert_self _ _ _, iff_of_true ?_ hmore⟩
      exact List.mem_append_right _ (List.mem_singleton.mpr rfl)
  | cons first done =>
      have hlater : n ∈ p.wrapped := h.wrapped.mpr (List.cons_ne_nil _ _)
      rw [if_pos (List.contains_iff_mem.mpr hlater)]
      exact ⟨h.value, iff_of_true hlater hmore⟩

/-- Moving wildcards puts those of the first operand around the value. -/
theorem placePieces_dressed {p : Patterned} (h : Dressed n v done p)
    (ps : List (Piece Similarity)) :
    Dressed n v (done ++ comparing n (foundIn ps)) (placePieces p ps).2 := by
  induction ps generalizing p done with
  | nil => rwa [show comparing n (foundIn []) = [] from rfl, List.append_nil]
  | cons piece ps ih =>
      cases piece with
      | char c => exact ih h
      | found s =>
          rw [show foundIn (.found s :: ps) = s :: foundIn ps from rfl, comparing_cons]
          rcases hvalue : p.binds.get? (String.ofList s.name) with _ | w
          · have hname : String.ofList s.name ≠ n := by
              rintro rfl
              rw [h.value] at hvalue
              cases hvalue
            rw [placePieces_unbound hvalue, if_neg hname]
            exact ih h
          · rw [placePieces_bound hvalue]
            by_cases hname : String.ofList s.name = n
            · rw [if_pos hname, List.append_cons]
              exact ih (h.wrap hname (hname ▸ hvalue))
            · rw [if_neg hname]
              exact ih (h.wrap_ne hname w)

/-! ### Compiled clauses -/

/-- A name is asked for by no `IN`, and it is not that of an element of a list that is. -/
def Unlisted (n : String) (names : List String) : Prop :=
  ∀ name ∈ names, n ≠ name ∧ ∀ i, n ≠ numbered name i

/-- What compiling a clause makes of a name. -/
theorem compile_clause_dressed {lists : List (String × List Value)} {p p' : Progress}
    {clause : Clause} (h : clause.compile lists p = .ok p') (hn : Unlisted n clause.listArguments)
    (hp : Dressed n v done { binds := p.binds, wrapped := p.wrapped }) :
    Dressed n v (done ++ comparing n clause.operands) { binds := p'.binds, wrapped := p'.wrapped }
      ∧ (n ∈ p'.spent ↔ n ∈ p.spent)
      ∧ ∃ text, p'.fragments = p.fragments ++ [text] ∧ clause.Bared n text := by
  rcases compile_clause_cases h with ⟨field, w, rfl, -, rfl⟩ | ⟨sql, rfl, rfl⟩
  · have hfresh := (freshPlaceholder_cases (":_WHERE_" ++ underscored field) p.binds).1
    refine ⟨⟨?_, ?_⟩, Iff.rfl, _, rfl, trivial⟩
    · rw [Clause.operands, comparing, List.filter_nil, List.append_nil]
      refine (OrderedMap.get?_insert_ne _ ?_ _).trans hp.value
      rintro rfl
      rw [OrderedMap.contains_of_get? hp.value] at hfresh
      cases hfresh
    · rw [Clause.operands, comparing, List.filter_nil, List.append_nil]
      exact hp.wrapped
  · have hapart := @spreadPieces_apart lists n (scan membershipPattern sql.toList)
      (fun m hm => hn _ (List.mem_map_of_mem hm)) { binds := p.binds, spent := p.spent }
    have hoperands := spread_operands lists { binds := p.binds, spent := p.spent } sql.toList
    have hspread : Dressed n v done
        { binds := (p.spread lists sql).2.binds, wrapped := p.wrapped } :=
      ⟨hapart.1.trans hp.value, hp.wrapped⟩
    have hplaced := placePieces_dressed hspread (scan similarityPattern (p.spread lists sql).1)
    rw [show foundIn (scan similarityPattern (p.spread lists sql).1) = (Clause.raw sql).operands
      from hoperands] at hplaced
    rw [addRaw_eq]
    refine ⟨hplaced, hapart.2, _, rfl, lists, { binds := p.binds, spent := p.spent }, _,
      OrderedMap.contains_of_get? hspread.value, hoperands, ?_⟩
    exact congrArg String.ofList (placePieces_text _ _)

/-- What compiling clauses one after the other makes of a name. -/
theorem compile_clauses_dressed {lists : List (String × List Value)} {p p' : Progress}
    {clauses : List Clause} (h : clauses.foldlM (Clause.compile lists) p = .ok p')
    (hn : Unlisted n (clauses.flatMap Clause.listArguments))
    (hp : Dressed n v done { binds := p.binds, wrapped := p.wrapped }) :
    Dressed n v (done ++ comparing n (clauses.flatMap Clause.operands))
        { binds := p'.binds, wrapped := p'.wrapped }
      ∧ (n ∈ p'.spent ↔ n ∈ p.spent)
      ∧ ∃ texts, p'.fragments = p.fragments ++ texts
        ∧ List.Forall₂ (Clause.Bared n) clauses texts := by
  induction clauses generalizing p done with
  | nil =>
      cases h
      refine ⟨?_, Iff.rfl, [], (List.append_nil _).symm, .nil⟩
      rwa [List.flatMap_nil, comparing, List.filter_nil, List.append_nil]
  | cons clause clauses ih =>
      rcases foldlM_cons_ok h with ⟨q, hclause, hrest⟩
      rw [List.flatMap_cons] at hn
      rcases compile_clause_dressed hclause (fun name hname => hn name (List.mem_append_left _ hname))
        hp with ⟨hq, hspent, text, htext, hbared⟩
      rcases ih hrest (fun name hname => hn name (List.mem_append_right _ hname)) hq with
        ⟨hp', hspent', texts, htexts, hbared'⟩
      refine ⟨?_, hspent'.trans hspent, text :: texts, ?_, .cons hbared hbared'⟩
      · rw [List.flatMap_cons, comparing, List.filter_append, ← List.append_assoc]
        exact hp'
      · rw [htexts, htext, List.append_assoc, List.singleton_append]

end

/-- Where no `IN` interferes, every operand of `LIKE` that compares with a name is written bare, and
    the name is bound to its value with the wildcards of the first of these operands. If they all
    have the same wildcards, each compares with its own. If the value does not change by that, as
    where there is no such operand, it is what the name stands for anywhere else. -/
theorem compile_moves_wildcards {c : Conditions} {r : CompiledCondition} (h : c.compile = .ok r)
    {before after : List (String × Operand)} {n : String} {v : Value}
    (hbound : c.bindings = before ++ (n, .scalar v) :: after) (hlast : n ∉ after.map (·.1))
    (hlists : Unlisted n c.listArguments) :
    (∃ texts, r.fragment = " AND ".intercalate texts
        ∧ List.Forall₂ (Clause.Bared n) c.clauses texts)
      ∧ r.binds.get? n = some (dressed v (comparing n c.operands))
      ∧ (∀ s ∈ comparing n c.operands,
          (∀ s' ∈ comparing n c.operands, s'.lead = s.lead ∧ s'.trail = s.trail) →
          r.binds.get? n = some (.text (String.ofList (s.lead ++ v.plain.toList ++ s.trail))))
      ∧ ((∀ s ∈ comparing n c.operands, wrappedValue s v = v) → r.binds.get? n = some v) := by
  rcases compiled_of_ok h with ⟨b, p, hcompiled⟩
  have hvalue := bound_last hcompiled.bound hbound hlast
  have hstart : Dressed n v [] { binds := b.scalars } := ⟨hvalue, iff_of_false nofun (absurd rfl)⟩
  rcases compile_clauses_dressed hcompiled.clauses hlists hstart with
    ⟨hdressed, hspent, texts, htexts, hbared⟩
  have hunspent : n ∉ p.spent := fun hmem => nomatch hspent.mp hmem
  have hlaw : r.binds.get? n = some (dressed v (comparing n c.operands)) := by
    rw [hcompiled.binds, get?_eraseAll_ne hunspent]
    exact hdressed.value
  refine ⟨⟨texts, ?_, hbared⟩, hlaw, fun s hs hsame => ?_, fun hsame => ?_⟩
  · rw [hcompiled.fragment, htexts, List.nil_append]
  · rcases hall : comparing n c.operands with _ | ⟨first, others⟩
    · rw [hall] at hs
      cases hs
    · have hfirst := hsame first (hall ▸ List.mem_cons_self)
      rw [hlaw, hall, dressed, wrappedValue, hfirst.1, hfirst.2]
  · rcases hall : comparing n c.operands with _ | ⟨first, others⟩
    · rw [hlaw, hall, dressed]
    · rw [hlaw, hall, dressed, hsame first (hall ▸ List.mem_cons_self)]

/-- A name that is compared twice with the same wildcards, among other conditions. -/
def Conditions.similar : Conditions where
  clauses := [.raw "name LIKE '%:n%' AND id IN (:ids)", .equals "age" (.scalar (.int 30)),
    .raw "nick like \"%:n%\" OR x = :x"]
  bindings := [(":n", .scalar (.int 1)), (":ids", .list [.int 1, .int 2]),
    (":n", .scalar (.text "smith")), (":x", .scalar (.int 9))]

/-- What is made of them. -/
def CompiledCondition.similar : CompiledCondition where
  fragment := "name LIKE :n AND id IN (:ids_0, :ids_1) AND `age` = :_WHERE_age"
    ++ " AND nick like :n OR x = :x"
  binds := .ofList [(":n", .text "%smith%"), (":x", .int 9), (":ids_0", .int 1), (":ids_1", .int 2),
    (":_WHERE_age", .int 30)]

theorem unlisted_n_ids : Unlisted ":n" [":ids"] := by
  refine List.forall_mem_singleton.mpr ⟨by decide, fun i heq => ?_⟩
  have hlength := congrArg (fun name => name.toList.length) heq
  have hshort : ":n".toList.length = 2 := rfl
  have hlong : ":ids".toList.length = 4 := rfl
  simp only [toList_numbered, List.length_append, hshort, hlong] at hlength
  omega

theorem compile_moves_wildcards_similar :
    Conditions.similar.compile = .ok .similar
      ∧ Unlisted ":n" Conditions.similar.listArguments
      ∧ (comparing ":n" Conditions.similar.operands).length = 2
      ∧ (∃ texts, CompiledCondition.similar.fragment = " AND ".intercalate texts
          ∧ List.Forall₂ (Clause.Bared ":n") Conditions.similar.clauses texts)
      ∧ CompiledCondition.similar.binds.get? ":n" = some (.text "%smith%") := by
  have hcompiled : Conditions.similar.compile = .ok .similar := rfl
  have hlists : Unlisted ":n" Conditions.similar.listArguments := unlisted_n_ids
  have hbound : Conditions.similar.bindings
      = [(":n", .scalar (.int 1)), (":ids", .list [.int 1, .int 2])]
        ++ (":n", .scalar (.text "smith")) :: [(":x", .scalar (.int 9))] := rfl
  rcases compile_moves_wildcards hcompiled hbound (by decide) hlists with ⟨hfragment, -, hown, -⟩
  have hsame : ∀ s ∈ comparing ":n" Conditions.similar.operands,
      ∀ s' ∈ comparing ":n" Conditions.similar.operands, s'.lead = s.lead ∧ s'.trail = s.trail := by
    decide
  have hsecond := List.getElem_mem (l := comparing ":n" Conditions.similar.operands) (n := 1)
    (by decide)
  exact ⟨hcompiled, hlists, by decide, hfragment, hown _ hsecond (hsame _ hsecond)⟩

/-- A name that is compared with two wildcards. -/
def Conditions.dissimilar : Conditions :=
  (Conditions.raw { } "a LIKE '%:n' OR b LIKE ':n%'").bind "n" (.scalar (.text "x"))

/-- What is made of them. -/
def CompiledCondition.dissimilar : CompiledCondition where
  fragment := "a LIKE :n OR b LIKE :n"
  binds := .ofList [(":n", .text "%x")]

/-- An operand may compare with wildcards that are not its own. -/
theorem compile_shares_wildcards :
    ¬ ∀ (c : Conditions) (r : CompiledCondition) (before after : List (String × Operand))
      (n : String) (v : Value), c.compile = .ok r →
      c.bindings = before ++ (n, .scalar v) :: after → n ∉ after.map (·.1) →
      Unlisted n c.listArguments →
      ∀ s ∈ comparing n c.operands, r.binds.get? n = some (wrappedValue s v) := by
  intro hall
  have hcompiled : Conditions.dissimilar.compile = .ok .dissimilar := rfl
  have hown := hall _ _ [] [] ":n" (.text "x") hcompiled rfl (by decide) nofun
  exact absurd hown (by decide)

end SqlMapper
