import Mathlib.Data.List.Forall2
import SqlMapper.Proofs.Condition.Compiling
import SqlMapper.Proofs.Condition.Placing
import SqlMapper.Proofs.Condition.Spreading

/-!
# Names Kept Apart

When the values of compiled conditions are those that were bound.

The elements of a list are bound to numbered names without a look at what these
names stand for. So a value that a caller bound to such a name is overwritten,
and so is one that is spread or compared elsewhere. The names of equalities are
fresh when they are made up, but a fragment may ask for one of them as for any
other name.

If no name is used in two of these ways, nothing is lost. A value is settled if
what is still to come cannot change it: its name is not spread, has no wildcards
put around it, and is not the name of an element with another value. Values of
the caller, of equalities and of elements are settled, each from the step at
which it is bound, and each step keeps what is settled.

## Main definitions

* `Apart`: No name is used in two ways.
* `spreadText`: A fragment with the lists of the caller spread.
* `Rendered`: A clause is rendered by a text whose placeholders stand for its values.
* `Settled`: A value that nothing changes once it is bound.
* `Faithful`: What holds of the bindings at every moment.

## Theorems

* `Settled.bindElements`: Binding the elements of one list changes no settled value.
* `spread_well`: What spreading the lists of a fragment does.
* `compile_clause_well`, `compile_clauses_well`: What compiling clauses does.
* `compile_keeps_values`: Every value is bound where it belongs.
* `compile_overwrites_value`: Without that assumption a value may be overwritten.
-/

namespace SqlMapper

open Text

/-- The names that elements get when the values of these names are spread. -/
def Bound.elementNames (b : Bound) (spent : List String) : List String :=
  spent.flatMap fun name =>
    SqlMapper.elementNames name 0 ((elements? b.lists b.scalars name).getD []).length

/-- Whether a name is one that equalities are given. -/
def isReserved (t : String) : Bool :=
  startsWith t ":_WHERE_"

/-- The names that are bound, spread, wrapped and made up do not get in each other's way. -/
structure Apart (b : Bound) (spent wrapped : List String) : Prop where
  -- The name of an element stands for nothing else.
  elements : ∀ t ∈ b.elementNames spent,
    b.scalars.contains t = false ∧ t ∉ spent ∧ t ∉ wrapped
  -- The names of equalities are left to them.
  reserved : ∀ t ∈ spent ++ wrapped ++ b.elementNames spent, isReserved t = false
  -- No value is spread and wrapped.
  spread : ∀ t ∈ spent, t ∉ wrapped

/-- A fragment with its lists spread, whatever is bound meanwhile. -/
def spreadText (elements : String → Option (List Value)) : List (Piece Membership) → List Char
  | [] => []
  | .char c :: rest => c :: spreadText elements rest
  | .found m :: rest =>
    match elements (String.ofList m.name) with
    | none => m.source ++ spreadText elements rest
    | some vs =>
      m.opening ++ elementList (String.ofList m.name) vs ++ m.closing ++ spreadText elements rest

/-- A clause is rendered by a text in which placeholders stand for the values they should. -/
def Rendered (b : Bound) (stands : String → Value → Prop) : Clause → String → Prop
  | .equals field (.scalar v), text => ∃ t, text = quotePath field ++ " = " ++ t ∧ stands t v
  | .equals _ (.list _), _ => False
  | .raw sql, text =>
    (∃ q, text = String.ofList (placeWildcards q
      (spreadText (elements? b.lists b.scalars) (scan membershipPattern sql.toList))).1)
    ∧ ∀ name ∈ (Clause.raw sql).listArguments, ∀ vs,
      elements? b.lists b.scalars name = some vs →
        ∀ i v, vs[i]? = some v → stands (numbered name i) v

theorem Rendered.imp {b : Bound} {stands stands' : String → Value → Prop}
    (h : ∀ t v, stands t v → stands' t v) {clause : Clause} {text : String}
    (hrendered : Rendered b stands clause text) : Rendered b stands' clause text := by
  cases clause with
  | equals field value =>
      cases value with
      | scalar v =>
          rcases hrendered with ⟨t, htext, ht⟩
          exact ⟨t, htext, h t v ht⟩
      | list vs => exact hrendered
  | raw sql =>
      exact ⟨hrendered.1, fun name hname vs hvs i v hv =>
        h _ v (hrendered.2 name hname vs hvs i v hv)⟩

theorem mem_elementNames_of_get {b : Bound} {spent : List String} {name : String}
    (hname : name ∈ spent) {vs : List Value} (hvs : elements? b.lists b.scalars name = some vs)
    {i : Nat} {v : Value} (hv : vs[i]? = some v) : numbered name i ∈ b.elementNames spent := by
  refine List.mem_flatMap.mpr ⟨name, hname, ?_⟩
  rw [hvs, Option.getD_some]
  refine List.mem_map.mpr ⟨i, List.mem_range.mpr (List.getElem?_eq_some_iff.mp hv).1, ?_⟩
  rw [Nat.zero_add]

theorem elements?_congr {lists : List (String × List Value)} {m m' : Binds} {name : String}
    (h : m.get? name = m'.get? name) : elements? lists m name = elements? lists m' name := by
  simp only [elements?, h]

/-- What holds of bindings at every moment of a compilation: nothing of the caller is lost, and
    the values that are spread are those of the caller. -/
structure Faithful (b : Bound) (spent : List String) (m : Binds) : Prop where
  -- No name is taken out.
  grows : Grows b.scalars m
  -- The values that are spread are those the caller bound.
  source : ∀ name ∈ spent, m.get? name = b.scalars.get? name

/-- A value that nothing changes once it is bound to a name. -/
structure Settled (b : Bound) (spent wrapped : List String) (t : String) (v : Value) : Prop where
  -- It is not taken out at the end.
  unspent : t ∉ spent
  -- It gets no wildcards.
  bare : t ∉ wrapped
  -- If the name is that of an element, the value is the element.
  element : ∀ name ∈ spent, ∀ vs, elements? b.lists b.scalars name = some vs →
    ∀ i w, vs[i]? = some w → t = numbered name i → w = v

section

variable {b : Bound} {spent wrapped : List String}

theorem Apart.settled_scalar (h : Apart b spent wrapped) {t : String} {v : Value}
    (ht : b.scalars.get? t = some v) (hspent : t ∉ spent) (hwrapped : t ∉ wrapped) :
    Settled b spent wrapped t v := by
  refine ⟨hspent, hwrapped, fun name hname vs hvs i w hw heq => ?_⟩
  have hfree := (h.elements _ (mem_elementNames_of_get hname hvs hw)).1
  rw [← heq, OrderedMap.contains_of_get? ht] at hfree
  cases hfree

theorem Apart.settled_reserved (h : Apart b spent wrapped) {t : String} (ht : isReserved t = true)
    (v : Value) : Settled b spent wrapped t v := by
  have hreserved : ∀ s ∈ spent ++ wrapped ++ b.elementNames spent, s ≠ t := by
    rintro s hs rfl
    rw [h.reserved s hs] at ht
    cases ht
  refine ⟨fun hs => ?_, fun hs => ?_, fun name hname vs hvs i w hw heq => ?_⟩
  · exact hreserved t (List.mem_append_left _ (List.mem_append_left _ hs)) rfl
  · exact hreserved t (List.mem_append_left _ (List.mem_append_right _ hs)) rfl
  · exact absurd heq.symm
      (hreserved _ (List.mem_append_right _ (mem_elementNames_of_get hname hvs hw)))

theorem Apart.settled_element (h : Apart b spent wrapped) {name : String} (hname : name ∈ spent)
    {vs : List Value} (hvs : elements? b.lists b.scalars name = some vs) {i : Nat} {v : Value}
    (hv : vs[i]? = some v) : Settled b spent wrapped (numbered name i) v := by
  have hfree := (h.elements _ (mem_elementNames_of_get hname hvs hv)).2
  refine ⟨hfree.1, hfree.2, fun name' hname' vs' hvs' i' w hw heq => ?_⟩
  rcases numbered_inj heq with ⟨rfl, rfl⟩
  rw [hvs] at hvs'
  cases hvs'
  rw [hv] at hw
  exact (Option.some.inj hw).symm

/-- Binding the elements of one list changes no settled value. -/
theorem Settled.bindElements {t : String} {v : Value} (h : Settled b spent wrapped t v)
    {m : Binds} (hm : m.get? t = some v) {name : String} (hname : name ∈ spent) {vs : List Value}
    (hvs : elements? b.lists b.scalars name = some vs) :
    (bindElements m name vs).get? t = some v := by
  by_cases helement : ∃ i < vs.length, t = numbered name i
  · rcases helement with ⟨i, hi, heq⟩
    have hw := List.getElem?_eq_getElem hi
    rw [heq, get?_bindElements m name hw, h.element name hname vs hvs i _ hw heq]
  · rw [get?_bindElements_ne (fun i hi heq => helement ⟨i, hi, heq⟩), hm]

theorem Faithful.bindElements (hapart : Apart b spent wrapped) {m : Binds}
    (h : Faithful b spent m) {name : String} (hname : name ∈ spent) {vs : List Value}
    (hvs : elements? b.lists b.scalars name = some vs) :
    Faithful b spent (bindElements m name vs) := by
  refine ⟨fun t ht => bindElements_grows m name vs t (h.grows t ht), fun t ht => ?_⟩
  rw [get?_bindElements_ne, h.source t ht]
  rintro i hi rfl
  exact (hapart.elements _
    (mem_elementNames_of_get hname hvs (List.getElem?_eq_getElem hi))).2.1 ht

/-- What is not found later was not bound by the caller. -/
theorem Faithful.unbound {m : Binds} (h : Faithful b spent m) {name : String}
    (hnone : elements? b.lists m name = none) : elements? b.lists b.scalars name = none := by
  rw [← Option.not_isSome_iff_eq_none] at hnone ⊢
  exact fun hcaller => hnone (elements?_isSome.mpr
    ((elements?_isSome.mp hcaller).imp_left (h.grows name)))

theorem spent_subset (lists : List (String × List Value)) (s : Spread)
    (ps : List (Piece Membership)) : s.spent ⊆ (spreadPieces lists s ps).2.spent := by
  induction ps generalizing s with
  | nil => exact List.Subset.refl _
  | cons piece ps ih =>
      cases piece with
      | char c => exact ih s
      | found m =>
          rcases hbound : elements? lists s.binds (String.ofList m.name) with _ | vs
          · rw [spreadPieces_unbound hbound]
            exact ih s
          · rw [spreadPieces_bound hbound]
            exact fun t ht => ih _ (List.mem_append_left _ ht)

theorem wrapped_subset (p : Patterned) (ps : List (Piece Similarity)) :
    p.wrapped ⊆ (placePieces p ps).2.wrapped := by
  induction ps generalizing p with
  | nil => exact List.Subset.refl _
  | cons piece ps ih =>
      cases piece with
      | char c => exact ih p
      | found s =>
          rcases hvalue : p.binds.get? (String.ofList s.name) with _ | v
          · rw [placePieces_unbound hvalue]
            exact ih p
          · rw [placePieces_bound hvalue]
            intro t ht
            refine ih _ ?_
            unfold Patterned.wrap
            split
            · exact ht
            · exact List.mem_append_left _ ht

/-- What spreading the lists of a fragment does. -/
structure SpreadWell (b : Bound) (spent wrapped : List String) (m : Binds)
    (ps : List (Piece Membership)) (text : List Char) (s : Spread) : Prop where
  -- The bindings stay faithful.
  faithful : Faithful b spent s.binds
  -- Settled values stay.
  settled : ∀ t v, Settled b spent wrapped t v → m.get? t = some v → s.binds.get? t = some v
  -- The text is that of the values the caller bound.
  text : text = spreadText (elements? b.lists b.scalars) ps
  -- Each element is bound to its name.
  elements : ∀ a ∈ foundIn ps, ∀ vs,
    elements? b.lists b.scalars (String.ofList a.name) = some vs →
      String.ofList a.name ∈ spent
      ∧ ∀ i v, vs[i]? = some v → s.binds.get? (numbered (String.ofList a.name) i) = some v

theorem spread_well (hapart : Apart b spent wrapped) {s : Spread} (hs : Faithful b spent s.binds)
    (ps : List (Piece Membership)) (hspent : (spreadPieces b.lists s ps).2.spent ⊆ spent) :
    SpreadWell b spent wrapped s.binds ps (spreadPieces b.lists s ps).1
      (spreadPieces b.lists s ps).2 := by
  induction ps generalizing s with
  | nil => exact ⟨hs, fun t v _ ht => ht, rfl, fun a ha => nomatch ha⟩
  | cons piece ps ih =>
      cases piece with
      | char c =>
          rw [spreadPieces_char] at hspent ⊢
          have hrest := ih hs hspent
          refine ⟨hrest.faithful, hrest.settled, ?_, hrest.elements⟩
          rw [spreadText, ← hrest.text]
      | found a =>
          rcases hbound : elements? b.lists s.binds (String.ofList a.name) with _ | vs
          · rw [spreadPieces_unbound hbound] at hspent ⊢
            have hrest := ih hs hspent
            have hcaller := hs.unbound hbound
            refine ⟨hrest.faithful, hrest.settled, ?_, fun a' ha' vs hvs => ?_⟩
            · simp only [spreadText, hcaller, hrest.text]
            · rcases mem_foundIn_cons ha' with rfl | ha'
              · rw [hcaller] at hvs
                cases hvs
              · exact hrest.elements a' ha' vs hvs
          · rw [spreadPieces_bound hbound] at hspent ⊢
            have hname : String.ofList a.name ∈ spent := by
              refine hspent (spent_subset _ _ ps ?_)
              exact List.mem_append_right _ (List.mem_singleton.mpr rfl)
            have hcaller : elements? b.lists b.scalars (String.ofList a.name)
                = some vs := by
              rw [← hbound]
              exact elements?_congr (hs.source _ hname).symm
            have hrest := ih (s := s.bound (String.ofList a.name) vs)
              (hs.bindElements hapart hname hcaller) hspent
            refine ⟨hrest.faithful, fun t v ht hm => ?_, ?_, fun a' ha' vs' hvs' => ?_⟩
            · exact hrest.settled t v ht (ht.bindElements hm hname hcaller)
            · simp only [spreadText, hcaller, hrest.text]
            · rcases mem_foundIn_cons ha' with rfl | ha'
              · rw [hcaller] at hvs'
                cases hvs'
                refine ⟨hname, fun i v hv => ?_⟩
                exact hrest.settled _ _ (hapart.settled_element hname hcaller hv)
                  (get?_bindElements s.binds _ hv)
              · exact hrest.elements a' ha' vs' hvs'

theorem placed_same {p : Patterned} {ps : List (Piece Similarity)} {t : String}
    (h : t ∉ (placePieces p ps).2.wrapped) :
    (placePieces p ps).2.binds.get? t = p.binds.get? t := by
  induction ps generalizing p with
  | nil => rfl
  | cons piece ps ih =>
      cases piece with
      | char c => exact ih h
      | found s =>
          rcases hvalue : p.binds.get? (String.ofList s.name) with _ | v
          · rw [placePieces_unbound hvalue] at h ⊢
            exact ih h
          · rw [placePieces_bound hvalue] at h ⊢
            rw [ih h]
            have hfree : t ∉ (p.wrap s v).wrapped := fun ht => h (wrapped_subset _ ps ht)
            unfold Patterned.wrap at hfree ⊢
            split
            · rfl
            next hnew =>
              rw [if_neg hnew] at hfree
              refine OrderedMap.get?_insert_ne _ ?_ _
              rintro rfl
              exact hfree (List.mem_append_right _ (List.mem_singleton.mpr rfl))

theorem isReserved_equality (field : String) (m : Binds) :
    isReserved (freshPlaceholder (":_WHERE_" ++ underscored field) m) = true := by
  rcases toList_freshPlaceholder (":_WHERE_" ++ underscored field) m with ⟨behind, hname, -⟩
  rw [isReserved, startsWith, List.isPrefixOf_iff_prefix, hname, String.toList_append,
    List.append_assoc]
  exact List.prefix_append _ _

/-- What compiling one clause does. -/
structure CompiledWell (b : Bound) (spent wrapped : List String) (m m' : Binds) : Prop where
  -- The bindings stay faithful.
  faithful : Faithful b spent m'
  -- Settled values stay.
  settled : ∀ t v, Settled b spent wrapped t v → m.get? t = some v → m'.get? t = some v

theorem addRaw_well (hapart : Apart b spent wrapped) {p : Progress} {sql : String}
    (hspent : (p.addRaw b.lists sql).spent ⊆ spent)
    (hwrapped : (p.addRaw b.lists sql).wrapped ⊆ wrapped) (hp : Faithful b spent p.binds) :
    CompiledWell b spent wrapped p.binds (p.addRaw b.lists sql).binds
      ∧ ∃ text, (p.addRaw b.lists sql).fragments = p.fragments ++ [text]
        ∧ Rendered b (fun t v => Settled b spent wrapped t v
            ∧ (p.addRaw b.lists sql).binds.get? t = some v) (.raw sql) text := by
  have hspread := spread_well hapart (s := { binds := p.binds, spent := p.spent }) hp
    (scan membershipPattern sql.toList) hspent
  have hsame : ∀ t, t ∉ wrapped →
      (p.placed b.lists sql).2.binds.get? t = (p.spread b.lists sql).2.binds.get? t := fun t ht =>
    placed_same fun hmem => ht (hwrapped hmem)
  have hsettled : ∀ t v, Settled b spent wrapped t v →
      (p.spread b.lists sql).2.binds.get? t = some v →
      (p.placed b.lists sql).2.binds.get? t = some v := fun t v ht hm => by
    rw [hsame t ht.bare, hm]
  rw [addRaw_eq]
  refine ⟨⟨⟨fun t ht => ?_, fun t ht => ?_⟩, fun t v ht hm => ?_⟩, _, rfl,
    ⟨{ binds := (p.spread b.lists sql).2.binds, wrapped := p.wrapped }, ?_⟩,
    fun name hname vs hvs i v hv => ?_⟩
  · exact placePieces_grows { binds := (p.spread b.lists sql).2.binds, wrapped := p.wrapped } _ t
      (hspread.faithful.grows t ht)
  · rw [hsame t (hapart.spread t ht)]
    exact hspread.faithful.source t ht
  · exact hsettled t v ht (hspread.settled t v ht hm)
  · rw [← hspread.text]
    rfl
  · rcases List.mem_map.mp hname with ⟨a, ha, rfl⟩
    rcases hspread.elements a ha vs hvs with ⟨hspent', helements⟩
    have hset := hapart.settled_element hspent' hvs hv
    exact ⟨hset, hsettled _ v hset (helements i v hv)⟩

/-- What compiling one clause does. -/
theorem compile_clause_well (hapart : Apart b spent wrapped) {p p' : Progress} {clause : Clause}
    (h : clause.compile b.lists p = .ok p') (hspent : p'.spent ⊆ spent)
    (hwrapped : p'.wrapped ⊆ wrapped) (hp : Faithful b spent p.binds) :
    CompiledWell b spent wrapped p.binds p'.binds
      ∧ ∃ text, p'.fragments = p.fragments ++ [text]
        ∧ Rendered b (fun t v => Settled b spent wrapped t v ∧ p'.binds.get? t = some v)
            clause text := by
  rcases compile_clause_cases h with ⟨field, v, rfl, -, rfl⟩ | ⟨sql, rfl, rfl⟩
  · have hset := hapart.settled_reserved (isReserved_equality field p.binds)
    have hfresh := (freshPlaceholder_cases (":_WHERE_" ++ underscored field) p.binds).1
    refine ⟨⟨⟨fun t ht => ?_, fun t ht => ?_⟩, fun t w ht hm => ?_⟩, _, rfl, _, rfl, hset v,
      OrderedMap.get?_insert_self _ _ _⟩
    · rw [OrderedMap.contains_insert, hp.grows t ht, Bool.or_true]
    · rw [OrderedMap.get?_insert_ne]
      · exact hp.source t ht
      · rintro rfl
        exact (hset v).unspent ht
    · rw [OrderedMap.get?_insert_ne]
      · exact hm
      · rintro rfl
        rw [OrderedMap.contains_of_get? hm] at hfresh
        cases hfresh
  · exact addRaw_well hapart hspent hwrapped hp

theorem compile_clause_subset {lists : List (String × List Value)} {p p' : Progress}
    {clause : Clause} (h : clause.compile lists p = .ok p') :
    p.spent ⊆ p'.spent ∧ p.wrapped ⊆ p'.wrapped := by
  rcases compile_clause_cases h with ⟨field, v, rfl, -, rfl⟩ | ⟨sql, rfl, rfl⟩
  · exact ⟨List.Subset.refl _, List.Subset.refl _⟩
  · exact ⟨spent_subset lists { binds := p.binds, spent := p.spent } _,
      wrapped_subset { binds := (p.spread lists sql).2.binds, wrapped := p.wrapped } _⟩

theorem compile_clauses_subset {lists : List (String × List Value)} {p p' : Progress}
    {clauses : List Clause} (h : clauses.foldlM (Clause.compile lists) p = .ok p') :
    p.spent ⊆ p'.spent ∧ p.wrapped ⊆ p'.wrapped := by
  induction clauses generalizing p with
  | nil =>
      cases h
      exact ⟨List.Subset.refl _, List.Subset.refl _⟩
  | cons clause clauses ih =>
      rcases foldlM_cons_ok h with ⟨q, hclause, hrest⟩
      have hfirst := compile_clause_subset hclause
      have hlater := ih hrest
      exact ⟨List.Subset.trans hfirst.1 hlater.1, List.Subset.trans hfirst.2 hlater.2⟩

/-- What compiling clauses one after the other does. -/
theorem compile_clauses_well (hapart : Apart b spent wrapped) {p p' : Progress}
    {clauses : List Clause} (h : clauses.foldlM (Clause.compile b.lists) p = .ok p')
    (hspent : p'.spent ⊆ spent) (hwrapped : p'.wrapped ⊆ wrapped)
    (hp : Faithful b spent p.binds) :
    CompiledWell b spent wrapped p.binds p'.binds
      ∧ ∃ texts, p'.fragments = p.fragments ++ texts
        ∧ List.Forall₂
            (Rendered b fun t v => Settled b spent wrapped t v ∧ p'.binds.get? t = some v)
            clauses texts := by
  induction clauses generalizing p with
  | nil =>
      cases h
      exact ⟨⟨hp, fun t v _ hm => hm⟩, [], (List.append_nil _).symm, .nil⟩
  | cons clause clauses ih =>
      rcases foldlM_cons_ok h with ⟨q, hclause, hrest⟩
      have hsubset := compile_clauses_subset hrest
      rcases compile_clause_well hapart hclause (List.Subset.trans hsubset.1 hspent)
        (List.Subset.trans hsubset.2 hwrapped) hp with ⟨hwell, text, htext, hrendered⟩
      rcases ih hrest hwell.faithful with ⟨hwell', texts, htexts, hrendered'⟩
      refine ⟨⟨hwell'.faithful, fun t v ht hm => ?_⟩, text :: texts, ?_, .cons ?_ hrendered'⟩
      · exact hwell'.settled t v ht (hwell.settled t v ht hm)
      · rw [htexts, htext, List.append_assoc]
        rfl
      · exact hrendered.imp fun t v ht => ⟨ht.1, hwell'.settled t v ht.1 ht.2⟩

end

/-- If the names are kept apart, compiled conditions bind every value where it belongs: the
    values of equalities and the elements of lists to the placeholders that stand for them, and
    the other values of the caller to their own names. -/
theorem compile_keeps_values {c : Conditions} {b : Bound} {p : Progress} {r : CompiledCondition}
    (h : Compiled c b p r) (hapart : Apart b p.spent p.wrapped) :
    (∀ t v, b.scalars.get? t = some v → t ∉ p.spent → t ∉ p.wrapped → r.binds.get? t = some v)
      ∧ ∃ texts, r.fragment = " AND ".intercalate texts
        ∧ List.Forall₂ (Rendered b fun t v => r.binds.get? t = some v) c.clauses texts := by
  have hstart : Faithful b p.spent b.scalars := ⟨fun t ht => ht, fun t _ => rfl⟩
  rcases compile_clauses_well hapart h.clauses (List.Subset.refl _) (List.Subset.refl _) hstart with
    ⟨hwell, texts, htexts, hrendered⟩
  have hkept : ∀ t v, Settled b p.spent p.wrapped t v → p.binds.get? t = some v →
      r.binds.get? t = some v := by
    intro t v ht hm
    rw [h.binds, get?_eraseAll_ne ht.unspent, hm]
  rw [List.nil_append] at htexts
  refine ⟨fun t v ht hspent hwrapped => ?_, texts, ?_, ?_⟩
  · have hset := hapart.settled_scalar ht hspent hwrapped
    exact hkept t v hset (hwell.settled t v hset ht)
  · rw [h.fragment, htexts]
  · exact hrendered.imp fun clause text htext => htext.imp fun t v ht => hkept t v ht.1 ht.2

/-- A named value, a list, a pattern and a value that is compared. -/
def Conditions.mixed : Conditions where
  clauses := [.equals "age" (.scalar (.int 30)), .raw "id IN (:ids)", .raw "name LIKE '%:n%'",
    .raw "x = :x"]
  bindings := [(":ids", .list [.int 1, .int 2]), (":n", .scalar (.text "smith")),
    (":x", .scalar (.int 9))]

/-- Their bindings. -/
def Bound.mixed : Bound where
  scalars := .ofList [(":n", .text "smith"), (":x", .int 9)]
  lists := [(":ids", [.int 1, .int 2])]

/-- What is made of their clauses. -/
def Progress.mixed : Progress where
  binds := .ofList [(":n", .text "%smith%"), (":x", .int 9), (":_WHERE_age", .int 30),
    (":ids_0", .int 1), (":ids_1", .int 2)]
  spent := [":ids"]
  wrapped := [":n"]
  fragments := ["`age` = :_WHERE_age", "id IN (:ids_0, :ids_1)", "name LIKE :n", "x = :x"]

/-- What is made of them. -/
def CompiledCondition.mixed : CompiledCondition where
  fragment := "`age` = :_WHERE_age AND id IN (:ids_0, :ids_1) AND name LIKE :n AND x = :x"
  binds := Progress.mixed.binds

theorem compile_keeps_values_mixed :
    Compiled .mixed .mixed .mixed .mixed
      ∧ (∀ t v, Bound.mixed.scalars.get? t = some v → t ∉ Progress.mixed.spent →
          t ∉ Progress.mixed.wrapped → CompiledCondition.mixed.binds.get? t = some v)
      ∧ ∃ texts, CompiledCondition.mixed.fragment = " AND ".intercalate texts
        ∧ List.Forall₂ (Rendered .mixed fun t v => CompiledCondition.mixed.binds.get? t = some v)
            Conditions.mixed.clauses texts := by
  have hcompiled : Compiled .mixed .mixed .mixed .mixed := ⟨rfl, rfl, by decide, rfl, rfl⟩
  have hapart : Apart .mixed Progress.mixed.spent Progress.mixed.wrapped :=
    ⟨by decide, by decide, by decide⟩
  exact ⟨hcompiled, compile_keeps_values hcompiled hapart⟩

/-- A list next to a value that is bound to the name of its first element. -/
def Conditions.colliding : Conditions where
  clauses := [.raw "id IN (:ids)", .raw "x = :ids_0"]
  bindings := [(":ids", .list [.int 1, .int 2]), (":ids_0", .scalar (.int 9))]

/-- Their bindings. -/
def Bound.colliding : Bound where
  scalars := .ofList [(":ids_0", .int 9)]
  lists := [(":ids", [.int 1, .int 2])]

/-- What is made of their clauses. -/
def Progress.colliding : Progress where
  binds := .ofList [(":ids_0", .int 1), (":ids_1", .int 2)]
  spent := [":ids"]
  fragments := ["id IN (:ids_0, :ids_1)", "x = :ids_0"]

/-- What is made of them. -/
def CompiledCondition.colliding : CompiledCondition where
  fragment := "id IN (:ids_0, :ids_1) AND x = :ids_0"
  binds := Progress.colliding.binds

/-- Spreading a list may overwrite a value of the caller that is neither spread nor wrapped. -/
theorem compile_overwrites_value :
    ¬ ∀ (c : Conditions) (b : Bound) (p : Progress) (r : CompiledCondition), Compiled c b p r →
      ∀ t v, b.scalars.get? t = some v → t ∉ p.spent → t ∉ p.wrapped →
        r.binds.get? t = some v := by
  intro hall
  have hcompiled : Compiled .colliding .colliding .colliding .colliding :=
    ⟨rfl, rfl, by decide, rfl, rfl⟩
  have hkept := hall _ _ _ _ hcompiled ":ids_0" (.int 9) rfl (by decide) (by decide)
  exact absurd hkept (by decide)

end SqlMapper
