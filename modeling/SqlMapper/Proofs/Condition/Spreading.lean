import SqlMapper.Proofs.Condition.Asking
import SqlMapper.Proofs.Condition.References

/-!
# Spreading a List

What placeholders a fragment has once its lists are spread.

Spreading touches nothing but the placeholder between the parentheses, and the
names of the elements stand between commas there. So the reach of every colon
stays as it is, and the placeholders of the fragment are those it had and those
of elements, which are bound.

## Main definitions

* `Membership.Fits`: What an occurrence of `IN (:name)` looks like.
* `Spread.bound`: Bindings once the elements of a list are bound.

## Theorems

* `membership_fits`, `membership_cut`: What a scan finds looks like that.
* `spread_references`: Spreading brings in no reference but those of elements.
* `spread_loose`: A loose text stays loose.
* `spread_placeholders`: Spreading brings in no placeholder but those of elements.
* `name_mem_placeholders`: The name of an operand is a placeholder of the text.
-/

namespace SqlMapper

open Text

/-- What an occurrence of `IN (:name)` looks like. -/
structure Membership.Fits (m : Membership) (rest : List Char) : Prop where
  -- The text up to the name holds no placeholder, and only blanks behind the parenthesis.
  opening : (∃ before behind, m.opening = before ++ '(' :: behind ∧ ∀ c ∈ behind, isBlank c = true)
    ∧ ∀ c ∈ m.opening, c ≠ ':'
  -- The name is a placeholder.
  name : ∃ word, m.name = ':' :: word ∧ word ≠ [] ∧ ∀ c ∈ word, isWord c = true
  -- The name ends at a blank or at the parenthesis.
  closing : (∃ d behind, m.closing = d :: behind ∧ isDressed d = false) ∧ ∀ c ∈ m.closing, c ≠ ':'
  -- There are only blanks up to the other parenthesis.
  closed : ∃ blanks, m.closing = blanks ++ [')'] ∧ ∀ c ∈ blanks, isBlank c = true

theorem membership_fits {passed : Option Char} {cs : List Char} {m : Membership} {k : Nat}
    (h : membershipPattern passed cs = some (m, k)) :
    ∃ rest, cs = m.source ++ rest ∧ m.source.length = k + 1 ∧ m.Fits rest := by
  rcases membershipPattern_eq_some_iff.mp h with ⟨-, a, word, rest, hne, hword, rfl, hcs, rfl⟩
  refine ⟨rest, ?_, ?_, ⟨⟨⟨a.word ++ a.gap, a.before, rfl, a.blank_before⟩, a.opening_ne_colon⟩,
    ⟨word, rfl, hne, hword⟩, ⟨?_, a.closing_ne_colon⟩, ⟨a.after, rfl, a.blank_after⟩⟩⟩
  · rw [a.source_membership, hcs]
  · rw [a.source_membership, Asking.written, List.length_append, List.length_append,
      List.length_cons]
    omega
  · rcases hblanks : a.after with _ | ⟨d, behind⟩
    · exact ⟨')', [], congrArg (· ++ [')']) hblanks, by decide⟩
    · exact ⟨d, behind ++ [')'], congrArg (· ++ [')']) hblanks,
        isDressed_of_isBlank (a.blank_after d (hblanks ▸ List.mem_cons_self))⟩

theorem membership_cut (cs : List Char) :
    Cut Membership.source Membership.Fits cs (scan membershipPattern cs) :=
  cut_scan membership_fits cs

variable {lists : List (String × List Value)}

theorem spreadPieces_char (s : Spread) (c : Char) (ps : List (Piece Membership)) :
    spreadPieces lists s (.char c :: ps)
      = (c :: (spreadPieces lists s ps).1, (spreadPieces lists s ps).2) := rfl

theorem spreadPieces_unbound {s : Spread} {m : Membership}
    (h : elements? lists s.binds (String.ofList m.name) = none) (ps : List (Piece Membership)) :
    spreadPieces lists s (.found m :: ps)
      = (m.source ++ (spreadPieces lists s ps).1, (spreadPieces lists s ps).2) := by
  simp only [spreadPieces, h]

/-- Bindings once the elements of a list are bound. -/
def Spread.bound (s : Spread) (name : String) (vs : List Value) : Spread where
  binds := bindElements s.binds name vs
  spent := s.spent ++ [name]

theorem spreadPieces_bound {s : Spread} {m : Membership} {vs : List Value}
    (h : elements? lists s.binds (String.ofList m.name) = some vs) (ps : List (Piece Membership)) :
    spreadPieces lists s (.found m :: ps)
      = (m.opening ++ elementList (String.ofList m.name) vs ++ m.closing
          ++ (spreadPieces lists (s.bound (String.ofList m.name) vs) ps).1,
        (spreadPieces lists (s.bound (String.ofList m.name) vs) ps).2) := by
  simp only [spreadPieces, h, Spread.bound]

/-- Spreading takes no name out of the bindings. -/
theorem spreadPieces_grows (s : Spread) (ps : List (Piece Membership)) :
    Grows s.binds (spreadPieces lists s ps).2.binds := by
  induction ps generalizing s with
  | nil => exact fun t ht => ht
  | cons piece ps ih =>
      cases piece with
      | char c => exact ih s
      | found m =>
          rcases hbound : elements? lists s.binds (String.ofList m.name) with _ | vs
          · rw [spreadPieces_unbound hbound]
            exact ih s
          · rw [spreadPieces_bound hbound]
            exact fun t ht => ih _ t (bindElements_grows s.binds _ vs t ht)

theorem isBindName_numbered {name : String} (h : IsBindName name) (n : Nat) :
    IsBindName (numbered name n) := by
  rcases h with ⟨word, hname, hword⟩
  refine ⟨word ++ '_' :: Nat.toDigits 10 n, ?_, fun c hc => ?_⟩
  · rw [toList_numbered, hname, List.cons_append]
  · rcases List.mem_append.mp hc with hc | hc
    · exact hword c hc
    · rcases List.mem_cons.mp hc with rfl | hc
      · decide
      · exact isWord_of_isDigit (isDigit_of_mem_number hc)

theorem Membership.Fits.isBindName {m : Membership} {rest : List Char} (h : m.Fits rest) :
    IsBindName (String.ofList m.name) := by
  rcases h.name with ⟨word, hname, -, hword⟩
  exact ⟨word, by rw [String.toList_ofList, hname], hword⟩

namespace Membership.Fits

variable {m : Membership} {rest : List Char}

theorem reach_opening (h : m.Fits rest) (text text' : List Char) :
    reach (m.opening ++ text) = reach (m.opening ++ text') := by
  rcases h.opening.1 with ⟨before, behind, hopening, -⟩
  rw [hopening, List.append_assoc, List.append_assoc]
  exact reach_of_ends (by decide) before _ _

theorem references_closing (h : m.Fits rest) (text : List Char) :
    references (m.closing ++ text) = references text :=
  references_append_of_ne h.closing.2 text

theorem references_opening (h : m.Fits rest) (text : List Char) :
    references (m.opening ++ text) = references text :=
  references_append_of_ne h.opening.2 text

/-- An operand has the reference of its name. -/
theorem references_source (h : m.Fits rest) {word : List Char} (hname : m.name = ':' :: word)
    (hword : ∀ c ∈ word, isWord c = true) (text : List Char) :
    references (m.source ++ text) = word :: references text := by
  rcases h.closing.1 with ⟨d, behind, hclosing, hd⟩
  calc references (m.source ++ text) = references (':' :: word ++ d :: (behind ++ text)) := by
        rw [Membership.source, List.append_assoc, List.append_assoc, h.references_opening, hname,
          hclosing]
        rfl
    _ = word :: references (m.closing ++ text) := by
        rw [references_name hword hd, hclosing]
        rfl
    _ = word :: references text := by rw [h.references_closing]

/-- Once a list is spread, its operand has the references of the elements. -/
theorem references_elements (h : m.Fits rest) {name : String} (hname : IsBindName name)
    (vs : List Value) (text : List Char) :
    references (m.opening ++ elementList name vs ++ m.closing ++ text)
      = (elementNames name 0 vs.length).map (fun t => t.toList.tail) ++ references text := by
  rcases h.closing.1 with ⟨d, behind, hclosing, hd⟩
  rw [List.append_assoc, List.append_assoc, h.references_opening]
  cases vs with
  | nil =>
      rw [← h.references_closing text]
      exact references_append_of_ne (show ∀ c ∈ ['N', 'U', 'L', 'L'], c ≠ ':' by simp) _
  | cons v vs =>
      have hnames : ∀ t ∈ elementNames name 0 (v :: vs).length, IsBindName t := by
        intro t ht
        rcases mem_elementNames ht with ⟨i, -, rfl⟩
        exact isBindName_numbered hname _
      rw [← h.references_closing text, hclosing, List.cons_append]
      exact references_names hnames hd _

end Membership.Fits

/-- Spreading leaves the reach of every colon as it is, and the placeholders it brings in are
    those of elements. -/
theorem spread_references {cs : List Char} {ps : List (Piece Membership)}
    (h : Cut Membership.source Membership.Fits cs ps) (s : Spread) :
    reach (spreadPieces lists s ps).1 = reach cs
      ∧ ∀ r ∈ references (spreadPieces lists s ps).1, r ∈ references cs
        ∨ wordRun r = r
          ∧ (spreadPieces lists s ps).2.binds.contains (String.ofList (':' :: r)) = true := by
  induction h generalizing s with
  | nil => exact ⟨rfl, fun r hr => nomatch hr⟩
  | @char c rest ps _ ih =>
      rcases ih s with ⟨hreach, hreferences⟩
      rw [spreadPieces_char]
      refine ⟨reach_cons hreach c, fun r hr => ?_⟩
      by_cases hc : c = ':'
      · rw [hc, references_colon] at hr ⊢
        rcases List.mem_cons.mp hr with rfl | hr
        · exact Or.inl (hreach ▸ List.mem_cons_self)
        · exact (hreferences r hr).imp_left (List.mem_cons_of_mem _)
      · rw [references_of_ne hc] at hr ⊢
        exact hreferences r hr
  | @found m rest ps hm _ ih =>
      rcases hm.name with ⟨word, hname, -, hword⟩
      have hsource := hm.references_source hname hword
      rcases hbound : elements? lists s.binds (String.ofList m.name) with _ | vs
      · rcases ih s with ⟨-, hreferences⟩
        rw [spreadPieces_unbound hbound]
        refine ⟨?_, fun r hr => ?_⟩
        · simp only [Membership.source, List.append_assoc]
          exact hm.reach_opening _ _
        · rw [hsource] at hr ⊢
          rcases List.mem_cons.mp hr with rfl | hr
          · exact Or.inl List.mem_cons_self
          · exact (hreferences r hr).imp_left (List.mem_cons_of_mem _)
      · rcases ih (s.bound (String.ofList m.name) vs) with ⟨-, hreferences⟩
        rw [spreadPieces_bound hbound]
        refine ⟨?_, fun r hr => ?_⟩
        · simp only [Membership.source, List.append_assoc]
          exact hm.reach_opening _ _
        · rw [hm.references_elements hm.isBindName] at hr
          rcases List.mem_append.mp hr with hr | hr
          · rcases List.mem_map.mp hr with ⟨t, ht, rfl⟩
            rcases mem_elementNames ht with ⟨i, hi, hname⟩
            rcases isBindName_numbered hm.isBindName (0 + i) with ⟨w, hw, hword⟩
            rw [hname, hw, List.tail_cons, ← hw, String.ofList_toList]
            refine Or.inr ⟨wordRun_eq_self hword, spreadPieces_grows _ ps _ ?_⟩
            rw [Nat.zero_add]
            exact OrderedMap.contains_of_get?
              (get?_bindElements s.binds _ (List.getElem?_eq_getElem hi))
          · rw [hsource]
            exact (hreferences r hr).imp_left (List.mem_cons_of_mem _)

/-- A loose text stays loose. -/
theorem spread_loose {cs : List Char} (h : Loose cs) (s : Spread) :
    Loose (spreadLists lists s cs).1 := by
  intro r hr c hc
  rcases (spread_references (membership_cut cs) s).2 r hr with hr | ⟨hword, -⟩
  · exact h r hr c hc
  · have hsplit := wordRun_append_afterWord r
    rw [hword] at hsplit
    rw [List.append_right_eq_self.mp hsplit] at hc
    cases hc

/-- Spreading brings in no placeholder but those of elements, which are bound. -/
theorem spread_placeholders {cs : List Char} {s : Spread} {t : String}
    (h : t ∈ placeholders (spreadLists lists s cs).1) :
    t ∈ placeholders cs ∨ (spreadLists lists s cs).2.binds.contains t = true := by
  rcases exists_reference h with ⟨r, hr, hname, rfl⟩
  rcases (spread_references (membership_cut cs) s).2 r hr with hr | ⟨hword, hbound⟩
  · exact Or.inl (mem_placeholders_of_reference hr hname)
  · rw [hword]
    exact Or.inr hbound

/-- The name of an operand is a placeholder of the text. -/
theorem name_mem_placeholders {cs : List Char} {ps : List (Piece Membership)}
    (h : Cut Membership.source Membership.Fits cs ps) {m : Membership} (hm : m ∈ foundIn ps) :
    String.ofList m.name ∈ placeholders cs := by
  have hreference : ∃ word ∈ references cs,
      m.name = ':' :: word ∧ word ≠ [] ∧ ∀ c ∈ word, isWord c = true := by
    induction h with
    | nil => cases hm
    | @char c rest ps _ ih =>
        rcases ih hm with ⟨word, hmem, hname⟩
        refine ⟨word, ?_, hname⟩
        by_cases hc : c = ':'
        · rw [hc, references_colon]
          exact List.mem_cons_of_mem _ hmem
        · rwa [references_of_ne hc]
    | @found m' rest ps hfits _ ih =>
        rcases hfits.name with ⟨word', hname', hne', hword'⟩
        rw [hfits.references_source hname' hword']
        rcases mem_foundIn_cons hm with rfl | hm
        · exact ⟨word', List.mem_cons_self, hname', hne', hword'⟩
        · rcases ih hm with ⟨word, hmem, hname⟩
          exact ⟨word, List.mem_cons_of_mem _ hmem, hname⟩
  rcases hreference with ⟨word, hmem, hname, hne, hword⟩
  have hself := wordRun_eq_self hword
  rw [hname, ← hself]
  exact mem_placeholders_of_reference hmem (by rwa [hself])

end SqlMapper
