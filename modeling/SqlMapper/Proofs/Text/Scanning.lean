import SqlMapper.Proofs.Text.Words

/-!
# What a Scan Finds

A scanned text, put together again from its pieces.

A pattern says how many characters a match takes, and the scan skips as many. If
every match takes what it was read from, the pieces of a text, written one
behind the other, are the text, and each match stands in front of the rest that
the pattern saw. `Cut` says so as a relation between a text and its pieces, and
whatever rewrites the pieces is then reasoned about by induction on it.

The placeholders of a text are the matches of one such pattern. A word character
is no colon, so each colon with a word behind it is found, and the placeholders
of a text can be read off colon by colon.

## Main definitions

* `IsBindName`: What the names of bindings look like.
* `Text.Cut`: A text is made of these pieces.
* `Text.everywhere`: What holds at every place of a text.
* `Text.placeholders`: The placeholders of a text, in order.

## Theorems

* `pieces_chars`: A text at whose places nothing is found is cut into its characters.
* `cut_scan_of`, `cut_scan`: The pieces of a scan make up the text.
* `placeholders_cons`: Placeholders are found colon by colon.
* `placeholders_append`: Texts that no word runs across can be searched one by one.
-/

namespace SqlMapper

/-- Whether a name is a colon with word characters behind it. -/
def IsBindName (name : String) : Prop :=
  ∃ word, name.toList = ':' :: word ∧ ∀ c ∈ word, Text.isWord c = true

namespace Text

/-- A text is made of these pieces: each match is written as `source` says and `fits` in front
    of the rest of the text. -/
inductive Cut {α : Type} (source : α → List Char) (fits : α → List Char → Prop) :
    List Char → List (Piece α) → Prop where
  -- An empty text has no pieces.
  | nil : Cut source fits [] []
  -- A character outside every match.
  | char (c : Char) {rest : List Char} {ps : List (Piece α)} (hrest : Cut source fits rest ps) :
      Cut source fits (c :: rest) (.char c :: ps)
  -- A match in front of the rest.
  | found (a : α) {rest : List Char} {ps : List (Piece α)} (ha : fits a rest)
      (hrest : Cut source fits rest ps) : Cut source fits (source a ++ rest) (.found a :: ps)

theorem Cut.imp {α : Type} {source : α → List Char} {fits fits' : α → List Char → Prop}
    (h : ∀ a rest, fits a rest → fits' a rest) {cs : List Char} {ps : List (Piece α)}
    (hcut : Cut source fits cs ps) : Cut source fits' cs ps := by
  induction hcut with
  | nil => exact .nil
  | char c _ ih => exact .char c ih
  | found a ha _ ih => exact .found a (h a _ ha) ih

/-- Each match among the pieces fits in front of some rest. -/
theorem Cut.fits_of_mem {α : Type} {source : α → List Char} {fits : α → List Char → Prop}
    {cs : List Char} {ps : List (Piece α)} (h : Cut source fits cs ps) {a : α}
    (ha : a ∈ foundIn ps) : ∃ rest, fits a rest := by
  induction h with
  | nil => cases ha
  | char _ _ ih => exact ih ha
  | found b hb _ ih =>
      rcases List.mem_cons.mp ha with rfl | ha
      · exact ⟨_, hb⟩
      · exact ih ha

/-- Whether something holds at every place of a text, given the character just passed. -/
def everywhere (holds : Option Char → List Char → Bool) : Option Char → List Char → Bool
  | _, [] => true
  | passed, c :: rest => holds passed (c :: rest) && everywhere holds (some c) rest

/-- The character just passed behind a text. -/
def passing (passed : Option Char) (cs : List Char) : Option Char :=
  cs.foldl (fun _ c => some c) passed

/-- The placeholders of a text, in order. -/
def placeholders (cs : List Char) : List String :=
  foundIn (scan placeholderPattern cs)

theorem mem_foundIn_cons {α : Type} {a b : α} {ps : List (Piece α)}
    (h : a ∈ foundIn (.found b :: ps)) : a = b ∨ a ∈ foundIn ps :=
  List.mem_cons.mp h

theorem pieces_append {α : Type} (p : Pattern α) (cs rest : List Char) (passed : Option Char) :
    pieces p passed cs.length (cs ++ rest) = pieces p (passing passed cs) 0 rest := by
  induction cs generalizing passed with
  | nil => rfl
  | cons c cs ih => exact ih (some c)

/-- A text at whose places nothing is found is cut into its characters, whatever follows. -/
theorem pieces_chars {α : Type} {p : Pattern α} {text rest : List Char} {passed : Option Char}
    (h : ∀ front c behind, text = front ++ c :: behind →
      p (passing passed front) (c :: (behind ++ rest)) = none) :
    pieces p passed 0 (text ++ rest)
      = text.map .char ++ pieces p (passing passed text) 0 rest := by
  induction text generalizing passed with
  | nil => rfl
  | cons c text ih =>
      have hhere : p passed (c :: (text ++ rest)) = none := h [] c text rfl
      rw [List.cons_append, pieces_char hhere, List.map_cons, List.cons_append]
      refine congrArg (Piece.char c :: ·) (ih fun front d behind htext => ?_)
      exact h (c :: front) d behind (by rw [htext, List.cons_append])

theorem foundIn_chars {α : Type} (cs : List Char) (ps : List (Piece α)) :
    foundIn (cs.map .char ++ ps) = foundIn ps := by
  induction cs with
  | nil => rfl
  | cons c cs ih => exact ih

/-- A match is a piece, and the scan goes on behind it. -/
theorem pieces_match {α : Type} {p : Pattern α} {a : α} {source rest : List Char}
    {passed : Option Char} (hne : source ≠ [])
    (h : p passed (source ++ rest) = some (a, source.length - 1)) :
    pieces p passed 0 (source ++ rest)
      = .found a :: pieces p (passing passed source) 0 rest := by
  cases source with
  | nil => exact absurd rfl hne
  | cons c source =>
      rw [List.cons_append] at h ⊢
      rw [pieces_found h, List.length_cons, Nat.add_sub_cancel, pieces_append]
      rfl

/-- Behind a text, its last character has just been passed. -/
theorem passing_eq (passed : Option Char) (cs : List Char) :
    passing passed cs = cs.getLast?.or passed := by
  induction cs generalizing passed with
  | nil => rfl
  | cons c cs ih =>
      show passing (some c) cs = _
      rw [ih (some c)]
      cases cs with
      | nil => rfl
      | cons d cs =>
          rw [List.getLast?_cons_cons, List.getLast?_eq_some_getLast (List.cons_ne_nil d cs)]
          rfl

theorem everywhere_append {holds : Option Char → List Char → Bool} {passed : Option Char}
    {cs rest : List Char} (h : everywhere holds passed (cs ++ rest) = true) :
    everywhere holds (passing passed cs) rest = true := by
  induction cs generalizing passed with
  | nil => exact h
  | cons c cs ih => exact ih (Bool.and_eq_true_iff.mp h).2

/-- A pattern whose matches take what they were read from cuts a text into pieces that make it
    up again, where the places of the text may be known to be alike. -/
theorem cut_scan_of {α : Type} {p : Pattern α} {source : α → List Char}
    {fits : α → List Char → Prop} {holds : Option Char → List Char → Bool}
    (h : ∀ {passed cs a k}, holds passed cs = true → p passed cs = some (a, k) →
      ∃ rest, cs = source a ++ rest ∧ (source a).length = k + 1 ∧ fits a rest)
    {cs : List Char} (hcs : everywhere holds none cs = true) :
    Cut source fits cs (scan p cs) := by
  suffices hall : ∀ n cs passed, cs.length = n → everywhere holds passed cs = true →
      Cut source fits cs (pieces p passed 0 cs) from hall _ cs none rfl hcs
  intro n
  induction n using Nat.strongRecOn with
  | ind n ih =>
      intro cs passed hlength hcs
      rcases cs with _ | ⟨c, rest⟩
      · exact .nil
      · have hplace := Bool.and_eq_true_iff.mp hcs
        rcases hmatch : p passed (c :: rest) with _ | ⟨a, k⟩
        · rw [pieces_char hmatch]
          refine .char c (ih rest.length ?_ rest _ rfl hplace.2)
          rw [← hlength]
          exact Nat.lt_succ_self _
        · rcases h hplace.1 hmatch with ⟨behind, hcs', hsource, hfits⟩
          rcases hwritten : source a with _ | ⟨d, written⟩
          · rw [hwritten] at hsource
            cases hsource
          · rw [hwritten, List.cons_append, List.cons.injEq] at hcs'
            rw [hwritten, List.length_cons, Nat.succ_inj] at hsource
            rw [pieces_found hmatch, hcs'.2, ← hsource, pieces_append, hcs'.1, ← List.cons_append,
              ← hwritten]
            rw [hcs'.2, hcs'.1] at hplace
            refine .found a hfits (ih behind.length ?_ behind _ rfl (everywhere_append hplace.2))
            rw [← hlength, hcs'.2, List.length_cons, List.length_append]
            exact Nat.lt_succ_of_le (Nat.le_add_left _ _)

/-- The same for a pattern whose matches take what they were read from wherever they are. -/
theorem cut_scan {α : Type} {p : Pattern α} {source : α → List Char}
    {fits : α → List Char → Prop}
    (h : ∀ {passed cs a k}, p passed cs = some (a, k) →
      ∃ rest, cs = source a ++ rest ∧ (source a).length = k + 1 ∧ fits a rest)
    (cs : List Char) : Cut source fits cs (scan p cs) := by
  have htrue : ∀ cs passed, everywhere (fun _ _ => true) passed cs = true := by
    intro cs
    induction cs with
    | nil => exact fun passed => rfl
    | cons c cs ih => exact fun passed => ih (some c)
  exact cut_scan_of (fun _ => h) (htrue cs none)

theorem placeholderPattern_of_ne {c : Char} (h : c ≠ ':') (passed : Option Char)
    (rest : List Char) : placeholderPattern passed (c :: rest) = none := by
  simp only [placeholderPattern, placeholder?, Option.bind_eq_bind]
  split
  next hcolon => exact absurd (List.cons.inj hcolon).1 h
  next => rfl

theorem placeholderPattern_colon (passed : Option Char) (rest : List Char) :
    placeholderPattern passed (':' :: rest)
      = if wordRun rest = [] then none
        else some (String.ofList (':' :: wordRun rest), (wordRun rest).length) := by
  by_cases hword : wordRun rest = []
  · simp only [placeholderPattern, placeholder?, hword, List.isEmpty_nil, if_true,
      Option.bind_eq_bind, Option.bind_none]
  · simp only [placeholderPattern, placeholder?, List.isEmpty_iff, hword, if_false,
      Option.bind_eq_bind, Option.bind_some, List.length_cons, Nat.add_sub_cancel]
    rfl

/-- The character just passed plays no part in what a placeholder is. -/
theorem pieces_placeholder (before passed : Option Char) (skip : Nat) (cs : List Char) :
    pieces placeholderPattern before skip cs = pieces placeholderPattern passed skip cs := by
  cases cs with
  | nil => rw [pieces_nil, pieces_nil]
  | cons c rest => cases skip <;> rfl

theorem placeholders_of_ne {c : Char} (h : c ≠ ':') (rest : List Char) :
    placeholders (c :: rest) = placeholders rest := by
  rw [placeholders, scan, pieces_char (placeholderPattern_of_ne h none rest),
    pieces_placeholder (some c) none]
  rfl

theorem placeholders_append_of_ne {cs : List Char} (h : ∀ c ∈ cs, c ≠ ':') (rest : List Char) :
    placeholders (cs ++ rest) = placeholders rest := by
  induction cs with
  | nil => rfl
  | cons c cs ih =>
      rw [List.cons_append, placeholders_of_ne (h c List.mem_cons_self)]
      exact ih fun d hd => h d (List.mem_cons_of_mem c hd)

theorem placeholders_colon (rest : List Char) :
    placeholders (':' :: rest)
      = (if wordRun rest = [] then [] else [String.ofList (':' :: wordRun rest)])
        ++ placeholders rest := by
  have hpattern := placeholderPattern_colon none rest
  by_cases hword : wordRun rest = []
  · rw [if_pos hword] at hpattern
    rw [if_pos hword, List.nil_append, placeholders, scan, pieces_char hpattern,
      pieces_placeholder (some ':') none]
    rfl
  · rw [if_neg hword] at hpattern
    rw [if_neg hword, placeholders, scan, pieces_found hpattern]
    -- The word that was skipped holds no colon, so it hides no placeholder.
    have hskip : placeholders rest
        = foundIn (pieces placeholderPattern (some ':') (wordRun rest).length rest) := by
      have hbehind := pieces_append placeholderPattern (wordRun rest) (afterWord rest) (some ':')
      rw [wordRun_append_afterWord, pieces_placeholder (passing _ _) none] at hbehind
      rw [hbehind, ← wordRun_append_afterWord rest,
        placeholders_append_of_ne fun c hc => isWord_ne_colon (isWord_of_mem_wordRun hc),
        wordRun_append_afterWord]
      rfl
    rw [hskip]
    rfl

/-- Texts can be searched one by one if the second begins with a character that ends a word. -/
theorem placeholders_append {d : Char} (h : isWord d = false) (cs rest : List Char) :
    placeholders (cs ++ d :: rest) = placeholders cs ++ placeholders (d :: rest) := by
  induction cs with
  | nil => rfl
  | cons c cs ih =>
      by_cases hc : c = ':'
      · rw [hc, List.cons_append, placeholders_colon, placeholders_colon, wordRun,
          takeWhile_append_cons h, ih, List.append_assoc]
        rfl
      · rw [List.cons_append, placeholders_of_ne hc, placeholders_of_ne hc, ih]

theorem placeholders_name {word : List Char} (hne : word ≠ []) (hword : ∀ c ∈ word, isWord c = true)
    {text : List Char} (htext : wordRun text = []) :
    placeholders (':' :: word ++ text) = String.ofList (':' :: word) :: placeholders text := by
  rw [List.cons_append, placeholders_colon, wordRun_of_all hword, htext, List.append_nil,
    if_neg hne, placeholders_append_of_ne fun c hc => isWord_ne_colon (hword c hc)]
  rfl

end Text

end SqlMapper
