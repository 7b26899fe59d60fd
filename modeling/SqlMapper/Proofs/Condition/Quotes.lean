import SqlMapper.Proofs.Condition.Conjunction
import SqlMapper.Proofs.Condition.Operands

/-!
# Quotes

What compiling conditions does to the quotes of their raw fragments.

Apostrophes and quotation marks hold texts together, and an engine may have marks
that hold names together, and may let a backslash take away the meaning of the
character behind it. What quotes are open behind a text depends on those in front
of it, and two texts are alike if they agree on this whatever is open.

An operand of `LIKE` and what is written for it are alike exactly if the quotes
around it are a pair, or if there are none. The wildcards are moved for any other
operand as well, whose one quote is then taken from a longer text. Where no such
operand is bound, strings that are closed stay closed. Outside of its operands a
fragment is left as it is, and a name runs into what follows exactly if that is a
word.

## Main definitions

* `Quoting`: What an engine takes for quotes.
* `Quoting.isClosed`: All quotes of a text are closed.
* `Quoting.Alike`: Texts behind which the same quotes are open.
* `Stripped`: What becomes of a raw fragment.

## Theorems

* `Similarity.Fits.alike_bare_iff`: An operand and its bare form are alike exactly if its quotes
  are a pair.
* `bareText_alike`, `spread_alike`: The two rewrites of a fragment keep its quotes.
* `placeholders_bareText_iff`: No name runs into what follows exactly if that is no word.
* `compile_keeps_quotes`: Compiled conditions are closed if their fragments are.
* `compile_opens_quote`: A quote without a partner is taken away.
* `compile_lengthens_name`: A word right behind the quotes becomes a part of the name.
-/

namespace SqlMapper

open Text

/-- What an engine takes for quotes, besides apostrophes and quotation marks. -/
structure Quoting where
  -- The marks that hold names together.
  names : List Mark
  -- Whether a backslash in a text takes away the meaning of the character behind it.
  escapes : Bool

/-- The quotes that are open, if there are any, and whether the next character is escaped. -/
abbrev OpenQuotes :=
  Option (Mark × Bool)

/-- The same quotes, behind a character that escapes nothing. -/
def OpenQuotes.settled (s : OpenQuotes) : OpenQuotes :=
  s.map fun o => (o.1, false)

namespace Quoting

/-- The quotes that a character opens. -/
def opened (q : Quoting) (c : Char) : Option Mark :=
  (Mark.begun c).filter fun mark => isQuote mark.char || q.names.contains mark

/-- The quotes that are open behind one more character. -/
def step (q : Quoting) : OpenQuotes → Char → OpenQuotes
  | none, c => (q.opened c).map fun mark => (mark, false)
  | some (mark, escaped), c =>
    if c = mark.char ∧ escaped = false then none
    else some (mark, q.escapes && isQuote mark.char && c == '\\' && !escaped)

/-- The quotes that are open behind a text. -/
def run (q : Quoting) (s : OpenQuotes) (cs : List Char) : OpenQuotes :=
  cs.foldl q.step s

/-- Whether all quotes of a text are closed. -/
def isClosed (q : Quoting) (cs : List Char) : Bool :=
  (q.run none cs).isNone

/-- Texts behind which the same quotes are open, whatever was open in front of them. -/
def Alike (q : Quoting) (cs cs' : List Char) : Prop :=
  ∀ s, q.run s cs = q.run s cs'

end Quoting

/-- Characters that begin or end quotes of some engine, or escape what ends them. -/
def markingChars : List Char :=
  ['\'', '"', backtick, '[', ']', '\\']

/-- Characters that play no part in quoting. -/
def isUnmarked (c : Char) : Bool :=
  !markingChars.contains c

theorem isUnmarked_of_kind {p : Char → Bool} (hp : markingChars.all (fun d => !p d) = true)
    {c : Char} (hc : p c = true) : isUnmarked c = true := by
  rw [isUnmarked, Bool.not_eq_true', Bool.eq_false_iff, ne_eq, List.contains_iff_mem]
  intro hmem
  have hnot := List.all_eq_true.mp hp c hmem
  rw [hc] at hnot
  cases hnot

theorem isUnmarked_of_isWord {c : Char} (h : isWord c = true) : isUnmarked c = true :=
  isUnmarked_of_kind (by decide) h

theorem isUnmarked_of_isBlank {c : Char} (h : isBlank c = true) : isUnmarked c = true :=
  isUnmarked_of_kind (by decide) h

theorem unmarked_placeholder {word : List Char} (h : ∀ c ∈ word, isWord c = true) :
    ∀ c ∈ ':' :: word, isUnmarked c = true :=
  List.forall_mem_cons.mpr ⟨by decide, fun c hc => isUnmarked_of_isWord (h c hc)⟩

namespace Quoting

variable {q : Quoting} {cs cs' : List Char}

theorem run_append (q : Quoting) (s : OpenQuotes) (cs cs' : List Char) :
    q.run s (cs ++ cs') = q.run (q.run s cs) cs' :=
  List.foldl_append

theorem Alike.append {rest rest' : List Char} (h : q.Alike cs cs') (hrest : q.Alike rest rest') :
    q.Alike (cs ++ rest) (cs' ++ rest') := by
  intro s
  rw [run_append, run_append, h s, hrest]

theorem Alike.behind (h : q.Alike cs cs') (front : List Char) :
    q.Alike (front ++ cs) (front ++ cs') :=
  Alike.append (fun _ => rfl) h

theorem Alike.isClosed (h : q.Alike cs cs') : q.isClosed cs = q.isClosed cs' :=
  congrArg Option.isNone (h none)

theorem isClosed_append (h : q.isClosed cs = true) (h' : q.isClosed cs' = true) :
    q.isClosed (cs ++ cs') = true := by
  rw [Quoting.isClosed, run_append, Option.isNone_iff_eq_none.mp h]
  exact h'

theorem step_unmarked {c : Char} (hc : isUnmarked c = true) (s : OpenQuotes) :
    q.step s c = s.settled := by
  rw [isUnmarked, Bool.not_eq_true', Bool.eq_false_iff, ne_eq, List.contains_iff_mem] at hc
  simp only [markingChars, List.mem_cons, List.not_mem_nil, or_false, not_or] at hc
  rcases hc with ⟨hapostrophe, hquotation, hbacktick, hopening, hclosing, hescape⟩
  rcases s with _ | ⟨mark, escaped⟩
  · have hbegun : Mark.begun c = none := by
      simp only [Mark.begun, hapostrophe, hquotation, hbacktick, hopening, if_false]
    rw [step, opened, hbegun]
    rfl
  · have hmark : c ≠ mark.char := by
      cases mark <;> assumption
    simp only [step, hmark, false_and, if_false, beq_eq_false_iff_ne.mpr hescape, Bool.and_false,
      Bool.false_and]
    rfl

/-- Where there are no marks, the same quotes stay open. -/
theorem run_unmarked (h : ∀ c ∈ cs, isUnmarked c = true) (hne : cs ≠ []) (s : OpenQuotes) :
    q.run s cs = s.settled := by
  induction cs generalizing s with
  | nil => exact absurd rfl hne
  | cons c cs ih =>
      have hstep : q.run s (c :: cs) = q.run s.settled cs :=
        congrArg (q.run · cs) (step_unmarked (h c List.mem_cons_self) s)
      rw [hstep]
      rcases cs with _ | ⟨d, cs⟩
      · rfl
      · rw [ih (fun e he => h e (List.mem_cons_of_mem c he)) (List.cons_ne_nil d cs)]
        cases s <;> rfl

theorem Alike.of_unmarked (h : ∀ c ∈ cs, isUnmarked c = true) (hne : cs ≠ [])
    (h' : ∀ c ∈ cs', isUnmarked c = true) (hne' : cs' ≠ []) : q.Alike cs cs' := by
  intro s
  rw [run_unmarked h hne, run_unmarked h' hne']

theorem isClosed_unmarked (h : ∀ c ∈ cs, isUnmarked c = true) : q.isClosed cs = true := by
  by_cases hne : cs = []
  · rw [hne]
    rfl
  · rw [Quoting.isClosed, run_unmarked h hne]
    rfl

/-- An apostrophe or a quotation mark opens its quotes in every engine. -/
theorem exists_opened {c : Char} (h : isQuote c = true) :
    ∃ mark : Mark, c = mark.char ∧ q.step none c = some (mark, false) := by
  rw [isQuote, Bool.or_eq_true, beq_iff_eq, beq_iff_eq] at h
  rcases h with rfl | rfl
  · exact ⟨.apostrophe, rfl, rfl⟩
  · exact ⟨.quotation, rfl, rfl⟩

/-- A quote of another mark is a character like any other. -/
theorem step_other {c : Char} (h : isQuote c = true) {mark : Mark} (hc : c ≠ mark.char) :
    q.step (some (mark, false)) c = some (mark, false) := by
  have hescape : c ≠ '\\' := by
    rintro rfl
    exact absurd h (by decide)
  simp only [step, hc, false_and, if_false, beq_eq_false_iff_ne.mpr hescape, Bool.and_false,
    Bool.false_and]

theorem step_close (mark : Mark) : q.step (some (mark, false)) mark.char = none :=
  if_pos ⟨rfl, rfl⟩

/-- A pair of quotes opens what it closes, or closes what it opens. -/
theorem step_pair {c : Char} (h : isQuote c = true) (s : OpenQuotes) :
    q.step (q.step s.settled c).settled c = s.settled := by
  rcases exists_opened (q := q) h with ⟨mark, hmark, hopened⟩
  rcases s with _ | ⟨mark', escaped⟩
  · show q.step (q.step none c).settled c = none
    rw [hopened, hmark]
    exact step_close mark
  · show q.step (q.step (some (mark', false)) c).settled c = some (mark', false)
    by_cases hsame : c = mark'.char
    · rw [Mark.char_inj (hmark.symm.trans hsame)] at hopened
      rw [hsame, step_close, ← hsame]
      exact hopened
    · rw [step_other h hsame]
      exact step_other h hsame

end Quoting

/-! ### Operands of `LIKE` -/

/-- The operand as it is written without its quotes and wildcards. -/
def Similarity.bare (s : Similarity) : List Char :=
  s.word ++ ' ' :: s.name

/-- There is one quote behind the name or none. -/
theorem similarity_closeQuote {passed : Option Char} {cs : List Char} {s : Similarity} {k : Nat}
    (h : similarityPattern passed cs = some (s, k)) :
    s.closeQuote = [] ∨ ∃ c, s.closeQuote = [c] ∧ isQuote c = true := by
  unfold similarityPattern at h
  by_cases hstart : atWordStart passed = true
  · rw [if_pos hstart, Option.bind_eq_bind, Option.bind_eq_some_iff] at h
    rcases h with ⟨⟨word, afterLike⟩, -, h⟩
    dsimp only at h
    by_cases hgap : (blankRun afterLike).isEmpty = true
    · rw [if_pos hgap] at h
      cases h
    · rw [if_neg hgap, Option.bind_eq_some_iff] at h
      rcases h with ⟨⟨name, afterName⟩, -, h⟩
      rw [Option.pure_def, Option.some.injEq, Prod.mk.injEq] at h
      rcases h with ⟨rfl, -⟩
      exact optionalChar_cases isQuote _
  · rw [if_neg hstart] at h
    cases h

/-- The operands that are found, with all that is known of their quotes. -/
theorem quoted_cut (cs : List Char) :
    Cut Similarity.source (fun s rest => s.Fits rest
      ∧ (s.closeQuote = [] ∨ ∃ c, s.closeQuote = [c] ∧ isQuote c = true)) cs
      (scan similarityPattern cs) := by
  refine cut_scan ?_ cs
  intro passed cs s k h
  rcases similarity_fits h with ⟨rest, hcs, hlength, hfits⟩
  exact ⟨rest, hcs, hlength, hfits, similarity_closeQuote h⟩

namespace Similarity.Fits

variable {s : Similarity} {rest : List Char} {q : Quoting}

theorem unmarked_front (h : s.Fits rest) : ∀ c ∈ s.word ++ s.gap, isUnmarked c = true := by
  intro c hc
  rcases List.mem_append.mp hc with hc | hc
  · exact isUnmarked_of_isWord (isWord_of_letters h.letters (by decide) c hc)
  · exact isUnmarked_of_isBlank (h.gap.2 c hc)

theorem unmarked_name (h : s.Fits rest) : ∀ c ∈ s.name, isUnmarked c = true := by
  rcases h.name with ⟨word, hname, -, hword⟩
  rw [hname]
  exact unmarked_placeholder hword

theorem unmarked_dressed (h : s.Fits rest) :
    ∀ c ∈ s.lead ++ s.name ++ s.trail, isUnmarked c = true := by
  intro c hc
  rw [List.mem_append, List.mem_append] at hc
  rcases hc with (hc | hc) | hc
  · rw [h.wildcards c (List.mem_append_left _ hc)]
    decide
  · exact h.unmarked_name c hc
  · rw [h.wildcards c (List.mem_append_right _ hc)]
    decide

theorem open_source (h : s.Fits rest) (t : OpenQuotes) :
    q.run t s.source = q.run (q.run t.settled s.openQuote).settled s.closeQuote := by
  have hname : s.lead ++ s.name ++ s.trail ≠ [] := by
    rcases h.name with ⟨word, hname, -, -⟩
    simp [hname]
  have hcut : s.source = (s.word ++ s.gap)
      ++ (s.openQuote ++ ((s.lead ++ s.name ++ s.trail) ++ s.closeQuote)) := by
    simp only [Similarity.source, List.append_assoc]
  rw [hcut, q.run_append, q.run_append, q.run_append,
    Quoting.run_unmarked h.unmarked_front h.front_ne_nil,
    Quoting.run_unmarked h.unmarked_dressed hname]

theorem open_bare (h : s.Fits rest) (t : OpenQuotes) : q.run t s.bare = t.settled := by
  refine Quoting.run_unmarked (fun c hc => ?_) (by simp [Similarity.bare]) t
  rw [Similarity.bare, List.mem_append, List.mem_cons] at hc
  rcases hc with hc | rfl | hc
  · exact h.unmarked_front c (List.mem_append_left _ hc)
  · decide
  · exact h.unmarked_name c hc

theorem alike_bare (h : s.Fits rest) (hpair : s.closeQuote = s.openQuote) :
    q.Alike s.source s.bare := by
  intro t
  rw [h.open_source, h.open_bare, hpair]
  rcases h.quote with hnone | ⟨c, hc, hquote⟩
  · rw [hnone]
    cases t <;> rfl
  · rw [hc]
    exact Quoting.step_pair hquote t

/-- An operand and its bare form are alike exactly if its quotes are a pair: outside of quotes,
    any others are left open. -/
theorem alike_bare_iff (h : s.Fits rest)
    (hclose : s.closeQuote = [] ∨ ∃ c, s.closeQuote = [c] ∧ isQuote c = true) :
    q.Alike s.source s.bare ↔ s.closeQuote = s.openQuote := by
  refine ⟨fun halike => ?_, h.alike_bare⟩
  have hrun := halike none
  rw [h.open_source, h.open_bare] at hrun
  have hopened : ∀ c, isQuote c = true → q.step none c ≠ none := by
    intro c hc
    rcases Quoting.exists_opened (q := q) hc with ⟨mark, -, hmark⟩
    rw [hmark]
    exact Option.some_ne_none _
  rcases h.quote with hopen | ⟨c, hopen, hc⟩ <;> rcases hclose with hclose | ⟨d, hclose, hd⟩
  all_goals rw [hopen, hclose] at hrun
  · rw [hopen, hclose]
  · exact absurd hrun (hopened d hd)
  · refine absurd ?_ (hopened c hc)
    exact Option.map_eq_none_iff.mp hrun
  · rcases Quoting.exists_opened (q := q) hc with ⟨mark, hmark, hopened⟩
    have hlast : q.step (q.step none c).settled d = none := hrun
    rw [hopened] at hlast
    by_cases hsame : d = mark.char
    · rw [hopen, hclose, hsame, hmark]
    · have hother : q.step (some (mark, false)) d = none := hlast
      rw [Quoting.step_other hd hsame] at hother
      cases hother

/-- Whatever follows its name, a bare operand has one placeholder, which goes on as far as there
    are word characters. -/
theorem placeholders_bare_append (h : s.Fits rest) (text : List Char) :
    placeholders (s.bare ++ text)
      = String.ofList (s.name ++ wordRun text) :: placeholders text := by
  rcases h.name with ⟨word, hname, hne, hword⟩
  have hplain : ∀ c ∈ s.word, c ≠ ':' := fun c hc =>
    h.front c (List.mem_append_left _ (List.mem_append_left _ (List.mem_append_left _ hc)))
  have hrun : wordRun (word ++ text) = word ++ wordRun text := wordRun_of_all hword text
  have hlong : word ++ wordRun text ≠ [] := List.append_ne_nil_of_left_ne_nil hne _
  rw [Similarity.bare, List.append_assoc, placeholders_append_of_ne hplain, List.cons_append,
    placeholders_of_ne (by decide), hname, List.cons_append, placeholders_colon, hrun,
    if_neg hlong, placeholders_append_of_ne fun c hc => isWord_ne_colon (hword c hc)]
  rfl

end Similarity.Fits

variable {q : Quoting} {known : Binds} {cs : List Char} {ps : List (Piece Similarity)}

/-- Writing operands bare keeps the quotes that are open, if those of a bound operand are a
    pair. -/
theorem bareText_alike (h : Cut Similarity.source Similarity.Fits cs ps) {bound : String → Bool}
    (hpairs : ∀ s ∈ foundIn ps, bound (String.ofList s.name) = true →
      s.closeQuote = s.openQuote) : q.Alike cs (bareText bound ps) := by
  induction h with
  | nil => exact fun s => rfl
  | char c _ ih => exact (ih hpairs).behind [c]
  | found s hs _ ih =>
      rcases List.forall_mem_cons.mp hpairs with ⟨hpair, hrest⟩
      rw [bareText]
      by_cases hbound : bound (String.ofList s.name) = true
      · rw [if_pos hbound]
        exact (hs.alike_bare (hpair hbound)).append (ih hrest)
      · rw [if_neg hbound]
        exact (ih hrest).behind s.source

/-- The text from which pieces are cut, if none of them is written bare. -/
theorem bareText_cut (h : Cut Similarity.source Similarity.Fits cs ps) :
    bareText (fun _ => false) ps = cs := by
  induction h with
  | nil => rfl
  | char c _ ih => exact congrArg (c :: ·) ih
  | found s _ _ ih => rw [bareText, if_neg Bool.false_ne_true, ih]

theorem bareText_wordRun (h : Cut Similarity.source Similarity.Fits cs ps) :
    wordRun (bareText known.contains ps) = wordRun cs := by
  rw [← placePieces_text { binds := known } ps]
  exact placed_wordRun h _

/-- Writing operands bare leaves the placeholders of a text as they are exactly if no word stands
    behind an operand that is bound. -/
theorem placeholders_bareText_iff (h : Cut Similarity.source Similarity.Fits cs ps) :
    placeholders (bareText known.contains ps) = placeholders cs
      ↔ ∀ o ∈ followed ps, known.contains (String.ofList o.1.name) = true → o.2 = [] := by
  induction h with
  | nil => exact iff_of_true rfl fun o ho => nomatch ho
  | @char c rest ps hrest ih =>
      rw [bareText, followed, ← ih]
      by_cases hc : c = ':'
      · rw [hc, placeholders_colon, placeholders_colon, bareText_wordRun hrest,
          List.append_right_inj]
      · rw [placeholders_of_ne hc, placeholders_of_ne hc]
  | @found s rest ps hs hrest ih =>
      rw [bareText, followed, List.forall_mem_cons, bareText_cut hrest, ← ih]
      by_cases hbound : known.contains (String.ofList s.name) = true
      · rw [if_pos hbound, show s.word ++ ' ' :: s.name = s.bare from rfl,
          hs.placeholders_bare_append, hs.placeholders_source rfl, bareText_wordRun hrest,
          List.cons.injEq, ← String.toList_inj, String.toList_ofList, String.toList_ofList,
          List.append_right_eq_self]
        exact and_congr_left fun _ => ⟨fun hend _ => hend, fun hend => hend hbound⟩
      · rw [if_neg hbound, hs.placeholders_source (bareText_wordRun hrest),
          hs.placeholders_source rfl, List.cons.injEq]
        exact and_congr_left fun _ => iff_of_true rfl fun hbound' => absurd hbound' hbound

theorem Clause.alike_bare_iff (clause : Clause) {s : Similarity} (hs : s ∈ clause.operands) :
    q.Alike s.source s.bare ↔ s.closeQuote = s.openQuote := by
  cases clause with
  | equals field value => cases hs
  | raw sql =>
      rcases (quoted_cut sql.toList).fits_of_mem hs with ⟨rest, hfits, hclose⟩
      exact hfits.alike_bare_iff hclose

/-! ### Operands of `IN` -/

theorem unmarked_elements {name : String} (h : IsBindName name) (vs : List Value) :
    ∀ c ∈ elementList name vs, isUnmarked c = true := by
  intro c hc
  rcases mem_elementList h hc with hword | hsign | hblank
  · exact isUnmarked_of_isWord hword
  · exact isUnmarked_of_kind (by decide) hsign
  · exact isUnmarked_of_isBlank hblank

/-- Spreading lists keeps the quotes that are open. -/
theorem spread_alike {lists : List (String × List Value)} {ps : List (Piece Membership)}
    (h : Cut Membership.source Membership.Fits cs ps) (s : Spread) :
    q.Alike cs (spreadPieces lists s ps).1 := by
  induction h generalizing s with
  | nil => exact fun s => rfl
  | @char c rest ps _ ih => exact (ih s).behind [c]
  | @found m rest ps hm _ ih =>
      rcases hbound : elements? lists s.binds (String.ofList m.name) with _ | vs
      · rw [spreadPieces_unbound hbound]
        exact (ih s).behind m.source
      · rw [spreadPieces_bound hbound]
        rcases hm.name with ⟨word, hname, -, hword⟩
        have hunmarked : ∀ c ∈ m.name, isUnmarked c = true := by
          rw [hname]
          exact unmarked_placeholder hword
        have hnames : q.Alike m.name (elementList (String.ofList m.name) vs) :=
          .of_unmarked hunmarked (by simp [hname]) (unmarked_elements hm.isBindName vs)
            (elementList_ne_nil hm.isBindName vs)
        exact ((hnames.behind m.opening).append fun _ => rfl).append (ih _)

/-! ### Compiled clauses -/

/-- What becomes of a raw fragment whose lists are spread, where some names are bound. -/
structure Stripped (known : Binds) (sql spread text : List Char) : Prop where
  -- Where no list is asked for, nothing is spread.
  unasked : foundIn (scan membershipPattern sql) = [] → spread = sql
  -- Operands and what stands behind them are those of the fragment.
  operands : followed (scan similarityPattern spread) = followed (scan similarityPattern sql)
  -- The operands that are bound are written bare, and nothing else is changed.
  written : text = bareText known.contains (scan similarityPattern spread)
  -- The names of placeholders stay as they are exactly if no word stands behind these operands.
  names : placeholders text = placeholders spread
    ↔ ∀ o ∈ followed (scan similarityPattern sql),
      known.contains (String.ofList o.1.name) = true → o.2 = []
  -- The same quotes are open behind the fragment if those of these operands are pairs.
  quotes : ∀ q : Quoting, (∀ s ∈ foundIn (scan similarityPattern sql),
    known.contains (String.ofList s.name) = true → s.closeQuote = s.openQuote) → q.Alike sql text

theorem spreadPieces_unasked {lists : List (String × List Value)} {ps : List (Piece Membership)}
    (h : Cut Membership.source Membership.Fits cs ps) (hnone : foundIn ps = []) (s : Spread) :
    (spreadPieces lists s ps).1 = cs := by
  induction h generalizing s with
  | nil => rfl
  | char c _ ih => exact congrArg (c :: ·) (ih hnone s)
  | found m _ _ _ => cases hnone

theorem stripped_placed (lists : List (String × List Value)) (p : Progress) (sql : String) :
    Stripped (p.spread lists sql).2.binds sql.toList (p.spread lists sql).1
      (p.placed lists sql).1 := by
  have hcut := similarity_cut (p.spread lists sql).1
  have htext : (p.placed lists sql).1
      = bareText (p.spread lists sql).2.binds.contains
        (scan similarityPattern (p.spread lists sql).1) :=
    placePieces_text _ _
  have hfollowed := spread_followed lists { binds := p.binds, spent := p.spent } sql.toList
  refine ⟨fun hnone => spreadPieces_unasked (membership_cut sql.toList) hnone _, hfollowed, htext,
    ?_, fun q hpairs s => ?_⟩
  · rw [htext, ← hfollowed]
    exact placeholders_bareText_iff hcut
  · have hoperands := spread_operands lists { binds := p.binds, spent := p.spent } sql.toList
    have hspread : q.Alike sql.toList (p.spread lists sql).1 :=
      spread_alike (membership_cut sql.toList) _
    rw [← hoperands] at hpairs
    rw [htext, hspread s]
    exact bareText_alike hcut hpairs s

/-- A clause is compiled to a text in which no more than that is changed: a named equality is
    compared with a placeholder, and the lists of a raw fragment are spread, its operands of `LIKE`
    written bare where the names are bound. These are at least the single values of the caller, and
    at most what is bound in the end. -/
def Clause.Stripped (scalars binds : Binds) : Clause → String → Prop
  | .equals field _, text =>
    isIdentifier field = true ∧ ∃ t, IsBindName t ∧ text = quotePath field ++ " = " ++ t
  | .raw sql, text => ∃ lists s known, Grows scalars known ∧ Grows known binds
    ∧ SqlMapper.Stripped known sql.toList (spreadLists lists s sql.toList).1 text.toList

variable {lists : List (String × List Value)} {scalars binds : Binds}

theorem compile_clause_stripped {p p' : Progress} {clause : Clause}
    (h : clause.compile lists p = .ok p') (hscalars : Grows scalars p.binds)
    (hbinds : Grows p'.binds binds) :
    ∃ text, p'.fragments = p.fragments ++ [text] ∧ clause.Stripped scalars binds text := by
  rcases compile_clause_cases h with ⟨field, v, rfl, hfield, rfl⟩ | ⟨sql, rfl, rfl⟩
  · exact ⟨_, rfl, hfield, _, isBindName_equality hfield p.binds, rfl⟩
  · have hspread : Grows p.binds (p.spread lists sql).2.binds :=
      spreadPieces_grows { binds := p.binds, spent := p.spent } _
    have hplaced : Grows (p.spread lists sql).2.binds (p.placed lists sql).2.binds :=
      placePieces_grows { binds := (p.spread lists sql).2.binds, wrapped := p.wrapped } _
    refine ⟨_, rfl, lists, { binds := p.binds, spent := p.spent }, (p.spread lists sql).2.binds,
      fun t ht => hspread t (hscalars t ht), fun t ht => hbinds t (hplaced t ht), ?_⟩
    rw [String.toList_ofList]
    exact stripped_placed lists p sql

namespace Quoting

/-- Texts between texts are closed if each of them is. -/
theorem isClosed_joined {sep : String} (hsep : q.isClosed sep.toList = true) {texts : List String}
    (h : ∀ text ∈ texts, q.isClosed text.toList = true) :
    q.isClosed (sep.intercalate texts).toList = true := by
  induction texts with
  | nil => rfl
  | cons text texts ih =>
      rcases texts with _ | ⟨next, texts⟩
      · rw [String.intercalate_singleton]
        exact h text List.mem_cons_self
      · rw [String.intercalate_cons_cons, String.toList_append, String.toList_append]
        refine isClosed_append (isClosed_append (h text List.mem_cons_self) hsep) ?_
        exact ih fun t ht => h t (List.mem_cons_of_mem _ ht)

/-- A name between backticks is closed, whether or not they are quotes. -/
theorem isClosed_quoted {cs : List Char} (h : ∀ c ∈ cs, isUnmarked c = true) :
    q.isClosed (backtick :: cs ++ [backtick]) = true := by
  have hopened : q.step none backtick = none
      ∨ q.step none backtick = some (.backtick, false) := by
    rw [step, opened, show Mark.begun backtick = some .backtick by decide, Option.filter_some]
    split_ifs
    · exact Or.inr rfl
    · exact Or.inl rfl
  have hrun : q.run (q.step none backtick) cs = q.step none backtick := by
    by_cases hne : cs = []
    · rw [hne]
      rfl
    · rw [run_unmarked h hne]
      rcases hopened with hopened | hopened <;> rw [hopened] <;> rfl
  have hall : q.run none (backtick :: cs ++ [backtick])
      = q.step (q.run (q.step none backtick) cs) backtick := q.run_append _ _ _
  rw [Quoting.isClosed, hall, hrun]
  rcases hopened with hopened | hopened <;> rw [hopened]
  · rw [hopened]
    rfl
  · exact congrArg Option.isNone (step_close .backtick)

/-- A named equality is closed. -/
theorem isClosed_equality {field t : String} (h : isIdentifier field = true)
    (ht : IsBindName t) : q.isClosed (quotePath field ++ " = " ++ t).toList = true := by
  have hname : ∀ name ∈ (segments '.' field).map quoteName, q.isClosed name.toList = true := by
    intro name hname
    rcases List.mem_map.mp hname with ⟨segment, hsegment, rfl⟩
    rcases List.mem_map.mp hsegment with ⟨chars, hchars, rfl⟩
    rw [quoteName, String.toList_ofList, String.toList_ofList]
    refine isClosed_quoted fun c hc => ?_
    exact isUnmarked_of_isWord (mem_identifier h chars hchars c (mem_doubled hc))
  have hpath : q.isClosed (quotePath field).toList = true :=
    isClosed_joined (isClosed_unmarked (List.all_eq_true.mp (by decide))) hname
  have hequals : q.isClosed " = ".toList = true :=
    isClosed_unmarked (List.all_eq_true.mp (by decide))
  rcases ht with ⟨word, hword, hall⟩
  rw [String.toList_append, String.toList_append, hword]
  exact isClosed_append (isClosed_append hpath hequals)
    (isClosed_unmarked (unmarked_placeholder hall))

end Quoting

/-- If the quotes of operands that are bound are pairs, a closed clause stays closed. -/
theorem Clause.Stripped.isClosed {clause : Clause} {text : String}
    (h : clause.Stripped scalars binds text)
    (hpairs : ∀ s ∈ clause.operands, binds.contains (String.ofList s.name) = true →
      s.closeQuote = s.openQuote)
    (hclosed : ∀ sql, clause = .raw sql → q.isClosed sql.toList = true) :
    q.isClosed text.toList = true := by
  cases clause with
  | equals field value =>
      rcases h with ⟨hfield, t, ht, rfl⟩
      exact Quoting.isClosed_equality hfield ht
  | raw sql =>
      rcases h with ⟨lists, s, known, -, hknown, hstripped⟩
      have halike := hstripped.quotes q fun s hs hbound => hpairs s hs (hknown _ hbound)
      rw [← halike.isClosed]
      exact hclosed sql rfl

/-- A clause without a list: a name that is accepted equals a single value, or a raw fragment. -/
def Clause.IsSingle : Clause → Prop
  | .equals field value => isIdentifier field = true ∧ ∃ v, value = .scalar v
  | .raw _ => True

/-- Conditions in which only single values are bound, to names that are accepted. -/
structure Conditions.Single (c : Conditions) : Prop where
  clauses : ∀ clause ∈ c.clauses, clause.IsSingle
  bindings : ∀ e ∈ c.bindings, isPlaceholder e.1 = true ∧ ∃ v, e.2 = .scalar v

theorem bind_single {bindings : List (String × Operand)}
    (h : ∀ e ∈ bindings, isPlaceholder e.1 = true ∧ ∃ v, e.2 = .scalar v) (b : Bound) :
    ∃ b', bindings.foldlM Bound.add b = .ok b' ∧ b'.lists = b.lists := by
  induction bindings generalizing b with
  | nil => exact ⟨b, rfl, rfl⟩
  | cons e bindings ih =>
      rcases e with ⟨name, value⟩
      rcases List.forall_mem_cons.mp h with ⟨⟨hname, v, rfl⟩, hrest⟩
      rcases ih hrest { b with scalars := b.scalars.insert name v } with ⟨b', hb', hlists⟩
      refine ⟨b', ?_, hlists⟩
      simp only [List.foldlM_cons, Bound.add, hname, if_true]
      exact hb'

theorem compile_clauses_single (lists : List (String × List Value)) {clauses : List Clause}
    (h : ∀ clause ∈ clauses, clause.IsSingle) (p : Progress) :
    ∃ p', clauses.foldlM (Clause.compile lists) p = .ok p' := by
  induction clauses generalizing p with
  | nil => exact ⟨p, rfl⟩
  | cons clause clauses ih =>
      rcases List.forall_mem_cons.mp h with ⟨hclause, hrest⟩
      cases clause with
      | raw sql => exact ih hrest (p.addRaw lists sql)
      | equals field value =>
          rcases hclause with ⟨hfield, v, rfl⟩
          simp only [List.foldlM_cons, Clause.compile, Progress.addEquality, checkIdentifier, hfield,
            if_true]
          exact ih hrest _

/-- Conditions without lists can be compiled. -/
theorem compile_single {c : Conditions} (h : c.Single) : ∃ r, c.compile = .ok r := by
  rcases bind_single h.bindings { } with ⟨b, hb, hlists⟩
  rcases compile_clauses_single b.lists h.clauses { binds := b.scalars } with ⟨p, hp⟩
  have hbound : c.bound = .ok b := hb
  have hnone : (b.lists.find? fun l => !p.spent.contains l.1) = none := by
    rw [hlists]
    rfl
  refine ⟨{
    fragment := " AND ".intercalate p.fragments
    binds := p.spent.foldl OrderedMap.erase p.binds }, ?_⟩
  simp only [Conditions.compile, hbound, bind, Except.bind, hp, hnone]
  rfl

/-- Conditions without lists can be compiled. Whatever is compiled, the operands of `LIKE`
    that are bound are written bare, and outside of operands nothing is changed but for spread
    lists. An operand and its bare form agree on quotes exactly if its own are a pair or there are
    none, and if they are for those that are bound, what is compiled of closed fragments is
    closed. -/
theorem compile_keeps_quotes (q : Quoting) (c : Conditions) :
    (c.Single → ∃ r, c.compile = .ok r)
      ∧ ∀ r, c.compile = .ok r → ∃ b p, Compiled c b p r
        ∧ List.Forall₂ (Clause.Stripped b.scalars p.binds) c.clauses p.fragments
        ∧ (∀ s ∈ c.operands, q.Alike s.source s.bare ↔ s.closeQuote = s.openQuote)
        ∧ ((∀ s ∈ c.operands, p.binds.contains (String.ofList s.name) = true →
              s.closeQuote = s.openQuote) →
            (∀ sql, .raw sql ∈ c.clauses → q.isClosed sql.toList = true) →
            q.isClosed r.fragment.toList = true) := by
  refine ⟨compile_single, fun r h => ?_⟩
  rcases compiled_of_ok h with ⟨b, p, hcompiled⟩
  rcases compile_clauses_forall₂ (fun _ _ _ _ => compile_clause_stripped) hcompiled.clauses
    (fun _ ht => ht) (fun _ ht => ht) with ⟨texts, htexts, hstripped⟩
  rw [List.nil_append] at htexts
  refine ⟨b, p, hcompiled, htexts ▸ hstripped, fun s hs => ?_, fun hpairs hclosed => ?_⟩
  · rcases List.mem_flatMap.mp hs with ⟨clause, -, hs⟩
    exact clause.alike_bare_iff hs
  · have hand : q.isClosed " AND ".toList = true :=
      Quoting.isClosed_unmarked (List.all_eq_true.mp (by decide))
    rw [hcompiled.fragment, htexts]
    refine Quoting.isClosed_joined hand fun text htext => ?_
    rcases exists_of_forall₂ hstripped text htext with ⟨clause, hclause, hhere⟩
    refine hhere.isClosed (fun s hs => hpairs s (List.mem_flatMap.mpr ⟨clause, hclause, hs⟩)) ?_
    exact fun sql hsql => hclosed sql (hsql ▸ hclause)

/-- What MySQL takes for quotes. -/
def Quoting.mysql : Quoting where
  names := [.backtick]
  escapes := true

/-- What SQLite takes for quotes. -/
def Quoting.sqlite : Quoting where
  names := [.backtick, .bracket]
  escapes := false

/-- Operands of `LIKE` in both kinds of quotes, beside a text with an escaped apostrophe, a list
    that is written with a comma and a named equality. -/
def Conditions.quoted : Conditions where
  clauses := [.raw "name LIKE '%:n%' OR motto = 'it\\'s'", .equals "age" (.scalar (.int 30)),
    .raw "nick like \":x%\" AND id IN (:ids)"]
  bindings := [(":n", .scalar (.text "smith")), (":x", .scalar (.text "ann")),
    (":ids", .scalar (.text "1,2"))]

/-- What is made of them. -/
def CompiledCondition.quoted : CompiledCondition where
  fragment := "name LIKE :n OR motto = 'it\\'s' AND `age` = :_WHERE_age"
    ++ " AND nick like :x AND id IN (:ids_0, :ids_1)"
  binds := .ofList [(":n", .text "%smith%"), (":x", .text "ann%"), (":_WHERE_age", .int 30),
    (":ids_0", .text "1"), (":ids_1", .text "2")]

theorem compile_keeps_quotes_quoted :
    Conditions.quoted.Single ∧ Conditions.quoted.compile = .ok .quoted
      ∧ Conditions.quoted.operands.length = 2
      ∧ (∃ b p, Compiled .quoted b p .quoted
        ∧ List.Forall₂ (Clause.Stripped b.scalars p.binds) Conditions.quoted.clauses p.fragments)
      ∧ Quoting.mysql.isClosed CompiledCondition.quoted.fragment.toList = true := by
  have hsingle : Conditions.quoted.Single := by
    refine ⟨fun clause hclause => ?_, fun e he => ?_⟩
    · simp only [Conditions.quoted, List.mem_cons, List.not_mem_nil, or_false] at hclause
      rcases hclause with rfl | rfl | rfl
      · trivial
      · exact ⟨by decide, _, rfl⟩
      · trivial
    · simp only [Conditions.quoted, List.mem_cons, List.not_mem_nil, or_false] at he
      rcases he with rfl | rfl | rfl <;> exact ⟨by decide, _, rfl⟩
  have hpairs : ∀ s ∈ Conditions.quoted.operands, s.closeQuote = s.openQuote := by decide
  have hclosed : ∀ sql, .raw sql ∈ Conditions.quoted.clauses →
      Quoting.mysql.isClosed sql.toList = true := by
    intro sql hsql
    simp only [Conditions.quoted, List.mem_cons, List.not_mem_nil, or_false, Clause.raw.injEq,
      reduceCtorEq, false_or] at hsql
    rcases hsql with rfl | rfl <;> decide
  rcases compile_keeps_quotes .mysql .quoted with ⟨hcompiles, hlaw⟩
  rcases hcompiles hsingle with ⟨r, hr⟩
  obtain rfl : r = .quoted := Except.ok.inj (hr.symm.trans rfl)
  rcases hlaw _ hr with ⟨b, p, hprogress, hstripped, -, hkept⟩
  exact ⟨hsingle, hr, by decide, ⟨b, p, hprogress, hstripped⟩,
    hkept (fun s hs _ => hpairs s hs) hclosed⟩

/-- A pattern with words behind the placeholder. -/
def Conditions.unpaired : Conditions :=
  (Conditions.raw { } "name LIKE '%:n and co%'").bind "n" (.scalar (.text "x"))

/-- What is made of it. -/
def CompiledCondition.unpaired : CompiledCondition where
  fragment := "name LIKE :n and co%'"
  binds := .ofList [(":n", .text "%x")]

/-- A quote without a partner is taken away, and the other one opens a text that goes on to the end
    of the statement. -/
theorem compile_opens_quote :
    ¬ ∀ (c : Conditions) (r : CompiledCondition), c.Single → c.compile = .ok r →
      (∀ sql, .raw sql ∈ c.clauses → Quoting.sqlite.isClosed sql.toList = true) →
      Quoting.sqlite.isClosed r.fragment.toList = true := by
  intro hall
  have hsingle : Conditions.unpaired.Single :=
    ⟨List.forall_mem_singleton.mpr trivial,
      List.forall_mem_singleton.mpr ⟨by decide, _, rfl⟩⟩
  have hcompiled : Conditions.unpaired.compile = .ok .unpaired := rfl
  refine absurd (hall _ _ hsingle hcompiled fun sql hsql => ?_) (by decide)
  rw [Clause.raw.inj (List.mem_singleton.mp hsql)]
  decide

/-- A word right behind the closing quote. -/
def Conditions.adjoining : Conditions :=
  (Conditions.raw { } "name LIKE '%:n%'COLLATE NOCASE").bind "n" (.scalar (.text "x"))

/-- What is made of it. -/
def CompiledCondition.adjoining : CompiledCondition where
  fragment := "name LIKE :nCOLLATE NOCASE"
  binds := .ofList [(":n", .text "%x%")]

/-- Even if the quotes are a pair, a word right behind them becomes a part of the name. -/
theorem compile_lengthens_name :
    ¬ ∀ (c : Conditions) (r : CompiledCondition), c.Single → c.compile = .ok r →
      (∀ s ∈ c.operands, s.closeQuote = s.openQuote) →
      ∀ t ∈ placeholders r.fragment.toList, t ∈ c.tokens := by
  intro hall
  have hsingle : Conditions.adjoining.Single :=
    ⟨List.forall_mem_singleton.mpr trivial,
      List.forall_mem_singleton.mpr ⟨by decide, _, rfl⟩⟩
  have hcompiled : Conditions.adjoining.compile = .ok .adjoining := rfl
  have hname := hall _ _ hsingle hcompiled (by decide) ":nCOLLATE" (by decide)
  exact absurd hname (by decide)

end SqlMapper
