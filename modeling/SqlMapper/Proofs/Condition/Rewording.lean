import SqlMapper.Proofs.Condition.Parts

/-!
# Rewording Parts

What the two rewrites of a raw fragment do to its lexemes.

Spreading a list writes other names between the parentheses, and moving wildcards
takes quotes away. Either way words are exchanged for words of the same part, and
the row of lexemes stays what it was, apart from the texts of the parts. Inside of
quotes nothing is a lexeme anyway, and all that matters is that the same quotes
are open behind the exchange.

For a wildcard this takes two things: the quotes around the operand are a pair,
so none of them is left behind, and no word follows that the name would run into.
A pair that closes the quotes around the whole opens them again.

## Main definitions

* `Lexis.Reworded`: Texts with the same lexemes, apart from the texts of the parts.
* `Similarity.Even`: An operand in a pair of quotes that no word follows.
* `Lexer.Settled`: A lexer in quotes or at the beginning of a word.

## Theorems

* `Reworded.read?`: Texts that read alike are formulas of the same shape.
* `placed_reworded`: Moving wildcards rewords, if operands that are bound are even.
* `spread_reworded`: Spreading lists rewords.
-/

namespace SqlMapper

open Text

namespace Lexis

variable {x : Lexis}

/-- Texts with the same lexemes, apart from the texts of the parts, wherever they stand. -/
def Reworded (x : Lexis) (cs cs' : List Char) : Prop :=
  ∀ s, (x.lexFrom? s cs).map outline = (x.lexFrom? s cs').map outline

theorem Reworded.append {cs cs' : List Char} (h : x.Reworded cs cs') (front : List Char) :
    x.Reworded (front ++ cs) (front ++ cs') := by
  intro s
  rw [lexFrom?_append, lexFrom?_append]
  rcases front.foldlM (Lexer.step x) s with _ | t
  · rfl
  · exact h t

/-- Texts that read alike are formulas of the same shape. -/
theorem Reworded.read? {text text' : String} (h : x.Reworded text.toList text'.toList)
    {f : Condition Words} (hf : x.read? text = some f) :
    ∃ g, x.read? text' = some g ∧ g.shape = f.shape := by
  rcases Option.bind_eq_some_iff.mp hf with ⟨ls, hls, hread⟩
  have hsame := h { }
  rw [hls, Option.map_some] at hsame
  rcases Option.map_eq_some_iff.mp hsame.symm with ⟨ls', hls', houtline⟩
  have hshape := congrArg readFormula? houtline
  rw [outline, outline, readFormula?_map, readFormula?_map, hread, Option.map_some] at hshape
  rcases Option.map_eq_some_iff.mp hshape with ⟨g, hg, hmap⟩
  refine ⟨g, ?_, ?_⟩
  · rw [Lexis.read?, hls']
    exact hg
  · rw [← g.shape_map, hmap, f.shape_map]

end Lexis

/-! ### Operands of `LIKE` -/

/-- A word that ends in a `LIKE` is no keyword. -/
theorem keyword_like {word : List Char}
    (h : List.Forall₂ (fun k c => sameLetter k c = true) ['l', 'i', 'k', 'e'] word)
    (front : List Char) : keyword (front ++ word) = none := by
  rcases hkeyword : keyword (front ++ word) with _ | l
  · rfl
  · rcases exists_keyword hkeyword with ⟨key, hkey, heq⟩
    rcases h with _ | ⟨-, _ | ⟨-, _ | @⟨_, c, _, _, hc, _ | @⟨_, d, _, _, hd, _ | _⟩⟩⟩⟩
    have hback : key.1.reverse.take 2 = [d.toLower, c.toLower] := by
      rw [heq, List.map_append, List.reverse_append]
      rfl
    -- Where a keyword ends in the last letter, another than the third stands in front of it.
    have hend : ∀ key ∈ keywords, key.1.reverse.take 2 = ['e', 's']
        ∨ (key.1.reverse.take 2).head? ≠ some 'e' := by
      decide
    rcases hend key hkey with hcase | hother
    · rw [hback, List.cons.injEq, List.cons.injEq] at hcase
      have hkelvin : c.toNat = 0x212a := by
        simpa [sameLetter, hcase.2.1] using hc
      rw [← Char.ofNat_toNat c, hkelvin] at hcase
      exact absurd hcase.2.1 (by decide)
    · rw [hback] at hother
      exact absurd (congrArg some (by simpa [sameLetter] using hd)) hother

namespace Similarity.Fits

variable {x : Lexis} {s : Similarity} {rest : List Char} {q : Lexer}

/-- What may stand in quotes. -/
theorem holds (h : s.Fits rest) (mark : Mark) : mark.Holds (s.lead ++ s.name ++ s.trail) := by
  rcases h.name with ⟨word, hname, -, hword⟩
  have hsigns : ∀ c ∈ s.lead ++ s.trail, isSign c = true := by
    intro c hc
    rw [h.wildcards c hc]
    decide
  refine (Mark.Holds.append ?_ ?_).append ?_
  · exact Mark.holds_of_sign fun c hc => hsigns c (List.mem_append_left _ hc)
  · rw [hname]
    exact Mark.holds_name hword
  · exact Mark.holds_of_sign fun c hc => hsigns c (List.mem_append_right _ hc)

theorem keeps_name (h : s.Fits rest) : x.Keeps s.name := by
  rcases h.name with ⟨word, hname, -, hword⟩
  rw [hname]
  exact (Lexis.Begins.name (Or.inl rfl) hword).keeps

theorem keeps_gap (h : s.Fits rest) : x.Keeps s.gap :=
  .of_forall fun c hc => .blank (h.gap.2 c hc)

theorem keeps_dressed (h : s.Fits rest) : x.Keeps (s.lead ++ s.name ++ s.trail) := by
  have hpercent : ∀ c ∈ s.lead ++ s.trail, x.Keeps [c] := by
    intro c hc
    rw [h.wildcards c hc]
    exact (Lexis.Begins.plain (by decide)).keeps
  exact ((Lexis.Keeps.of_forall fun c hc => hpercent c (List.mem_append_left _ hc)).append
    h.keeps_name).append (.of_forall fun c hc => hpercent c (List.mem_append_right _ hc))

theorem exists_mark (h : s.Fits rest) :
    s.openQuote = [] ∨ ∃ mark : Mark, s.openQuote = [mark.char]
      ∧ Mark.begun mark.char = some mark ∧ isWord mark.char = false := by
  rcases h.quote with hnone | ⟨c, hc, hquote⟩
  · exact Or.inl hnone
  · rw [isQuote, Bool.or_eq_true, beq_iff_eq, beq_iff_eq] at hquote
    rcases hquote with rfl | rfl
    · exact Or.inr ⟨.apostrophe, hc, rfl, by decide⟩
    · exact Or.inr ⟨.quotation, hc, rfl, by decide⟩

theorem over_keyword (h : s.Fits rest) {hanging : Option Char}
    (hq : q.place = .outside hanging) :
    ∃ t, s.word.foldlM (Lexer.step x) q = some t ∧ t.Within q.out := by
  have hne : s.word ≠ [] := by
    intro hnil
    have hletters := h.letters
    rw [hnil] at hletters
    cases hletters
  refine ⟨_, Lexer.over_word hq hne (isWord_of_letters h.letters (by decide)), ?_⟩
  exact .of_word rfl rfl (by simp [hne]) (keyword_like h.letters q.run)

/-- Outside of quotes an operand in a pair of quotes is a part of what the keyword is in. -/
theorem over_source (h : s.Fits rest) (hpair : s.closeQuote = s.openQuote)
    {hanging : Option Char} (hq : q.place = .outside hanging) :
    ∃ t, s.source.foldlM (Lexer.step x) q = some t ∧ t.Within q.out := by
  have hoperand : x.Keeps (s.openQuote ++ (s.lead ++ s.name ++ s.trail) ++ s.closeQuote) := by
    rw [hpair]
    rcases h.exists_mark with hnone | ⟨mark, hquote, hmark, -⟩
    · rw [hnone, List.nil_append, List.append_nil]
      exact h.keeps_dressed
    · rw [hquote]
      exact (Lexis.Begins.quoted hmark (h.holds mark)).keeps
  rcases h.over_keyword (x := x) hq with ⟨t, ht, hwithin⟩
  rcases h.keeps_gap.append hoperand q.out t hwithin with ⟨u, hu, hwithin'⟩
  refine ⟨u, ?_, hwithin'⟩
  have hsource : s.source = s.word
      ++ (s.gap ++ (s.openQuote ++ (s.lead ++ s.name ++ s.trail) ++ s.closeQuote)) := by
    simp only [Similarity.source, List.append_assoc]
  rwa [hsource, Lexer.over_append ht]

theorem over_bare (h : s.Fits rest) {hanging : Option Char} (hq : q.place = .outside hanging) :
    ∃ t, (s.word ++ ' ' :: s.name).foldlM (Lexer.step x) q = some t ∧ t.Within q.out := by
  rcases h.over_keyword (x := x) hq with ⟨t, ht, hwithin⟩
  have hkeeps : x.Keeps ([' '] ++ s.name) := .append (.blank (by decide)) h.keeps_name
  rcases hkeeps q.out t hwithin with ⟨u, hu, hwithin'⟩
  refine ⟨u, ?_, hwithin'⟩
  rwa [Lexer.over_append ht]

variable {mark : Mark} {escaped : Bool}

theorem inside_bare (h : s.Fits rest) (hq : q.place = .inside mark escaped) :
    ∃ t, (s.word ++ ' ' :: s.name).foldlM (Lexer.step x) q = some t ∧ t.out = q.out
      ∧ t.place = .inside mark false := by
  rcases h.name with ⟨word, hname, -, hword⟩
  have hholds : mark.Holds (s.word ++ ' ' :: s.name) := by
    refine (Mark.holds_of_word (isWord_of_letters h.letters (by decide))).append ?_
    rw [hname]
    have hspace : mark.Holds [' '] :=
      Mark.holds_of_blank (List.forall_mem_singleton.mpr (by decide))
    exact hspace.append (Mark.holds_name hword)
  exact ⟨_, Lexer.over_inside hq (by simp) hholds, rfl, rfl⟩

theorem front_holds (h : s.Fits rest) (mark : Mark) : mark.Holds (s.word ++ s.gap) :=
  (Mark.holds_of_word (isWord_of_letters h.letters (by decide))).append
    (Mark.holds_of_blank h.gap.2)

theorem front_ne_nil (h : s.Fits rest) : s.word ++ s.gap ≠ [] := by
  rcases h.gap.1 with ⟨d, behind, hgap, -⟩
  simp [hgap]

theorem begun_of_openQuote (h : s.Fits rest) (hquote : s.openQuote = [mark.char]) :
    Mark.begun mark.char = some mark := by
  rcases h.exists_mark with hnone | ⟨mark', hmark, hbegun, -⟩
  · rw [hnone] at hquote
    cases hquote
  · rw [hmark, List.singleton_inj] at hquote
    rwa [Mark.char_inj hquote] at hbegun

theorem openQuote_holds (h : s.Fits rest) (hquote : s.openQuote ≠ [mark.char]) :
    mark.Holds s.openQuote := by
  rcases h.exists_mark with hnone | ⟨mark', hmark, -, -⟩
  · rw [hnone]
    exact List.forall_mem_nil _
  · rw [hmark, ne_eq, List.singleton_inj] at hquote
    rw [hmark]
    exact List.forall_mem_singleton.mpr ⟨hquote, by cases mark' <;> decide⟩

/-- A quote of their own mark closes the quotes that are open. -/
theorem inside_closed (h : s.Fits rest) (hq : q.place = .inside mark escaped) :
    ∃ t, (s.word ++ s.gap ++ [mark.char]).foldlM (Lexer.step x) q = some t ∧ t.Within q.out := by
  refine ⟨{ q with
    words := q.words ++ [q.run ++ (s.word ++ s.gap) ++ [mark.char]]
    run := []
    place := .outside none }, ?_, .of_nil rfl rfl rfl (by simp)⟩
  rw [Lexer.over_append (Lexer.over_inside hq h.front_ne_nil (h.front_holds mark))]
  exact Lexer.over_cons (Lexer.step_close rfl) []

/-- Inside of quotes an operand in a pair of quotes leaves them open, whether or not it is their
    mark that the pair is of. -/
theorem inside_source (h : s.Fits rest) (hpair : s.closeQuote = s.openQuote)
    (hq : q.place = .inside mark escaped) :
    ∃ t, s.source.foldlM (Lexer.step x) q = some t ∧ t.out = q.out
      ∧ t.place = .inside mark false := by
  have hsource : s.source
      = s.word ++ s.gap ++ (s.openQuote ++ (s.lead ++ s.name ++ s.trail) ++ s.openQuote) := by
    rw [Similarity.source, hpair]
    simp only [List.append_assoc]
  by_cases hquote : s.openQuote = [mark.char]
  · -- The first quote closes what was open, and the second opens it again.
    rcases h.inside_closed (x := x) hq with ⟨t, ht, hclosed⟩
    rcases h.keeps_dressed (x := x) q.out t hclosed with ⟨u, hu, hwithin⟩
    have hcut : s.source
        = (s.word ++ s.gap ++ [mark.char]) ++ ((s.lead ++ s.name ++ s.trail) ++ [mark.char]) := by
      rw [hsource, hquote]
      simp only [List.append_assoc]
    refine ⟨{ u.endWord with run := [mark.char], place := .inside mark false }, ?_, hwithin.out,
      rfl⟩
    rw [hcut, Lexer.over_append ht, Lexer.over_append hu]
    exact Lexer.over_cons (Lexer.step_open hwithin.place (h.begun_of_openQuote hquote)) []
  · have hholds : mark.Holds s.source := by
      have hopen := h.openQuote_holds hquote
      rw [hsource]
      exact (h.front_holds mark).append ((hopen.append (h.holds mark)).append hopen)
    have hne : s.source ≠ [] := by
      rw [hsource]
      exact List.append_ne_nil_of_left_ne_nil h.front_ne_nil _
    exact ⟨_, Lexer.over_inside hq hne hholds, rfl, rfl⟩

end Similarity.Fits

/-- An operand of `LIKE` that stands in a pair of quotes and that no word follows. -/
structure Similarity.Even (s : Similarity) (rest : List Char) : Prop where
  pair : s.closeQuote = s.openQuote
  ends : wordRun rest = []

theorem similarity_reworded {x : Lexis} {s : Similarity} {rest text : List Char} (h : s.Fits rest)
    (heven : s.Even rest) (hrest : x.Reworded rest text) (htext : wordRun text = wordRun rest) :
    x.Reworded (s.source ++ rest) (s.word ++ ' ' :: s.name ++ text) := by
  rw [heven.ends] at htext
  intro q
  rcases hplace : q.place with hanging | ⟨mark, escaped⟩
  · rcases h.over_source (x := x) heven.pair hplace with ⟨t, ht, hwithin⟩
    rcases h.over_bare (x := x) hplace with ⟨u, hu, hwithin'⟩
    rw [x.lexFrom?_over ht, x.lexFrom?_over hu, hrest t]
    exact hwithin.same hwithin' htext
  · rcases h.inside_source (x := x) heven.pair hplace with ⟨t, ht, hout, hin⟩
    rcases h.inside_bare (x := x) hplace with ⟨u, hu, hout', hin'⟩
    rw [x.lexFrom?_over ht, x.lexFrom?_over hu, hrest t]
    exact x.lexFrom?_alike (.of_inside (hout.trans hout'.symm) hin hin') text

/-- Moving wildcards changes no more than the texts of the parts, if operands that are bound are
    even. -/
theorem placed_reworded {x : Lexis} {b : Binds} {cs : List Char} {ps : List (Piece Similarity)}
    (h : Cut Similarity.source
      (fun s rest => s.Fits rest ∧ (b.contains (String.ofList s.name) = true → s.Even rest)) cs ps)
    {p : Patterned} (hb : Grows (placePieces p ps).2.binds b) :
    x.Reworded cs (placePieces p ps).1 := by
  induction h generalizing p with
  | nil => exact fun s => rfl
  | @char c rest ps _ ih => exact (ih hb).append [c]
  | @found s rest ps hs hrest ih =>
      rcases hvalue : p.binds.get? (String.ofList s.name) with _ | v
      · rw [placePieces_unbound hvalue] at hb ⊢
        exact (ih hb).append s.source
      · have hbound : b.contains (String.ofList s.name) = true :=
          hb _ (placePieces_grows p (.found s :: ps) _ (OrderedMap.contains_of_get? hvalue))
        have hword := placed_wordRun (hrest.imp fun _ _ => And.left) (p.wrap s v)
        rw [placePieces_bound hvalue] at hb ⊢
        exact similarity_reworded hs.1 (hs.2 hbound) (ih hb) hword

/-! ### Operands of `IN` -/

/-- The elements of a list are names between commas, if there are any. -/
theorem elementList_cases {name : String} (h : IsBindName name) (vs : List Value) :
    elementList name vs = ['N', 'U', 'L', 'L']
      ∨ ∃ names : List String, names ≠ [] ∧ (∀ t ∈ names, IsBindName t)
        ∧ elementList name vs = (", ".intercalate names).toList := by
  rcases vs with _ | ⟨v, vs⟩
  · exact Or.inl rfl
  · refine Or.inr ⟨elementNames name 0 (v :: vs).length, ?_, fun t ht => ?_, rfl⟩
    · rw [← List.length_pos_iff, length_elementNames]
      exact Nat.succ_pos _
    · rcases mem_elementNames ht with ⟨i, -, rfl⟩
      exact isBindName_numbered h _

namespace Lexer

variable {x : Lexis} {s t : Lexer}

/-- A lexer that is in quotes or at the beginning of a word. -/
def Settled (s : Lexer) : Prop :=
  ∀ hanging, s.place = .outside hanging → s.run = []

theorem settled_step {c : Char} (hc : isBlank c = true ∨ c = '(') (h : s.step x c = some t) :
    t.Settled := by
  intro hanging hplace
  rcases hin : s.place with hanging' | ⟨mark, escaped⟩
  · rcases hc with hblank | rfl
    · rw [step_blank hin hblank] at h
      cases h
      exact s.run_endWord
    · rw [step_pass hin (by decide) (by simp [Lexis.isForeign])] at h
      cases h
      rfl
  · rw [step, hin] at h
    cases h
    unfold quote at hplace ⊢
    split_ifs at hplace ⊢
    rfl

theorem settled_over {cs : List Char} (hcs : ∀ c ∈ cs, isBlank c = true) (hs : s.Settled)
    (h : cs.foldlM (step x) s = some t) : t.Settled := by
  induction cs generalizing s with
  | nil =>
      cases h
      exact hs
  | cons c cs ih =>
      rw [List.foldlM_cons, Option.bind_eq_bind, Option.bind_eq_some_iff] at h
      rcases h with ⟨u, hu, hrest⟩
      exact ih (fun d hd => hcs d (List.mem_cons_of_mem c hd))
        (settled_step (Or.inl (hcs c List.mem_cons_self)) hu) hrest

theorem over_elements {hanging : Option Char} (h : s.place = .outside hanging) (hrun : s.run = [])
    {name : String} (hname : IsBindName name) (vs : List Value) :
    ∃ t, (elementList name vs).foldlM (step x) s = some t ∧ t.Within s.out := by
  rcases elementList_cases hname vs with hnull | ⟨names, hne, hnames, helements⟩
  · rw [hnull]
    have hword : ∀ c ∈ ['N', 'U', 'L', 'L'], isWord c = true := List.all_eq_true.mp (by decide)
    refine ⟨_, over_word h (List.cons_ne_nil _ _) hword, .of_word rfl rfl ?_ ?_⟩ <;>
      rw [hrun]
    · exact List.cons_ne_nil _ _
    · rfl
  · have hcomma : x.Keeps ", ".toList :=
      .append (Lexis.Begins.plain (by decide)).keeps (.blank (by decide))
    have hover := Lexis.Begins.joined hcomma hne (fun t ht => .bindName (hnames t ht)) s hanging h
    rwa [endWord_of_nil hrun, ← helements] at hover

end Lexer

theorem holds_bindName (mark : Mark) {name : String} (h : IsBindName name) :
    mark.Holds name.toList := by
  rcases h with ⟨word, hname, hword⟩
  rw [hname]
  exact Mark.holds_name hword

/-- What is written for a list is made of words, signs and blanks. -/
theorem mem_elementList {name : String} (h : IsBindName name) {vs : List Value} {c : Char}
    (hc : c ∈ elementList name vs) : isWord c = true ∨ isSign c = true ∨ isBlank c = true := by
  rcases elementList_cases h vs with hnull | ⟨names, -, hnames, helements⟩
  · rw [hnull] at hc
    have hword : ∀ d ∈ ['N', 'U', 'L', 'L'], isWord d = true := List.all_eq_true.mp (by decide)
    exact Or.inl (hword c hc)
  · rw [helements] at hc
    rcases mem_intercalate hc with hc | ⟨t, ht, hc⟩
    · rcases List.mem_cons.mp hc with rfl | hc
      · exact Or.inr (Or.inl (by decide))
      · rw [List.mem_singleton.mp hc]
        exact Or.inr (Or.inr (by decide))
    · rcases hnames t ht with ⟨word, hname, hword⟩
      rw [hname] at hc
      rcases List.mem_cons.mp hc with rfl | hc
      · exact Or.inr (Or.inl (by decide))
      · exact Or.inl (hword c hc)

theorem holds_elements (mark : Mark) {name : String} (h : IsBindName name) (vs : List Value) :
    mark.Holds (elementList name vs) := by
  intro c hc
  have hone : mark.Holds [c] := by
    rcases mem_elementList h hc with hword | hsign | hblank
    · exact Mark.holds_of_word (List.forall_mem_singleton.mpr hword)
    · exact Mark.holds_of_sign (List.forall_mem_singleton.mpr hsign)
    · exact Mark.holds_of_blank (List.forall_mem_singleton.mpr hblank)
  exact hone c List.mem_cons_self

theorem elementList_ne_nil {name : String} (h : IsBindName name) (vs : List Value) :
    elementList name vs ≠ [] := by
  rcases elementList_cases h vs with hnull | ⟨names, hne, hnames, helements⟩
  · rw [hnull]
    exact List.cons_ne_nil _ _
  · rcases names with _ | ⟨name', names⟩
    · exact absurd rfl hne
    · rcases hnames name' List.mem_cons_self with ⟨word, hname, -⟩
      rcases names with _ | ⟨next, names⟩
      · rw [helements, String.intercalate_singleton, hname]
        exact List.cons_ne_nil _ _
      · rw [helements, String.intercalate_cons_cons, String.toList_append, String.toList_append,
          hname]
        exact List.cons_ne_nil _ _

/-- Behind an opening parenthesis, a name and the elements of a list read alike. -/
theorem elements_same {x : Lexis} {s : Lexer} (hs : s.Settled) {name : String}
    (hname : IsBindName name) (vs : List Value) {text : List Char} (htext : wordRun text = []) :
    (x.lexFrom? s (name.toList ++ text)).map outline
      = (x.lexFrom? s (elementList name vs ++ text)).map outline := by
  rcases hplace : s.place with hanging | ⟨mark, escaped⟩
  · have hrun := hs hanging hplace
    rcases Lexer.over_elements (x := x) hplace hrun hname vs with ⟨u, hu, hwithin'⟩
    rcases Lexis.Begins.bindName (x := x) hname s hanging hplace with ⟨t, ht, hwithin⟩
    rw [Lexer.endWord_of_nil hrun] at hwithin
    rw [x.lexFrom?_over ht, x.lexFrom?_over hu]
    exact hwithin.same hwithin' htext
  · have hne : name.toList ≠ [] := by
      rcases hname with ⟨word, hlist, -⟩
      rw [hlist]
      exact List.cons_ne_nil _ _
    have hover := Lexer.over_inside (x := x) hplace hne (holds_bindName mark hname)
    have hover' := Lexer.over_inside (x := x) hplace (elementList_ne_nil hname vs)
      (holds_elements mark hname vs)
    rw [x.lexFrom?_over hover, x.lexFrom?_over hover']
    refine x.lexFrom?_alike ?_ text
    exact Lexer.Alike.of_inside rfl rfl rfl

/-- Once a list is spread, the text reads as before, apart from the texts of the parts. -/
theorem membership_reworded {x : Lexis} {m : Membership} {rest text : List Char} (h : m.Fits rest)
    (vs : List Value) (hrest : x.Reworded rest text) :
    x.Reworded (m.source ++ rest)
      (m.opening ++ elementList (String.ofList m.name) vs ++ m.closing ++ text) := by
  have hclosing : wordRun (m.closing ++ text) = [] := by
    rcases h.closing.1 with ⟨d, behind, hclosing, hd⟩
    have hword : ¬ isWord d = true := fun hword => by
      rw [isDressed_of_isWord hword] at hd
      cases hd
    rw [hclosing, List.cons_append, wordRun, List.takeWhile_cons_of_neg hword]
  rcases h.opening.1 with ⟨before, behind, hopening, hblanks⟩
  intro s
  have hsource : m.source ++ rest
      = m.opening ++ ((String.ofList m.name).toList ++ (m.closing ++ rest)) := by
    simp only [Membership.source, String.toList_ofList, List.append_assoc]
  rw [hsource, List.append_assoc, List.append_assoc, x.lexFrom?_append, x.lexFrom?_append]
  rcases hover : m.opening.foldlM (Lexer.step x) s with _ | t
  · rfl
  · have hsettled : t.Settled := by
      rw [hopening, List.foldlM_append, Option.bind_eq_bind, Option.bind_eq_some_iff] at hover
      rcases hover with ⟨u, -, hu⟩
      rw [List.foldlM_cons, Option.bind_eq_bind, Option.bind_eq_some_iff] at hu
      rcases hu with ⟨v, hv, hover⟩
      exact Lexer.settled_over hblanks (Lexer.settled_step (Or.inr rfl) hv) hover
    have hsame := elements_same (x := x) hsettled h.isBindName vs hclosing
    rw [Option.bind_some, Option.bind_some, ← hsame]
    exact (hrest.append (m.closing)).append _ t

/-- Spreading lists changes no more than the texts of the parts. -/
theorem spread_reworded {x : Lexis} {lists : List (String × List Value)} {cs : List Char}
    {ps : List (Piece Membership)} (h : Cut Membership.source Membership.Fits cs ps) (s : Spread) :
    x.Reworded cs (spreadPieces lists s ps).1 := by
  induction h generalizing s with
  | nil => exact fun s => rfl
  | @char c rest ps _ ih => exact (ih s).append [c]
  | @found m rest ps hm _ ih =>
      rcases hbound : elements? lists s.binds (String.ofList m.name) with _ | vs
      · rw [spreadPieces_unbound hbound]
        exact (ih s).append m.source
      · rw [spreadPieces_bound hbound]
        exact membership_reworded hm vs (ih _)

end SqlMapper
