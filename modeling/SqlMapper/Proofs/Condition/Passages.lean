import Mathlib.Data.List.DropRight
import Mathlib.Logic.Function.Iterate
import SqlMapper.Proofs.Condition.Asking
import SqlMapper.Proofs.Condition.Compiling
import SqlMapper.Proofs.Condition.Equalities
import SqlMapper.Proofs.Condition.Operands

/-!
# Passages That Ask for a List

What becomes of a fragment whose only placeholder is the name of a list.

A passage is a text with places where the list is asked for. These places are
what the scan finds: in front of the first one there is no placeholder, so an
occurrence that began earlier would have to begin with a longer keyword. There
is no operand of `LIKE` in such a fragment, since no parenthesis stands between
the keyword and the placeholder of an operand. So spreading writes the elements
into the places, and the rest of the text stays as it is.

## Main definitions

* `Passage`: A text with places where a list is asked for.
* `Passage.written`: The text with something in these places.
* `Passage.Asks`: The name in these places is the only placeholder of the text.

## Theorems

* `Passage.pieces_written`: What the scan finds is what is written.
* `Passage.no_operands`: No operand of `LIKE` is found.
* `Passage.spread_written`: Spreading writes the elements into the places.
-/

namespace SqlMapper

open Text

/-! ### Texts without placeholders -/

/-- No placeholder begins in a text, given what follows it. -/
def Unnamed (text behind : List Char) : Prop :=
  ∀ front more, text = front ++ ':' :: more → wordRun (more ++ behind) = []

theorem Unnamed.of_cons {c : Char} {text behind : List Char} (h : Unnamed (c :: text) behind) :
    Unnamed text behind :=
  fun front more htext => h (c :: front) more (congrArg (c :: ·) htext)

theorem Unnamed.of_append {front text behind : List Char} (h : Unnamed (front ++ text) behind) :
    Unnamed text behind := by
  induction front with
  | nil => exact h
  | cons c front ih => exact ih h.of_cons

/-- A text without a colon goes on with one that holds no placeholder. -/
theorem Unnamed.append_of_ne {text plain behind : List Char} (h : Unnamed text (plain ++ behind))
    (hplain : ∀ c ∈ plain, c ≠ ':') : Unnamed (text ++ plain) behind := by
  intro front more hsplit
  rcases List.append_eq_append_iff.mp hsplit with ⟨left, -, hleft⟩ | ⟨left, htext, hmore⟩
  · exact absurd rfl (hplain ':' (hleft ▸ List.mem_append_right left List.mem_cons_self))
  · cases left with
    | nil =>
        rw [List.nil_append] at hmore
        exact absurd rfl (hplain ':' (hmore ▸ List.mem_cons_self))
    | cons c left =>
        rw [List.cons_append, List.cons.injEq] at hmore
        rw [hmore.2, List.append_assoc]
        refine h front left ?_
        rw [htext, ← hmore.1]

theorem length_placeholders_le (text behind : List Char) :
    (placeholders behind).length ≤ (placeholders (text ++ behind)).length := by
  induction text with
  | nil => exact Nat.le_refl _
  | cons c text ih =>
      rw [List.cons_append]
      by_cases hc : c = ':'
      · rw [hc, placeholders_colon, List.length_append]
        exact Nat.le_trans ih (Nat.le_add_left _ _)
      · rwa [placeholders_of_ne hc]

/-- A text that adds no placeholder to what follows it has none. -/
theorem unnamed_of_length {text behind : List Char}
    (h : (placeholders (text ++ behind)).length ≤ (placeholders behind).length) :
    Unnamed text behind := by
  induction text with
  | nil =>
      intro front more hnil
      cases front <;> cases hnil
  | cons c text ih =>
      have hle := length_placeholders_le text behind
      rw [List.cons_append] at h
      have hhere : c = ':' → wordRun (text ++ behind) = [] := by
        rintro rfl
        by_contra hword
        rw [placeholders_colon, if_neg hword, List.length_append, List.length_singleton] at h
        omega
      have hrest : Unnamed text behind := by
        refine ih (Nat.le_trans ?_ h)
        have hadded := length_placeholders_le [c] (text ++ behind)
        exact hadded
      rintro (_ | ⟨d, front⟩) more hsplit
      · cases hsplit
        exact hhere rfl
      · cases hsplit
        exact hrest front more rfl

theorem Unnamed.placeholders {text behind : List Char} (h : Unnamed text behind) :
    placeholders (text ++ behind) = placeholders behind := by
  induction text with
  | nil => rfl
  | cons c text ih =>
      rw [List.cons_append]
      by_cases hc : c = ':'
      · rw [hc, placeholders_colon, h [] text (by rw [hc, List.nil_append]), if_pos rfl,
          List.nil_append, ih h.of_cons]
      · rw [placeholders_of_ne hc, ih h.of_cons]

/-- What stands in front of the first placeholder, if the text up to it is known. -/
theorem Unnamed.front_eq {text opening behind front behind' : List Char}
    (h : Unnamed text (opening ++ ':' :: behind)) (hopening : ∀ c ∈ opening, c ≠ ':')
    (hfront : ∀ c ∈ front, c ≠ ':') (hword : wordRun behind' ≠ [])
    (hsame : text ++ (opening ++ ':' :: behind) = front ++ ':' :: behind') :
    front = text ++ opening := by
  induction text generalizing front with
  | nil =>
      have hrun : ∀ {cs : List Char} (more : List Char), (∀ c ∈ cs, c ≠ ':') →
          (cs ++ ':' :: more).takeWhile (· != ':') = cs := by
        intro cs more hcs
        rw [List.takeWhile_append_of_pos fun c hc => bne_iff_ne.mpr (hcs c hc),
          List.takeWhile_cons_of_neg (by decide), List.append_nil]
      rw [List.nil_append, ← hrun behind hopening, ← hrun behind' hfront]
      rw [List.nil_append] at hsame
      rw [hsame]
  | cons c text ih =>
      cases front with
      | nil =>
          cases hsame
          exact absurd (h [] text rfl) hword
      | cons d front =>
          rw [List.cons_append, List.cons_append, List.cons.injEq] at hsame
          rw [hsame.1, List.cons_append,
            ih h.of_cons (fun e he => hfront e (List.mem_cons_of_mem d he)) hsame.2]

/-! ### Places for a list -/

/-- A text with places where a list is asked for. -/
inductive Passage where
  /-- A text without such a place. -/
  | rest (text : List Char)
  /-- A text, such a place where a word can start, and what follows. -/
  | asking (text : List Char) (a : Asking) (hstart : atWordStart text.getLast? = true)
      (behind : Passage)

namespace Passage

/-- The text with something in its places. -/
def written (argument : List Char) : Passage → List Char
  | .rest text => text
  | .asking text a _ behind => text ++ (a.written argument ++ behind.written argument)

/-- How many places there are. -/
def places : Passage → Nat
  | .rest _ => 0
  | .asking _ _ _ behind => behind.places + 1

/-- The name in the places is the only placeholder of the text. -/
def Asks (p : Passage) (name : String) : Prop :=
  placeholders (p.written name.toList) = List.replicate p.places name

/-- The pieces that the text is cut into. -/
def pieces (name : List Char) : Passage → List (Piece Membership)
  | .rest text => text.map .char
  | .asking text a _ behind =>
    text.map .char ++ .found (a.membership name) :: behind.pieces name

end Passage

section

variable {name : String} {word : List Char}

theorem Asking.placeholders_written (a : Asking) (hname : name.toList = ':' :: word)
    (hne : word ≠ []) (hword : ∀ c ∈ word, isWord c = true) (text : List Char) :
    placeholders (a.written name.toList ++ text) = name :: placeholders text := by
  have hends : wordRun (a.closing ++ text) = [] := by
    rcases hblanks : a.after with _ | ⟨d, others⟩
    · rw [closing, hblanks]
      rfl
    · have hd := isWord_of_isBlank (a.blank_after d (hblanks ▸ List.mem_cons_self))
      simp only [closing, hblanks, List.cons_append, wordRun, List.takeWhile_cons, hd,
        Bool.false_eq_true, if_false]
  rw [written, List.append_assoc, List.append_assoc, placeholders_append_of_ne a.opening_ne_colon,
    hname, placeholders_name hne hword hends, placeholders_append_of_ne a.closing_ne_colon,
    ← hname, String.ofList_toList]

namespace Passage

theorem places_le (hname : name.toList = ':' :: word) (hne : word ≠ [])
    (hword : ∀ c ∈ word, isWord c = true) (p : Passage) :
    p.places ≤ (placeholders (p.written name.toList)).length := by
  induction p with
  | rest text => exact Nat.zero_le _
  | asking text a hstart behind ih =>
      refine Nat.le_trans ?_ (length_placeholders_le text _)
      rw [a.placeholders_written hname hne hword, List.length_cons]
      exact Nat.succ_le_succ ih

theorem Asks.rest {text : List Char} (h : (Passage.rest text).Asks name) : Unnamed text [] := by
  refine unnamed_of_length (Nat.le_of_eq ?_)
  rw [List.append_nil]
  exact congrArg List.length h

theorem Asks.asking (hname : name.toList = ':' :: word) (hne : word ≠ [])
    (hword : ∀ c ∈ word, isWord c = true) {text : List Char} {a : Asking}
    {hstart : atWordStart text.getLast? = true} {behind : Passage}
    (h : (Passage.asking text a hstart behind).Asks name) :
    Unnamed text (a.written name.toList ++ behind.written name.toList) ∧ behind.Asks name := by
  have hhere := a.placeholders_written hname hne hword (behind.written name.toList)
  have hle := behind.places_le hname hne hword
  have hunnamed : Unnamed text (a.written name.toList ++ behind.written name.toList) := by
    refine unnamed_of_length ?_
    have hlength := congrArg List.length h
    rw [written, List.length_replicate, places] at hlength
    rw [hlength, hhere, List.length_cons]
    exact Nat.succ_le_succ hle
  refine ⟨hunnamed, ?_⟩
  have hall : placeholders (a.written name.toList ++ behind.written name.toList)
      = List.replicate (behind.places + 1) name := by
    rw [← hunnamed.placeholders]
    exact h
  rw [hhere, List.replicate_succ] at hall
  exact (List.cons.inj hall).2

end Passage

end

/-! ### What the scan finds -/

/-- A text that does not end in a blank is what is left without the blanks behind it. -/
theorem rdropWhile_blanks {cs blanks : List Char} (hblanks : ∀ c ∈ blanks, isBlank c = true)
    (hlast : ∀ c ∈ cs.getLast?, isBlank c = false) : (cs ++ blanks).rdropWhile isBlank = cs := by
  have hself : cs.rdropWhile isBlank = cs := by
    refine List.rdropWhile_eq_self_iff.mpr fun hne => ?_
    rw [hlast _ (List.getLast?_eq_some_getLast hne)]
    exact Bool.false_ne_true
  rw [List.rdropWhile, List.reverse_append,
    List.dropWhile_append_of_pos fun c hc => hblanks c (List.mem_reverse.mp hc)]
  exact hself

/-- Nothing is found in front of a place for a list, since the opening would be longer. -/
theorem membershipPattern_front {c : Char} {text : List Char} {a : Asking} {word behind : List Char}
    (h : Unnamed (c :: text) (a.written (':' :: word) ++ behind)) (passed : Option Char) :
    membershipPattern passed (c :: (text ++ (a.written (':' :: word) ++ behind))) = none := by
  rcases hfound : membershipPattern passed (c :: (text ++ (a.written (':' :: word) ++ behind)))
    with _ | ⟨m, k⟩
  · rfl
  · rcases membershipPattern_eq_some_iff.mp hfound with
      ⟨-, b, word', rest, hne, hword, -, hcs, -⟩
    have hcut : ∀ (b : Asking) (w more : List Char), b.written (':' :: w) ++ more
        = b.opening ++ ':' :: (w ++ b.closing ++ more) := by
      intro b w more
      simp only [Asking.written, List.append_assoc, List.cons_append]
    have hrun : wordRun (word' ++ b.closing ++ rest) ≠ [] := by
      rw [List.append_assoc, wordRun_of_all hword]
      exact List.append_ne_nil_of_left_ne_nil hne _
    rw [hcut] at h hcs
    rw [hcut, ← List.cons_append] at hcs
    -- The placeholder that was found is the first one, so everything up to it is the opening.
    have hopening : b.opening = c :: text ++ a.opening :=
      h.front_eq a.opening_ne_colon b.opening_ne_colon hrun hcs
    have hno : '(' ∉ b.word ++ b.gap ∧ '(' ∉ b.before := by
      refine ⟨fun hmem => ?_, fun hmem => absurd (b.blank_before _ hmem) (by decide)⟩
      rcases List.mem_append.mp hmem with hmem | hmem
      · exact absurd (Asking.isWord_of_mem_word hmem) (by decide)
      · exact absurd (b.blank_gap _ hmem) (by decide)
    rw [Asking.opening, Asking.opening, ← List.append_assoc,
      List.append_cons_inj_of_notMem hno.1 hno.2] at hopening
    have hwords : b.word ++ b.gap = c :: text ++ a.word ++ a.gap := by
      rw [hopening.1, List.append_assoc]
    have hlast : ∀ (b : Asking) (front : List Char), ∀ d ∈ (front ++ b.word).getLast?,
        isBlank d = false := by
      intro b front d hd
      rw [List.getLast?_append_of_ne_nil _ b.word_ne_nil] at hd
      exact isBlank_of_isWord (Asking.isWord_of_mem_word (List.mem_of_getLast? hd))
    have hfirst := rdropWhile_blanks b.blank_gap (hlast b [])
    have hsecond := rdropWhile_blanks a.blank_gap (hlast a (c :: text))
    rw [List.nil_append, hwords, hsecond] at hfirst
    have hlength := congrArg List.length hfirst
    rw [List.length_append, List.length_cons, a.length_word, b.length_word] at hlength
    omega

/-- Nothing is found in a text without placeholders. -/
theorem membershipPattern_unnamed {c : Char} {text : List Char} (h : Unnamed (c :: text) [])
    (passed : Option Char) : membershipPattern passed (c :: text) = none := by
  rcases hfound : membershipPattern passed (c :: text) with _ | ⟨m, k⟩
  · rfl
  · rcases membershipPattern_eq_some_iff.mp hfound with ⟨-, a, word, rest, hne, hword, -, hcs, -⟩
    rw [Asking.written, List.append_assoc, List.append_assoc, List.cons_append] at hcs
    have hrun := h _ _ hcs
    rw [List.append_nil, wordRun_of_all hword] at hrun
    exact absurd (List.append_eq_nil_iff.mp hrun).1 hne

section

variable {name : String} {word : List Char}

/-- The scan finds the places of a passage, and nothing else. -/
theorem Passage.pieces_written (hname : name.toList = ':' :: word) (hne : word ≠ [])
    (hword : ∀ c ∈ word, isWord c = true) {p : Passage} (h : p.Asks name) {passed : Option Char}
    (hpassed : atWordStart passed = true) :
    Text.pieces membershipPattern passed 0 (p.written name.toList) = p.pieces name.toList := by
  induction p generalizing passed with
  | rest text =>
      have hnone : ∀ front c behind, text = front ++ c :: behind →
          membershipPattern (passing passed front) (c :: (behind ++ [])) = none := by
        intro front c behind htext
        rw [List.append_nil]
        refine membershipPattern_unnamed ?_ _
        exact (htext ▸ h.rest : Unnamed (front ++ c :: behind) []).of_append
      have hcut := pieces_chars hnone
      rwa [List.append_nil, pieces_nil, List.append_nil] at hcut
  | asking text a hstart behind ih =>
      rcases h.asking hname hne hword with ⟨htext, hbehind⟩
      have hnone : ∀ front c more, text = front ++ c :: more →
          membershipPattern (passing passed front) (c :: (more
            ++ (a.written name.toList ++ behind.written name.toList))) = none := by
        rintro front c more rfl
        rw [hname] at htext ⊢
        exact membershipPattern_front htext.of_append _
      have hhere : atWordStart (passing passed text) = true := by
        rw [passing_eq]
        rcases hlast : text.getLast? with _ | d
        · exact hpassed
        · rwa [hlast] at hstart
      have hmatch := a.membershipPattern_written hhere hne hword (behind.written name.toList)
      have hsource : a.written name.toList ≠ [] := by
        rw [Asking.written, Asking.opening, List.append_assoc, List.append_assoc]
        exact List.append_ne_nil_of_left_ne_nil a.word_ne_nil _
      -- The place ends with a parenthesis, and a word can start behind that.
      have hclosed :
          atWordStart (passing (passing passed text) (a.written name.toList)) = true := by
        rw [passing_eq, Asking.written, Asking.closing, ← List.append_assoc, ← List.append_assoc,
          List.getLast?_concat]
        rfl
      rw [← hname] at hmatch
      rw [written, pieces, pieces_chars hnone, pieces_match hsource hmatch, ih hbehind hclosed]

/-! ### Operands of `LIKE` -/

/-- No operand of `LIKE` is found in front of a placeholder in parentheses. -/
theorem similarityPattern_front {c : Char} {text before behind : List Char}
    (h : Unnamed (c :: text) ('(' :: before ++ ':' :: behind))
    (hbefore : ∀ d ∈ before, isBlank d = true) (passed : Option Char) :
    similarityPattern passed (c :: (text ++ ('(' :: before ++ ':' :: behind))) = none := by
  rcases hfound : similarityPattern passed (c :: (text ++ ('(' :: before ++ ':' :: behind)))
    with _ | ⟨s, k⟩
  · rfl
  · rcases similarity_fits hfound with ⟨rest, hcs, -, hfits⟩
    rcases hfits.name with ⟨w, hname, hne, hword⟩
    rw [Similarity.Fits.source_eq, hname, List.cons_append] at hcs
    have hplain : ∀ d ∈ '(' :: before, d ≠ ':' :=
      List.forall_mem_cons.mpr ⟨by decide, fun d hd => isBlank_ne_colon (hbefore d hd)⟩
    have hrun : wordRun (w ++ (s.trail ++ s.closeQuote ++ rest)) ≠ [] := by
      rw [wordRun_of_all hword]
      exact List.append_ne_nil_of_left_ne_nil hne _
    -- The placeholder that was found is the first one, and the parenthesis is in front of it.
    have hfront := h.front_eq hplain hfits.front hrun hcs
    have hparenthesis : '(' ∈ s.source := by
      have hmem : '(' ∈ s.word ++ s.gap ++ s.openQuote ++ s.lead := by
        rw [hfront]
        exact List.mem_append_right _ List.mem_cons_self
      rw [Similarity.source, List.append_assoc, List.append_assoc]
      exact List.mem_append_left _ hmem
    exact absurd rfl (hfits.source_ne '(' hparenthesis)

/-- No operand of `LIKE` is found in a text without placeholders. -/
theorem similarityPattern_unnamed {c : Char} {text : List Char} (h : Unnamed (c :: text) [])
    (passed : Option Char) : similarityPattern passed (c :: text) = none := by
  rcases hfound : similarityPattern passed (c :: text) with _ | ⟨s, k⟩
  · rfl
  · rcases similarity_fits hfound with ⟨rest, hcs, -, hfits⟩
    rcases hfits.name with ⟨w, hname, hne, hword⟩
    rw [Similarity.Fits.source_eq, hname, List.cons_append] at hcs
    have hrun := h _ _ hcs
    rw [List.append_nil, wordRun_of_all hword] at hrun
    exact absurd (List.append_eq_nil_iff.mp hrun).1 hne

/-- A passage has no operand of `LIKE`. -/
theorem Passage.no_operands (hname : name.toList = ':' :: word) (hne : word ≠ [])
    (hword : ∀ c ∈ word, isWord c = true) {p : Passage} (h : p.Asks name)
    (passed : Option Char) :
    foundIn (Text.pieces similarityPattern passed 0 (p.written name.toList)) = [] := by
  induction p generalizing passed with
  | rest text =>
      have hnone : ∀ front c behind, text = front ++ c :: behind →
          similarityPattern (passing passed front) (c :: (behind ++ [])) = none := by
        intro front c behind htext
        rw [List.append_nil]
        refine similarityPattern_unnamed ?_ _
        exact (htext ▸ h.rest : Unnamed (front ++ c :: behind) []).of_append
      have hcut := pieces_chars hnone
      rw [List.append_nil] at hcut
      rw [written, hcut, foundIn_chars, pieces_nil]
      rfl
  | asking text a hstart behind ih =>
      rcases h.asking hname hne hword with ⟨htext, hbehind⟩
      have hcut : a.written name.toList ++ behind.written name.toList
          = (a.word ++ a.gap) ++ ('(' :: a.before ++ (':' :: (word ++ (a.after
            ++ ')' :: behind.written name.toList)))) := by
        simp only [Asking.written, Asking.opening, Asking.closing, hname, List.append_assoc,
          List.cons_append, List.nil_append]
      have hplain : ∀ c ∈ a.word ++ a.gap, c ≠ ':' := fun c hc =>
        a.opening_ne_colon c (List.mem_append_left _ hc)
      rw [hcut] at htext
      have hfront := htext.append_of_ne hplain
      have hnone : ∀ front c more, text ++ (a.word ++ a.gap) = front ++ c :: more →
          similarityPattern (passing passed front) (c :: (more ++ ('(' :: a.before
            ++ (':' :: (word ++ (a.after ++ ')' :: behind.written name.toList)))))) = none := by
        intro front c more hsplit
        rw [hsplit] at hfront
        exact similarityPattern_front hfront.of_append a.blank_before _
      have hletters : ∀ c ∈ '(' :: a.before, sameLetter 'l' c = false := by
        intro c hc
        rw [Bool.eq_false_iff]
        intro hletter
        have hc' := isWord_of_sameLetter (by decide) hletter
        rcases List.mem_cons.mp hc with rfl | hc
        · exact absurd hc' (by decide)
        · rw [isWord_of_isBlank (a.blank_before c hc)] at hc'
          cases hc'
      have hpasses := passesOver_pieces foundIn fun _ _ => rfl
      have hover := hpasses.first hletters
      have hnames := hpasses.names (List.cons_ne_nil name [])
        (List.forall_mem_singleton.mpr ⟨word, hname, hword⟩) a.blank_after
      simp only [String.intercalate_singleton, hname, List.cons_append] at hnames
      rw [written, hcut, ← List.append_assoc, pieces_chars hnone, foundIn_chars, hover, hnames]
      exact ih hbehind _

/-! ### Spreading -/

/-- A name that is spread any number of times stands for the same elements. -/
theorem elements?_bound {lists : List (String × List Value)} {s : Spread} {vs : List Value}
    (h : elements? lists s.binds name = some vs) :
    elements? lists (s.bound name vs).binds name = some vs := by
  have hvalue : (s.bound name vs).binds.get? name = s.binds.get? name :=
    get?_bindElements_ne (fun i _ => (numbered_ne name i).symm) _
  rw [← h, elements?, elements?, hvalue]

/-- Spreading a passage writes the elements into its places, and binds them once for each. -/
theorem Passage.spread_written {lists : List (String × List Value)} {vs : List Value}
    (p : Passage) {s : Spread} (h : elements? lists s.binds name = some vs) :
    spreadPieces lists s (p.pieces name.toList)
      = (p.written (elementList name vs), (Spread.bound · name vs)^[p.places] s) := by
  have hchars : ∀ (text : List Char) (s : Spread) (ps : List (Piece Membership)),
      spreadPieces lists s (text.map .char ++ ps)
        = (text ++ (spreadPieces lists s ps).1, (spreadPieces lists s ps).2) := by
    intro text s ps
    induction text with
    | nil => rfl
    | cons c text ih => rw [List.map_cons, List.cons_append, spreadPieces_char, ih]; rfl
  induction p generalizing s with
  | rest text => exact spreadPieces_chars lists s text
  | asking text a hstart behind ih =>
      have hname : String.ofList (a.membership name.toList).name = name := String.ofList_toList
      have hhere : elements? lists s.binds (String.ofList (a.membership name.toList).name)
          = some vs := hname.symm ▸ h
      rw [Passage.pieces, hchars, spreadPieces_bound hhere, hname, ih (elements?_bound h)]
      simp only [written, places, Function.iterate_succ_apply, Asking.written, Asking.membership,
        List.append_assoc]

end

end SqlMapper
