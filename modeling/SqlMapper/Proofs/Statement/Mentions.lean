import SqlMapper.Proofs.Dialect.Paths

/-!
# Names Read off Statements

The names that a statement mentions, as it writes them.

A statement says which tables it is about behind the first word that stands before
tables, perhaps with words in between. What stands there is a list of quoted
names, with or without a schema, and it goes on as long as there is nothing but
names, dots and commas. An insert names its columns in the same way in its first
parentheses. The columns that it overwrites stand elsewhere: each begins an
assignment.

So the names are read off the tokens of a text, and not off its pieces. A text that
is put together from pieces is read by what each of them is for. One leads up to a
list and is passed over, the list is read, and what stands behind it ends it,
whatever else it says.

## Main definitions

* `tableTexts`, `columnTexts`, `overwrittenTexts`: The names that a statement mentions.
* `IsName`: The tokens of a quoted name.
* `Avoids`: Nothing in a text is of some kind.
* `Leads`: A text leads up to what is introduced.
* `Ends`, `Breaks`: A list of names ends in front of a text.

## Theorems

* `listedNames_append`: A list of names is read back.
* `listedNames_behind`: It is read off a text that leads up to it.
* `Breaks.clause`: A clause may be left out.
-/

namespace SqlMapper

namespace Ddl

variable {r : Rules} {p : Token → Bool}

/-- Whether a token is a word that tables stand behind. -/
def Token.isTableWord : Token → Bool
  | .word w => ["FROM", "INTO", "UPDATE", "TABLE"].contains w
  | _ => false

/-- Whether a token is a word that may stand between such a word and what it introduces. -/
def Token.isFiller : Token → Bool
  | .word w => ["IF", "NOT", "EXISTS", "SET"].contains w
  | _ => false

/-- Whether a token is part of a quoted name, with or without a schema. -/
def Token.isNamePart : Token → Bool
  | .quoted .name _ => true
  | .word w => w == "."
  | _ => false

/-- Whether a token is part of a list of quoted names. -/
def Token.isListed (t : Token) : Bool :=
  t.isNamePart || t == .sign ','

/-- The names of the list that some tokens begin with, as they are written. -/
def listedNames (ts : List Token) : List String :=
  ((ts.takeWhile Token.isListed).splitOn (.sign ',')).map written

/-- The names that some assignments begin with, as they are written. -/
def assignedNames (ts : List Token) : List String :=
  ((ts.takeWhile (· != .sign ';')).splitOn (.sign ',')).flatMap listedNames

/-- What stands behind the first token of some kind, words in between apart. -/
def behind (p : Token → Bool) (ts : List Token) : List Token :=
  (ts.dropWhile fun t => !p t).tail.dropWhile Token.isFiller

/-- The tables that a statement is about, as it writes them. -/
def tableTexts (r : Rules) (sql : String) : List String :=
  listedNames (behind Token.isTableWord (lex r sql.toList))

/-- The columns of an insert, as it writes them: the list in the first parentheses. -/
def columnTexts (r : Rules) (sql : String) : List String :=
  listedNames (behind (· == .sign '(') (lex r sql.toList))

/-- The columns that an insert overwrites, as it writes them. -/
def overwrittenTexts (r : Rules) (sql : String) : List String :=
  assignedNames (behind (· == .word "UPDATE") (lex r sql.toList))

/-! ### Lists of names -/

theorem forall_mem_intercalate {α : Type} {P : α → Prop} {sep : List α} {parts : List (List α)}
    (hsep : ∀ a ∈ sep, P a) (hparts : ∀ part ∈ parts, ∀ a ∈ part, P a) :
    ∀ a ∈ sep.intercalate parts, P a := by
  induction parts with
  | nil => exact fun a ha => nomatch ha
  | cons part parts ih =>
      have hpart := hparts part List.mem_cons_self
      have hrest := ih fun other hother => hparts other (List.mem_cons_of_mem part hother)
      cases parts with
      | nil => rwa [List.intercalate_singleton]
      | cons next parts =>
          rw [List.intercalate_cons_cons, List.append_assoc]
          exact List.forall_mem_append.mpr ⟨hpart, List.forall_mem_append.mpr ⟨hsep, hrest⟩⟩

/-- Some tokens begin with a name. -/
def Begins (ts : List Token) : Prop :=
  ∃ name others, ts = .quoted .name name :: others

/-- The tokens of a quoted name. -/
structure IsName (ts : List Token) : Prop where
  begins : Begins ts
  parts : ∀ t ∈ ts, t.isNamePart = true

theorem isName_quoted (name : String) : IsName [.quoted .name name] :=
  ⟨⟨name, [], rfl⟩, fun _ ht => List.mem_singleton.mp ht ▸ rfl⟩

theorem isName_path {names : List String} (hne : names ≠ []) : IsName (pathTokens names) where
  begins := by
    rcases names with _ | ⟨name, _ | ⟨next, names⟩⟩
    · exact absurd rfl hne
    · exact ⟨name, [], rfl⟩
    · exact ⟨name, _, rfl⟩
  parts := by
    refine forall_mem_intercalate (fun t ht => List.mem_singleton.mp ht ▸ rfl) ?_
    intro part hpart
    rcases List.mem_map.mp hpart with ⟨n, -, rfl⟩
    exact (isName_quoted n).parts

theorem isTableWord_of_isNamePart {t : Token} (h : t.isNamePart = true) :
    t.isTableWord = false := by
  cases t with
  | word w =>
      rw [Token.isNamePart, beq_iff_eq] at h
      subst h
      decide
  | _ => rfl

theorem ne_of_isNamePart {t u : Token} (hu : u.isNamePart = false) (h : t.isNamePart = true) :
    (t == u) = false := by
  rw [beq_eq_false_iff_ne]
  rintro rfl
  rw [hu] at h
  cases h

/-- A list of names is read back, if what stands behind it is not part of one. -/
theorem listedNames_append {parts : List (List Token)} (hne : parts ≠ [])
    (hparts : ∀ ts ∈ parts, IsName ts) {rest : List Token}
    (hrest : ∀ t ∈ rest.head?, t.isListed = false) :
    listedNames ([.sign ','].intercalate parts ++ rest) = parts.map written := by
  have hlisted : ∀ t ∈ [Token.sign ','].intercalate parts, t.isListed = true := by
    refine forall_mem_intercalate (fun t ht => List.mem_singleton.mp ht ▸ rfl) ?_
    intro part hpart t ht
    rw [Token.isListed, (hparts part hpart).parts t ht, Bool.true_or]
  have hends : rest.takeWhile Token.isListed = [] := by
    cases rest with
    | nil => rfl
    | cons t rest => rw [List.takeWhile_cons, hrest t rfl, if_neg Bool.false_ne_true]
  have hcomma : ∀ ts ∈ parts, Token.sign ',' ∉ ts := fun ts hts hmem =>
    Bool.noConfusion ((hparts ts hts).parts _ hmem)
  rw [listedNames, List.takeWhile_append_of_pos hlisted, hends, List.append_nil,
    List.splitOn_intercalate _ hcomma hne]

/-- A list whose parts begin with names begins with none of the words in front. -/
theorem head?_listed {parts : List (List Token)} (hne : parts ≠ [])
    (hparts : ∀ ts ∈ parts, Begins ts) (rest : List Token) :
    ∀ t ∈ ([.sign ','].intercalate parts ++ rest).head?, t.isFiller = false := by
  rcases parts with _ | ⟨part, parts⟩
  · exact absurd rfl hne
  · rcases hparts part List.mem_cons_self with ⟨n, others, rfl⟩
    have hbegins : ([.sign ','].intercalate ((.quoted .name n :: others) :: parts)
        ++ rest).head? = some (.quoted .name n) := by
      cases parts with
      | nil => rw [List.intercalate_singleton, List.cons_append, List.head?_cons]
      | cons next parts =>
          rw [List.intercalate_cons_cons, List.cons_append, List.cons_append, List.cons_append,
            List.head?_cons]
    rw [hbegins]
    exact fun t ht => Option.some.inj ht ▸ rfl

theorem dropWhile_isFiller {rest : List Token} (h : ∀ t ∈ rest.head?, t.isFiller = false) :
    rest.dropWhile Token.isFiller = rest := by
  cases rest with
  | nil => rfl
  | cons t rest => rw [List.dropWhile_cons, h t rfl, if_neg Bool.false_ne_true]

/-! ### Texts without tokens of a kind -/

/-- A text is lexed whatever stands behind it, to tokens of which none is of some kind. -/
def AvoidsApart (r : Rules) (p : Token → Bool) (text : String) : Prop :=
  ∃ tokens, LexesApart r text tokens ∧ ∀ t ∈ tokens, p t = false

/-- A text is lexed by itself, to tokens of which none is of some kind. -/
structure Avoids (r : Rules) (p : Token → Bool) (text : String) : Prop where
  lexes : Lexes r text (lex r text.toList)
  none : ∀ t ∈ lex r text.toList, p t = false

theorem Lexes.avoids {text : String} {tokens : List Token} (h : Lexes r text tokens)
    (ht : ∀ t ∈ tokens, p t = false) : Avoids r p text := by
  have hself : lex r text.toList = tokens := by
    have hwhole := h [] fun c hc => nomatch hc
    rwa [List.append_nil, show lex r [] = [] from rfl, List.append_nil] at hwhole
  exact ⟨hself.symm ▸ h, hself.symm ▸ ht⟩

namespace Avoids

variable {text other : String}

theorem path (hname : ∀ t : Token, t.isNamePart = true → p t = false) (path : String) :
    Avoids r p (quotePath path) :=
  (lexes_quotePath path).avoids fun t ht =>
    hname t ((isName_path (segments_ne_nil path)).parts t ht)

theorem append (h : Avoids r p text) (h' : Avoids r p other)
    (hopen : ∀ rest, Open (other.toList ++ rest)) : Avoids r p (text ++ other) :=
  (h.lexes.append h'.lexes hopen).avoids (List.forall_mem_append.mpr ⟨h.none, h'.none⟩)

theorem after (h : Avoids r p text) (hother : AvoidsApart r p other) :
    Avoids r p (other ++ text) := by
  rcases hother with ⟨tokens, hlexes, hnone⟩
  exact (hlexes.append_lexes h.lexes).avoids (List.forall_mem_append.mpr ⟨hnone, h.none⟩)

/-- Texts with commas between them. -/
theorem listed {texts : List String} (h : ∀ text ∈ texts, Avoids r p text)
    (hcomma : p (.sign ',') = false) {sep : String} (hsep : IsComma sep) :
    Avoids r p (sep.intercalate texts) := by
  have htexts : ∀ text ∈ texts, Lexes r (id text) (lex r text.toList) := fun text htext =>
    (h text htext).lexes
  have hlexes := lexes_listed htexts hsep
  rw [List.map_id] at hlexes
  refine hlexes.avoids (forall_mem_intercalate ?_ ?_)
  · exact fun t ht => List.mem_singleton.mp ht ▸ hcomma
  · intro part hpart
    rcases List.mem_map.mp hpart with ⟨text, htext, rfl⟩
    exact (h text htext).none

end Avoids

/-! ### In front of a list and behind it -/

/-- A text leads up to what the first token of some kind introduces. -/
def Leads (r : Rules) (p : Token → Bool) (front : String) : Prop :=
  ∀ rest : List Char, (∀ t ∈ (lex r rest).head?, t.isFiller = false) →
    behind p (lex r (front.toList ++ rest)) = lex r rest

/-- What is avoided before may stand in front. -/
theorem Leads.after {front lead : String} (h : Leads r p lead) (hfront : Avoids r p front)
    (hopen : ∀ rest, Open (lead.toList ++ rest)) : Leads r p (front ++ lead) := by
  intro rest hrest
  have hpassed : ∀ t ∈ lex r front.toList, (!p t) = true := fun t ht => by
    rw [hfront.none t ht]
    rfl
  rw [String.toList_append, List.append_assoc, hfront.lexes _ (hopen rest), behind,
    List.dropWhile_append_of_pos hpassed]
  exact h rest hrest

/-- A list of names ends in front of a text. -/
structure Ends (r : Rules) (rest : List Char) : Prop where
  opens : Open rest
  head : ∀ t ∈ (lex r rest).head?, t.isListed = false

/-- A list of names ends in front of a text, whatever stands behind the text. -/
def Breaks (r : Rules) (text : String) : Prop :=
  ∀ rest, Ends r (text.toList ++ rest)

theorem Breaks.ends {text : String} (h : Breaks r text) (back : String) :
    Ends r (text ++ back).toList := by
  rw [String.toList_append]
  exact h _

theorem Breaks.alone {text : String} (h : Breaks r text) : Ends r text.toList := by
  have hends := h []
  rwa [List.append_nil] at hends

/-- A word between blanks ends a list. -/
theorem breaks_word {text w : String} {cs : List Char}
    (htext : text.toList = ' ' :: (w.toList ++ ' ' :: cs)) (hword : IsWord w) (hdot : w ≠ ".") :
    Breaks r text := by
  intro rest
  have hlexed : lex r (text.toList ++ rest) = .word w :: lex r (' ' :: (cs ++ rest)) := by
    rw [htext, List.cons_append, lex_blank, List.append_assoc, List.cons_append]
    exact lex_word hword fun c hc => (open_blank _ c hc).1
  have hlisted : Token.isListed (.word w) = false := by
    rw [Token.isListed, Token.isNamePart, beq_eq_false_iff_ne.mpr hdot]
    rfl
  refine ⟨htext ▸ open_blank _, ?_⟩
  rw [hlexed]
  exact fun t ht => Option.some.inj ht ▸ hlisted

/-- So does a sign that is no comma, perhaps behind a blank. -/
theorem breaks_sign {text : String} {c : Char} {cs : List Char}
    (htext : text.toList = c :: cs ∨ text.toList = ' ' :: c :: cs) (hsign : isSign c = true)
    (hcomma : c ≠ ',') : Breaks r text := by
  intro rest
  have hlexed : lex r (text.toList ++ rest) = .sign c :: lex r (cs ++ rest) := by
    rcases htext with htext | htext
    · rw [htext]
      exact lex_sign hsign _
    · rw [htext]
      exact lex_sign hsign _
  have hopen : Open (text.toList ++ rest) := by
    rcases htext with htext | htext
    · rw [htext]
      exact open_of_isSign hsign _
    · rw [htext]
      exact open_blank _
  have hlisted : Token.isListed (.sign c) = false :=
    beq_eq_false_iff_ne.mpr fun hsame => hcomma (Token.sign.inj hsame)
  refine ⟨hopen, ?_⟩
  rw [hlexed]
  exact fun t ht => Option.some.inj ht ▸ hlisted

/-- The clause that a text begins may be left out. -/
theorem Breaks.clause {front text rest : String} (h : Breaks r front)
    (htext : text = "" ∨ ∃ back, text = front ++ back) (hrest : Ends r rest.toList) :
    Ends r (text ++ rest).toList := by
  rcases htext with rfl | ⟨back, rfl⟩
  · rwa [String.empty_append]
  · rw [String.append_assoc]
    exact h.ends _

/-- A list of names is read off a text that leads up to it. -/
theorem listedNames_behind {front names rest : String} {parts : List (List Token)}
    (hfront : Leads r p front) (hnames : Lexes r names ([.sign ','].intercalate parts))
    (hne : parts ≠ []) (hparts : ∀ ts ∈ parts, IsName ts) (hrest : Ends r rest.toList) :
    listedNames (behind p (lex r (front ++ (names ++ rest)).toList)) = parts.map written := by
  have hlist : lex r (names ++ rest).toList
      = [.sign ','].intercalate parts ++ lex r rest.toList := by
    rw [String.toList_append, hnames _ hrest.opens]
  have hbegins := head?_listed hne (fun ts hts => (hparts ts hts).begins) (lex r rest.toList)
  rw [String.toList_append, hfront _ (hlist ▸ hbegins), hlist,
    listedNames_append hne hparts hrest.head]

end Ddl

end SqlMapper
