import SqlMapper.Proofs.Dialect.MySqlTables
import SqlMapper.Proofs.Statement.Mentions
import SqlMapper.Proofs.Statement.Selections

/-!
# Clauses of a Selection

What the text of a selection says.

A selection without conditions consists of clauses, each behind a word of its own.
What stands between these words are quoted names, numbers, signs and a few other
words, so the clauses can be told apart however they begin and end, and whether or
not one is left out. Between the names of a list stands a comma, between the segments
of a name a dot, and neither is part of what it separates. So the whole query can be
read off its text.

One thing cannot: every column may be asked for by a star in a list, by an empty list
or by no list at all. These are the same request.

## Main definitions

* `Projection.normal`: A projection, however it is spelled.
* `ClauseKind`: The clauses of a selection.
* `clauseTokens`: What a clause says.
* `Follows`: A text may stand behind a clause.
* `SelectQuery.Agrees`: Two queries make the same request.

## Theorems

* `listed_inj`, `pathTokens_inj`: Lists and names are read back.
* `projectionTokens_inj`, `orderTokens_inj`, `limitTokens_inj`: So are the parts of a selection.
* `clauses_inj`: Clauses are told apart.
* `lex_text`: The text of a selection is lexed to its clauses.
* `SelectQuery.text_eq_iff`: Texts are equal exactly for queries that make the same request.
-/

namespace SqlMapper

/-- A projection, however it is spelled: every column is asked for by a star. -/
def Projection.normal : Projection → Projection
  | .all | .fields [] => .fields ["*"]
  | p => p

namespace Ddl

variable {r : Rules}

/-! ### Lists and names -/

/-- Parts that do without what separates them are read back. -/
theorem intercalate_inj {α : Type} [DecidableEq α] {sep : α} {parts parts' : List (List α)}
    (hne : parts ≠ []) (hne' : parts' ≠ []) (hparts : ∀ part ∈ parts, sep ∉ part)
    (hparts' : ∀ part ∈ parts', sep ∉ part)
    (h : [sep].intercalate parts = [sep].intercalate parts') : parts = parts' := by
  rw [← List.splitOn_intercalate sep hparts hne, h, List.splitOn_intercalate sep hparts' hne']

/-- The items of a list are read back, if each is and none holds a comma. -/
theorem listed_inj {α : Type} {tokens : α → List Token} (hinj : Function.Injective tokens)
    (hcomma : ∀ a, .sign ',' ∉ tokens a) {as as' : List α} (hne : as ≠ []) (hne' : as' ≠ [])
    (h : [.sign ','].intercalate (as.map tokens) = [.sign ','].intercalate (as'.map tokens)) :
    as = as' := by
  have hitems : ∀ as : List α, ∀ ts ∈ as.map tokens, .sign ',' ∉ ts := fun as =>
    List.forall_mem_map.mpr fun a _ => hcomma a
  refine List.map_injective_iff.mpr hinj (intercalate_inj ?_ ?_ (hitems as) (hitems as') h)
  · rwa [ne_eq, List.map_eq_nil_iff]
  · rwa [ne_eq, List.map_eq_nil_iff]

/-- So are the items of a clause that is left out if there are none. -/
theorem optional_inj {α : Type} {tokens : α → List Token} (hinj : Function.Injective tokens)
    (hcomma : ∀ a, .sign ',' ∉ tokens a) {t : Token} {as as' : List α}
    (h : (if as.isEmpty then none else some (t :: [.sign ','].intercalate (as.map tokens)))
      = if as'.isEmpty then none else some (t :: [.sign ','].intercalate (as'.map tokens))) :
    as = as' := by
  rcases as with _ | ⟨a, as⟩ <;> rcases as' with _ | ⟨a', as'⟩
  · rfl
  · cases h
  · cases h
  · exact listed_inj hinj hcomma (List.cons_ne_nil a as) (List.cons_ne_nil a' as')
      (List.cons.inj (Option.some.inj h)).2

/-- A name that is quoted segment by segment is read back. -/
theorem pathTokens_inj : Function.Injective fun path => pathTokens (Text.segments '.' path) := by
  intro path path' h
  have hne : ∀ path, (Text.segments '.' path).map (fun n => [Token.quoted .name n]) ≠ [] :=
    fun path hnil => segments_ne_nil path (List.map_eq_nil_iff.mp hnil)
  have hdot : ∀ path, ∀ part ∈ (Text.segments '.' path).map fun n => [Token.quoted .name n],
      Token.word "." ∉ part := fun path => List.forall_mem_map.mpr fun n _ hmem => by
    cases List.mem_singleton.mp hmem
  have hquoted := intercalate_inj (hne path) (hne path') (hdot path) (hdot path') h
  refine Text.segments_inj (List.map_injective_iff.mpr (fun n n' hn => ?_) hquoted)
  cases hn
  rfl

theorem isNamePart_of_mem_path {path : String} {t : Token}
    (h : t ∈ pathTokens (Text.segments '.' path)) : t.isNamePart = true :=
  (isName_path (segments_ne_nil path)).parts t h

theorem lexes_word {w : String} (h : IsWord w) : Lexes r w [.word w] :=
  fun _ hrest => lex_word h fun c hc => (hrest c hc).1

/-! ### Parts of a selection -/

/-- What a field of a projection is lexed to. -/
def fieldTokens (field : String) : List Token :=
  if field = "*" then [.sign '*'] else pathTokens (Text.segments '.' field)

/-- What a projection is lexed to. -/
def projectionTokens : Projection → List Token
  | .all | .fields [] => [.sign '*']
  | .fields names => [.sign ','].intercalate (names.map fieldTokens)
  | .count =>
    [.word "COUNT", .sign '(', .sign '*', .sign ')', .word "AS", .quoted .name "total"]
  | .sum field =>
    [.word "SUM", .sign '('] ++ (fieldTokens field
      ++ [.sign ')', .word "AS", .quoted .name "total"])

/-- What a field and its direction are lexed to. -/
def orderTokens (o : String × Order) : List Token :=
  pathTokens (Text.segments '.' o.1) ++ [.word o.2.keyword]

/-- What a limit is lexed to. -/
def limitTokens : Limit → List Token
  | .first count => [.word (toString count.toNat)]
  | .window offset count =>
    [.word (toString offset.toNat), .sign ',', .word (toString count.toNat)]

theorem lexes_field (field : String) : Lexes r (fieldText field) (fieldTokens field) := by
  rw [fieldText, fieldTokens]
  split
  · exact fun _ _ => rfl
  · exact lexes_quotePath field

theorem lexes_projection (p : Projection) : Lexes r p.text (projectionTokens p) := by
  have htotal : Lexes r (") AS " ++ quoteName "total")
      ([.sign ')', .word "AS"] ++ [.quoted .name "total"]) :=
    LexesApart.append_lexes (fun _ => rfl) (lexes_quoteName "total")
  have hname : ") AS " ++ quoteName "total" = ") AS `total`" := by decide
  cases p with
  | all => exact fun _ _ => rfl
  | fields names =>
      cases names with
      | nil => exact fun _ _ => rfl
      | cons name names => exact lexes_listed (fun field _ => lexes_field field) isComma_spaced
  | count =>
      have hcount : LexesApart r "COUNT(*" [.word "COUNT", .sign '(', .sign '*'] := fun _ => rfl
      exact hcount.append_lexes htotal
  | sum field =>
      have hsum : LexesApart r "SUM(" [.word "SUM", .sign '('] := fun _ => rfl
      have hfield := (lexes_field (r := r) field).append htotal fun _ => open_of_isSign rfl _
      rw [Projection.text, String.append_assoc, ← hname]
      exact hsum.append_lexes hfield

theorem lexes_order (o : String × Order) : Lexes r (orderText o) (orderTokens o) := by
  have hblank : LexesApart r " " [] := fun _ => rfl
  have hkeyword : Lexes r o.2.keyword [.word o.2.keyword] := lexes_word (by cases o.2 <;> decide)
  have hopen : ∀ rest, Open (" ".toList ++ rest) := fun _ => open_blank _
  rw [orderText, String.append_assoc]
  exact (lexes_quotePath o.1).append (hblank.append_lexes hkeyword) (open_append hopen _)

theorem fieldTokens_inj : Function.Injective fieldTokens := by
  have hstar : ∀ field, pathTokens (Text.segments '.' field) ≠ [.sign '*'] := fun field h =>
    Bool.noConfusion (isNamePart_of_mem_path (h ▸ List.mem_singleton_self (Token.sign '*')))
  intro field field' h
  unfold fieldTokens at h
  split at h
  · next hfield =>
    split at h
    · next hfield' => rw [hfield, hfield']
    · exact absurd h.symm (hstar field')
  · split at h
    · exact absurd h (hstar field)
    · exact pathTokens_inj h

theorem keyword_inj {o o' : Order} (h : o.keyword = o'.keyword) : o = o' := by
  cases o <;> cases o' <;> first | rfl | exact absurd h (by decide)

theorem orderTokens_inj : Function.Injective orderTokens := by
  intro o o' h
  rcases List.append_inj' h rfl with ⟨hfield, horder⟩
  exact Prod.ext (pathTokens_inj hfield) (keyword_inj (Token.word.inj (List.cons.inj horder).1))

theorem limitTokens_inj : Function.Injective limitTokens := by
  have hnumber : ∀ m n : UInt64, Token.word (toString m.toNat) = .word (toString n.toNat) →
      m = n := fun m n h => UInt64.toNat_inj.mp (toString_nat_inj (Token.word.inj h))
  rintro (count | ⟨offset, count⟩) (count' | ⟨offset', count'⟩) h
  · rw [hnumber count count' (List.cons.inj h).1]
  · cases (List.cons.inj h).2
  · cases (List.cons.inj h).2
  · rcases List.cons.inj h with ⟨hoffset, hrest⟩
    rw [hnumber offset offset' hoffset,
      hnumber count count' (List.cons.inj (List.cons.inj hrest).2).1]

/-! ### What is shown -/

theorem mem_fieldTokens (field : String) :
    ∀ t ∈ fieldTokens field, t.isNamePart = true ∨ t = .sign '*' := by
  intro t ht
  rw [fieldTokens] at ht
  split at ht
  · exact Or.inr (List.mem_singleton.mp ht)
  · exact Or.inl (isNamePart_of_mem_path ht)

theorem mem_fields (names : List String) : ∀ t ∈ [.sign ','].intercalate (names.map fieldTokens),
    t.isNamePart = true ∨ t ∈ [.sign '*', .sign ','] := by
  refine forall_mem_intercalate (by decide) (List.forall_mem_map.mpr fun field _ t ht => ?_)
  refine (mem_fieldTokens field t ht).imp_right ?_
  rintro rfl
  exact List.mem_cons_self

/-- The words and signs that a projection may hold beside names. -/
def projectionSigns : List Token :=
  [.sign '*', .sign ',', .sign '(', .sign ')', .word "COUNT", .word "SUM", .word "AS"]

theorem mem_projectionTokens (p : Projection) :
    ∀ t ∈ projectionTokens p, t.isNamePart = true ∨ t ∈ projectionSigns := by
  have hsigns : [.sign '*', .sign ','] ⊆ projectionSigns := by decide
  cases p with
  | all => decide
  | fields names =>
      cases names with
      | nil => decide
      | cons name names => exact fun t ht => (mem_fields _ t ht).imp_right fun h => hsigns h
  | count => decide
  | sum field =>
      refine List.forall_mem_append.mpr ⟨by decide, List.forall_mem_append.mpr ⟨?_, by decide⟩⟩
      refine fun t ht => (mem_fieldTokens field t ht).imp_right ?_
      rintro rfl
      exact List.mem_cons_self

/-- What is shown: some fields, the number of rows, or a sum. -/
theorem projection_cases (p : Projection) :
    (∃ names, names ≠ [] ∧ p.normal = .fields names
      ∧ projectionTokens p = [.sign ','].intercalate (names.map fieldTokens))
    ∨ p = .count ∨ ∃ field, p = .sum field := by
  cases p with
  | all => exact Or.inl ⟨["*"], by decide, rfl, rfl⟩
  | fields names =>
      cases names with
      | nil => exact Or.inl ⟨["*"], by decide, rfl, rfl⟩
      | cons name names => exact Or.inl ⟨_, List.cons_ne_nil name names, rfl, rfl⟩
  | count => exact Or.inr (Or.inl rfl)
  | sum field => exact Or.inr (Or.inr ⟨field, rfl⟩)

/-- A list of fields does not begin with a word. -/
theorem fields_ne_word {names : List String} {w : String} (hdot : w ≠ ".") (ts : List Token) :
    [.sign ','].intercalate (names.map fieldTokens) ≠ .word w :: ts := by
  intro h
  rcases mem_fields names _ (h ▸ List.mem_cons_self) with hpart | hsign
  · rw [Token.isNamePart, beq_iff_eq] at hpart
    exact hdot hpart
  · simp at hsign

/-- A projection is read back but for the spelling of every column. -/
theorem projectionTokens_inj {p p' : Projection} (h : projectionTokens p = projectionTokens p') :
    p.normal = p'.normal := by
  have hcomma : ∀ field, Token.sign ',' ∉ fieldTokens field := fun field hmem =>
    absurd (mem_fieldTokens field _ hmem) (by decide)
  rcases projection_cases p with ⟨names, hne, hnormal, htokens⟩ | rfl | ⟨field, rfl⟩
  · rcases projection_cases p' with ⟨names', hne', hnormal', htokens'⟩ | rfl | ⟨field', rfl⟩
    · rw [htokens, htokens'] at h
      rw [hnormal, hnormal', listed_inj fieldTokens_inj hcomma hne hne' h]
    · exact absurd (htokens.symm.trans h) (fields_ne_word (by decide) _)
    · exact absurd (htokens.symm.trans h) (fields_ne_word (by decide) _)
  · rcases projection_cases p' with ⟨names', hne', hnormal', htokens'⟩ | rfl | ⟨field', rfl⟩
    · exact absurd (htokens'.symm.trans h.symm) (fields_ne_word (by decide) _)
    · rfl
    · exact absurd (List.cons.inj h).1 (by decide)
  · rcases projection_cases p' with ⟨names', hne', hnormal', htokens'⟩ | rfl | ⟨field', rfl⟩
    · exact absurd (htokens'.symm.trans h.symm) (fields_ne_word (by decide) _)
    · exact absurd (List.cons.inj h).1 (by decide)
    · have hfield := List.append_cancel_right (List.append_cancel_left h)
      rw [fieldTokens_inj hfield]

/-- What the first clause says: whether equal rows are returned once, and what is shown. -/
def shownTokens (q : SelectQuery) : List Token :=
  (if q.distinct then [.word "DISTINCT"] else []) ++ projectionTokens q.projection

theorem shownTokens_inj {q q' : SelectQuery} (h : shownTokens q = shownTokens q') :
    q.distinct = q'.distinct ∧ q.projection.normal = q'.projection.normal := by
  have hplain : ∀ p ts, projectionTokens p ≠ .word "DISTINCT" :: ts := fun p ts htokens => by
    exact absurd (mem_projectionTokens p _ (htokens ▸ List.mem_cons_self)) (by decide)
  unfold shownTokens at h
  cases hdistinct : q.distinct <;> cases hdistinct' : q'.distinct <;>
    simp only [hdistinct, hdistinct', if_true, if_false, Bool.false_eq_true, List.nil_append,
      List.cons_append] at h
  case false.false => exact ⟨rfl, projectionTokens_inj h⟩
  case false.true => exact absurd h (hplain _ _)
  case true.false => exact absurd h.symm (hplain _ _)
  case true.true => exact ⟨rfl, projectionTokens_inj (List.cons.inj h).2⟩

/-! ### Clauses -/

/-- The clauses of a selection without conditions, and the sign at its end. -/
inductive ClauseKind where
  | shown
  | tables
  | groups
  | orders
  | limit
  | ending
  deriving DecidableEq

/-- The token that a clause begins with. -/
def ClauseKind.mark : ClauseKind → Token
  | .shown => .word "SELECT"
  | .tables => .word "FROM"
  | .groups => .word "GROUP"
  | .orders => .word "ORDER"
  | .limit => .word "LIMIT"
  | .ending => .sign ';'

/-- The clauses in their order. -/
def ClauseKind.order : List ClauseKind :=
  [.shown, .tables, .groups, .orders, .limit, .ending]

/-- Whether a token begins a clause. -/
def Token.isMark (t : Token) : Bool :=
  ClauseKind.order.any fun k => k.mark == t

/-- Clauses one behind the other, each with its token in front; those that are absent are left
    out. -/
def clauseStream (body : ClauseKind → Option (List Token)) (kinds : List ClauseKind) :
    List Token :=
  kinds.flatMap fun k => (body k).elim [] (k.mark :: ·)

theorem isMark_mark (k : ClauseKind) : k.mark.isMark = true := by
  cases k <;> rfl

theorem mark_inj {k k' : ClauseKind} (h : k.mark = k'.mark) : k = k' := by
  cases k <;> cases k' <;> first | rfl | exact absurd h (by decide)

/-- A run of tokens ends in front of the next mark. -/
theorem append_inj_of_marks {ts ts' rest rest' : List Token} (hts : ∀ t ∈ ts, t.isMark = false)
    (hts' : ∀ t ∈ ts', t.isMark = false) (hrest : ∀ t ∈ rest.head?, t.isMark = true)
    (hrest' : ∀ t ∈ rest'.head?, t.isMark = true) (h : ts ++ rest = ts' ++ rest') :
    ts = ts' ∧ rest = rest' := by
  have hread : ∀ ts rest : List Token, (∀ t ∈ ts, t.isMark = false) →
      (∀ t ∈ rest.head?, t.isMark = true) → (ts ++ rest).takeWhile (!·.isMark) = ts := by
    intro ts rest hts hrest
    have hends : rest.takeWhile (!·.isMark) = [] := by
      cases rest with
      | nil => rfl
      | cons t rest => rw [List.takeWhile_cons, hrest t rfl]; rfl
    rw [List.takeWhile_append_of_pos fun t ht => by rw [hts t ht]; rfl, hends, List.append_nil]
  have hsame : ts = ts' := by rw [← hread ts rest hts hrest, h, hread ts' rest' hts' hrest']
  subst hsame
  exact ⟨rfl, List.append_cancel_left h⟩

/-- Behind a clause there is nothing, or the mark of a later one. -/
theorem head?_clauseStream {body : ClauseKind → Option (List Token)} {kinds : List ClauseKind}
    {t : Token} (h : (clauseStream body kinds).head? = some t) : ∃ k ∈ kinds, t = k.mark := by
  rw [clauseStream, List.head?_flatMap] at h
  rcases List.exists_of_findSome?_eq_some h with ⟨k, hk, hhead⟩
  refine ⟨k, hk, ?_⟩
  cases hbody : body k with
  | none => rw [hbody] at hhead; cases hhead
  | some ts => rw [hbody] at hhead; exact (Option.some.inj hhead).symm

/-- Clauses are read back, if none says what begins another. -/
theorem clauses_inj {body body' : ClauseKind → Option (List Token)}
    (hbody : ∀ k, ∀ ts ∈ body k, ∀ t ∈ ts, t.isMark = false)
    (hbody' : ∀ k, ∀ ts ∈ body' k, ∀ t ∈ ts, t.isMark = false) {kinds : List ClauseKind}
    (hnodup : kinds.Nodup) (h : clauseStream body kinds = clauseStream body' kinds) :
    ∀ k ∈ kinds, body k = body' k := by
  induction kinds with
  | nil => exact nofun
  | cons k kinds ih =>
      rw [List.nodup_cons] at hnodup
      have hmark : ∀ body : ClauseKind → Option (List Token),
          ∀ t ∈ (clauseStream body kinds).head?, t.isMark = true := by
        intro body t ht
        rcases head?_clauseStream ht with ⟨k', -, rfl⟩
        exact isMark_mark k'
      -- The clauses behind do not begin with the mark of this one.
      have hlater : ∀ (body : ClauseKind → Option (List Token)) ts,
          clauseStream body kinds ≠ k.mark :: ts := by
        intro body ts hstream
        have hhead : (clauseStream body kinds).head? = some k.mark := by rw [hstream]; rfl
        rcases head?_clauseStream hhead with ⟨k', hk', hsame⟩
        rw [mark_inj hsame] at hnodup
        exact hnodup.1 hk'
      have hcons : ∀ body : ClauseKind → Option (List Token), clauseStream body (k :: kinds)
          = (body k).elim [] (k.mark :: ·) ++ clauseStream body kinds := fun _ =>
        List.flatMap_cons
      rw [hcons, hcons] at h
      rw [List.forall_mem_cons]
      rcases hk : body k with _ | ts <;> rcases hk' : body' k with _ | ts' <;>
        rw [hk, hk'] at h
      · exact ⟨rfl, ih hnodup.2 h⟩
      · exact absurd h (hlater body _)
      · exact absurd h.symm (hlater body' _)
      · rcases append_inj_of_marks (hbody k ts hk) (hbody' k ts' hk') (hmark body) (hmark body')
          (List.cons.inj h).2 with ⟨rfl, hrest⟩
        exact ⟨rfl, ih hnodup.2 hrest⟩

/-! ### Clauses of a query -/

/-- What a clause of a query says. -/
def clauseTokens (q : SelectQuery) : ClauseKind → Option (List Token)
  | .shown => some (shownTokens q)
  | .tables =>
    some ([.sign ','].intercalate (q.tables.map fun t => pathTokens (Text.segments '.' t)))
  | .groups =>
    if q.groupBy.isEmpty then none
    else some (.word "BY"
      :: [.sign ','].intercalate (q.groupBy.map fun f => pathTokens (Text.segments '.' f)))
  | .orders =>
    if q.orderBy.isEmpty then none
    else some (.word "BY" :: [.sign ','].intercalate (q.orderBy.map orderTokens))
  | .limit => q.limit.map limitTokens
  | .ending => some []

theorem isMark_of_isNamePart {t : Token} (h : t.isNamePart = true) : t.isMark = false := by
  cases t with
  | word w =>
      rw [Token.isNamePart, beq_iff_eq] at h
      subst h
      decide
  | quoted q n => rfl
  | sign c => cases h
  | unclosed => cases h

theorem isMark_listed {α : Type} {tokens : α → List Token}
    (h : ∀ a, ∀ t ∈ tokens a, t.isMark = false) (as : List α) :
    ∀ t ∈ [.sign ','].intercalate (as.map tokens), t.isMark = false :=
  forall_mem_intercalate (fun _ ht => List.mem_singleton.mp ht ▸ rfl)
    (List.forall_mem_map.mpr fun a _ => h a)

theorem isMark_path (path : String) :
    ∀ t ∈ pathTokens (Text.segments '.' path), t.isMark = false :=
  fun _ ht => isMark_of_isNamePart (isNamePart_of_mem_path ht)

theorem isMark_order (o : String × Order) : ∀ t ∈ orderTokens o, t.isMark = false := by
  refine List.forall_mem_append.mpr ⟨isMark_path o.1, fun t ht => ?_⟩
  rw [List.mem_singleton.mp ht]
  cases o.2 <;> decide

theorem isMark_nat (n : Nat) : (Token.word (toString n)).isMark = false := by
  have hdigits : (toString n).toList.all Char.isDigit = true := by
    rw [Nat.toString_eq_ofList_toDigits, String.toList_ofList, List.all_eq_true]
    exact fun c hc => isDigit_of_mem_number hc
  rw [Bool.eq_false_iff]
  intro hmark
  rcases List.any_eq_true.mp hmark with ⟨k, -, hk⟩
  rw [beq_iff_eq] at hk
  -- No mark is written in digits.
  cases k
  case ending => cases hk
  all_goals
    rw [← Token.word.inj hk] at hdigits
    exact absurd hdigits (by decide)

theorem isMark_limit (l : Limit) : ∀ t ∈ limitTokens l, t.isMark = false := by
  cases l with
  | first count => exact List.forall_mem_singleton.mpr (isMark_nat _)
  | window offset count =>
      exact List.forall_mem_cons.mpr ⟨isMark_nat _, List.forall_mem_cons.mpr
        ⟨rfl, List.forall_mem_singleton.mpr (isMark_nat _)⟩⟩

theorem isMark_shown (q : SelectQuery) : ∀ t ∈ shownTokens q, t.isMark = false := by
  refine List.forall_mem_append.mpr ⟨?_, fun t ht => ?_⟩
  · cases q.distinct <;> decide
  · rcases mem_projectionTokens q.projection t ht with hpart | hsign
    · exact isMark_of_isNamePart hpart
    · have hsigns : ∀ t ∈ projectionSigns, t.isMark = false := by decide
      exact hsigns t hsign

/-- No clause says what begins another. -/
theorem isMark_clause (q : SelectQuery) (k : ClauseKind) :
    ∀ ts ∈ clauseTokens q k, ∀ t ∈ ts, t.isMark = false := by
  intro ts hts
  cases k with
  | shown => exact Option.some.inj hts ▸ isMark_shown q
  | tables => exact Option.some.inj hts ▸ isMark_listed isMark_path q.tables
  | groups =>
      rw [clauseTokens] at hts
      split at hts
      · cases hts
      · exact Option.some.inj hts ▸ List.forall_mem_cons.mpr
          ⟨rfl, isMark_listed isMark_path q.groupBy⟩
  | orders =>
      rw [clauseTokens] at hts
      split at hts
      · cases hts
      · exact Option.some.inj hts ▸ List.forall_mem_cons.mpr
          ⟨rfl, isMark_listed isMark_order q.orderBy⟩
  | limit =>
      rcases Option.map_eq_some_iff.mp hts with ⟨l, -, rfl⟩
      exact isMark_limit l
  | ending => exact Option.some.inj hts ▸ nofun

/-- A clause as it is written, with a blank in front of all but the first. -/
def clauseText (q : SelectQuery) : ClauseKind → String
  | .shown => "SELECT " ++ ((if q.distinct then "DISTINCT " else "") ++ q.projection.text)
  | .tables => " FROM " ++ ", ".intercalate (q.tables.map quotePath)
  | .groups => fieldClause " GROUP BY " (q.groupBy.map quotePath)
  | .orders => fieldClause " ORDER BY " (q.orderBy.map orderText)
  | .limit => limitClause q.limit
  | .ending => ";"

/-- A text may stand behind a clause: it is lexed by itself, and it does not go on with what is in
    front of it. -/
structure Follows (r : Rules) (text : String) (tokens : List Token) : Prop where
  lexes : Lexes r text tokens
  opens : ∀ rest, Open rest → Open (text.toList ++ rest)

namespace Follows

variable {text other : String} {tokens others : List Token}

theorem empty : Follows r "" [] :=
  ⟨fun _ _ => rfl, fun _ h => h⟩

theorem of_open (h : Lexes r text tokens) (hopen : ∀ rest, Open (text.toList ++ rest)) :
    Follows r text tokens :=
  ⟨h, fun rest _ => hopen rest⟩

theorem behind (h : Follows r other others) (h' : Lexes r text tokens) :
    Lexes r (text ++ other) (tokens ++ others) := by
  intro rest hrest
  rw [String.toList_append, List.append_assoc, h' _ (h.opens rest hrest), h.lexes rest hrest,
    List.append_assoc]

theorem append (h : Follows r text tokens) (h' : Follows r other others) :
    Follows r (text ++ other) (tokens ++ others) := by
  refine ⟨h'.behind h.lexes, fun rest hrest => ?_⟩
  rw [String.toList_append, List.append_assoc]
  exact h.opens _ (h'.opens rest hrest)

end Follows

/-- A list behind the words that a clause begins with. -/
theorem Follows.list {α : Type} {text : α → String} {tokens : α → List Token}
    (h : ∀ a, Lexes r (text a) (tokens a)) {words : String} {marks : List Token}
    (hwords : LexesApart r words marks) (hopen : ∀ rest, Open (words.toList ++ rest))
    (as : List α) :
    Follows r (words ++ ", ".intercalate (as.map text))
      (marks ++ [.sign ','].intercalate (as.map tokens)) :=
  .of_open (hwords.append_lexes (lexes_listed (fun a _ => h a) isComma_spaced))
    (open_append hopen _)

theorem follows_limit (l : Limit) :
    Follows r (limitClause (some l)) (.word "LIMIT" :: limitTokens l) := by
  have hword : LexesApart r " LIMIT " [.word "LIMIT"] := fun _ => rfl
  have hopen : ∀ rest, Open (" LIMIT ".toList ++ rest) := fun _ => open_blank _
  have hnumber : ∀ n : Nat, Lexes r (toString n) [.word (toString n)] := fun n =>
    lexes_word (MySql.isWord_nat n)
  cases l with
  | first count => exact .of_open (hword.append_lexes (hnumber count.toNat)) (open_append hopen _)
  | window offset count =>
      have hcomma : LexesApart r "," [.sign ','] := fun _ => rfl
      have hbehind : ∀ rest, Open (",".toList ++ rest) := fun _ => open_of_isSign rfl _
      have hpair := (hnumber offset.toNat).append (hcomma.append_lexes (hnumber count.toNat))
        (open_append hbehind _)
      rw [limitClause, String.append_assoc, String.append_assoc]
      exact .of_open (hword.append_lexes hpair) (open_append hopen _)

/-- A clause is lexed to its mark and what it says, or to nothing if it is left out. -/
theorem follows_clause (q : SelectQuery) {k : ClauseKind} (hk : k ≠ .shown) :
    Follows r (clauseText q k) ((clauseTokens q k).elim [] (k.mark :: ·)) := by
  cases k with
  | shown => exact absurd rfl hk
  | tables =>
      have hwords : LexesApart r " FROM " [.word "FROM"] := fun _ => rfl
      exact .list lexes_quotePath hwords (fun _ => open_blank _) q.tables
  | groups =>
      have hwords : LexesApart r " GROUP BY " [.word "GROUP", .word "BY"] := fun _ => rfl
      rw [clauseText, clauseTokens]
      rcases q.groupBy with _ | ⟨field, fields⟩
      · exact .empty
      · exact .list lexes_quotePath hwords (fun _ => open_blank _) (field :: fields)
  | orders =>
      have hwords : LexesApart r " ORDER BY " [.word "ORDER", .word "BY"] := fun _ => rfl
      rw [clauseText, clauseTokens]
      rcases q.orderBy with _ | ⟨o, os⟩
      · exact .empty
      · exact .list lexes_order hwords (fun _ => open_blank _) (o :: os)
  | limit =>
      rw [clauseText, clauseTokens]
      rcases q.limit with _ | l
      · exact .empty
      · exact follows_limit l
  | ending =>
      have hsign : LexesApart r ";" [.sign ';'] := fun _ => rfl
      have hopen : ∀ rest, Open (";".toList ++ rest) := fun _ => open_of_isSign rfl _
      exact .of_open hsign.lexes hopen

theorem follows_clauses (q : SelectQuery) {kinds : List ClauseKind}
    (h : ∀ k ∈ kinds, k ≠ .shown) :
    Follows r ((kinds.map (clauseText q)).foldr (· ++ ·) "")
      (clauseStream (clauseTokens q) kinds) := by
  induction kinds with
  | nil => exact .empty
  | cons k kinds ih =>
      rw [List.forall_mem_cons] at h
      exact (follows_clause q h.1).append (ih h.2)

theorem lexes_shown (q : SelectQuery) :
    Lexes r (clauseText q .shown) (.word "SELECT" :: shownTokens q) := by
  have hword : LexesApart r "SELECT " [.word "SELECT"] := fun _ => rfl
  have hdistinct : LexesApart r (if q.distinct then "DISTINCT " else "")
      (if q.distinct then [.word "DISTINCT"] else []) := by
    cases q.distinct <;> exact fun _ => rfl
  exact hword.append_lexes (hdistinct.append_lexes (lexes_projection q.projection))

/-- The text of a selection without conditions is lexed to its clauses. -/
theorem lex_text (q : SelectQuery) :
    lex r (q.text "").toList = clauseStream (clauseTokens q) ClauseKind.order := by
  have htext : q.text "" = clauseText q .shown
      ++ (ClauseKind.order.tail.map (clauseText q)).foldr (· ++ ·) "" := by
    unfold SelectQuery.text
    simp only [clauseText, ClauseKind.order, List.tail_cons, List.map_cons, List.map_nil,
      List.foldr_cons, List.foldr_nil, String.append_assoc, String.append_empty]
  have hlater : ∀ k ∈ ClauseKind.order.tail, k ≠ .shown := by decide
  have hwhole := (follows_clauses (r := r) q hlater).behind (lexes_shown q) [] nofun
  rw [List.append_nil, ← htext] at hwhole
  exact hwhole.trans (List.append_nil _)

end Ddl

/-! ### Queries that say the same -/

namespace SelectQuery

/-- Two queries make the same request, apart from their conditions. -/
structure Agrees (q q' : SelectQuery) : Prop where
  tables : q.tables = q'.tables
  projection : q.projection.normal = q'.projection.normal
  distinct : q.distinct = q'.distinct
  groupBy : q.groupBy = q'.groupBy
  orderBy : q.orderBy = q'.orderBy
  limit : q.limit = q'.limit

open Ddl

/-- A query is read off its text. -/
theorem agrees_of_text {q q' : SelectQuery} (hsome : q.tables ≠ []) (hsome' : q'.tables ≠ [])
    (h : q.text "" = q'.text "") : q.Agrees q' := by
  have hlexed : clauseStream (clauseTokens q) ClauseKind.order
      = clauseStream (clauseTokens q') ClauseKind.order := by
    rw [← lex_text (r := ⟨.sqlite, fun _ => true⟩), h, lex_text]
  have hsame : ∀ k, clauseTokens q k = clauseTokens q' k := fun k =>
    clauses_inj (isMark_clause q) (isMark_clause q') (by decide) hlexed k (by cases k <;> decide)
  have hpath : ∀ path, Token.sign ',' ∉ pathTokens (Text.segments '.' path) := fun path hmem =>
    Bool.noConfusion (isNamePart_of_mem_path hmem)
  have horder : ∀ o, Token.sign ',' ∉ orderTokens o := fun o hmem =>
    (List.mem_append.mp hmem).elim (hpath o.1) fun hkeyword => by
      cases List.mem_singleton.mp hkeyword
  have hshown := shownTokens_inj (Option.some.inj (hsame .shown))
  exact {
    tables := listed_inj pathTokens_inj hpath hsome hsome' (Option.some.inj (hsame .tables))
    projection := hshown.2
    distinct := hshown.1
    groupBy := optional_inj pathTokens_inj hpath (hsame .groups)
    orderBy := optional_inj orderTokens_inj horder (hsame .orders)
    limit := Option.map_injective limitTokens_inj (hsame .limit) }

theorem Agrees.text_eq {q q' : SelectQuery} (h : q.Agrees q') (conditions : String) :
    q.text conditions = q'.text conditions := by
  have hnormal : ∀ p : Projection, p.normal.text = p.text := by
    rintro (_ | ⟨_ | ⟨name, names⟩⟩ | _ | field)
    · decide
    · decide
    all_goals rfl
  unfold text
  rw [← hnormal, h.tables, h.projection, h.distinct, h.groupBy, h.orderBy, h.limit, hnormal]

/-- A selection without conditions is accepted exactly if it is sound, and two of them that are
    accepted have the same text exactly if they make the same request. -/
theorem text_eq_iff {q q' : SelectQuery} (h : q.Unconditional) (h' : q'.Unconditional) :
    ((∃ s, q.compile = .ok s) ↔ q.IsSound)
      ∧ ∀ s s', q.compile = .ok s → q'.compile = .ok s' → (s.sql = s'.sql ↔ q.Agrees q') := by
  refine ⟨⟨?_, fun hsound => ⟨_, (compile_unconditional_iff h).mpr ⟨hsound, rfl⟩⟩⟩,
    fun s s' hs hs' => ?_⟩
  · rintro ⟨s, hs⟩
    exact ((compile_unconditional_iff h).mp hs).1
  · rcases (compile_unconditional_iff h).mp hs with ⟨hsound, rfl⟩
    rcases (compile_unconditional_iff h').mp hs' with ⟨hsound', rfl⟩
    exact ⟨agrees_of_text hsound.hasTables hsound'.hasTables, fun hagrees => hagrees.text_eq ""⟩

/-- Rows of two tables, each once, in an order and with a limit. -/
def joined : SelectQuery where
  tables := ["main.t", "u"]
  distinct := true
  groupBy := ["u.id"]
  orderBy := [("a.b", .descending), ("total", .ascending)]
  limit := some (.window 10 5)

/-- The same with no list of columns in the place of all columns. -/
def joinedUnlisted : SelectQuery :=
  { joined with projection := .fields [] }

theorem text_eq_iff_joined :
    ∃ s s', joined.compile = .ok s ∧ joinedUnlisted.compile = .ok s' ∧ s.sql = s'.sql := by
  have hconditions : joined.Unconditional := nofun
  have hconditions' : joinedUnlisted.Unconditional := nofun
  have hsound : joined.IsSound := by constructor <;> decide
  have hsound' : joinedUnlisted.IsSound := by constructor <;> decide
  have hagrees : joined.Agrees joinedUnlisted := by constructor <;> rfl
  rcases (text_eq_iff hconditions hconditions').1.mpr hsound with ⟨s, hs⟩
  rcases (text_eq_iff hconditions' hconditions).1.mpr hsound' with ⟨s', hs'⟩
  exact ⟨s, s', hs, hs', ((text_eq_iff hconditions hconditions').2 s s' hs hs').mpr hagrees⟩

end SelectQuery

end SqlMapper
