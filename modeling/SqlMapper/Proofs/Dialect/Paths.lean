import SqlMapper.Proofs.Dialect.Writing
import SqlMapper.Proofs.Text.Words

/-!
# Lexing Quoted Names

A name in one pair of marks, and a name with a pair for each of its segments.

A dotted name can be quoted as a whole or segment by segment. Both are accepted
everywhere, but they do not say the same: the first is one name with a dot in it,
the second is a name in a schema. The lexer tells them apart. So the two ways of
quoting agree on names without a dot, and on no other.

Statements are put together from texts that are lexed by themselves. A text that
ends in a blank or a sign is lexed in the same way whatever stands behind it; a
quoted name is, as long as nothing behind it goes on with a word or with quotes.

## Main definitions

* `Lexes`, `LexesApart`: A text is lexed to some tokens, whatever stands behind it.
* `pathTokens`: The tokens of a name that is quoted segment by segment.

## Theorems

* `lexes_quoteName`, `lexes_quotePath`: What quoted names are lexed to.
* `lexes_listed`: What texts with commas between them are lexed to.
* `quoteName_eq_quotePath_iff`: The two ways of quoting agree on names without a dot.
-/

namespace SqlMapper

namespace Ddl

variable {r : Rules} {text other : String} {tokens others : List Token}

/-- A text is lexed to some tokens, if what stands behind it continues no word and no quotes. -/
def Lexes (r : Rules) (text : String) (tokens : List Token) : Prop :=
  ∀ rest, Open rest → lex r (text.toList ++ rest) = tokens ++ lex r rest

/-- A text is lexed to some tokens, whatever stands behind it. -/
def LexesApart (r : Rules) (text : String) (tokens : List Token) : Prop :=
  ∀ rest, lex r (text.toList ++ rest) = tokens ++ lex r rest

/-- The tokens of a name that is quoted segment by segment. -/
def pathTokens (names : List String) : List Token :=
  [.word "."].intercalate (names.map fun n => [.quoted .name n])

/-- Tokens as they are written without blanks. -/
def written (tokens : List Token) : String :=
  String.ofList (spelled (tokens.map some))

/-- What can stand behind any text still can with something behind it. -/
theorem open_append {front : String} (h : ∀ rest, Open (front.toList ++ rest)) (back : String)
    (rest : List Char) : Open ((front ++ back).toList ++ rest) := by
  rw [String.toList_append, List.append_assoc]
  exact h _

theorem LexesApart.lexes (h : LexesApart r text tokens) : Lexes r text tokens :=
  fun rest _ => h rest

theorem LexesApart.append_lexes (h : LexesApart r text tokens) (h' : Lexes r other others) :
    Lexes r (text ++ other) (tokens ++ others) := by
  intro rest hrest
  rw [String.toList_append, List.append_assoc, h, h' rest hrest, List.append_assoc]

/-- What continues no word and no quotes can stand behind a text. -/
theorem Lexes.append_apart (h : Lexes r text tokens) (h' : LexesApart r other others)
    (hopen : ∀ rest, Open (other.toList ++ rest)) :
    LexesApart r (text ++ other) (tokens ++ others) := by
  intro rest
  rw [String.toList_append, List.append_assoc, h _ (hopen rest), h', List.append_assoc]

theorem Lexes.append (h : Lexes r text tokens) (h' : Lexes r other others)
    (hopen : ∀ rest, Open (other.toList ++ rest)) : Lexes r (text ++ other) (tokens ++ others) := by
  intro rest hrest
  rw [String.toList_append, List.append_assoc, h _ (hopen rest), h' rest hrest, List.append_assoc]

/-! ### Names -/

theorem lex_quoteName (name : String) {rest : List Char} (h : ∀ c ∈ rest.head?, c ≠ backtick) :
    lex r ((quoteName name).toList ++ rest) = .quoted .name name :: lex r rest := by
  rw [toList_quoteName]
  exact lex_quoted (fun hq => nomatch hq) h

theorem lexes_quoteName (name : String) : Lexes r (quoteName name) [.quoted .name name] :=
  fun _ hrest => lex_quoteName name fun c hc => (hrest c hc).2 .name

theorem head?_quoteName (name : String) (rest : List Char) :
    ((quoteName name).toList ++ rest).head? = some backtick := by
  rw [toList_quoteName]
  rfl

theorem head?_path (name : String) (names : List String) (rest : List Char) :
    ((".".intercalate ((name :: names).map quoteName)).toList ++ rest).head? = some backtick := by
  cases names with
  | nil =>
      rw [List.map_singleton, String.intercalate_singleton]
      exact head?_quoteName name rest
  | cons next names =>
      rw [List.map_cons, List.map_cons, String.intercalate_cons_cons, String.toList_append,
        String.toList_append, List.append_assoc, List.append_assoc]
      exact head?_quoteName name _

theorem lexes_path {names : List String} (hne : names ≠ []) :
    Lexes r (".".intercalate (names.map quoteName)) (pathTokens names) := by
  induction names with
  | nil => exact absurd rfl hne
  | cons name names ih =>
      intro rest hrest
      cases names with
      | nil => exact lexes_quoteName name rest hrest
      | cons next names =>
          have hnext := ih (List.cons_ne_nil next names) rest hrest
          have hquote : ∀ c ∈ ((".".intercalate ((next :: names).map quoteName)).toList
              ++ rest).head?, isWordChar c = false := by
            intro c hc
            rw [head?_path, Option.mem_some_iff] at hc
            exact hc ▸ rfl
          calc lex r ((".".intercalate ((name :: next :: names).map quoteName)).toList ++ rest)
              = lex r ((quoteName name).toList ++ (".".toList
                  ++ ((".".intercalate ((next :: names).map quoteName)).toList ++ rest))) := by
                rw [List.map_cons, List.map_cons, String.intercalate_cons_cons,
                  String.toList_append, String.toList_append, List.append_assoc,
                  List.append_assoc]
            _ = .quoted .name name :: .word "." :: (pathTokens (next :: names) ++ lex r rest) := by
                rw [lex_quoteName name fun c hc => by
                    rw [Option.mem_some_iff.mp hc.symm]; decide,
                  lex_word (by decide) hquote, hnext]
            _ = pathTokens (name :: next :: names) ++ lex r rest := rfl

theorem segments_ne_nil (path : String) : Text.segments '.' path ≠ [] := by
  rw [Text.segments, ne_eq, List.map_eq_nil_iff]
  exact List.splitOn_ne_nil '.' path.toList

theorem lexes_quotePath (path : String) :
    Lexes r (quotePath path) (pathTokens (Text.segments '.' path)) :=
  lexes_path (segments_ne_nil path)

/-- The two ways of quoting agree on names without a dot, and on no other. -/
theorem quoteName_eq_quotePath_iff (name : String) :
    quoteName name = quotePath name ↔ '.' ∉ name.toList := by
  constructor
  · intro heq hdot
    have hwhole := lexes_quoteName (r := ⟨.sqlite, fun _ => true⟩) name [] (fun c hc => nomatch hc)
    rw [heq, lexes_quotePath name [] fun c hc => nomatch hc] at hwhole
    have hjoined : ['.'].intercalate (name.toList.splitOn '.') = name.toList :=
      List.intercalate_splitOn '.'
    rcases hsegments : name.toList.splitOn '.' with _ | ⟨segment, _ | ⟨next, segments⟩⟩
    · exact List.splitOn_ne_nil '.' name.toList hsegments
    · -- One segment is the whole name, and no segment holds a dot.
      rw [hsegments, List.intercalate_singleton] at hjoined
      have hsegment : segment ∈ name.toList.splitOn '.' := hsegments ▸ List.mem_cons_self
      exact Text.not_mem_segment hsegment (hjoined.symm ▸ hdot)
    · rw [Text.segments, hsegments] at hwhole
      have hbehind : .word "." :: (pathTokens (String.ofList next :: segments.map String.ofList)
          ++ lex ⟨.sqlite, fun _ => true⟩ []) = [] := (List.cons.inj hwhole).2
      cases hbehind
  · intro hdot
    rw [quotePath, Text.segments, List.splitOn_eq_singleton hdot, List.map_singleton,
      List.map_singleton, String.intercalate_singleton, String.ofList_toList]

/-! ### Lists of names -/

/-- A text that separates the parts of a list: a comma, perhaps with blanks behind it. -/
def IsComma (sep : String) : Prop :=
  ∃ gap, sep.toList = ',' :: List.replicate gap ' '

theorem isComma_tight : IsComma "," :=
  ⟨0, rfl⟩

theorem isComma_spaced : IsComma ", " :=
  ⟨1, rfl⟩

theorem IsComma.lexesApart {sep : String} (h : IsComma sep) : LexesApart r sep [.sign ','] := by
  rcases h with ⟨gap, hsep⟩
  intro rest
  have hblanks : lex r (List.replicate gap ' ' ++ rest) = lex r rest := by
    clear hsep
    induction gap with
    | zero => rfl
    | succ gap ih => exact ih
  rw [hsep, List.cons_append, lex_sign rfl, hblanks]
  rfl

theorem IsComma.opens {sep : String} (h : IsComma sep) (rest : List Char) :
    Open (sep.toList ++ rest) := by
  rcases h with ⟨gap, hsep⟩
  rw [hsep]
  exact open_of_isSign rfl _

/-- Texts with commas between them. -/
theorem lexes_listed {α : Type} {items : List α} {text : α → String} {tokens : α → List Token}
    (h : ∀ a ∈ items, Lexes r (text a) (tokens a)) {sep : String} (hsep : IsComma sep) :
    Lexes r (sep.intercalate (items.map text)) ([.sign ','].intercalate (items.map tokens)) := by
  induction items with
  | nil => exact fun rest _ => rfl
  | cons a items ih =>
      have ha := h a List.mem_cons_self
      cases items with
      | nil => simpa only [List.map_singleton, String.intercalate_singleton,
          List.intercalate_singleton] using ha
      | cons b items =>
          have hrest := ih fun b hb => h b (List.mem_cons_of_mem a hb)
          rw [List.map_cons, List.map_cons, List.map_cons, List.map_cons,
            String.intercalate_cons_cons, List.intercalate_cons_cons]
          exact (ha.append_apart hsep.lexesApart hsep.opens).append_lexes hrest

/-! ### Names read back -/

theorem written_quoted (name : String) : written [.quoted .name name] = quoteName name := by
  rw [written, List.map_singleton, spelled_cons, ← toList_quoteName]
  simp only [spelled, List.flatMap_nil, List.append_nil, String.ofList_toList]

theorem written_path (names : List String) :
    written (pathTokens names) = ".".intercalate (names.map quoteName) := by
  have hjoined := map_intercalate (f := fun ts : List Token => spelled (ts.map some)) rfl
    (fun ts us => by rw [List.map_append, spelled_append]) [.word "."]
    (names.map fun n => [.quoted .name n])
  rw [written, pathTokens, hjoined, ← String.ofList_toList (s := ".".intercalate _),
    String.toList_intercalate, List.map_map, List.map_map]
  refine congrArg String.ofList (congrArg (List.intercalate _) ?_)
  refine List.map_congr_left fun n _ => ?_
  exact (List.append_nil _).trans (toList_quoteName n).symm

end Ddl

end SqlMapper
