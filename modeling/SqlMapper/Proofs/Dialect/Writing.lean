import SqlMapper.Proofs.Dialect.Reading

/-!
# Writing Declarations

A table is written down, and what is written is read back.

Tables are written as the two databases spell them, down to the blanks. Three
things have to hold for what is written to be read again: it is lexed to the
tokens it is made of, every part stays in one piece when the parts are split, and
the tokens of a part say what the part is. Names between marks ask for nothing.
The words of a declaration have to be words, numbers have to look like numbers,
and texts do without backslashes where a backslash has a meaning.

## Main definitions

* `Part.pieces`: How a part is written.
* `tablePieces`: How the declaration of a table is written.
* `Part.Writable`: Whether a part can be read back.

## Theorems

* `part?_pieces`: A part is read back.
* `whole_part`: A part stays in one piece.
* `legible_part`: A part is lexed to its tokens.
* `read?_text`: The declaration of a table is read back.
-/

namespace SqlMapper

namespace Ddl

/-- How a value is written. -/
def Literal.pieces : Literal → List Piece
  | .text s => [some (.quoted .text s)]
  | .plain l =>
    match l.toList with
    | '-' :: cs => [some (.sign '-'), some (.word (String.ofList cs))]
    | _ => [some (.word l)]

/-- How an option of a column is written. -/
def ColumnOption.pieces (r : Rules) : ColumnOption → List Piece
  | .default l => some (.word "DEFAULT") :: none :: l.pieces
  | .unique => [some (.word "UNIQUE")]
  | .primaryKey => [some (.word "PRIMARY"), none, some (.word "KEY")]
  | .counting => [some (.word r.counting)]

/-- So many blanks. -/
def blanks (n : Nat) : List Piece :=
  List.replicate n none

/-- How a list in parentheses is written, given the blanks behind its commas and those inside of its
    parentheses. -/
def enclosed (gap pad : Nat) (items : List (List Piece)) : List Piece :=
  some (.sign '(') :: (blanks pad ++ ((some (.sign ',') :: blanks gap).intercalate items
    ++ (blanks pad ++ [some (.sign ')')])))

/-- How the numbers behind a type are written. -/
def boundPieces (bounds : List String) : List Piece :=
  if bounds = [] then [] else enclosed 1 0 (bounds.map fun b => [some (.word b)])

/-- How the options of a column are written. -/
def optionPieces (r : Rules) (options : List ColumnOption) : List Piece :=
  options.flatMap fun o => none :: o.pieces r

/-- How a column is written. -/
def ColumnDefinition.pieces (r : Rules) (c : ColumnDefinition) : List Piece :=
  some (.quoted .name c.name) :: none :: some (.word c.type) ::
    (boundPieces c.bounds ++ optionPieces r c.options)

/-- How a constraint on several columns begins. -/
def Rules.uniqueGroup (r : Rules) : List Piece :=
  match r.flavor with
  | .sqlite => [some (.word "UNIQUE"), none]
  | .mysql => [some (.word "UNIQUE"), none, some (.word "KEY"), none]

/-- Names between marks, in parentheses. -/
def quotedNames (names : List String) : List Piece :=
  enclosed 0 0 (names.map fun n => [some (.quoted .name n)])

/-- How a part is written. The names of a full-text index are written without marks. -/
def Part.pieces (r : Rules) : Part → List Piece
  | .column c => c.pieces r
  | .primaryKey names =>
    some (.word "PRIMARY") :: none :: some (.word "KEY") :: none :: quotedNames names
  | .unique names => r.uniqueGroup ++ quotedNames names
  | .fullText names parser =>
    some (.word "FULLTEXT") :: none ::
      (enclosed 0 1 (names.map fun n => [some (.word n)])
        ++ [none, some (.word "WITH"), none, some (.word "PARSER"), none, some (.word parser)])

/-- How the declaration of a table is written, up to the end of the parentheses. -/
def tablePieces (r : Rules) (name : String) (parts : List Part) : List Piece :=
  some (.word "CREATE") :: none :: some (.word "TABLE") :: none :: some (.word "IF") :: none ::
    some (.word "NOT") :: none :: some (.word "EXISTS") :: none :: some (.quoted .name name) ::
    none :: enclosed 1 0 (parts.map (Part.pieces r))

/-- Whether a value can be read back. -/
def Literal.Writable (r : Rules) : Literal → Prop
  | .text s => r.escapes = true → '\\' ∉ s.toList
  | .plain l => Decimal.NumberForm l.toList

/-- Whether an option can be read back. -/
def ColumnOption.Writable (r : Rules) : ColumnOption → Prop
  | .default l => l.Writable r
  | .unique | .primaryKey | .counting => True

/-- Whether a part can be read back. -/
def Part.Writable (r : Rules) : Part → Prop
  | .column c => IsWord c.type ∧ (∀ b ∈ c.bounds, IsWord b) ∧ ∀ o ∈ c.options, o.Writable r
  | .primaryKey _ | .unique _ => True
  | .fullText names parser => (∀ n ∈ names, IsWord n ∧ r.isName n = true) ∧ IsWord parser

variable {r : Rules}

/-! ### Tokens -/

/-- What goes through appending goes through a list with something between its items. -/
theorem map_intercalate {α β : Type} {f : List α → List β} (hnil : f [] = [])
    (happend : ∀ as bs, f (as ++ bs) = f as ++ f bs) (sep : List α) (items : List (List α)) :
    f (sep.intercalate items) = (f sep).intercalate (items.map f) := by
  induction items with
  | nil => exact hnil
  | cons item items ih =>
      cases items with
      | nil => rw [List.intercalate_singleton, List.map_singleton, List.intercalate_singleton]
      | cons item' items =>
          rw [List.intercalate_cons_cons, happend, happend, ih]
          simp only [List.map_cons, List.intercalate_cons_cons]

theorem reduceOption_intercalate (sep : List Piece) (items : List (List Piece)) :
    (sep.intercalate items).reduceOption
      = sep.reduceOption.intercalate (items.map List.reduceOption) :=
  map_intercalate rfl List.reduceOption_append sep items

/-- The tokens of a list in parentheses. -/
theorem reduceOption_enclosed (gap pad : Nat) (items : List (List Piece)) :
    (enclosed gap pad items).reduceOption
      = .sign '(' :: ([.sign ','].intercalate (items.map List.reduceOption) ++ [.sign ')']) := by
  have hblanks : ∀ n, (blanks n).reduceOption = [] := fun n => List.reduceOption_replicate_none
  rw [enclosed, List.reduceOption_cons_of_some, List.reduceOption_append, List.reduceOption_append,
    List.reduceOption_append, reduceOption_intercalate, List.reduceOption_cons_of_some, hblanks,
    hblanks, List.nil_append, List.nil_append]
  rfl

theorem Literal.pieces_unsigned {l : String} (h : ∀ c ∈ l.toList, Decimal.isUnsigned c = true) :
    (Literal.plain l).pieces = [some (.word l)] := by
  rw [Literal.pieces]
  split
  · rename_i cs hcs
    exact absurd (h '-' (hcs ▸ List.mem_cons_self)) (by decide)
  · rfl

theorem Literal.pieces_negative {l : String} {cs : List Char} (h : l.toList = '-' :: cs) :
    (Literal.plain l).pieces = [some (.sign '-'), some (.word (String.ofList cs))] := by
  simp only [Literal.pieces, h]

theorem options?_literal {l : Literal} (h : l.Writable r) (ts : List Token) :
    options? r (.word "DEFAULT" :: (l.pieces.reduceOption ++ ts))
      = (options? r ts).map (.default l :: ·) := by
  cases l with
  | text s => rfl
  | plain l =>
      have hform : Decimal.NumberForm l.toList := h
      generalize hcs : l.toList = cs at hform
      cases hform with
      | unsigned cs _ hunsigned =>
          rw [Literal.pieces_unsigned (hcs ▸ hunsigned)]
          rfl
      | negative cs _ _ =>
          have hl : "-" ++ String.ofList cs = l := by
            rw [← String.toList_inj, String.toList_append, hcs]
            exact congrArg (List.cons '-') String.toList_ofList
          rw [Literal.pieces_negative hcs]
          exact hl ▸ rfl

theorem options?_pieces {o : ColumnOption} (h : o.Writable r) (ts : List Token) :
    options? r ((o.pieces r).reduceOption ++ ts) = (options? r ts).map (o :: ·) := by
  cases o with
  | default l => exact options?_literal h ts
  | unique => rfl
  | primaryKey => rfl
  | counting => rcases r with ⟨_ | _, isName⟩ <;> rfl

/-- The options of a column are read back. -/
theorem options?_optionPieces {os : List ColumnOption} (h : ∀ o ∈ os, o.Writable r) :
    options? r (optionPieces r os).reduceOption = some os := by
  rw [optionPieces]
  induction os with
  | nil => rfl
  | cons o os ih =>
      rw [List.flatMap_cons, List.cons_append, List.reduceOption_cons_of_none,
        List.reduceOption_append, options?_pieces (h o List.mem_cons_self),
        ih fun o' ho' => h o' (List.mem_cons_of_mem o ho')]
      rfl

theorem listed?_pieces (item? : Token → Option String) (token : String → Token)
    (items : List String) (h : ∀ s ∈ items, item? (token s) = some s)
    (hflat : ∀ s, (token s).isFlat = true) (gap pad : Nat) (rest : List Token) :
    ∃ ts, (enclosed gap pad (items.map fun s => [some (token s)])).reduceOption = .sign '(' :: ts
      ∧ listed? item? (ts ++ rest) = some (items, rest) := by
  refine ⟨_, reduceOption_enclosed gap pad _, ?_⟩
  have hmap : (items.map fun s => [some (token s)]).map List.reduceOption
      = items.map fun s => [token s] := by
    rw [List.map_map]
    rfl
  rw [hmap, List.append_assoc, List.singleton_append]
  exact listed?_singletons h (fun s _ => hflat s) rest

/-- A column is read back. -/
theorem column?_pieces {c : ColumnDefinition} (h : (Part.column c).Writable r) :
    column? r (c.pieces r).reduceOption = some c := by
  rcases c with ⟨name, type, bounds, options⟩
  rw [ColumnDefinition.pieces, List.reduceOption_cons_of_some, List.reduceOption_cons_of_none,
    List.reduceOption_cons_of_some, List.reduceOption_append]
  have hoptions := options?_optionPieces h.2.2
  rw [boundPieces]
  by_cases hbounds : bounds = []
  · rw [if_pos hbounds, List.reduceOption_nil, List.nil_append, hbounds]
    generalize (optionPieces r options).reduceOption = ts at hoptions
    -- No option begins with parentheses.
    have hopen : ∀ ts', ts ≠ .sign '(' :: ts' := by
      rintro ts' rfl
      cases hoptions
    rw [column?, hoptions]
    · rfl
    · exact hopen
  · rw [if_neg hbounds]
    rcases listed?_pieces bound? .word bounds (fun b _ => rfl) (fun b => rfl) 1 0
      (optionPieces r options).reduceOption with ⟨ts, hts, hlisted⟩
    rw [hts, List.cons_append, column?, hlisted]
    simp only [Option.bind_eq_bind, Option.bind_some, hoptions]
    rfl

/-- A part is read back. -/
theorem part?_pieces {p : Part} (h : p.Writable r) :
    part? r (p.pieces r).reduceOption = some p := by
  have hquoted : ∀ (names : List String) (rest : List Token),
      ∃ ts, (quotedNames names).reduceOption = .sign '(' :: ts
        ∧ listed? (name? r) (ts ++ rest) = some (names, rest) :=
    fun names => listed?_pieces (name? r) (.quoted .name) names (fun n _ => rfl) (fun n => rfl) 0 0
  cases p with
  | column c =>
      have hpart : part? r (c.pieces r).reduceOption
          = (column? r (c.pieces r).reduceOption).map .column := rfl
      rw [Part.pieces, hpart, column?_pieces h, Option.map_some]
  | primaryKey names =>
      rcases hquoted names [] with ⟨ts, hts, hlisted⟩
      rw [List.append_nil] at hlisted
      simp only [Part.pieces, List.reduceOption_cons_of_some, List.reduceOption_cons_of_none, hts,
        part?, hlisted]
  | unique names =>
      rcases hquoted names [] with ⟨ts, hts, hlisted⟩
      rw [List.append_nil] at hlisted
      rw [Part.pieces, List.reduceOption_append, hts, Rules.uniqueGroup]
      cases r.flavor with
      | sqlite => simp only [List.reduceOption_cons_of_some, List.reduceOption_cons_of_none,
          List.reduceOption_nil, List.cons_append, List.nil_append, part?, hlisted]
      | mysql => simp only [List.reduceOption_cons_of_some, List.reduceOption_cons_of_none,
          List.reduceOption_nil, List.cons_append, List.nil_append, part?, hlisted]
  | fullText names parser =>
      rcases listed?_pieces (name? r) .word names (fun n hn => if_pos (h.1 n hn).2) (fun n => rfl)
        0 1 [.word "WITH", .word "PARSER", .word parser] with ⟨ts, hts, hlisted⟩
      simp only [Part.pieces, List.reduceOption_cons_of_some, List.reduceOption_cons_of_none,
        List.reduceOption_append, hts, List.cons_append, List.reduceOption_nil, part?, hlisted]

theorem ColumnOption.isFlat_of_mem {o : ColumnOption} {t : Token} (h : some t ∈ o.pieces r) :
    t.isFlat = true := by
  have hliteral : ∀ l : Literal, some t ∈ l.pieces → t.isFlat = true := by
    intro l hl
    cases l with
    | text s =>
        rw [Literal.pieces, List.mem_singleton, Option.some.injEq] at hl
        exact hl ▸ rfl
    | plain l =>
        rw [Literal.pieces] at hl
        split at hl <;>
          simp only [List.mem_cons, List.not_mem_nil, or_false, Option.some.injEq] at hl
        · rcases hl with rfl | rfl <;> rfl
        · exact hl ▸ rfl
  cases o with
  | default l =>
      rcases List.mem_cons.mp h with h | h
      · exact Option.some.inj h ▸ rfl
      · exact hliteral l ((List.mem_cons.mp h).resolve_left (Option.some_ne_none t))
  | unique => exact Option.some.inj (List.mem_singleton.mp h) ▸ rfl
  | primaryKey =>
      simp only [pieces, List.mem_cons, List.not_mem_nil, or_false, Option.some.injEq,
        reduceCtorEq, false_or] at h
      rcases h with rfl | rfl <;> rfl
  | counting => exact Option.some.inj (List.mem_singleton.mp h) ▸ rfl

theorem whole_enclosed {token : String → Token} (hflat : ∀ s, (token s).isFlat = true)
    (gap pad : Nat) (items : List String) :
    Whole (enclosed gap pad (items.map fun s => [some (token s)])).reduceOption := by
  rw [reduceOption_enclosed]
  refine Nested.enclosed (Nested.intercalate fun ts hts => ?_)
  rw [List.map_map] at hts
  rcases List.mem_map.mp hts with ⟨s, -, rfl⟩
  exact .cons (hflat s) .nil

theorem whole_options (os : List ColumnOption) : Whole (optionPieces r os).reduceOption := by
  have hflat : ∀ t ∈ (optionPieces r os).reduceOption, t.isFlat = true := by
    intro t ht
    rcases List.mem_flatMap.mp (List.reduceOption_mem_iff.mp ht) with ⟨o, -, ho⟩
    exact ColumnOption.isFlat_of_mem ((List.mem_cons.mp ho).resolve_left (Option.some_ne_none t))
  generalize (optionPieces r os).reduceOption = ts at hflat
  induction ts with
  | nil => exact .nil
  | cons t ts ih =>
      exact .cons (hflat t List.mem_cons_self) (ih fun u hu => hflat u (List.mem_cons_of_mem t hu))

theorem whole_column (c : ColumnDefinition) : Whole (c.pieces r).reduceOption := by
  have hbounds : Whole (boundPieces c.bounds).reduceOption := by
    rw [boundPieces]
    split
    · exact .nil
    · exact whole_enclosed (fun s => rfl) 1 0 c.bounds
  rw [ColumnDefinition.pieces, List.reduceOption_cons_of_some, List.reduceOption_cons_of_none,
    List.reduceOption_cons_of_some, List.reduceOption_append]
  exact .cons rfl (.cons rfl (hbounds.append (whole_options c.options)))

/-- The tokens of a part are passed over in a list of parts. -/
theorem whole_part (p : Part) : Whole (p.pieces r).reduceOption := by
  have hnames : ∀ names, Whole (quotedNames names).reduceOption :=
    whole_enclosed (fun s => rfl) 0 0
  cases p with
  | column c => exact whole_column c
  | primaryKey names => exact .cons rfl (.cons rfl (hnames names))
  | unique names =>
      rw [Part.pieces, List.reduceOption_append, Rules.uniqueGroup]
      cases r.flavor with
      | sqlite => exact .cons rfl (hnames names)
      | mysql => exact .cons rfl (.cons rfl (hnames names))
  | fullText names parser =>
      rw [Part.pieces, List.reduceOption_cons_of_some, List.reduceOption_cons_of_none,
        List.reduceOption_append]
      exact .cons rfl ((whole_enclosed (fun s => rfl) 0 1 names).append
        (.cons rfl (.cons rfl (.cons rfl .nil))))

/-! ### Characters -/

/-- Numbers without a sign are words. -/
theorem isWord_of_isUnsigned {w : String} (hne : w.toList ≠ [])
    (h : ∀ c ∈ w.toList, Decimal.isUnsigned c = true) : IsWord w := by
  refine ⟨hne, fun c hc => ?_⟩
  have hunsigned := h c hc
  rw [Decimal.isUnsigned, Bool.or_eq_true, beq_iff_eq] at hunsigned
  rcases hunsigned with hunsigned | rfl
  · rw [isWordChar, hunsigned, Bool.true_or, Bool.true_or]
  · rfl

namespace Legible

variable {pieces : List Piece}

theorem blank (h : Legible r pieces) : Legible r (none :: pieces) :=
  h.cons (fun t ht => absurd ht (Option.not_mem_none t)) (Or.inl rfl)

theorem sign {c : Char} (hc : isSign c = true) (h : Legible r pieces) :
    Legible r (some (.sign c) :: pieces) :=
  h.cons (fun _ ht => Option.mem_some_iff.mp ht ▸ hc) (Or.inl rfl)

theorem token {t : Token} (ht : t.Writable r) (h : Legible r pieces)
    (hends : pieces.head?.all Piece.isLoose = true) : Legible r (some t :: pieces) :=
  h.cons (fun _ hu => Option.mem_some_iff.mp hu ▸ ht) (Or.inr hends)

theorem word {w : String} (hw : IsWord w) (h : Legible r pieces)
    (hends : pieces.head?.all Piece.isLoose = true) : Legible r (some (.word w) :: pieces) :=
  h.token hw hends

/-- A name between marks can be read back, whatever it is. -/
theorem name (s : String) (h : Legible r pieces) (hends : pieces.head?.all Piece.isLoose = true) :
    Legible r (some (.quoted .name s) :: pieces) :=
  h.token (fun hq => nomatch hq) hends

theorem blanks (n : Nat) (h : Legible r pieces) : Legible r (blanks n ++ pieces) := by
  induction n with
  | zero => exact h
  | succ n ih => exact ih.blank

theorem intercalate {items : List (List Piece)} (h : ∀ item ∈ items, Legible r item) (gap : Nat) :
    Legible r ((some (.sign ',') :: Ddl.blanks gap).intercalate items) := by
  induction items with
  | nil => exact .nil
  | cons item items ih =>
      have hitem := h item List.mem_cons_self
      cases items with
      | nil => rwa [List.intercalate_singleton]
      | cons item' items =>
          have hrest := ih fun i hi => h i (List.mem_cons_of_mem item hi)
          rw [List.intercalate_cons_cons, List.append_assoc]
          exact hitem.append ((hrest.blanks gap).sign rfl) (Or.inr rfl)

theorem enclosed {items : List (List Piece)} (h : ∀ item ∈ items, Legible r item) (gap pad : Nat) :
    Legible r (enclosed gap pad items) := by
  have hclose : Legible r (Ddl.blanks pad ++ [some (.sign ')')]) := (sign rfl .nil).blanks pad
  refine (((intercalate h gap).append hclose (Or.inr ?_)).blanks pad).sign rfl
  cases pad <;> rfl

theorem quotedNames (names : List String) : Legible r (quotedNames names) := by
  refine enclosed (fun item hitem => ?_) 0 0
  rcases List.mem_map.mp hitem with ⟨n, -, rfl⟩
  exact .name n .nil rfl

theorem literal {l : Literal} (h : l.Writable r) : Legible r l.pieces := by
  cases l with
  | text s => exact .token (fun _ => h) .nil rfl
  | plain l =>
      have hform : Decimal.NumberForm l.toList := h
      generalize hcs : l.toList = cs at hform
      cases hform with
      | unsigned cs hne hunsigned =>
          rw [Literal.pieces_unsigned (hcs ▸ hunsigned)]
          exact .word (isWord_of_isUnsigned (hcs ▸ hne) (hcs ▸ hunsigned)) .nil rfl
      | negative cs hne hunsigned =>
          have hword : IsWord (String.ofList cs) :=
            isWord_of_isUnsigned (by rwa [String.toList_ofList]) (by rwa [String.toList_ofList])
          rw [Literal.pieces_negative hcs]
          exact .sign rfl (.word hword .nil rfl)

theorem option {o : ColumnOption} (h : o.Writable r) : Legible r (o.pieces r) := by
  cases o with
  | default l => exact .word (by decide) (literal h).blank rfl
  | unique => exact .word (by decide) .nil rfl
  | primaryKey => exact .word (by decide) (.blank (.word (by decide) .nil rfl)) rfl
  | counting =>
      have hcounting : IsWord r.counting := by
        cases hflavor : r.flavor <;> simp only [Rules.counting, hflavor] <;> decide
      exact .word hcounting .nil rfl

theorem options {os : List ColumnOption} (h : ∀ o ∈ os, o.Writable r) :
    Legible r (optionPieces r os) := by
  rw [optionPieces]
  induction os with
  | nil => exact .nil
  | cons o os ih =>
      have hrest := ih fun o' ho' => h o' (List.mem_cons_of_mem o ho')
      rw [List.flatMap_cons]
      refine ((option (h o List.mem_cons_self)).append hrest (Or.inr ?_)).blank
      cases os <;> rfl

end Legible

theorem legible_column {c : ColumnDefinition} (h : (Part.column c).Writable r) :
    Legible r (c.pieces r) := by
  have hoptions := Legible.options h.2.2
  have hoption : (optionPieces r c.options).head?.all Piece.isLoose = true := by
    cases c.options <;> rfl
  rw [ColumnDefinition.pieces, boundPieces]
  by_cases hbounds : c.bounds = []
  · rw [if_pos hbounds]
    exact .name c.name (.blank (.word h.1 hoptions hoption)) rfl
  · rw [if_neg hbounds]
    have henclosed : Legible r (enclosed 1 0 (c.bounds.map fun b => [some (.word b)])) := by
      refine .enclosed (fun item hitem => ?_) 1 0
      rcases List.mem_map.mp hitem with ⟨b, hb, rfl⟩
      exact .word (h.2.1 b hb) .nil rfl
    exact .name c.name (.blank (.word h.1 (henclosed.append hoptions (Or.inr hoption)) rfl)) rfl

/-- What a part is written as can be taken apart into tokens. -/
theorem legible_part {p : Part} (h : p.Writable r) : Legible r (p.pieces r) := by
  cases p with
  | column c => exact legible_column h
  | primaryKey names =>
      exact .word (by decide) (.blank (.word (by decide) (.blank (.quotedNames names)) rfl)) rfl
  | unique names =>
      rw [Part.pieces, Rules.uniqueGroup]
      cases r.flavor with
      | sqlite => exact .word (by decide) (.blank (.quotedNames names)) rfl
      | mysql =>
          exact .word (by decide) (.blank (.word (by decide) (.blank (.quotedNames names)) rfl)) rfl
  | fullText names parser =>
      have hnames : Legible r (enclosed 0 1 (names.map fun n => [some (.word n)])) := by
        refine .enclosed (fun item hitem => ?_) 0 1
        rcases List.mem_map.mp hitem with ⟨n, hn, rfl⟩
        exact .word (h.1 n hn).1 .nil rfl
      have hparser : Legible r
          [none, some (.word "WITH"), none, some (.word "PARSER"), none, some (.word parser)] :=
        .blank (.word (by decide) (.blank (.word (by decide) (.blank (.word h.2 .nil rfl))
          rfl)) rfl)
      exact .word (by decide) (.blank (hnames.append hparser (Or.inr rfl))) rfl

theorem legible_tablePieces {parts : List Part} (h : ∀ p ∈ parts, p.Writable r) (name : String) :
    Legible r (tablePieces r name parts) := by
  have hparts : Legible r (enclosed 1 0 (parts.map (Part.pieces r))) := by
    refine .enclosed (fun item hitem => ?_) 1 0
    rcases List.mem_map.mp hitem with ⟨p, hp, rfl⟩
    exact legible_part (h p hp)
  exact .word (by decide) (.blank (.word (by decide) (.blank (.word (by decide) (.blank
    (.word (by decide) (.blank (.word (by decide) (.blank (.name name hparts.blank rfl)) rfl)) rfl))
    rfl)) rfl)) rfl

/-- The last piece of a declaration closes the parentheses. -/
theorem getLast?_tablePieces (name : String) (parts : List Part) :
    (tablePieces r name parts).getLast? = some (some (.sign ')')) := by
  simp only [tablePieces, enclosed, ← List.append_assoc, ← List.cons_append,
    List.getLast?_concat]

/-- What is written is read back. -/
theorem table?_tokens {parts : List Part} (h : ∀ p ∈ parts, p.Writable r) (hne : parts ≠ [])
    (name : String) (tail : List Token) :
    table? r ((tablePieces r name parts).reduceOption ++ tail) = some ⟨name, parts, tail⟩ := by
  have hwhole : ∀ ts ∈ (parts.map (Part.pieces r)).map List.reduceOption, Whole ts := by
    rw [List.map_map]
    intro ts hts
    rcases List.mem_map.mp hts with ⟨p, hp, rfl⟩
    exact whole_part p
  have hsplit := split_listed hwhole (by simpa only [ne_eq, List.map_eq_nil_iff] using hne) tail
  have hread : ((parts.map (Part.pieces r)).map List.reduceOption).mapM (part? r) = some parts := by
    rw [List.map_map]
    exact mapM_map fun p hp => part?_pieces (h p hp)
  simp only [tablePieces, List.reduceOption_cons_of_some, List.reduceOption_cons_of_none,
    reduceOption_enclosed, List.cons_append,
    List.append_assoc, List.nil_append, table?, hsplit, Option.bind_eq_bind, Option.bind_some,
    hread]
  rfl

/-- The declaration of a table is read back, whatever stands behind it. -/
theorem read?_text {sql : String} {parts : List Part} {name : String} {tail : List Char}
    (h : ∀ p ∈ parts, p.Writable r) (hne : parts ≠ [])
    (hsql : sql.toList = spelled (tablePieces r name parts) ++ tail) :
    read? r sql = some { name, parts, tail := lex r tail } := by
  have hlast : (tablePieces r name parts).getLast?.all Piece.isLoose = true := by
    rw [getLast?_tablePieces]
    rfl
  rw [read?, hsql, lex_spelled (legible_tablePieces h name) (Or.inr hlast), table?_tokens h hne]

/-! ### Texts -/

theorem spelled_cons (p : Piece) (pieces : List Piece) :
    spelled (p :: pieces) = p.spelling ++ spelled pieces :=
  List.flatMap_cons

theorem spelled_intercalate (sep : List Piece) (items : List (List Piece)) :
    spelled (sep.intercalate items) = (spelled sep).intercalate (items.map spelled) :=
  map_intercalate rfl spelled_append sep items

theorem toList_quoteName (name : String) :
    (quoteName name).toList = Piece.spelling (some (.quoted .name name)) := by
  rw [quoteName, String.toList_ofList]
  rfl

theorem toList_quoteNames (names : List String) :
    ("(" ++ quoteNames names ++ ")").toList = spelled (quotedNames names) := by
  have hnames : (names.map quoteName).map String.toList
      = (names.map fun n => [some (Token.quoted .name n)]).map spelled := by
    rw [List.map_map, List.map_map]
    refine List.map_congr_left fun n _ => (toList_quoteName n).trans ?_
    exact (List.append_nil _).symm
  rw [quoteNames, String.toList_append, String.toList_append, String.toList_intercalate, hnames,
    quotedNames, enclosed, spelled_cons, blanks, List.replicate_zero, List.nil_append,
    List.nil_append, spelled_append, spelled_intercalate]
  rfl

theorem toList_primaryKey (name : String) :
    ("PRIMARY KEY (" ++ quoteName name ++ ")").toList
      = spelled ((Part.primaryKey [name]).pieces r) := by
  simp only [String.toList_append, toList_quoteName, Part.pieces, quotedNames, enclosed,
    List.map_singleton, List.intercalate_singleton, spelled_cons, spelled_append,
    List.append_assoc]
  rfl

/-- The value that a literal stands for. -/
def Literal.ofValue : Value → Literal
  | .text s => .text s
  | .bytes b => .text (Text.ofBytesLossy b)
  | v => .plain v.literal

theorem Literal.toList_ofValue (v : Value) : v.literal.toList = spelled (ofValue v).pieces := by
  have htext : ∀ s, (Value.quotedLiteral s).toList = spelled [some (.quoted .text s)] := by
    intro s
    rw [Value.quotedLiteral, String.toList_ofList, spelled_cons]
    exact (List.append_nil _).symm
  have hplain : ∀ l : String, l.toList = spelled (Literal.plain l).pieces := by
    intro l
    rw [pieces]
    split
    · rename_i cs hcs
      rw [hcs, spelled_cons, spelled_cons, Piece.spelling, Piece.spelling, String.toList_ofList]
      exact congrArg (List.cons '-') (List.append_nil cs).symm
    · exact (List.append_nil _).symm
  cases v with
  | text s => exact htext s
  | bytes b => exact htext _
  | _ => exact hplain _

/-- The declaration of a table is put together from its parts. -/
theorem toList_declaration {texts : List String} {parts : List Part}
    (h : texts.map String.toList = parts.map fun p => spelled (p.pieces r)) (name tail : String) :
    ("CREATE TABLE IF NOT EXISTS " ++ quoteName name ++ " (" ++ ", ".intercalate texts
        ++ (")" ++ tail)).toList = spelled (tablePieces r name parts) ++ tail.toList := by
  have hparts : parts.map (fun p => spelled (p.pieces r))
      = (parts.map (Part.pieces r)).map spelled := by
    rw [List.map_map]
    rfl
  simp only [String.toList_append, String.toList_intercalate, h, hparts, toList_quoteName,
    tablePieces, enclosed, spelled_cons, spelled_append, spelled_intercalate, blanks,
    List.replicate_zero, List.nil_append, List.append_assoc]
  rfl

/-- A literal without quotes can always be read back. -/
theorem Literal.writable_ofValue {v : Value}
    (h : ∀ s, ofValue v = .text s → r.escapes = true → '\\' ∉ s.toList) :
    (ofValue v).Writable r := by
  cases v with
  | text s => exact h s rfl
  | bytes b => exact h _ rfl
  | null => exact Value.literal_number (v := .null) trivial
  | bool b => exact Value.literal_number (v := .bool b) trivial
  | int n => exact Value.literal_number (v := .int n) trivial
  | float x => exact Value.literal_number (v := .float x) trivial

/-- How a default is written behind something else. -/
theorem toList_default (typed : String) {start : List Char}
    (h : typed.toList = start ++ " DEFAULT ".toList) (v : Value) :
    (typed ++ v.literal).toList = start ++ spelled (optionPieces r [.default (.ofValue v)]) := by
  rw [String.toList_append, h, Literal.toList_ofValue, optionPieces, List.flatMap_singleton,
    ColumnOption.pieces, spelled_cons, spelled_cons, spelled_cons, List.append_assoc]
  rfl

/-- How the constraint of a column is written. -/
theorem toList_unique (unique : Bool) :
    (if unique then " UNIQUE" else "").toList
      = spelled (optionPieces r (if unique then [.unique] else [])) := by
  cases unique <;> rfl

theorem spelled_optionPieces_append (os os' : List ColumnOption) :
    spelled (optionPieces r (os ++ os'))
      = spelled (optionPieces r os) ++ spelled (optionPieces r os') := by
  rw [optionPieces, List.flatMap_append, spelled_append, optionPieces, optionPieces]

/-- A column is written with its name, its type and its options. -/
theorem spelled_column (c : ColumnDefinition) :
    spelled (c.pieces r) = (quoteName c.name ++ " ").toList ++ (c.type.toList
      ++ (spelled (boundPieces c.bounds) ++ spelled (optionPieces r c.options))) := by
  rw [ColumnDefinition.pieces, String.toList_append, toList_quoteName, spelled_cons, spelled_cons,
    spelled_cons, spelled_append, List.append_assoc]
  rfl

end Ddl

end SqlMapper
