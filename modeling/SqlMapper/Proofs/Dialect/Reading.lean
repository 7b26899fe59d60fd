import SqlMapper.Proofs.Dialect.Lexing

/-!
# Reading Declarations

The table that a declaration declares.

A declaration is read in two steps. The parentheses behind the name of the table
are split at the commas that stand in no further parentheses, and each part is
read by its first tokens: a column with its type, its default and its
constraints, or a key, or a constraint on several columns. Only what the grammar
has a place for is read. In particular there are no comments, no names between
other marks and no signs beyond those of the grammar, so a declaration that is
read holds none of them.

Parts are split where they were put together, as long as each of them closes the
parentheses it opens and has commas in parentheses only.

## Main definitions

* `TableDefinition`: What a declaration declares.
* `split`: The parts between commas.
* `read?`: The table that a declaration declares.
* `Whole`: Tokens that are passed over at any depth.

## Theorems

* `split_listed`: Parts with commas between them are split at the commas.
* `listed?_singletons`: A list of single tokens is read back.
-/

namespace SqlMapper

namespace Ddl

/-- The value that a default gives. -/
inductive Literal where
  -- A number or the absent value, as it is written.
  | plain (l : String)
  | text (s : String)
  deriving DecidableEq

/-- What stands behind the type of a column. -/
inductive ColumnOption where
  | default (l : Literal)
  | unique
  | primaryKey
  -- The database counts the column up.
  | counting
  deriving DecidableEq

/-- A column of a declared table. -/
structure ColumnDefinition where
  name : String
  type : String
  -- The numbers in parentheses behind the type.
  bounds : List String := []
  options : List ColumnOption
  deriving DecidableEq

/-- A part of a declaration. -/
inductive Part where
  | column (c : ColumnDefinition)
  | primaryKey (names : List String)
  | unique (names : List String)
  | fullText (names : List String) (parser : String)
  deriving DecidableEq

/-- What a declaration declares. -/
structure TableDefinition where
  name : String
  parts : List Part
  -- What stands behind the parentheses.
  tail : List Token
  deriving DecidableEq

/-- The word for a column that the database counts up. -/
def Rules.counting (r : Rules) : String :=
  match r.flavor with
  | .sqlite => "AUTOINCREMENT"
  | .mysql => "AUTO_INCREMENT"

/-- The parts between commas up to the end of the parentheses, and what stands behind them. Commas
    in further parentheses do not count. -/
def split (depth : Nat) (part : List Token) : List Token → Option (List (List Token) × List Token)
  | [] => none
  | t :: ts =>
    if t = .sign '(' then split (depth + 1) (part ++ [t]) ts
    else if depth = 0 then
      if t = .sign ')' then some ([part], ts)
      else if t = .sign ',' then (split 0 [] ts).map fun (parts, tail) => (part :: parts, tail)
      else split 0 (part ++ [t]) ts
    else split (if t = .sign ')' then depth - 1 else depth) (part ++ [t]) ts

/-- The name that a token is. -/
def name? (r : Rules) : Token → Option String
  | .quoted .name s => some s
  | .word w => if r.isName w then some w else none
  | _ => none

/-- The item that a part of a single token is. -/
def single? {α : Type} (item? : Token → Option α) : List Token → Option α
  | [t] => item? t
  | _ => none

/-- The items of a list in parentheses, and what stands behind them. -/
def listed? {α : Type} (item? : Token → Option α) (ts : List Token) :
    Option (List α × List Token) :=
  (split 0 [] ts).bind fun (parts, tail) =>
    (if parts = [[]] then some [] else parts.mapM (single? item?)).map fun items => (items, tail)

/-- The number that a token is. -/
def bound? : Token → Option String
  | .word w => some w
  | _ => none

/-- What stands behind the type of a column. -/
def options? (r : Rules) : List Token → Option (List ColumnOption)
  | [] => some []
  | .word "DEFAULT" :: .quoted .text s :: ts => (options? r ts).map (.default (.text s) :: ·)
  | .word "DEFAULT" :: .sign '-' :: .word w :: ts =>
    (options? r ts).map (.default (.plain ("-" ++ w)) :: ·)
  | .word "DEFAULT" :: .word w :: ts => (options? r ts).map (.default (.plain w) :: ·)
  | .word "UNIQUE" :: ts => (options? r ts).map (.unique :: ·)
  | .word "PRIMARY" :: .word "KEY" :: ts => (options? r ts).map (.primaryKey :: ·)
  | .word w :: ts => if w = r.counting then (options? r ts).map (.counting :: ·) else none
  | _ => none

/-- The column that a part declares. -/
def column? (r : Rules) : List Token → Option ColumnDefinition
  | .quoted .name name :: .word type :: .sign '(' :: ts => do
    let (bounds, ts) ← listed? bound? ts
    return { name, type, bounds, options := ← options? r ts }
  | .quoted .name name :: .word type :: ts => do
    return { name, type, options := ← options? r ts }
  | _ => none

/-- What a part of a declaration declares. -/
def part? (r : Rules) : List Token → Option Part
  | .word "PRIMARY" :: .word "KEY" :: .sign '(' :: ts =>
    match listed? (name? r) ts with
    | some (names, []) => some (.primaryKey names)
    | _ => none
  | .word "UNIQUE" :: .sign '(' :: ts | .word "UNIQUE" :: .word "KEY" :: .sign '(' :: ts =>
    match listed? (name? r) ts with
    | some (names, []) => some (.unique names)
    | _ => none
  | .word "FULLTEXT" :: .sign '(' :: ts =>
    match listed? (name? r) ts with
    | some (names, [.word "WITH", .word "PARSER", .word parser]) => some (.fullText names parser)
    | _ => none
  | ts => (column? r ts).map .column

/-- The table that some tokens declare. -/
def table? (r : Rules) : List Token → Option TableDefinition
  | .word "CREATE" :: .word "TABLE" :: .word "IF" :: .word "NOT" :: .word "EXISTS"
      :: .quoted .name name :: .sign '(' :: ts => do
    let (parts, tail) ← split 0 [] ts
    return { name, parts := ← parts.mapM (part? r), tail }
  | _ => none

/-- The table that a declaration declares. -/
def read? (r : Rules) (sql : String) : Option TableDefinition :=
  table? r (lex r sql.toList)

/-- Tokens that are passed over at any depth. -/
def Whole (ts : List Token) : Prop :=
  ∀ depth part rest, split depth part (ts ++ rest) = split depth (part ++ ts) rest

/-- Tokens that are passed over in parentheses. -/
def Nested (ts : List Token) : Prop :=
  ∀ depth part rest, split (depth + 1) part (ts ++ rest) = split (depth + 1) (part ++ ts) rest

/-- Whether a token matters to the splitting of parts. -/
def Token.isFlat (t : Token) : Bool :=
  decide (t ≠ .sign '(' ∧ t ≠ .sign ')' ∧ t ≠ .sign ',')

theorem Whole.nested {ts : List Token} (h : Whole ts) : Nested ts :=
  fun depth part rest => h (depth + 1) part rest

theorem Whole.nil : Whole [] :=
  fun depth part rest => by rw [List.nil_append, List.append_nil]

theorem Nested.append {ts us : List Token} (h : Nested ts) (h' : Nested us) : Nested (ts ++ us) :=
  fun depth part rest => by rw [List.append_assoc, h, h', List.append_assoc]

theorem Whole.append {ts us : List Token} (h : Whole ts) (h' : Whole us) : Whole (ts ++ us) :=
  fun depth part rest => by rw [List.append_assoc, h, h', List.append_assoc]

theorem Whole.cons {t : Token} {ts : List Token} (ht : t.isFlat = true) (h : Whole ts) :
    Whole (t :: ts) := by
  intro depth part rest
  rcases of_decide_eq_true ht with ⟨hopen, hclose, hcomma⟩
  rw [List.cons_append, split, if_neg hopen, if_neg hclose, if_neg hclose, if_neg hcomma]
  by_cases hdepth : depth = 0
  · rw [if_pos hdepth, ← hdepth, h, List.append_assoc, List.singleton_append]
  · rw [if_neg hdepth, h, List.append_assoc, List.singleton_append]

theorem nested_comma : Nested [.sign ','] := by
  intro depth part rest
  rw [List.singleton_append, split, if_neg (by decide), if_neg (Nat.succ_ne_zero depth),
    if_neg (by decide)]

theorem Nested.enclosed {ts : List Token} (h : Nested ts) :
    Whole (.sign '(' :: (ts ++ [.sign ')'])) := by
  intro depth part rest
  rw [List.cons_append, List.append_assoc, split, if_pos rfl, h, List.singleton_append, split,
    if_neg (by decide), if_neg (Nat.succ_ne_zero depth), if_pos rfl, Nat.add_sub_cancel]
  simp only [List.append_assoc, List.cons_append, List.nil_append]

theorem Nested.intercalate {parts : List (List Token)} (h : ∀ ts ∈ parts, Whole ts) :
    Nested ([.sign ','].intercalate parts) := by
  induction parts with
  | nil => exact Whole.nil.nested
  | cons ts parts ih =>
      have hts := (h ts List.mem_cons_self).nested
      cases parts with
      | nil => rwa [List.intercalate_singleton]
      | cons us parts =>
          rw [List.intercalate_cons_cons]
          exact (hts.append nested_comma).append
            (ih fun vs hvs => h vs (List.mem_cons_of_mem ts hvs))

/-- Parts with commas between them are split at the commas. -/
theorem split_listed {parts : List (List Token)} (h : ∀ ts ∈ parts, Whole ts) (hne : parts ≠ [])
    (rest : List Token) :
    split 0 [] ([.sign ','].intercalate parts ++ .sign ')' :: rest) = some (parts, rest) := by
  induction parts with
  | nil => exact absurd rfl hne
  | cons ts parts ih =>
      have hts := h ts List.mem_cons_self
      cases parts with
      | nil =>
          rw [List.intercalate_singleton, hts, split, if_neg (by decide), if_pos rfl, if_pos rfl]
          rfl
      | cons us parts =>
          have hrest := ih (fun vs hvs => h vs (List.mem_cons_of_mem ts hvs)) (List.cons_ne_nil _ _)
          rw [List.intercalate_cons_cons, List.append_assoc, List.append_assoc, hts,
            List.singleton_append, split, if_neg (by decide), if_pos rfl, if_neg (by decide),
            if_pos rfl, hrest]
          rfl

theorem mapM_map {α β : Type} {f : β → Option α} {g : α → β} {as : List α}
    (h : ∀ a ∈ as, f (g a) = some a) : (as.map g).mapM f = some as := by
  induction as with
  | nil => rfl
  | cons a as ih =>
      rw [List.map_cons, List.mapM_cons, h a List.mem_cons_self,
        ih fun b hb => h b (List.mem_cons_of_mem a hb)]
      rfl

/-- A list of single tokens is read back. -/
theorem listed?_singletons {α : Type} {item? : Token → Option α} {token : α → Token}
    {items : List α} (h : ∀ a ∈ items, item? (token a) = some a)
    (hflat : ∀ a ∈ items, (token a).isFlat = true)
    (rest : List Token) :
    listed? item? ([.sign ','].intercalate (items.map fun a => [token a]) ++ .sign ')' :: rest)
      = some (items, rest) := by
  cases items with
  | nil => rfl
  | cons a items =>
      have hwhole : ∀ ts ∈ (a :: items).map fun a => [token a], Whole ts := by
        intro ts hts
        rcases List.mem_map.mp hts with ⟨b, hb, rfl⟩
        exact .cons (hflat b hb) .nil
      have hne : ((a :: items).map fun a => [token a]) ≠ [[]] := by
        rw [List.map_cons]
        simp only [ne_eq, List.cons.injEq, List.cons_ne_self, false_and, not_false_eq_true]
      rw [listed?, split_listed hwhole (List.cons_ne_nil _ _), Option.bind_some]
      simp only [if_neg hne]
      rw [mapM_map (f := single? item?) (g := fun a => [token a]) h, Option.map_some]

end Ddl

end SqlMapper
