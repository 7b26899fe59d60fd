import SqlMapper.Proofs.Cache.Spellings
import SqlMapper.Proofs.Dialect.Constraints
import SqlMapper.Proofs.Program.Texts
import SqlMapper.Proofs.Statement.Cells
import SqlMapper.Proofs.Statement.Clauses

/-!
# How Statements Write Names

Under which name a table is created, and under which it is used.

Whatever the engine sends on its own is a probe, the creation of a table, its
emptying or dropping, or a compiled query, and it is about the tables of the
operation that sends it. What the dialects render quotes the name of a table as a
whole; the probe, the dropping and every query quote it segment by segment. It is
the same with columns: an insert lists them segment by segment, and overwrites
them by whole names. As long as a name has no dot, nobody can tell. But a name with
a dot is acceptable, too. A table that is created under such a name has the dot in
its name, and is then looked for in a schema.

## Main definitions

* `Purpose`: What a statement is for.
* `Purpose.written`: A table as the statements of a purpose write it.
* `Issued`: The statements that are issued for some tables.
* `Renders`: How statements write the names in them.

## Theorems

* `tableTexts_issued`: How a statement writes its tables.
* `columnTexts_insert`, `overwrittenTexts_insert`: How an insert writes its columns.
* `issued_of_sends`: What an operation sends is issued for its tables.
* `issued_names`: All of this, in either dialect.
* `dotted_table_misnamed`: A table in a schema is created under another name than it is used.
-/

namespace SqlMapper

namespace Ddl

variable {η σ : Type} {r : Rules}

/-- What a statement is for. -/
inductive Purpose where
  | probing
  | creating
  | emptying
  | dropping
  | querying

/-- A table as the statements of a purpose write it. -/
def Purpose.written : Purpose → String → String
  | .creating | .emptying => quoteName
  | .probing | .dropping | .querying => quotePath

/-- The statements that are issued for some tables. -/
inductive Issued (d : Dialect) : Purpose → List String → String → Prop where
  | probe (table : String) : Issued d .probing [table] (probeStatement table)
  | create (s : Schema) (table charset : String) :
    Issued d .creating [table] (d.createTable s table charset)
  | truncate (table : String) : Issued d .emptying [table] (d.truncate table)
  | drop (table : String) : Issued d .dropping [table] (dropStatement table)
  | query {q : Query} {s : Statement} (h : q.compile d = .ok s) : Issued d .querying s.tables s.sql

/-- Statements write the names in them by few rules. -/
structure Renders (db : Database η σ) (r : Rules) : Prop where
  -- What an operation sends is issued for its tables, unless it is given or only switches
  -- transactions.
  sends : ∀ (op : Operation) (s : State η σ), ∃ events,
    ((op.perform db).run.run s).2.around.journal = s.around.journal ++ events
      ∧ ∀ e ∈ events, ∀ sql ∈ e.sent?,
        sql ∈ transactionWords ∨ op.Given sql ∨ ∃ p, Issued db.dialect p op.about sql
  -- Tables are written by the purpose of a statement.
  tables : ∀ {p tables sql}, Issued db.dialect p tables sql →
    tableTexts r sql = tables.map p.written
  -- All statements agree on the name of a table if it has no dot, and only then.
  agree : ∀ table, (∀ p p' sql sql', Issued db.dialect p [table] sql →
    Issued db.dialect p' [table] sql' → tableTexts r sql = tableTexts r sql') ↔ '.' ∉ table.toList
  -- The columns of an insert are quoted segment by segment,
  columns : ∀ {q : InsertQuery} {s}, q.compile db.dialect = .ok s →
    columnTexts r s.sql = q.keys.map quotePath
  -- and those that it overwrites as a whole.
  overwritten : ∀ {q : InsertQuery} {s}, q.compile db.dialect = .ok s → q.mode = .update →
    overwrittenTexts r s.sql = q.updateColumns.map quoteName
  -- Both are the same if no name has a dot, and only then.
  agreeColumns : ∀ {q : InsertQuery} {s}, q.compile db.dialect = .ok s → q.mode = .update →
    q.updateColumns = q.keys →
      (overwrittenTexts r s.sql = columnTexts r s.sql ↔ ∀ c ∈ q.keys, '.' ∉ c.toList)

/-! ### Clauses -/

theorem whereClause_form {c : Option Conditions} {w : String × Binds}
    (h : whereClause c = .ok w) : w.1 = "" ∨ ∃ back, w.1 = " WHERE " ++ back := by
  rcases c with _ | c
  · cases h
    exact Or.inl rfl
  · by_cases hclauses : c.clauses = []
    · rw [whereClause_no_clauses hclauses] at h
      cases h
      exact Or.inl rfl
    · rw [whereClause_clauses hclauses] at h
      rcases hcompile : c.compile with _ | compiled
      · rw [hcompile] at h
        cases h
      · rw [hcompile] at h
        cases h
        exact Or.inr ⟨compiled.fragment, rfl⟩

theorem fieldClause_form (keywords : String) (fields : List String) :
    fieldClause keywords fields = "" ∨ ∃ back, fieldClause keywords fields = keywords ++ back := by
  rw [fieldClause]
  split
  · exact Or.inl rfl
  · exact Or.inr ⟨_, rfl⟩

theorem limitClause_form (limit : Option Limit) :
    limitClause limit = "" ∨ ∃ back, limitClause limit = " LIMIT " ++ back := by
  rcases limit with _ | ⟨count⟩ | ⟨offset, count⟩
  · exact Or.inl rfl
  · exact Or.inr ⟨_, rfl⟩
  · rw [limitClause, String.append_assoc, String.append_assoc]
    exact Or.inr ⟨_, rfl⟩

/-- Behind the tables of a statement there may be conditions. -/
theorem ends_where {c : Option Conditions} {w : String × Binds} (h : whereClause c = .ok w)
    {rest : String} (hrest : Ends r rest.toList) : Ends r (w.1 ++ rest).toList :=
  (breaks_word (w := "WHERE") rfl (by decide) (by decide)).clause (whereClause_form h) hrest

theorem ends_semicolon : Ends r ";".toList :=
  (breaks_sign (c := ';') (Or.inl rfl) (by decide) (by decide)).alone

/-- Behind the tables of a selection there may be many clauses. -/
theorem ends_tables {c : Option Conditions} {w : String × Binds} (h : whereClause c = .ok w)
    (groups orders : List String) (limit : Option Limit) :
    Ends r (w.1 ++ (fieldClause " GROUP BY " groups ++ (fieldClause " ORDER BY " orders
      ++ (limitClause limit ++ ";")))).toList := by
  have hlimit : Breaks r " LIMIT " := breaks_word (w := "LIMIT") rfl (by decide) (by decide)
  have horders : Breaks r " ORDER BY " := breaks_word (w := "ORDER") rfl (by decide) (by decide)
  have hgroups : Breaks r " GROUP BY " := breaks_word (w := "GROUP") rfl (by decide) (by decide)
  exact ends_where h (hgroups.clause (fieldClause_form _ groups)
    (horders.clause (fieldClause_form _ orders)
      (hlimit.clause (limitClause_form limit) ends_semicolon)))

theorem breaks_group : Breaks r " (" :=
  breaks_sign (c := '(') (Or.inr rfl) (by decide) (by decide)

/-! ### Statements about one table -/

theorem tableTexts_name {front rest : String} (hfront : Leads r Token.isTableWord front)
    (table : String) (hrest : Ends r rest.toList) :
    tableTexts r (front ++ (quoteName table ++ rest)) = [quoteName table] := by
  have hname : Lexes r (quoteName table) ([.sign ','].intercalate [[.quoted .name table]]) :=
    lexes_quoteName table
  have hparts : ∀ ts ∈ [[Token.quoted .name table]], IsName ts := fun ts hts =>
    List.mem_singleton.mp hts ▸ isName_quoted table
  rw [tableTexts, listedNames_behind hfront hname (List.cons_ne_nil _ _) hparts hrest,
    List.map_singleton, written_quoted]

theorem lexes_paths {sep : String} (hsep : IsComma sep) (paths : List String) :
    Lexes r (sep.intercalate (paths.map quotePath))
      ([.sign ','].intercalate (paths.map fun path => pathTokens (Text.segments '.' path))) :=
  lexes_listed (fun path _ => lexes_quotePath path) hsep

/-- A list of names that are quoted segment by segment is read off a text that leads up to it. -/
theorem listedNames_paths {p : Token → Bool} {front rest : String} (hfront : Leads r p front)
    {paths : List String} (hne : paths ≠ []) {sep : String} (hsep : IsComma sep)
    (hrest : Ends r rest.toList) :
    listedNames (behind p (lex r (front ++ (sep.intercalate (paths.map quotePath)
      ++ rest)).toList)) = paths.map quotePath := by
  have hparts : ∀ ts ∈ paths.map fun path => pathTokens (Text.segments '.' path), IsName ts := by
    intro ts hts
    rcases List.mem_map.mp hts with ⟨path, -, rfl⟩
    exact isName_path (segments_ne_nil path)
  rw [listedNames_behind hfront (lexes_paths hsep paths)
    (fun hnone => hne (List.map_eq_nil_iff.mp hnone)) hparts hrest, List.map_map]
  exact List.map_congr_left fun path _ => written_path _

theorem tableTexts_path {front rest : String} (hfront : Leads r Token.isTableWord front)
    (table : String) (hrest : Ends r rest.toList) :
    tableTexts r (front ++ (quotePath table ++ rest)) = [quotePath table] := by
  have hlist := listedNames_paths hfront (List.cons_ne_nil table []) isComma_tight hrest
  rwa [List.map_singleton, String.intercalate_singleton] at hlist

theorem tableTexts_probe (table : String) :
    tableTexts r (probeStatement table) = [quotePath table] := by
  have hends : Ends r " LIMIT 1;".toList :=
    (breaks_word (w := "LIMIT") rfl (by decide) (by decide)).alone
  have hfront : Leads r Token.isTableWord "SELECT count(*) FROM " := fun _ h =>
    dropWhile_isFiller h
  have htexts := tableTexts_path hfront table hends
  rwa [← String.append_assoc] at htexts

theorem tableTexts_drop (table : String) :
    tableTexts r (dropStatement table) = [quotePath table] := by
  have hfront : Leads r Token.isTableWord "DROP TABLE IF EXISTS " := fun _ h =>
    dropWhile_isFiller h
  have htexts := tableTexts_path hfront table ends_semicolon
  rwa [← String.append_assoc] at htexts

theorem createTable_form (f : Flavor) (s : Schema) (table charset : String) :
    ∃ back, f.dialect.createTable s table charset
      = "CREATE TABLE IF NOT EXISTS " ++ (quoteName table ++ (" (" ++ back)) := by
  cases f with
  | sqlite =>
      refine ⟨", ".intercalate (Sqlite.tableParts s) ++ ");", ?_⟩
      change Sqlite.createTable s table = _
      unfold Sqlite.createTable
      simp only [String.append_assoc]
  | mysql =>
      refine ⟨", ".intercalate (MySql.tableParts s) ++ (") ENGINE=InnoDB DEFAULT CHARSET="
          ++ (MySql.charset charset ++ ";")), ?_⟩
      change MySql.createTable s table charset = _
      unfold MySql.createTable
      simp only [String.append_assoc]

theorem tableTexts_create (f : Flavor) (s : Schema) (table charset : String) :
    tableTexts r (f.dialect.createTable s table charset) = [quoteName table] := by
  rcases createTable_form f s table charset with ⟨back, hback⟩
  have hfront : Leads r Token.isTableWord "CREATE TABLE IF NOT EXISTS " := fun _ h =>
    dropWhile_isFiller h
  rw [hback]
  exact tableTexts_name hfront table (breaks_group.ends back)

theorem tableTexts_truncate (f : Flavor) (table : String) :
    tableTexts r (f.dialect.truncate table) = [quoteName table] := by
  cases f with
  | sqlite =>
      have hfront : Leads r Token.isTableWord "DELETE FROM " := fun _ h => dropWhile_isFiller h
      have htexts := tableTexts_name hfront table ends_semicolon
      rwa [← String.append_assoc] at htexts
  | mysql =>
      have hfront : Leads r Token.isTableWord "TRUNCATE TABLE " := fun _ h => dropWhile_isFiller h
      have htexts := tableTexts_name hfront table ends_semicolon
      rwa [← String.append_assoc] at htexts

theorem tableTexts_update {q : UpdateQuery} {s : Statement} (h : q.compile = .ok s) :
    tableTexts r s.sql = [quotePath q.table] := by
  rcases exists_of_bind_ok h with ⟨table, htable, h⟩
  rcases exists_of_bind_ok (of_check_ok h) with ⟨assigned, -, h⟩
  rcases exists_of_bind_ok h with ⟨w, -, h⟩
  cases h
  have hset : Breaks r " SET " := breaks_word (w := "SET") rfl (by decide) (by decide)
  have hfront : Leads r Token.isTableWord "UPDATE " := fun _ h => dropWhile_isFiller h
  have htexts := tableTexts_path hfront q.table
    (hset.ends (", ".intercalate assigned.sets ++ (w.1 ++ ";")))
  simpa only [quoteTable_ok htable, String.append_assoc] using htexts

theorem tableTexts_delete {q : DeleteQuery} {s : Statement} (h : q.compile = .ok s) :
    tableTexts r s.sql = [quotePath q.table] := by
  rcases exists_of_bind_ok h with ⟨table, htable, h⟩
  rcases exists_of_bind_ok h with ⟨w, hw, h⟩
  cases h
  have hfront : Leads r Token.isTableWord "DELETE FROM " := fun _ h => dropWhile_isFiller h
  have htexts := tableTexts_path hfront q.table (ends_where hw ends_semicolon)
  simpa only [quoteTable_ok htable, String.append_assoc] using htexts

/-! ### Selections -/

/-- What a selection returns is no table. -/
theorem avoids_projection (p : Projection) : Avoids r Token.isTableWord p.text := by
  have hsigns : ∀ t ∈ projectionSigns, t.isTableWord = false := by decide
  refine (lexes_projection p).avoids fun t ht => ?_
  rcases mem_projectionTokens p t ht with hpart | hsign
  · exact isTableWord_of_isNamePart hpart
  · exact hsigns t hsign

theorem tableTexts_select {q : SelectQuery} {s : Statement} (h : q.compile = .ok s) :
    tableTexts r s.sql = q.tables.map quotePath := by
  rcases SelectQuery.compile_eq_ok_iff.mp h with ⟨hsound, w, hw, rfl⟩
  have hdistinct : Avoids r Token.isTableWord
      ((if q.distinct then "DISTINCT " else "") ++ q.projection.text) := by
    have hfields := avoids_projection (r := r) q.projection
    cases q.distinct with
    | true => exact hfields.after ⟨[.word "DISTINCT"], fun _ => rfl, by decide⟩
    | false => exact hfields.after ⟨[], fun _ => rfl, by decide⟩
  have hword : AvoidsApart r Token.isTableWord "SELECT " :=
    ⟨[.word "SELECT"], fun _ => rfl, by decide⟩
  have hfrom : Leads r Token.isTableWord " FROM " := fun _ h => dropWhile_isFiller h
  have hfront := hfrom.after (hdistinct.after hword) fun _ => open_blank _
  have hends := ends_tables (r := r) hw (q.groupBy.map quotePath) (q.orderBy.map orderText) q.limit
  have htexts := listedNames_paths hfront hsound.hasTables isComma_spaced hends
  unfold SelectQuery.text
  simpa only [tableTexts, String.append_assoc] using htexts

/-! ### Inserts -/

/-- The form of an insert that compiles. -/
theorem insert_form {d : Dialect} {q : InsertQuery} {s : Statement} (h : q.compile d = .ok s) :
    q.keys ≠ [] ∧ (q.mode = .update → q.updateColumns ≠ [])
      ∧ s.sql = d.insertPhrase q.mode ++ " " ++ quotePath q.table ++ " ("
        ++ ",".intercalate (q.keys.map quotePath) ++ ") VALUES "
        ++ ", ".intercalate (rowGroups q.keys.length 0 q.rows)
        ++ (if q.mode = .update then d.upsert q.updateColumns else "") ++ ";" := by
  rcases InsertQuery.compile_eq_ok_iff.mp h with ⟨hsound, rfl⟩
  refine ⟨hsound.hasKeys, hsound.overwrites, ?_⟩
  rw [InsertQuery.rowGroups_eq_group]
  rfl

/-- The words that an insert begins with. -/
def Flavor.phrase (f : Flavor) (mode : InsertMode) : List Token :=
  match f, mode with
  | _, .normal | _, .update => [.word "INSERT", .word "INTO"]
  | .sqlite, .ignore => [.word "INSERT", .word "OR", .word "IGNORE", .word "INTO"]
  | .mysql, .ignore => [.word "INSERT", .word "IGNORE", .word "INTO"]

theorem leads_phrase (f : Flavor) (mode : InsertMode) :
    Leads r Token.isTableWord (f.dialect.insertPhrase mode ++ " ") := by
  cases f <;> cases mode <;> exact fun _ h => dropWhile_isFiller h

theorem avoids_phrase (f : Flavor) (mode : InsertMode) {p : Token → Bool}
    (hp : ∀ t ∈ f.phrase mode, p t = false) :
    AvoidsApart r p (f.dialect.insertPhrase mode ++ " ") := by
  refine ⟨f.phrase mode, ?_, hp⟩
  cases f <;> cases mode <;> exact fun _ => rfl

section

variable {f : Flavor} {q : InsertQuery} {s : Statement}

theorem tableTexts_insert (h : q.compile f.dialect = .ok s) :
    tableTexts r s.sql = [quotePath q.table] := by
  rcases insert_form h with ⟨-, -, hsql⟩
  rw [hsql]
  simp only [String.append_assoc]
  rw [← String.append_assoc]
  exact tableTexts_path (leads_phrase f q.mode) q.table (breaks_group.ends _)

/-- The columns of an insert are quoted segment by segment. -/
theorem columnTexts_insert (h : q.compile f.dialect = .ok s) :
    columnTexts r s.sql = q.keys.map quotePath := by
  rcases insert_form h with ⟨hkeys, -, hsql⟩
  have htable : Avoids r (· == .sign '(') (quotePath q.table) :=
    Avoids.path (fun _ => ne_of_isNamePart rfl) q.table
  have hphrase : ∀ t ∈ f.phrase q.mode, (t == .sign '(') = false := by
    cases f <;> cases q.mode <;> decide
  have hfront := htable.after (avoids_phrase f q.mode hphrase)
  have hgroup : Leads r (· == .sign '(') " (" := fun _ h => dropWhile_isFiller h
  have hvalues : Breaks r ") VALUES " := breaks_sign (c := ')') (Or.inl rfl) (by decide) (by decide)
  have htexts := listedNames_paths (hgroup.after hfront fun _ => open_blank _) hkeys
    isComma_tight (hvalues.ends (", ".intercalate (rowGroups q.keys.length 0 q.rows)
      ++ ((if q.mode = .update then f.dialect.upsert q.updateColumns else "") ++ ";")))
  rw [hsql, columnTexts]
  simpa only [String.append_assoc] using htexts

end

/-! ### Rows that are overwritten -/

theorem lexes_placeholder (n : Nat) :
    Lexes r (cellPlaceholder n) [.sign ':', .word ("_INSERT_" ++ toString n)] := by
  have hsign : LexesApart r ":" [.sign ':'] := fun _ => rfl
  have hstem : IsWord "_INSERT_" := by decide
  have hword : IsWord ("_INSERT_" ++ toString n) := by
    rw [IsWord, String.toList_append]
    refine ⟨List.append_ne_nil_of_left_ne_nil hstem.1 _, ?_⟩
    exact List.forall_mem_append.mpr ⟨hstem.2, (MySql.isWord_nat n).2⟩
  have hplaceholder : cellPlaceholder n = ":" ++ ("_INSERT_" ++ toString n) := by
    rw [← String.append_assoc]
    rfl
  rw [hplaceholder]
  exact hsign.append_lexes fun rest hrest => lex_word hword fun c hc => (hrest c hc).1

theorem avoids_placeholder (n : Nat) : Avoids r (· == .word "UPDATE") (cellPlaceholder n) := by
  refine (lexes_placeholder n).avoids (List.forall_mem_cons.mpr ⟨rfl, fun t ht => ?_⟩)
  rw [List.mem_singleton.mp ht, beq_eq_false_iff_ne]
  intro hsame
  have hchars := congrArg String.toList (Token.word.inj hsame)
  rw [String.toList_append] at hchars
  cases hchars

theorem rowGroups_form {width start : Nat} {rows : List (List Value)} {text : String}
    (h : text ∈ rowGroups width start rows) :
    ∃ first, text = "(" ++ ", ".intercalate (cellPlaceholders first width) ++ ")" := by
  induction rows generalizing start with
  | nil => exact nomatch h
  | cons row rows ih =>
      rcases List.mem_cons.mp h with rfl | h
      · exact ⟨start, rfl⟩
      · exact ih h

theorem avoids_groups (width start : Nat) (rows : List (List Value)) :
    Avoids r (· == .word "UPDATE") (", ".intercalate (rowGroups width start rows)) := by
  refine Avoids.listed (fun text htext => ?_) rfl isComma_spaced
  rcases rowGroups_form htext with ⟨first, rfl⟩
  have hcells : Avoids r (· == .word "UPDATE")
      (", ".intercalate (cellPlaceholders first width)) := by
    refine Avoids.listed (fun text htext => ?_) rfl isComma_spaced
    rcases List.mem_map.mp htext with ⟨i, -, rfl⟩
    exact avoids_placeholder (first + i)
  have hclosing : Lexes r ")" [.sign ')'] := fun _ _ => rfl
  have hgroup := hcells.append (hclosing.avoids (by decide)) fun _ => open_of_isSign rfl _
  rw [String.append_assoc]
  exact hgroup.after ⟨[.sign '('], fun _ => rfl, by decide⟩

/-- In front of what an insert overwrites, nothing asks for it. -/
theorem avoids_rows (f : Flavor) (q : InsertQuery) :
    Avoids r (· == .word "UPDATE") (f.dialect.insertPhrase q.mode ++ " " ++ (quotePath q.table
      ++ (" (" ++ (",".intercalate (q.keys.map quotePath) ++ (") VALUES "
        ++ ", ".intercalate (rowGroups q.keys.length 0 q.rows)))))) := by
  have hname : ∀ t : Token, t.isNamePart = true → (t == .word "UPDATE") = false := fun _ =>
    ne_of_isNamePart rfl
  have hkeys : Avoids r (· == .word "UPDATE") (",".intercalate (q.keys.map quotePath)) := by
    refine Avoids.listed (fun text htext => ?_) rfl isComma_tight
    rcases List.mem_map.mp htext with ⟨key, -, rfl⟩
    exact Avoids.path hname key
  have hvalues : AvoidsApart r (· == .word "UPDATE") ") VALUES " :=
    ⟨[.sign ')', .word "VALUES"], fun _ => rfl, by decide⟩
  have hgroup : AvoidsApart r (· == .word "UPDATE") " (" := ⟨[.sign '('], fun _ => rfl, by decide⟩
  have hphrase : ∀ t ∈ f.phrase q.mode, (t == .word "UPDATE") = false := by
    cases f <;> cases q.mode <;> decide
  have hrows := (avoids_groups q.keys.length 0 q.rows).after hvalues
  have hclose : ∀ rest, Open (") VALUES ".toList ++ rest) := fun _ => open_of_isSign rfl _
  have hcolumns := (hkeys.append hrows (open_append hclose _)).after hgroup
  have hopen : ∀ rest, Open (" (".toList ++ rest) := fun _ => open_blank _
  exact ((Avoids.path hname q.table).append hcolumns (open_append hopen _)).after
    (avoids_phrase f q.mode hphrase)

/-- The assignment by which a row that is there takes over a value. -/
def Flavor.takeover : Flavor → String → List Token
  | .sqlite, c => [.quoted .name c, .sign '=', .word "excluded.", .quoted .name c]
  | .mysql, c => [.quoted .name c, .sign '=', .word "VALUES", .sign '(', .quoted .name c, .sign ')']

theorem begins_takeover (f : Flavor) (columns : List String) :
    ∀ ts ∈ columns.map f.takeover, Begins ts := by
  intro ts hts
  rcases List.mem_map.mp hts with ⟨c, -, rfl⟩
  cases f with
  | sqlite => exact ⟨c, _, rfl⟩
  | mysql => exact ⟨c, _, rfl⟩

theorem listedNames_takeover (f : Flavor) (c : String) :
    listedNames (f.takeover c) = [quoteName c] := by
  have hparts : ∀ ts ∈ [[Token.quoted .name c]], IsName ts := fun ts hts =>
    List.mem_singleton.mp hts ▸ isName_quoted c
  have hnames : ∀ others, listedNames (.quoted .name c :: .sign '=' :: others) = [quoteName c] := by
    intro others
    have hends : ∀ t ∈ (Token.sign '=' :: others).head?, t.isListed = false := fun t ht =>
      Option.some.inj ht ▸ rfl
    have hlist := listedNames_append (List.cons_ne_nil _ _) hparts hends
    rwa [List.intercalate_singleton, List.map_singleton, written_quoted] at hlist
  cases f with
  | sqlite => exact hnames _
  | mysql => exact hnames _

/-- Assignments are read back one by one. -/
theorem assignedNames_takeover (f : Flavor) {columns : List String} (hne : columns ≠ []) :
    assignedNames ([.sign ','].intercalate (columns.map f.takeover) ++ [.sign ';'])
      = columns.map quoteName := by
  have hsemicolon : ∀ t ∈ [Token.sign ','].intercalate (columns.map f.takeover),
      (t != .sign ';') = true := by
    refine forall_mem_intercalate (by decide) fun part hpart => ?_
    rcases List.mem_map.mp hpart with ⟨c, -, rfl⟩
    cases f <;> simp [Flavor.takeover]
  have hcomma : ∀ ts ∈ columns.map f.takeover, Token.sign ',' ∉ ts := by
    intro ts hts
    rcases List.mem_map.mp hts with ⟨c, -, rfl⟩
    cases f <;> simp [Flavor.takeover]
  have hends : [Token.sign ';'].takeWhile (· != .sign ';') = [] := rfl
  rw [assignedNames, List.takeWhile_append_of_pos hsemicolon, hends, List.append_nil,
    List.splitOn_intercalate _ hcomma (fun hnone => hne (List.map_eq_nil_iff.mp hnone)),
    List.flatMap_map]
  simp only [listedNames_takeover]
  exact (List.map_eq_flatMap).symm

/-- An insert that overwrites asks for it, and then lists its assignments. -/
theorem lexes_upsert (f : Flavor) (columns : List String) :
    ∃ lead items, f.dialect.upsert columns = lead ++ items
      ∧ Leads r (· == .word "UPDATE") lead ∧ (∀ rest, Open (lead.toList ++ rest))
      ∧ Lexes r items ([.sign ','].intercalate (columns.map f.takeover)) := by
  cases f with
  | sqlite =>
      refine ⟨" ON CONFLICT DO UPDATE SET ", _, rfl, fun _ h => dropWhile_isFiller h,
        fun _ => open_blank _, lexes_listed (fun c _ => ?_) isComma_spaced⟩
      have hname := lexes_quoteName (r := r) c
      have hequals : LexesApart r " = " [.sign '='] := fun _ => rfl
      have hvalue : Lexes r ("excluded." ++ quoteName c) [.word "excluded.", .quoted .name c] := by
        intro rest hrest
        have hquote : ∀ d ∈ ((quoteName c).toList ++ rest).head?, isWordChar d = false := by
          rw [head?_quoteName]
          exact fun d hd => Option.some.inj hd ▸ rfl
        rw [String.toList_append, List.append_assoc, lex_word (by decide) hquote, hname rest hrest]
        rfl
      have htext : quoteName c ++ " = excluded." ++ quoteName c
          = quoteName c ++ " = " ++ ("excluded." ++ quoteName c) := by
        rw [show " = excluded." = " = " ++ "excluded." from rfl, ← String.append_assoc,
          ← String.append_assoc]
      rw [htext]
      exact (hname.append_apart hequals fun _ => open_blank _).append_lexes hvalue
  | mysql =>
      refine ⟨" ON DUPLICATE KEY UPDATE ", _, rfl, fun _ h => dropWhile_isFiller h,
        fun _ => open_blank _, lexes_listed (fun c _ => ?_) isComma_spaced⟩
      have hname := lexes_quoteName (r := r) c
      have hvalues : LexesApart r " = VALUES(" [.sign '=', .word "VALUES", .sign '('] :=
        fun _ => rfl
      have hclosing : LexesApart r ")" [.sign ')'] := fun _ => rfl
      exact (((hname.append_apart hvalues fun _ => open_blank _).append_lexes hname).append_apart
        hclosing fun _ => open_of_isSign rfl _).lexes

/-- The columns that an insert overwrites are quoted as a whole. -/
theorem overwrittenTexts_insert {f : Flavor} {q : InsertQuery} {s : Statement}
    (h : q.compile f.dialect = .ok s) (hmode : q.mode = .update) :
    overwrittenTexts r s.sql = q.updateColumns.map quoteName := by
  rcases insert_form h with ⟨-, hcolumns, hsql⟩
  rcases lexes_upsert (r := r) f q.updateColumns with ⟨lead, items, hupsert, hlead, hopen, hitems⟩
  have hfront := hlead.after (avoids_rows f q) hopen
  have hlist : lex r (items ++ ";").toList
      = [.sign ','].intercalate (q.updateColumns.map f.takeover) ++ [.sign ';'] := by
    rw [String.toList_append, hitems _ (ends_semicolon (r := r)).opens]
    rfl
  have hbegins := head?_listed (fun hnone => hcolumns hmode (List.map_eq_nil_iff.mp hnone))
    (begins_takeover f q.updateColumns) [.sign ';']
  have hbehind := hfront (items ++ ";").toList (hlist ▸ hbegins)
  rw [hlist, ← String.toList_append] at hbehind
  rw [hsql, if_pos hmode, hupsert, overwrittenTexts]
  simp only [String.append_assoc] at hbehind ⊢
  rw [hbehind, assignedNames_takeover f (hcolumns hmode)]

/-! ### One name in all statements -/

/-- How each statement writes its tables. -/
theorem tableTexts_issued {f : Flavor} {p : Purpose} {tables : List String} {sql : String}
    (h : Issued f.dialect p tables sql) : tableTexts r sql = tables.map p.written := by
  cases h with
  | probe table => exact tableTexts_probe table
  | create s table charset => exact tableTexts_create f s table charset
  | truncate table => exact tableTexts_truncate f table
  | drop table => exact tableTexts_drop table
  | @query q s h =>
      cases q with
      | select q =>
          rw [(SelectQuery.kind h).2]
          exact tableTexts_select h
      | insert q =>
          rw [(InsertQuery.kind h).2]
          exact tableTexts_insert h
      | update q =>
          rw [(UpdateQuery.kind h).2]
          exact tableTexts_update h
      | delete q =>
          rw [(DeleteQuery.kind h).2]
          exact tableTexts_delete h

theorem written_eq_of_not_mem {table : String} (h : '.' ∉ table.toList) (p : Purpose) :
    p.written table = quotePath table := by
  cases p with
  | creating => exact (quoteName_eq_quotePath_iff table).mpr h
  | emptying => exact (quoteName_eq_quotePath_iff table).mpr h
  | _ => rfl

/-- Statements about a table agree on its name if and only if it has no dot. -/
theorem issued_agree_iff (f : Flavor) (r : Rules) (table : String) :
    (∀ p p' sql sql', Issued f.dialect p [table] sql → Issued f.dialect p' [table] sql' →
      tableTexts r sql = tableTexts r sql') ↔ '.' ∉ table.toList := by
  constructor
  · intro hagree
    have hsame := hagree _ _ _ _ (.truncate table) (.probe table)
    rw [tableTexts_truncate, tableTexts_probe] at hsame
    exact (quoteName_eq_quotePath_iff table).mp (List.cons.inj hsame).1
  · intro hdot p p' sql sql' h h'
    rw [tableTexts_issued h, tableTexts_issued h', List.map_singleton, List.map_singleton,
      written_eq_of_not_mem hdot, written_eq_of_not_mem hdot]

theorem map_quote_eq_iff (columns : List String) :
    columns.map quoteName = columns.map quotePath ↔ ∀ c ∈ columns, '.' ∉ c.toList := by
  rw [List.map_inj_left]
  exact forall₂_congr fun c _ => quoteName_eq_quotePath_iff c

theorem issued_of_migrating {db : Database η σ} {entity : Entity} {table sql : String}
    (h : ∃ schema, entity.schema = .ok schema ∧ db.SendsMigrating schema table sql) :
    (∃ schema before statements, entity.schema = .ok schema
        ∧ schema.upgradePath before schema.version = .ok statements ∧ sql ∈ statements)
      ∨ ∃ p, Issued db.dialect p [table] sql := by
  rcases h with ⟨schema, hschema, rfl | rfl | ⟨before, statements, hpath, hsql⟩⟩
  · exact Or.inr ⟨_, .probe table⟩
  · exact Or.inr ⟨_, .create schema table db.config.charset⟩
  · exact Or.inl ⟨schema, before, statements, hschema, hpath, hsql⟩

/-- What an operation sends is issued for its tables, unless it was given to it. -/
theorem issued_of_sends {db : Database η σ} {op : Operation} {sql : String}
    (h : op.Sends db sql) : op.Given sql ∨ ∃ p, Issued db.dialect p op.about sql := by
  cases op with
  | execute text binds readonly => exact Or.inl h
  | run s => exact Or.inl h
  | runInsert s => exact Or.inl h
  | read s use =>
      rcases h with ⟨q, statement, hq, hcompile, rfl⟩
      have htables : q.tables = s.query.tables := by
        rcases hq with rfl | ⟨-, rfl⟩
        · cases use <;> rfl
        · rfl
      have hissued := Issued.query (d := db.dialect) (q := .select q) hcompile
      rw [(SelectQuery.kind hcompile).2, htables] at hissued
      exact Or.inr ⟨_, hissued⟩
  | insert q =>
      rcases h with ⟨statement, hcompile, rfl⟩
      have hissued := Issued.query (q := .insert q) hcompile
      rw [(InsertQuery.kind hcompile).2] at hissued
      exact Or.inr ⟨_, hissued⟩
  | update q =>
      rcases h with ⟨statement, hcompile, rfl⟩
      have hissued := Issued.query (d := db.dialect) (q := .update q) hcompile
      rw [(UpdateQuery.kind hcompile).2] at hissued
      exact Or.inr ⟨_, hissued⟩
  | delete q =>
      rcases h with ⟨statement, hcompile, rfl⟩
      have hissued := Issued.query (d := db.dialect) (q := .delete q) hcompile
      rw [(DeleteQuery.kind hcompile).2] at hissued
      exact Or.inr ⟨_, hissued⟩
  | probe table =>
      obtain rfl : sql = probeStatement table := h
      exact Or.inr ⟨_, .probe table⟩
  | truncate table =>
      obtain rfl : sql = db.dialect.truncate table := h
      exact Or.inr ⟨_, .truncate table⟩
  | drop table =>
      obtain rfl : sql = dropStatement table := h
      exact Or.inr ⟨_, .drop table⟩
  | initTable table entity => exact issued_of_migrating h
  | migrate table entity => exact issued_of_migrating h
  | _ => exact absurd h id

/-- In either dialect, statements write the names in them by these rules. -/
theorem issued_names {db : Database η σ} {f : Flavor} (hdialect : db.dialect = f.dialect)
    (r : Rules) : Renders db r where
  sends op s := by
    have hsending : (sending η σ fun sql => sql ∈ transactionWords ∨ op.Given sql
        ∨ ∃ p, Issued db.dialect p op.about sql).Holds (op.perform db).run :=
      sending_perform (fun _ => Or.inl) fun _ hsends => Or.inr (issued_of_sends hsends)
    exact hsending s
  tables h := tableTexts_issued (hdialect ▸ h)
  agree := hdialect ▸ issued_agree_iff f r
  columns h := columnTexts_insert (hdialect ▸ h)
  overwritten h := overwrittenTexts_insert (hdialect ▸ h)
  agreeColumns h hmode hsame := by
    rw [hdialect] at h
    rw [columnTexts_insert h, overwrittenTexts_insert h hmode, hsame]
    exact map_quote_eq_iff _

/-- A note in a schema, written once more. -/
def rewriting : InsertQuery where
  table := "main.notes"
  mode := .update
  keys := ["id", "n.text"]
  rows := [[.int 1, .text "a"]]
  updateColumns := ["id", "n.text"]

/-- The rules of MySQL, with no name that needs no quotes. -/
def Rules.mysql : Rules :=
  ⟨.mysql, fun _ => false⟩

theorem issued_names_notes :
    let db : Database Unit Unit :=
      { client := .obliging, dialect := .mysql, config := .sqlite "file", options := { } }
    Renders db .mysql ∧ ∃ s, rewriting.compile .mysql = .ok s
      ∧ tableTexts .mysql s.sql = ["`main`.`notes`"]
      ∧ tableTexts .mysql (Dialect.mysql.truncate "main.notes") = ["`main.notes`"]
      ∧ columnTexts .mysql s.sql = ["`id`", "`n`.`text`"]
      ∧ overwrittenTexts .mysql s.sql = ["`id`", "`n.text`"] := by
  intro db
  have hrenders : Renders db .mysql := issued_names (f := .mysql) rfl .mysql
  have hcompile : ∃ s, rewriting.compile .mysql = .ok s := ⟨_, rfl⟩
  rcases hcompile with ⟨s, hs⟩
  refine ⟨hrenders, s, hs, ?_, ?_, (hrenders.columns hs).trans (by decide),
    (hrenders.overwritten hs rfl).trans (by decide)⟩
  · have hquery : Query.compile .mysql (.insert rewriting) = .ok s := hs
    rw [hrenders.tables (.query hquery), (InsertQuery.kind hs).2]
    decide
  · exact (hrenders.tables (.truncate "main.notes")).trans (by decide)

/-- A table in a schema is created under another name than the one by which it is used. -/
theorem dotted_table_misnamed :
    ¬ ∀ (f : Flavor) (r : Rules) (table : String), isIdentifier table = true →
      ∀ p p' sql sql', Issued f.dialect p [table] sql → Issued f.dialect p' [table] sql' →
        tableTexts r sql = tableTexts r sql' := by
  intro hall
  have hsame := hall .mysql .mysql "main.notes" (by decide) _ _ _ _
    (.create seating.layout "main.notes" "utf8mb4") (.probe "main.notes")
  rw [tableTexts_create, tableTexts_probe] at hsame
  exact (quoteName_eq_quotePath_iff "main.notes").mp (List.cons.inj hsame).1 (by decide)

end Ddl

end SqlMapper
