import Mathlib.Data.List.Infix
import SqlMapper.Proofs.Cache.Tracking
import SqlMapper.Proofs.Registry.Separation
import SqlMapper.Proofs.Statement.Cells
import SqlMapper.Proofs.Statement.Naming

/-!
# Spellings of a Table

Which cached reads a write to a table with a schema drops.

A table in a schema can be read with the schema in front of its name and
without. A hand-written statement drops the reads of both, however the table is
quoted in it. A statement that was compiled says itself which table it writes,
and so does the emptying of a table; they drop the reads of the table as it is
called there, and no others, although their text names the table as well as any
hand-written one. So a read of the table without its schema is answered from the
cache behind such a write.

## Main definitions

* `Opens`: How a text begins behind which a table is named.
* `BuiltWrite`: The operations that write a table without a hand-written text, and their texts.
* `untouched`: The frame of what is cached under some keys.

## Theorems

* `Opens.path`, `Opens.name`: A quoted table behind such a beginning is named.
* `BuiltWrite.names`: The text of a write that is not hand-written names its table.
* `untouched_perform`: An operation leaves alone what it does not drop.
* `spellings_dropped`: What each kind of write drops.
* `spelling_rests`: A write to a table leaves a read of it cached that does without the schema.
-/

namespace SqlMapper

open Text

variable {η σ α : Type}

/-! ### Texts that name a table -/

/-- A text begins so that a table is named behind it. -/
def Opens (text : List Char) : Prop :=
  ∃ front introduction, text = front ++ introduction ∧ EndsWord front ∧ ¬ Expects front
    ∧ Introduces introduction

/-- Whether a word that stands before a table occurs in a text. -/
def mentions (cs : List Char) : Bool :=
  cs.tails.any fun rest =>
    (['t', 'a', 'b', 'l', 'e'] :: introducers).any fun word => (keyword? word rest).isSome

theorem mentions_of_introduces {introduction : List Char} (h : Introduces introduction)
    (before rest : List Char) : mentions (before ++ (introduction ++ rest)) = true := by
  rcases h.exists_word with ⟨word, hmem, w, gap, behind, rfl, hw, -⟩
  have htail : w ++ (gap ++ behind ++ rest) ∈ (before ++ (w ++ gap ++ behind ++ rest)).tails := by
    refine (List.mem_tails _ _).mpr ⟨before, ?_⟩
    simp only [List.append_assoc]
  refine List.any_eq_true.mpr ⟨_, htail, List.any_eq_true.mpr ⟨word, hmem, ?_⟩⟩
  rw [keyword?_of_spells hw]
  rfl

/-- A table is expected only behind a text that such a word occurs in. -/
theorem Expects.mentions {front : List Char} (h : Expects front) : mentions front = true := by
  rcases h with ⟨before, introduction, begun, c, rest, rfl, -, hintroduces, -, -⟩
  rw [List.append_assoc]
  exact mentions_of_introduces hintroduces before begun

/-- A word behind a front without such words opens. -/
theorem opens_of_keyword? (front introduction w gap : List Char) {word : List Char}
    (hword : word ∈ ['t', 'a', 'b', 'l', 'e'] :: introducers)
    (hread : keyword? word introduction = some (w, gap)) (hgap : IsGap gap)
    (hends : atWordStart front.getLast? = true) (hfree : mentions front = false) :
    Opens (front ++ introduction) := by
  refine ⟨front, introduction, rfl, (atWordStart_iff front).mp ?_, fun hexpects => ?_, ?_⟩
  · rwa [passing_none]
  · rw [hexpects.mentions] at hfree
    cases hfree
  · rw [← keyword?_append hread]
    rcases List.mem_cons.mp hword with rfl | hword
    · exact .table (keyword?_letters hread) hgap
    · exact .word hword (keyword?_letters hread) hgap

/-- The beginnings of the statements that are compiled. -/
def stockOpenings : List String :=
  ["INSERT INTO ", "INSERT IGNORE INTO ", "INSERT OR IGNORE INTO ", "UPDATE ", "DELETE FROM ",
    "TRUNCATE TABLE "]

theorem opens_stock : ∀ text ∈ stockOpenings, Opens text.toList := by
  have hgap : IsGap [' '] := isGap_of_all (by decide)
  have hinto : ['i', 'n', 't', 'o'] ∈ ['t', 'a', 'b', 'l', 'e'] :: introducers := by decide
  have hupdate : ['u', 'p', 'd', 'a', 't', 'e'] ∈ ['t', 'a', 'b', 'l', 'e'] :: introducers := by
    decide
  have hfrom : ['f', 'r', 'o', 'm'] ∈ ['t', 'a', 'b', 'l', 'e'] :: introducers := by decide
  have htable : ['t', 'a', 'b', 'l', 'e'] ∈ ['t', 'a', 'b', 'l', 'e'] :: introducers := by decide
  intro text htext
  simp only [stockOpenings, List.mem_cons, List.not_mem_nil, or_false] at htext
  rcases htext with rfl | rfl | rfl | rfl | rfl | rfl
  · exact opens_of_keyword? "INSERT ".toList "INTO ".toList "INTO".toList [' '] hinto
      (by decide) hgap (by decide) (by decide)
  · exact opens_of_keyword? "INSERT IGNORE ".toList "INTO ".toList "INTO".toList [' '] hinto
      (by decide) hgap (by decide) (by decide)
  · exact opens_of_keyword? "INSERT OR IGNORE ".toList "INTO ".toList "INTO".toList [' '] hinto
      (by decide) hgap (by decide) (by decide)
  · exact opens_of_keyword? [] "UPDATE ".toList "UPDATE".toList [' '] hupdate
      (by decide) hgap (by decide) (by decide)
  · exact opens_of_keyword? "DELETE ".toList "FROM ".toList "FROM".toList [' '] hfrom
      (by decide) hgap (by decide) (by decide)
  · exact opens_of_keyword? "TRUNCATE ".toList "TABLE ".toList "TABLE".toList [' '] htable
      (by decide) hgap (by decide) (by decide)

/-- The segments of an identifier are words. -/
theorem segment_words {table schema name : String} (htable : isIdentifier table = true)
    (hsegments : segments '.' table = [schema, name]) :
    table.toList = schema.toList ++ '.' :: name.toList
      ∧ (schema.toList ≠ [] ∧ ∀ c ∈ schema.toList, isAsciiWord c = true)
      ∧ (name.toList ≠ [] ∧ ∀ c ∈ name.toList, isAsciiWord c = true) := by
  have hsplit := splitOn_of_segments hsegments
  have hall : ∀ segment ∈ table.toList.splitOn '.', segment ≠ []
      ∧ ∀ c ∈ segment, isAsciiWord c = true := by
    intro segment hsegment
    have hboth := List.all_eq_true.mp htable segment hsegment
    rw [Bool.and_eq_true, List.all_eq_true, Bool.not_eq_true'] at hboth
    refine ⟨?_, hboth.2⟩
    rintro rfl
    cases hboth.1
  rw [hsplit] at hall
  exact ⟨toList_of_segments hsegments, hall _ List.mem_cons_self, hall _ (by simp)⟩

theorem ne_backtick_of_isAsciiWord {c : Char} (h : isAsciiWord c = true) : c ≠ backtick := by
  rintro rfl
  exact absurd h (by decide)

theorem doubled_eq_self {mark : Char} {cs : List Char} (h : ∀ c ∈ cs, c ≠ mark) :
    doubled mark cs = cs := by
  induction cs with
  | nil => rfl
  | cons c cs ih =>
      have hrest := ih fun d hd => h d (List.mem_cons_of_mem c hd)
      rw [doubled] at hrest
      rw [doubled, List.flatMap_cons, if_neg (h c List.mem_cons_self), hrest,
        List.singleton_append]

theorem isQuotation_backtick : IsQuotation [backtick] :=
  Or.inr ⟨backtick, by decide, rfl⟩

namespace Opens

variable {opening table schema name : String}

/-- A table whose segments are quoted is named behind an opening. -/
theorem path (h : Opens opening.toList) (htable : isIdentifier table = true)
    (hsegments : segments '.' table = [schema, name]) (rest : String) :
    Names schema.toList name.toList (opening ++ quotePath table ++ rest).toList := by
  rcases h with ⟨front, introduction, hopening, hends, hfree, hintroduces⟩
  rcases segment_words htable hsegments with ⟨-, ⟨hschema, hschema'⟩, hname, hname'⟩
  have hquoted : ∀ {s : String}, (∀ c ∈ s.toList, isAsciiWord c = true) →
      (quoteName s).toList = [backtick] ++ s.toList ++ [backtick] := by
    intro s hs
    rw [quoteName, String.toList_ofList, quotedChars,
      doubled_eq_self fun c hc => ne_backtick_of_isAsciiWord (hs c hc)]
    rfl
  have hpath : (quotePath table).toList = ([backtick] ++ schema.toList ++ [backtick])
      ++ '.' :: ([backtick] ++ name.toList ++ [backtick]) := by
    rw [quotePath, hsegments, List.map_cons, List.map_cons, List.map_nil,
      String.intercalate_cons_cons, String.intercalate_singleton, String.toList_append,
      String.toList_append, hquoted hschema', hquoted hname', List.append_assoc]
    rfl
  rw [String.toList_append, String.toList_append, hopening, hpath]
  refine .intro front introduction _ _ rest.toList hends hfree hintroduces
    (isSegment_quoted (by decide) hschema fun c hc => isWord_of_isAsciiWord (hschema' c hc))
    (isSegment_quoted (by decide) hname fun c hc => isWord_of_isAsciiWord (hname' c hc))
    (Or.inr ⟨backtick, ?_, by decide⟩)
  rw [List.getLast?_append]
  rfl

/-- So is one that is quoted as a whole. -/
theorem whole (h : Opens opening.toList) (htable : isIdentifier table = true)
    (hsegments : segments '.' table = [schema, name]) (rest : String) :
    Names schema.toList name.toList (opening ++ quoteName table ++ rest).toList := by
  rcases h with ⟨front, introduction, hopening, hends, hfree, hintroduces⟩
  rcases segment_words htable hsegments with ⟨hsplit, ⟨hschema, hschema'⟩, hname, hname'⟩
  have hquoted : (quoteName table).toList = ([backtick] ++ schema.toList ++ [])
      ++ '.' :: ([] ++ name.toList ++ [backtick]) := by
    have hplain : ∀ c ∈ table.toList, c ≠ backtick := by
      intro c hc
      rw [hsplit, List.mem_append, List.mem_cons] at hc
      rcases hc with hc | rfl | hc
      · exact ne_backtick_of_isAsciiWord (hschema' c hc)
      · decide
      · exact ne_backtick_of_isAsciiWord (hname' c hc)
    rw [quoteName, String.toList_ofList, quotedChars, doubled_eq_self hplain, hsplit]
    simp only [List.append_nil, List.nil_append, List.append_assoc, List.cons_append]
  rw [String.toList_append, String.toList_append, hopening, hquoted]
  refine .intro front introduction _ _ rest.toList hends hfree hintroduces
    ⟨_, _, isQuotation_backtick, Or.inl rfl, hschema, fun c hc =>
      isWord_of_isAsciiWord (hschema' c hc), rfl⟩
    ⟨_, _, Or.inl rfl, isQuotation_backtick, hname, fun c hc =>
      isWord_of_isAsciiWord (hname' c hc), rfl⟩ (Or.inr ⟨backtick, ?_, by decide⟩)
  rw [List.getLast?_append]
  rfl

end Opens

/-! ### Writes that are not hand-written -/

theorem InsertQuery.text {d : Dialect} {q : InsertQuery} {w : Statement}
    (h : q.compile d = .ok w) :
    ∃ rest, w.sql = d.insertPhrase q.mode ++ " " ++ quotePath q.table ++ rest := by
  rcases compile_eq_ok_iff.mp h with ⟨-, rfl⟩
  exact ⟨_, by simp only [layout, String.append_assoc]; rfl⟩

theorem UpdateQuery.text {q : UpdateQuery} {w : Statement} (h : q.compile = .ok w) :
    ∃ rest, w.sql = "UPDATE " ++ quotePath q.table ++ rest := by
  rcases exists_of_bind_ok h with ⟨table, htable, hrest⟩
  rcases exists_of_bind_ok (of_check_ok hrest) with ⟨assigned, -, hrest⟩
  rcases exists_of_bind_ok hrest with ⟨⟨conditions, binds⟩, -, hrest⟩
  cases hrest
  rw [quoteTable_ok htable]
  exact ⟨_, by simp only [String.append_assoc]; rfl⟩

theorem DeleteQuery.text {q : DeleteQuery} {w : Statement} (h : q.compile = .ok w) :
    ∃ rest, w.sql = "DELETE FROM " ++ quotePath q.table ++ rest := by
  rcases exists_of_bind_ok h with ⟨table, htable, hrest⟩
  rcases exists_of_bind_ok hrest with ⟨⟨conditions, binds⟩, -, hrest⟩
  cases hrest
  rw [quoteTable_ok htable]
  exact ⟨_, by simp only [String.append_assoc]; rfl⟩

/-- The operations that write a table without a hand-written text, with the texts that they send:
    running what an insert, an update or a removal was compiled to, and emptying the table. -/
inductive BuiltWrite (d : Dialect) (table : String) : Operation → String → Prop where
  | insert (q : InsertQuery) (w : Statement) (htable : q.table = table)
      (hcompile : q.compile d = .ok w) : BuiltWrite d table (.run w) w.sql
  | update (q : UpdateQuery) (w : Statement) (htable : q.table = table)
      (hcompile : q.compile = .ok w) : BuiltWrite d table (.run w) w.sql
  | delete (q : DeleteQuery) (w : Statement) (htable : q.table = table)
      (hcompile : q.compile = .ok w) : BuiltWrite d table (.run w) w.sql
  | truncate : BuiltWrite d table (.truncate table) (d.truncate table)

namespace BuiltWrite

variable {d : Dialect} {table text : String} {op : Operation}

/-- In either dialect its text names the table. -/
theorem names (h : BuiltWrite d table op text) (hstock : d = .mysql ∨ d = .sqlite)
    {schema name : String} (htable : isIdentifier table = true)
    (hsegments : segments '.' table = [schema, name]) :
    Names schema.toList name.toList text.toList := by
  have hpath : ∀ opening ∈ stockOpenings, ∀ rest,
      Names schema.toList name.toList (opening ++ quotePath table ++ rest).toList :=
    fun opening hopening rest => (opens_stock opening hopening).path htable hsegments rest
  have hwhole : ∀ opening ∈ stockOpenings, ∀ rest,
      Names schema.toList name.toList (opening ++ quoteName table ++ rest).toList :=
    fun opening hopening rest => (opens_stock opening hopening).whole htable hsegments rest
  cases h with
  | insert q w hsame hcompile =>
      rcases InsertQuery.text hcompile with ⟨rest, hrest⟩
      rw [hrest, hsame]
      refine hpath _ ?_ rest
      rcases hstock with rfl | rfl
      all_goals
        cases q.mode
        all_goals decide
  | update q w hsame hcompile =>
      rcases UpdateQuery.text hcompile with ⟨rest, hrest⟩
      rw [hrest, hsame]
      exact hpath _ (by decide) rest
  | delete q w hsame hcompile =>
      rcases DeleteQuery.text hcompile with ⟨rest, hrest⟩
      rw [hrest, hsame]
      exact hpath _ (by decide) rest
  | truncate =>
      rcases hstock with rfl | rfl
      · exact hwhole "TRUNCATE TABLE " (by decide) ";"
      · exact hwhole "DELETE FROM " (by decide) ";"

/-- It writes to no other table, as the table is called. -/
theorem kind (h : BuiltWrite d table op text) :
    (∃ w : Statement, op = .run w ∧ w.readonly = false ∧ w.tables = [table])
      ∨ op = .truncate table := by
  cases h with
  | insert q w hsame hcompile => exact Or.inl ⟨w, rfl, hsame ▸ InsertQuery.kind hcompile⟩
  | update q w hsame hcompile => exact Or.inl ⟨w, rfl, hsame ▸ UpdateQuery.kind hcompile⟩
  | delete q w hsame hcompile => exact Or.inl ⟨w, rfl, hsame ▸ DeleteQuery.kind hcompile⟩
  | truncate => exact Or.inr rfl

/-- It touches nothing but the reads of the table as it is called. -/
theorem touches (h : BuiltWrite d table op text) {db : Database η σ} {key : String}
    (htouches : op.Touches db key) : IsReadOf [table] key := by
  rcases h.kind with ⟨w, rfl, hwrite, htables⟩ | rfl
  · have hread : w.readonly ≠ true := by
      rw [hwrite]
      exact Bool.false_ne_true
    rcases htouches with hasks | hstores | hdrops
    · exact absurd hasks.1 hread
    · exact absurd hstores.1 hread
    · rw [← htables]
      exact hdrops.2
  · rcases htouches with hasks | hstores | hdrops
    · exact hasks.elim
    · exact hstores.elim
    · exact hdrops

theorem not_apart (h : BuiltWrite d table op text) : ¬ op.Apart := by
  rcases h.kind with ⟨w, rfl, -⟩ | rfl <;> exact id

/-- It leaves no read of the table as it is called, whether it succeeds or not. -/
theorem clears {db : Database η σ} (h : BuiltWrite d table op text)
    (htable : isIdentifier table = true) (s : State η σ) :
    ((op.perform db).run.run s).2.around.cache.Clear table := by
  rcases h.kind with ⟨w, rfl, hwrite, htables⟩ | rfl
  · rw [Operation.perform_state (show Operation.Runs db w (.run w) from rfl)]
    exact write_lacks db hwrite (by rw [htables]; exact List.mem_singleton_self table) s
  · have hcheck : checkIdentifier table = .ok () := if_pos htable
    let sent := (db.executeDirect (db.dialect.truncate table) ∅ false).run.run s
    have hrun : (((Operation.truncate table).perform db).run.run s).2
        = ((invalidate table).run sent.2).2 := by
      rw [Operation.perform, Attempt.run_map, Database.truncate, hcheck]
      have hsent : ((db.executeDirect (db.dialect.truncate table) ∅ false).thereafter
          (invalidate table)).run.run s = (sent.1, ((invalidate table).run sent.2).2) := rfl
      show ((((db.executeDirect (db.dialect.truncate table) ∅ false).thereafter
        (invalidate table)) >>= fun emptied => pure emptied.count).run.run s).2 = _
      rw [Attempt.run_bind, hsent]
      cases sent.1 <;> rfl
    rw [hrun]
    exact invalidate_clear table _

end BuiltWrite

/-! ### What is left in the cache -/

/-- What is cached under some keys stays as it is. -/
def untouched (asked : String → Prop) : Frame η σ where
  rel s t := s.around.cache.Agree asked t.around.cache
  refl s := .refl s.around.cache
  trans := fun hst htu => hst.trans htu

section

open SqlMapper.Frame

variable {asked : String → Prop}

theorem untouched_invalidate {table : String} (hkeys : ∀ key, IsReadOf [table] key → ¬ asked key) :
    (untouched asked).Holds (invalidate table : Action η σ Unit) := fun s =>
  .of_deletePrefix s.around.cache fun key hstarts =>
    hkeys key ⟨table, List.mem_singleton_self table, hstarts⟩

theorem untouched_invalidateAll {tables : List String}
    (hkeys : ∀ key, IsReadOf tables key → ¬ asked key) :
    (untouched asked).Holds (invalidateAll tables : Action η σ Unit) := by
  induction tables with
  | nil => exact holds_pure ()
  | cons table rest ih =>
      refine holds_bind (untouched_invalidate fun key hkey => hkeys key ?_) fun _ =>
        ih fun key hkey => hkeys key ?_
      · exact hkey.of_subset (List.cons_subset_cons table (List.nil_subset rest))
      · exact hkey.of_subset (List.subset_cons_self table rest)

variable {db : Database η σ}

theorem untouched_talks (hsecludes : db.client.Secludes (fun _ => False) asked) :
    Talks db (untouched asked).law fun _ => True where
  report _ s := .refl s.around.cache
  inTransaction := holds_bind holds_get fun _ => holds_pure _
  setTransaction _ s := .refl s.around.cache
  exchange shown _ _ hcall s :=
    -- Only what others wrote to meanwhile is dropped.
    untouched_invalidateAll (hsecludes hcall s.own.handle id s.around.world)
      { s with around := { s.around with
        world := ((_ : StateM σ (Reply _)).run s.around.world).2
        journal := s.around.journal ++ [shown] } }
  words _ _ := trivial
  reconnect s := fun key _ => congrArg (·.get? key) (db.reconnect_rebuilt s).1.cache.symm
  pause _ s := .refl s.around.cache

theorem untouched_obeys (hsecludes : db.client.Secludes (fun _ => False) asked) :
    Obeys db (untouched asked).law (fun _ => True) (fun key => ¬ asked key)
      (fun key => ¬ asked key) fun key => ¬ asked key where
  report := (untouched_talks hsecludes).report
  inTransaction := (untouched_talks hsecludes).inTransaction
  generation _ := holds_bind holds_get fun _ => holds_pure _
  lastInsertId := holds_bind holds_get fun _ => holds_pure _
  lookup hkey s := .of_get s.around.cache s.around.now hkey
  store value ttl hkey s := by
    show s.around.cache.Agree asked ((Surroundings.store _ value ttl).run s.around).2.cache
    rw [Surroundings.store_run]
    cases hset : s.around.cache.set? s.around.now _ value ttl with
    | none => exact .refl s.around.cache
    | some cache => exact .of_set? s.around.cache hkey hset
  forget hkey s := .of_erase s.around.cache hkey
  invalidate := untouched_invalidate
  sending binds readonly hsent := (untouched_talks hsecludes).sendFrom hsent binds readonly 1
  transaction := (untouched_talks hsecludes).transaction

/-- An operation leaves alone what it does not touch. -/
theorem untouched_perform (hsecludes : db.client.Secludes (fun _ => False) asked)
    {op : Operation} (hop : ¬ op.Apart) (hkeys : ∀ key, op.Touches db key → ¬ asked key) :
    (untouched asked).Holds (op.perform db).run :=
  (untouched_obeys hsecludes).perform hop (fun _ _ => trivial)
    (fun key hkey => hkeys key (Or.inl hkey)) (fun key hkey => hkeys key (Or.inr (Or.inl hkey)))
    fun key hkey => hkeys key (Or.inr (Or.inr hkey))

end

/-! ### What each kind of write drops -/

/-- A hand-written statement that names a table drops the reads of both spellings of it. A write
    that is not hand-written drops those of the table as it is called there, and nothing else,
    although its text names the table. -/
theorem spellings_dropped (db : Database η σ) {table schema name : String}
    (htable : isIdentifier table = true) (hsegments : segments '.' table = [schema, name])
    (s : State η σ) :
    (∀ sql binds, Names schema.toList name.toList sql.toList →
      let t := ((db.execute sql binds false).run.run s).2
      t.around.cache.Clear table ∧ t.around.cache.Clear name)
    ∧ ∀ op text, BuiltWrite db.dialect table op text →
      let t := ((op.perform db).run.run s).2
      t.around.cache.Clear table
        ∧ (∀ key, ¬ IsReadOf [table] key → db.client.Secludes (fun _ => False) (· = key) →
          t.around.cache.get? key = s.around.cache.get? key)
        ∧ (db.dialect = .mysql ∨ db.dialect = .sqlite →
          Names schema.toList name.toList text.toList) := by
  refine ⟨fun sql binds hnames => ?_, fun op text hwrite => ⟨hwrite.clears htable s, ?_, ?_⟩⟩
  · rcases hnames.written hsegments with ⟨hfull, hshort⟩
    have hclear := invalidateAll_clear (writtenTables sql)
      ((db.executeDirect sql binds false).run.run s).2
    exact ⟨hclear table hfull, hclear name hshort⟩
  · intro key hother hsecludes
    refine (untouched_perform hsecludes hwrite.not_apart (fun other htouches => ?_) s key rfl).symm
    rintro rfl
    exact hother (hwrite.touches htouches)
  · exact fun hstock => hwrite.names hstock htable hsegments

/-- A hand-written update of a table, its name in quotes. -/
def quotedUpdate : String := "update main.\"t\" SET n = 1;"

theorem names_quotedUpdate : Names "main".toList "t".toList quotedUpdate.toList := by
  have hends : EndsWord [] := nofun
  have hfree : ¬ Expects [] := by
    intro hexpects
    have hword := hexpects.mentions
    revert hword
    decide
  have hgap : IsGap [' '] := isGap_of_all (by decide)
  have hupdate : keyword? ['u', 'p', 'd', 'a', 't', 'e'] "update ".toList
      = some ("update".toList, [' ']) := by decide
  exact .intro [] "update ".toList "main".toList "\"t\"".toList " SET n = 1;".toList hends hfree
    (.word (by decide) (keyword?_letters hupdate) hgap)
    (isSegment_bare (by decide) (List.all_eq_true.mp (by decide)))
    ⟨['"'], ['"'], Or.inr ⟨'"', by decide, rfl⟩, Or.inr ⟨'"', by decide, rfl⟩, by decide,
      List.all_eq_true.mp (by decide), by decide⟩
    (Or.inl (by decide))

/-- A client that says yes to everything, and tells nothing of others. -/
def Client.obliging : Client Unit Unit where
  connect _ _ := pure (.ok ())
  query _ _ _ := pure { outcome := .ok [] }
  execute _ _ _ := pure { outcome := .ok 1 }
  begin _ := pure { outcome := .ok () }
  commit _ := pure { outcome := .ok () }
  rollback _ := pure { outcome := .ok () }
  lastInsertId _ _ := none

theorem Client.obliging_secludes (asked : String → Prop) :
    Client.obliging.Secludes (fun _ => False) asked := by
  rintro α call (⟨sql, binds⟩ | ⟨sql, binds⟩ | _ | _ | _) h - w key ⟨table, htable, -⟩
  all_goals cases htable

set_option maxRecDepth 20000 in
/-- A table in quotes, and one that is emptied, while a read of it is cached. -/
theorem spellings_dropped_quoted :
    let db : Database Unit Unit :=
      { client := .obliging, dialect := .sqlite, config := .sqlite "file", options := { } }
    let key := queryKey "t" "SELECT * FROM `t`;" ∅
    let s : State Unit Unit := {
      around := { world := (), cache := ⟨[(key, { value := .rows [], deadline := none })]⟩ }
      own := { handle := () } }
    let emptied := (((Operation.truncate "main.t").perform db).run.run s).2
    (isIdentifier "main.t" = true ∧ segments '.' "main.t" = ["main", "t"])
      ∧ Names "main".toList "t".toList quotedUpdate.toList
      ∧ (let t := ((db.execute quotedUpdate ∅ false).run.run s).2
        t.around.cache.Clear "main.t" ∧ t.around.cache.Clear "t")
      ∧ BuiltWrite db.dialect "main.t" (.truncate "main.t") "DELETE FROM `main.t`;"
      ∧ emptied.around.cache.Clear "main.t"
      ∧ emptied.around.cache.get? key = s.around.cache.get? key
      ∧ Names "main".toList "t".toList "DELETE FROM `main.t`;".toList := by
  intro db key s emptied
  have htable : isIdentifier "main.t" = true := by decide
  have hsegments : segments '.' "main.t" = ["main", "t"] := by decide
  have hwrite : BuiltWrite db.dialect "main.t" (.truncate "main.t") "DELETE FROM `main.t`;" :=
    .truncate
  have hother : ¬ IsReadOf ["main.t"] (queryKey "t" "SELECT * FROM `t`;" ∅) := by
    rintro ⟨table, hmem, hstarts⟩
    rw [List.mem_singleton.mp hmem] at hstarts
    revert hstarts
    decide +kernel
  have hall := spellings_dropped db htable hsegments s
  have hbuilt := hall.2 _ _ hwrite
  exact ⟨⟨htable, hsegments⟩, names_quotedUpdate, hall.1 _ ∅ names_quotedUpdate, hwrite, hbuilt.1,
    hbuilt.2.1 key hother (Client.obliging_secludes _), hbuilt.2.2 (Or.inr rfl)⟩

/-- A selection of a table. -/
def SelectQuery.plain (table : String) : SelectQuery where
  tables := [table]

/-- Its statement. -/
def Statement.plain (table : String) : Statement where
  sql := "SELECT * FROM " ++ quotePath table ++ ";"
  binds := ∅
  tables := [table]
  readonly := true

/-- The statement of a removal. -/
def Statement.emptying (table : String) : Statement where
  sql := "DELETE FROM " ++ quotePath table ++ ";"
  binds := ∅
  tables := [table]
  readonly := false

set_option maxRecDepth 20000 in
/-- A row of a table is read, all its rows are removed, and the row is read again, from the
    cache. -/
theorem spelling_rests :
    let db := Database.once.recorded
    let row : Row := ⟨[("id", .int 1)]⟩
    let read :=
      ((db.run (.plain "t")).run.run (State.scripted { replies := [{ rows := [row] }] })).2
    let written := ((db.run (.emptying "main.t")).run.run read).2
    ((SelectQuery.plain "t").compile = .ok (.plain "t")
      ∧ ({ table := "main.t" } : DeleteQuery).compile = .ok (.emptying "main.t")
      ∧ segments '.' "main.t" = ["main", "t"] ∧ isIdentifier "main.t" = true)
    ∧ ¬ written.around.cache.Clear "t"
    ∧ "t" ∈ writtenTables (Statement.emptying "main.t").sql := by
  intro db row read written
  refine ⟨⟨rfl, rfl, by decide, by decide⟩, fun hclear => ?_, by decide +kernel⟩
  have hthere : (((Database.once.recorded.run (.emptying "main.t")).run.run
      ((Database.once.recorded.run (.plain "t")).run.run
        (State.scripted { replies := [{ rows := [⟨[("id", .int 1)]⟩] }] })).2).2.around.cache.get?
          (queryKey "t" (Statement.plain "t").sql ∅)).isSome = true := by
    simp only [Database.run, Database.readCached, Database.readThrough, Database.executeDirect,
      Database.once_sendRetrying]
    decide +kernel
  have hnone := hclear (Statement.plain "t").sql ∅
  rw [show written.around.cache.get? _ = none from hnone] at hthere
  cases hthere

end SqlMapper
