import SqlMapper.Proofs.Engine.Sending
import SqlMapper.Proofs.Program.Routine

/-!
# Texts That Are Sent

What an operation sends to the database, and what a host sends by its calls.

The journal shows every call that leaves the engine, and so every text that was
sent. An operation sends the texts that are told by what it is, again perhaps after
a session was lost, and the words that begin and end a transaction. It sends
nothing else, however its calls are answered. What a host sends is what its calls
send.

## Main definitions

* `Operation.about`: The tables that an operation is about.
* `Operation.Given`: The texts that an operation does not write itself.
* `sending`: The frame of what sends some texts only.

## Theorems

* `sending_perform`: What an operation sends.
* `sending_routine`: What a host sends.
-/

namespace SqlMapper

variable {η σ : Type}

open SqlMapper.Frame

/-- The tables that an operation is about. -/
def Operation.about : Operation → List String
  | .read s _ => s.query.tables
  | .insert q => [q.table]
  | .update q => [q.table]
  | .delete q => [q.table]
  | .probe table | .truncate table | .drop table | .initTable table _ | .migrate table _ => [table]
  | _ => []

/-- A text was given to an operation, by its caller or in the scripts of an entity. -/
def Operation.Given (sql : String) : Operation → Prop
  | .execute text _ _ => sql = text
  | .run s | .runInsert s => sql = s.sql
  | .initTable _ entity | .migrate _ entity => ∃ schema before statements,
      entity.schema = .ok schema ∧ schema.upgradePath before schema.version = .ok statements
        ∧ sql ∈ statements
  | _ => False

/-- Only some texts are sent. -/
def sending (η σ : Type) (sent : String → Prop) : Frame η σ where
  rel s t := ∃ events, t.around.journal = s.around.journal ++ events
    ∧ ∀ e ∈ events, ∀ sql ∈ e.sent?, sent sql
  refl s := ⟨[], (List.append_nil _).symm, fun e he => nomatch he⟩
  trans := by
    rintro s t u ⟨first, hfirst, hsent⟩ ⟨second, hsecond, hsent'⟩
    refine ⟨first ++ second, ?_, List.forall_mem_append.mpr ⟨hsent, hsent'⟩⟩
    rw [hsecond, hfirst, List.append_assoc]

variable {sent : String → Prop} {s t : State η σ}

/-- Nothing is sent if the journal is the same. -/
theorem sending_same (h : t.around.journal = s.around.journal) : (sending η σ sent).rel s t :=
  ⟨[], by rw [h, List.append_nil], fun e he => nomatch he⟩

/-- One call is shown. -/
theorem sending_note {e : Event} (h : t.around.journal = s.around.journal ++ [e])
    (he : ∀ sql ∈ e.sent?, sent sql) : (sending η σ sent).rel s t :=
  ⟨[e], h, fun _ hmem => List.mem_singleton.mp hmem ▸ he⟩

theorem sending_quiet {e : Event} (h : t.around.journal = s.around.journal ++ [e])
    (he : e.sent? = none) : (sending η σ sent).rel s t :=
  sending_note h fun _ hsql => nomatch he ▸ hsql

theorem sending_report (r : LogRecord) : (sending η σ sent).Holds (report r) :=
  fun _ => sending_same rfl

theorem sending_invalidate (table : String) : (sending η σ sent).Holds (invalidate table) :=
  fun _ => sending_quiet rfl rfl

theorem sending_store (key : String) (value : CacheValue) (ttl : Option UInt64) :
    (sending η σ sent).Holds (around (Surroundings.store key value ttl)) := by
  intro s
  show (sending η σ sent).rel s
    { s with around := ((Surroundings.store key value ttl).run s.around).2 }
  rw [Surroundings.store_run]
  cases s.around.cache.set? s.around.now key value ttl with
  | none => exact sending_same rfl
  | some cache => exact sending_quiet rfl rfl

variable {db : Database η σ}

theorem sending_reconnect : (sending η σ sent).Holds db.reconnect := by
  have hdial : (sending η σ sent).Holds (around db.dial) := by
    intro s
    have hjournal : (db.dial.run s.around).2.journal
        = s.around.journal ++ [.connect db.dialect.tag db.config.host db.config.database] := by
      rw [Database.dial_run]
      cases ((db.client.connect db.dialect.tag db.config).run s.around.world).1 <;> rfl
    exact sending_quiet hjournal rfl
  refine holds_bind hdial fun dialed => ?_
  cases dialed with
  | ok handle => exact holds_bind (fun _ => sending_same rfl) fun _ => sending_report _
  | error e => exact sending_report _

theorem sending_talks (hwords : ∀ word ∈ transactionWords, sent word) :
    Talks db (sending η σ sent).law sent where
  report := sending_report
  inTransaction := holds_bind holds_get fun _ => holds_pure _
  setTransaction _ _ := sending_same rfl
  exchange shown call hsent _ s := by
    have hnoted : (sending η σ sent).rel s
        { s with around := { s.around with
          world := ((call s.own.handle).run s.around.world).2
          journal := s.around.journal ++ [shown] } } := sending_note rfl hsent
    exact (sending η σ sent).trans hnoted (holds_forM sending_invalidate _ _)
  words := hwords
  reconnect := sending_reconnect
  pause _ _ := sending_quiet rfl rfl

theorem sending_obeys (hwords : ∀ word ∈ transactionWords, sent word) :
    Obeys db (sending η σ sent).law sent (fun _ => True) (fun _ => True) fun _ => True where
  report := sending_report
  inTransaction := holds_bind holds_get fun _ => holds_pure _
  generation _ := holds_bind holds_get fun _ => holds_pure _
  lastInsertId := holds_bind holds_get fun _ => holds_pure _
  lookup _ _ := sending_quiet rfl rfl
  store value ttl _ := sending_store _ value ttl
  forget _ _ := sending_quiet rfl rfl
  invalidate _ := sending_invalidate _
  sending binds readonly hsent := (sending_talks hwords).sendFrom hsent binds readonly 1
  transaction := (sending_talks hwords).transaction

/-- An operation sends the texts that are told by what it is, and the words that begin and end a
    transaction. -/
theorem sending_perform {op : Operation} (hwords : ∀ word ∈ transactionWords, sent word)
    (hsends : ∀ sql, op.Sends db sql → sent sql) :
    (sending η σ sent).Holds (op.perform db).run := by
  by_cases hapart : op.Apart
  · cases op with
    | reconnect => exact holds_map _ (holds_always sending_reconnect)
    | takeLog => exact holds_map _ (holds_always fun _ => sending_same rfl)
    | searchLog level part field =>
        exact holds_attempt_bind (holds_always holds_get) fun _ => holds_attempt_pure _
    | _ => exact absurd hapart id
  · exact (sending_obeys hwords).perform hapart hsends (fun _ _ => trivial) (fun _ _ => trivial)
      fun _ _ => trivial

/-- A host sends what its calls send. -/
theorem sending_routine {α : Type} {r : Routine α} (hwords : ∀ word ∈ transactionWords, sent word)
    (huses : r.Uses fun op => ∀ sql, op.Sends db sql → sent sql) :
    (sending η σ sent).Holds (r.run db).run := by
  induction r with
  | ending result => exact holds_pure result
  | call op next ih =>
      exact holds_bind (sending_perform hwords huses.1) fun result => ih result (huses.2 result)
  | transaction body next ihBody ihNext =>
      refine holds_bind ((sending_talks hwords).transaction _ (ihBody huses.1)) fun result => ?_
      exact ihNext result (huses.2 result)

end SqlMapper
