import SqlMapper.Client.Scripted
import SqlMapper.Dialect.Sqlite
import SqlMapper.Proofs.Engine.Sending

/-!
# Recorded Clients

A client that remembers who was called.

The journal shows what was asked of a database, but not of which session, and it
shows the words that begin and end transactions like statements of the host.
Where that matters, a client is wrapped in one that behaves the same and keeps a
list of its contacts: each attempt to connect with the session it gave, and each
call with the session it went to, what was asked, and whether it succeeded. The
engine cannot see the list, so what it does to a recorded client it does to any.

## Main definitions

* `Request`: What a session is asked for.
* `Contact`: An attempt to connect, or a call.
* `Recorded`, `State.contacts`: A world with the contacts so far.
* `Client.recorded`, `Database.recorded`: A client that keeps the list.
* `Database.scripted`, `State.scripted`: A connection to prepared answers.

## Theorems

* `exchange_recorded`, `send_recorded`: A call is one contact with the session in use.
* `sendRetrying_once`: What comes of a statement that is not sent again.
-/

namespace SqlMapper

variable {η σ α β : Type}

/-- What a session is asked for. -/
inductive Request where
  -- Rows.
  | query (sql : String) (binds : Binds)
  -- A change.
  | execute (sql : String) (binds : Binds)
  -- The beginning of a transaction.
  | begin
  -- Its success.
  | commit
  -- Its undoing.
  | rollback
  deriving DecidableEq

/-- The request that a statement makes. -/
def Request.ofStatement (sql : String) (binds : Binds) (readonly : Bool) : Request :=
  if readonly then .query sql binds else .execute sql binds

/-- An attempt to connect, or a call. -/
inductive Contact (η : Type) where
  -- A session was asked for; none was given if the attempt failed.
  | connect (session : Option η)
  -- A session was called, with success or not.
  | call (session : η) (request : Request) (succeeded : Bool)
  deriving DecidableEq

/-- A world with the contacts so far, oldest first. -/
structure Recorded (η σ : Type) where
  -- The world.
  world : σ
  -- The contacts.
  contacts : List (Contact η) := []

/-- The contacts that a connection has had so far. -/
def State.contacts (s : State η (Recorded η σ)) : List (Contact η) :=
  s.around.world.contacts

/-- A call that is remembered. -/
def Request.recorded (request : Request) (call : η → StateM σ (Reply α)) (h : η) :
    StateM (Recorded η σ) (Reply α) := fun w =>
  let done := call h w.world
  (done.1, { world := done.2,
             contacts := w.contacts ++ [.call h request done.1.outcome.isOk] })

/-- A client that behaves like another and remembers its contacts. -/
def Client.recorded (c : Client η σ) : Client η (Recorded η σ) where
  connect := fun tag config w =>
    let done := c.connect tag config w.world
    (done.1, { world := done.2, contacts := w.contacts ++ [.connect done.1.toOption] })
  query := fun h sql binds => (Request.query sql binds).recorded (fun h => c.query h sql binds) h
  execute := fun h sql binds =>
    (Request.execute sql binds).recorded (fun h => c.execute h sql binds) h
  begin := Request.begin.recorded c.begin
  commit := Request.commit.recorded c.commit
  rollback := Request.rollback.recorded c.rollback
  lastInsertId := fun h w => c.lastInsertId h w.world

/-- A connection whose client remembers its contacts. -/
def Database.recorded (db : Database η σ) : Database η (Recorded η σ) where
  client := db.client.recorded
  dialect := db.dialect
  config := db.config
  options := db.options

/-- A connection to prepared answers. -/
def Database.scripted : Database Unit Script where
  client := scriptedClient
  dialect := .sqlite
  config := .sqlite "file"
  options := { }

/-- Its state before the first answer. -/
def State.scripted (script : Script) : State Unit (Recorded Unit Script) where
  around := { world := { world := script } }
  own := { handle := () }

/-- An answer that says that the session was dropped. -/
def ScriptedReply.dropped : ScriptedReply where
  failure := some { code := some 2006, message := "MySQL server has gone away" }

theorem isOk_map (f : α → β) (r : Except ClientFailure α) : (r.map f).isOk = r.isOk := by
  cases r <;> rfl

namespace Database

/-- A remembered call is one contact with the session in use. -/
theorem exchange_recorded (shown : Event) (hshown : shown.pause? = none) (request : Request)
    (call : η → StateM σ (Reply α)) (s : State η (Recorded η σ)) :
    let reply := (call s.own.handle).run s.around.world.world
    let done := (exchange shown (request.recorded call)).run s
    done.1 = reply.1.outcome ∧ done.2.around.world.world = reply.2
      ∧ done.2.contacts = s.contacts ++ [.call s.own.handle request reply.1.outcome.isOk]
      ∧ Kept s done.2 := by
  intro reply done
  rcases exchange_kept shown hshown (request.recorded call) s with ⟨hresult, hworld, hkept⟩
  refine ⟨hresult, ?_, ?_, hkept⟩
  · rw [show done.2.around.world = _ from hworld]
    rfl
  · show done.2.around.world.contacts = _
    rw [show done.2.around.world = _ from hworld]
    rfl

/-- A statement that is sent once is one contact with the session in use. -/
theorem send_recorded (db : Database η σ) (sql : String) (binds : Binds) (readonly : Bool)
    (s : State η (Recorded η σ)) :
    let answered := db.client.answer s.own.handle sql binds readonly s.around.world.world
    let done := (db.recorded.send sql binds readonly).run s
    done.1 = answered.1 ∧ done.2.around.world.world = answered.2
      ∧ done.2.contacts = s.contacts
          ++ [.call s.own.handle (Request.ofStatement sql binds readonly) answered.1.isOk]
      ∧ Kept s done.2 := by
  intro answered done
  cases readonly with
  | true =>
      rcases exchange_recorded (.query sql binds) rfl (.query sql binds)
        (fun h => db.client.query h sql binds) s with ⟨hresult, hworld, hcontacts, hkept⟩
      refine ⟨congrArg (Except.map Outcome.rows) hresult, hworld, ?_, hkept⟩
      have hok := isOk_map Outcome.rows
        ((db.client.query s.own.handle sql binds).run s.around.world.world).1.outcome
      rw [show answered.1.isOk = _ from hok]
      exact hcontacts
  | false =>
      rcases exchange_recorded (.execute sql binds) rfl (.execute sql binds)
        (fun h => db.client.execute h sql binds) s with ⟨hresult, hworld, hcontacts, hkept⟩
      refine ⟨congrArg (Except.map Outcome.affected) hresult, hworld, ?_, hkept⟩
      have hok := isOk_map Outcome.affected
        ((db.client.execute s.own.handle sql binds).run s.around.world.world).1.outcome
      rw [show answered.1.isOk = _ from hok]
      exact hcontacts

/-- Where nothing is sent again, what comes of a statement is the answer to it. -/
theorem sendRetrying_once (db : Database η σ) (hnever : db.options.retry.allows 1 = false)
    (sql : String) (binds : Binds) (readonly : Bool) (s : State η (Recorded η σ)) :
    ((db.recorded.sendRetrying sql binds readonly).run s).1
      = (db.client.answer s.own.handle sql binds readonly s.around.world.world).1 :=
  (db.recorded.sendFrom_of_stop sql binds readonly 1 s (Or.inr hnever)).1.trans
    (db.send_recorded sql binds readonly s).1

end Database

end SqlMapper
