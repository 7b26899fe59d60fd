import SqlMapper.Proofs.Client.Open
import SqlMapper.Proofs.Program.Bracketing

/-!
# Truthful Connections

Whether a transaction counts as open when one is.

The engine takes down that a transaction is open when one was begun, and that
none is when one was committed. Before a rollback it takes down that none is,
and only then asks for the rollback, so a refusal leaves it wrong: the session
still has its transaction, and what is sent next becomes part of it. That is the
only way to go wrong while the session is rebuilt between transactions alone.
`State.Accounted` says this of one state, every part of a computation keeps it,
and so every moment of a routine has it, however the client answers.

## Main definitions

* `accounted`: The frame that keeps a state accounted for.
* `RebuildsOutside`: The session is rebuilt on request between transactions alone.

## Theorems

* `Rebuilt.accounted`: Rebuilding the session where no transaction counts as open.
* `sendRetrying_accounted`, `enter_accounted`, `close_accounted`: Sending, and the two ends of a
  transaction.
* `accounted_respects`: Every operation but rebuilding the session keeps to the frame.
* `Routine.accounted`: Every moment of a routine is accounted for.
* `inTransaction_truthful`: Where a transaction returns, what the engine has taken down is right
  exactly if the session is not stranded.
* `inTransaction_untrue`: A refused rollback makes it wrong.
-/

namespace SqlMapper

variable {η σ α : Type}

variable [DecidableEq η]

/-- A state is accounted for if another is with the same session, flag and contacts. -/
theorem State.Accounted.congr {s t : State η (Recorded η σ)} (hs : s.Accounted)
    (hflag : t.own.inTransaction = s.own.inTransaction) (hhandle : t.own.handle = s.own.handle)
    (hcontacts : t.contacts = s.contacts) : t.Accounted := by
  rw [Accounted, hflag, hhandle, hcontacts]
  exact hs

/-- Rebuilding the session keeps a state accounted for in which no transaction counts as open. -/
theorem Rebuilt.accounted {db : Database η σ} {s t : State η (Recorded η σ)}
    (h : Rebuilt db.recorded s t) (hs : s.Accounted) (hflag : s.own.inTransaction = false) :
    t.Accounted := by
  have hcontacts : t.contacts = s.contacts ++ [.connect
      ((db.client.connect db.dialect.tag db.config).run s.around.world.world).1.toOption] :=
    congrArg Recorded.contacts h.world
  rw [State.Accounted, hflag] at hs
  rw [State.Accounted, h.inTransaction, hflag, h.handle, hcontacts]
  exact hs.dialed _

namespace Database

variable (db : Database η σ)

theorem sendRetrying_accounted (sql : String) (binds : Binds) (readonly : Bool)
    (s : State η (Recorded η σ)) (hs : s.Accounted) :
    ((db.recorded.sendRetrying sql binds readonly).run s).2.Accounted := by
  -- One call adds a statement to the contacts, with success or without.
  have hsend : ∀ s : State η (Recorded η σ), s.Accounted →
      ((db.recorded.send sql binds readonly).run s).2.Accounted := by
    intro s hs
    rcases db.send_recorded sql binds readonly s with ⟨-, -, hcontacts, hkept⟩
    rw [State.Accounted, hkept.inTransaction, hkept.handle, hcontacts]
    exact hs.statement sql binds readonly _
  refine sendFrom_induction db.recorded sql binds readonly 1 s
    (motive := fun s done => s.Accounted → done.2.Accounted) ?_ ?_ hs
  · intro attempt s hs
    rcases db.recorded.conclude_kept sql binds attempt s.own.inTransaction
      ((db.recorded.send sql binds readonly).run s).1
      ((db.recorded.send sql binds readonly).run s).2 with ⟨-, hkept, hworld⟩
    exact (hsend s hs).congr hkept.inTransaction hkept.handle (congrArg Recorded.contacts hworld)
  · -- Another attempt comes only where no transaction counts as open, so the session may be new.
    intro attempt failure s done hcalls hrest hs
    have hflag := outside_of_callsForRetry hcalls
    have hkept := (db.send_recorded sql binds readonly s).2.2.2
    exact hrest ((db.recorded.recover_rebuilt attempt failure _).1.accounted (hsend s hs)
      (hkept.inTransaction.trans hflag))

theorem enter_accounted (s : State η (Recorded η σ)) (hs : s.Accounted) :
    (db.recorded.enter.run.run s).2.Accounted := by
  cases hflag : s.own.inTransaction with
  | true =>
      rw [enter_inside _ s hflag]
      exact hs
  | false =>
      have hbegin := switch_recorded "BEGIN" .begin db.client.begin true "transaction started" s
      rw [enter_outside _ s hflag]
      rcases hrun : db.recorded.begin.run.run s with ⟨result, t⟩
      rw [show (switch "BEGIN" (Request.begin.recorded db.client.begin) true
        "transaction started").run.run s = (result, t) from hrun] at hbegin
      rcases hbegin with ⟨hhandle, ⟨hresult, hopened, hcontacts⟩ | ⟨⟨e, hresult⟩, hkept, hcontacts⟩⟩
      · rw [show result = .ok () from hresult]
        show Agrees t.own.inTransaction t.own.handle t.contacts
        rw [hopened, hhandle, hcontacts]
        exact Agrees.begun
      · rw [show result = .error (.failed e) from hresult]
        show Agrees t.own.inTransaction t.own.handle t.contacts
        rw [hkept, hhandle, hcontacts]
        exact hs.refused Request.noConfusion

/-- Ending a transaction leaves a state that is accounted for, whatever came before. -/
theorem close_accounted (ending : Except Stop α) (s : State η (Recorded η σ)) :
    ((db.recorded.close ending).run s).2.Accounted := by
  rcases db.close_recorded ending s with ⟨hhandle, hflag, last, hcontacts, hending⟩
  rw [State.Accounted, hflag, hhandle, hcontacts]
  generalize ((db.recorded.close ending).run s).1 = result at hending
  cases hending with
  | committed a => exact Agrees.ended (Or.inl rfl)
  | refused a e undone =>
      rw [List.append_cons]
      exact Agrees.rolledBack undone
  | undone stop undone => exact Agrees.rolledBack undone

end Database

/-- Keeping a state accounted for. -/
def accounted (η σ : Type) [DecidableEq η] : Frame η (Recorded η σ) where
  rel s t := s.Accounted → t.Accounted
  refl _ := id
  trans := fun hst htu hs => htu (hst hs)

theorem accounted_encloses (db : Database η σ) : Encloses db.recorded (accounted η σ) where
  enter := db.enter_accounted
  close ending s _ := db.close_accounted ending s

/-- Every operation keeps a state accounted for, unless it rebuilds the session. -/
theorem accounted_respects (db : Database η σ) : Respects db.recorded (accounted η σ) where
  quiet _ _ _ _ := id
  counting _ _ := id
  sending := db.sendRetrying_accounted
  transaction := (accounted_encloses db).transaction

/-- Rebuilding the session on request comes where no transaction counts as open. -/
def RebuildsOutside (calls : List (Call η σ)) : Prop :=
  ∀ c ∈ calls, c.op = .reconnect → c.before.own.inTransaction = false

/-- Every moment of a routine is accounted for. -/
theorem Routine.accounted (db : Database η σ) {α : Type} {r : Routine α}
    {s : State η (Recorded η σ)} (houtside : RebuildsOutside (r.calls db.recorded s)) :
    r.Spans db.recorded (SqlMapper.accounted η σ) s := by
  refine (accounted_encloses db).routine fun c hc => ?_
  have hperform := r.perform_of_mem_calls c hc
  by_cases hop : c.op = .reconnect
  · intro hbefore
    have hdone := (db.recorded.reconnect_rebuilt c.before).1.accounted hbefore
      (houtside c hc hop)
    rw [hop] at hperform
    rw [← show ((Operation.reconnect.perform db.recorded).run.run c.before).2 = c.after from
      congrArg Prod.snd hperform]
    exact hdone
  · have hdone := (accounted_respects db).perform hop c.before
    rw [hperform] at hdone
    exact hdone

/-- Where a transaction has returned, and where a call is made, whether a transaction counts as open
    is right exactly if the session in use is not stranded. -/
theorem inTransaction_truthful (db : Database η σ) {α : Type} (r : Routine α)
    (s : State η (Recorded η σ)) (hs : s.Accounted)
    (houtside : RebuildsOutside (r.calls db.recorded s)) :
    (∀ t ∈ r.returns db.recorded s, t.own.inTransaction = t.isOpen ↔ ¬ t.Stranded)
      ∧ ∀ c ∈ r.calls db.recorded s,
        c.before.own.inTransaction = c.before.isOpen ↔ ¬ c.before.Stranded := by
  have hspans := Routine.accounted db houtside
  exact ⟨fun t ht => (hspans.returns t ht hs).truthful_iff,
    fun c hc => (hspans.before c hc hs).truthful_iff⟩

/-- An answer that says that a lock was not granted in time. -/
def ScriptedReply.locked : ScriptedReply where
  failure := some { code := some 1205, message := "Lock wait timeout exceeded" }

/-- A rollback is refused, then a commit. -/
def Script.refusing : Script where
  replies := [{ }, .locked, { }, .locked, { }]

/-- A fresh session, a transaction that is given up, and one that succeeds. -/
def Routine.twice : Routine Unit :=
  .call .reconnect fun _ =>
    .transaction (.ending (.error .aborted) : Routine Unit) fun _ =>
      .transaction (.ending (.ok ()) : Routine Unit) .ending

theorem inTransaction_truthful_refused :
    (State.scripted .refusing).Accounted
      ∧ RebuildsOutside (Routine.twice.calls Database.scripted.recorded (.scripted .refusing))
      ∧ (∀ t ∈ Routine.twice.returns Database.scripted.recorded (.scripted .refusing),
        t.own.inTransaction = t.isOpen ↔ ¬ t.Stranded)
      ∧ (Routine.twice.returns Database.scripted.recorded (.scripted .refusing)).map State.isOpen
        = [true, false] := by
  have hs : (State.scripted .refusing).Accounted := Agrees.of_closed rfl
  have houtside : RebuildsOutside
      (Routine.twice.calls Database.scripted.recorded (.scripted .refusing)) := by
    intro c hc _
    rw [List.mem_singleton.mp hc]
    rfl
  exact ⟨hs, houtside, (inTransaction_truthful .scripted .twice _ hs houtside).1, rfl⟩

/-- A refused rollback leaves a transaction open that does not count as open. -/
theorem inTransaction_untrue :
    ¬ ∀ (r : Routine Unit) (s : State Unit (Recorded Unit Script)), r.Uses (· ≠ .reconnect) →
      s.own.inTransaction = s.isOpen →
        ∀ t ∈ r.returns Database.scripted.recorded s, t.own.inTransaction = t.isOpen := by
  intro hall
  have htruth := hall (.transaction (.ending (.error .aborted) : Routine Unit) .ending)
    (.scripted .refusing) ⟨trivial, fun _ => trivial⟩ rfl _ (List.mem_singleton.mpr rfl)
  exact Bool.false_ne_true htruth

end SqlMapper
