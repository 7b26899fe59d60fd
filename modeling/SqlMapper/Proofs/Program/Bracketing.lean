import SqlMapper.Proofs.Client.Recorded
import SqlMapper.Proofs.Engine.Switching
import SqlMapper.Proofs.Program.Routine

/-!
# Bracketing

What a session is asked for between the beginning and the end of a transaction.

Inside a transaction the engine sends each statement once, on the session that
is there, and asks for nothing else: `inside` is a frame to which every
operation keeps, nested transactions included. So whatever the body of a
transaction does, and however it ends, its contacts are statements on one
session. What comes before and behind them is decided by four calls at most, and
`Ending` lists the ways in which these can go.

## Main definitions

* `Contact.IsStatement`: A call for a statement, on some session.
* `Within`, `inside`: While a transaction is open, only statements are sent.
* `Ending`: How a transaction ends that was begun.
* `Enclosed`: What its body and its end leave behind.
* `Bracketed`: What a transaction leaves behind, begun or not.

## Theorems

* `inside_respects`: Every operation keeps to `inside`.
* `Routine.calls_inside`: A transaction is open before and behind each call of a body.
* `close_recorded`: The ways in which a transaction ends.
* `transaction_bracketed`: What a transaction leaves behind, whatever its body does.
-/

namespace SqlMapper

variable {η σ α : Type}

namespace Database

/-- A remembered call that opens or closes a transaction is one contact. -/
theorem switch_recorded (word : String) (request : Request) (call : η → StateM σ (Reply Unit))
    (opened : Bool) (message : String) (s : State η (Recorded η σ)) :
    let done := (switch word (request.recorded call) opened message).run.run s
    done.2.own.handle = s.own.handle
      ∧ ((done.1 = .ok () ∧ done.2.own.inTransaction = opened
          ∧ done.2.contacts = s.contacts ++ [.call s.own.handle request true])
        ∨ ((∃ e, done.1 = .error (.failed e)) ∧ done.2.own.inTransaction = s.own.inTransaction
          ∧ done.2.contacts = s.contacts ++ [.call s.own.handle request false])) := by
  intro done
  rcases switch_run word (request.recorded call) opened message s with ⟨hworld, hhandle, -, hcases⟩
  have hcontacts : done.2.contacts = s.contacts ++ [.call s.own.handle request
      ((request.recorded call s.own.handle).run s.around.world).1.outcome.isOk] :=
    congrArg Recorded.contacts hworld
  refine ⟨hhandle, ?_⟩
  rcases hcases with ⟨hok, hresult, hflag⟩ | ⟨hok, hresult, hflag⟩
  · rw [hok] at hcontacts
    exact Or.inl ⟨hresult, hflag, hcontacts⟩
  · rw [hok] at hcontacts
    exact Or.inr ⟨hresult, hflag, hcontacts⟩

theorem rollback_recorded (db : Database η σ) (s : State η (Recorded η σ)) :
    let done := (db.recorded.rollback.run s).2
    done.own.handle = s.own.handle ∧ done.own.inTransaction = false
      ∧ ∃ undone, done.contacts = s.contacts ++ [.call s.own.handle .rollback undone] := by
  intro done
  rcases db.recorded.rollback_run s with ⟨hworld, hhandle, -, hflag⟩
  exact ⟨hhandle, hflag, _, congrArg Recorded.contacts hworld⟩

end Database

/-- Whether a contact is a statement that was sent on a session. -/
def Contact.IsStatement (h : η) (c : Contact η) : Prop :=
  ∃ sql binds readonly succeeded, c = .call h (Request.ofStatement sql binds readonly) succeeded

/-- What happens while a transaction is open. -/
structure Within (s t : State η (Recorded η σ)) : Prop where
  -- It stays open.
  inTransaction : t.own.inTransaction = true
  -- The session stays in use.
  handle : t.own.handle = s.own.handle
  -- Only statements are sent.
  contacts : ∃ added, t.contacts = s.contacts ++ added ∧ ∀ c ∈ added, c.IsStatement s.own.handle

/-- While a transaction is open, only statements are sent, and on one session. -/
def inside (η σ : Type) : Frame η (Recorded η σ) where
  rel s t := s.own.inTransaction = true → Within s t
  refl s := fun h => ⟨h, rfl, [], (List.append_nil _).symm, fun c hc => absurd hc List.not_mem_nil⟩
  trans := by
    intro s t u hst htu h
    rcases hst h with ⟨hflag, hhandle, first, hfirst, hstatements⟩
    rcases htu hflag with ⟨hflag', hhandle', second, hsecond, hstatements'⟩
    refine ⟨hflag', hhandle'.trans hhandle, first ++ second, ?_, ?_⟩
    · rw [hsecond, hfirst, List.append_assoc]
    · intro c hc
      rw [hhandle] at hstatements'
      rcases List.mem_append.mp hc with hc | hc
      · exact hstatements c hc
      · exact hstatements' c hc

/-- Every operation keeps to that. -/
theorem inside_respects (db : Database η σ) : Respects db.recorded (inside η σ) where
  quiet s _ _ _ := fun h =>
    ⟨h, rfl, [], (List.append_nil _).symm, fun c hc => absurd hc List.not_mem_nil⟩
  counting s _ := fun h =>
    ⟨h, rfl, [], (List.append_nil _).symm, fun c hc => absurd hc List.not_mem_nil⟩
  sending := by
    intro sql binds readonly s h
    rcases db.recorded.sendRetrying_inside sql binds readonly s h with ⟨-, hrest, hworld⟩
    rcases db.send_recorded sql binds readonly s with ⟨-, -, hcontacts, hkept⟩
    have hsent := (congrArg Recorded.contacts hworld).trans hcontacts
    refine ⟨?_, hrest.handle.trans hkept.handle, _, hsent, ?_⟩
    · rw [hrest.inTransaction, hkept.inTransaction, h]
    · intro c hc
      rw [List.mem_singleton] at hc
      exact ⟨_, _, _, _, hc⟩
  transaction := by
    intro α body hbody s h
    rw [Database.transaction_inside _ body s h]
    exact hbody s h

/-- A transaction is open before and behind each call of a body that runs in one. -/
theorem Routine.calls_inside (db : Database η σ) {α : Type} {r : Routine α} :
    ∀ {s : State η (Recorded η σ)}, r.Uses (· ≠ .reconnect) → s.own.inTransaction = true →
      ∀ c ∈ r.calls db.recorded s,
        c.before.own.inTransaction = true ∧ c.after.own.inTransaction = true := by
  have hrespects := inside_respects db
  induction r with
  | ending result =>
      intro s _ _ c hc
      simp only [calls, List.not_mem_nil] at hc
  | call op next ih =>
      intro s huses h c hc
      have hafter := (hrespects.perform huses.1 s h).inTransaction
      simp only [calls, List.mem_cons] at hc
      rcases hc with rfl | hc
      · exact ⟨h, hafter⟩
      · exact ih _ (huses.2 _) hafter c hc
  | transaction body next ihBody ihNext =>
      intro s huses h c hc
      have hbody := hrespects.routine huses.1
      have hafter := (hrespects.transaction _ hbody s h).inTransaction
      simp only [calls, Database.enter_inside _ s h, List.mem_append] at hc
      rcases hc with hc | hc
      · exact ihBody huses.1 h c hc
      · exact ihNext _ (huses.2 _) hafter c hc

/-- How a transaction ends that was begun on a session: how its body ended, what comes of the
    whole, and what the session is asked for behind the body. -/
inductive Ending (h : η) : Except Stop α → Except Stop α → List (Contact η) → Prop where
  -- The body succeeded, and so did the commit.
  | committed (a : α) : Ending h (.ok a) (.ok a) [.call h .commit true]
  -- The body succeeded, but the commit did not.
  | refused (a : α) (e : Error) (undone : Bool) :
      Ending h (.ok a) (.error (.failed e)) [.call h .commit false, .call h .rollback undone]
  -- The body ended early, with an error or abruptly.
  | undone (stop : Stop) (undone : Bool) :
      Ending h (.error stop) (.error stop) [.call h .rollback undone]

/-- The whole succeeds exactly if the body and the commit do. -/
theorem Ending.isOk_iff {h : η} {body result : Except Stop α} {last : List (Contact η)}
    (hending : Ending h body result last) :
    result.isOk = true ↔ body.isOk = true ∧ .call h .commit true ∈ last := by
  cases hending with
  | committed a =>
      exact ⟨fun _ => ⟨rfl, List.mem_singleton.mpr rfl⟩, fun _ => rfl⟩
  | refused a e undone =>
      refine ⟨fun hok => absurd hok Bool.false_ne_true, fun hcommit => ?_⟩
      simp only [List.mem_cons, Contact.call.injEq, Bool.true_eq_false, reduceCtorEq, and_false,
        false_and, List.not_mem_nil, or_false] at hcommit
  | undone stop undone =>
      exact ⟨fun hok => absurd hok Bool.false_ne_true, fun hbody =>
        absurd hbody.1 Bool.false_ne_true⟩

namespace Database

/-- Ending a transaction closes it, in one of few ways. -/
theorem close_recorded (db : Database η σ) (ending : Except Stop α) (s : State η (Recorded η σ)) :
    let done := (db.recorded.close ending).run s
    done.2.own.handle = s.own.handle ∧ done.2.own.inTransaction = false
      ∧ ∃ last, done.2.contacts = s.contacts ++ last
        ∧ Ending s.own.handle ending done.1 last := by
  intro done
  rcases ending with (e | _) | a
  · rcases db.rollback_recorded s with ⟨hhandle, hflag, undone, hcontacts⟩
    exact ⟨hhandle, hflag, _, hcontacts, .undone _ undone⟩
  · -- The report about the abrupt end comes before the rollback.
    rcases db.rollback_recorded ((SqlMapper.report {
      level := .warn
      message := "transaction closure panicked, rolling back" }).run s).2 with
      ⟨hhandle, hflag, undone, hcontacts⟩
    exact ⟨hhandle, hflag, _, hcontacts, .undone _ undone⟩
  · have hdone : done = _ := close_ok_run db.recorded a s
    have hcommit := switch_recorded "COMMIT" .commit db.client.commit false
      "transaction committed" s
    rcases hrun : db.recorded.commit.run.run s with ⟨result, t⟩
    rw [show (switch "COMMIT" (Request.commit.recorded db.client.commit) false
      "transaction committed").run.run s = (result, t) from hrun] at hcommit
    rw [hrun] at hdone
    rcases hcommit with ⟨hhandle, ⟨hresult, hflag, hcontacts⟩ | ⟨⟨e, hresult⟩, -, hcontacts⟩⟩
    · rw [show result = .ok () from hresult] at hdone
      rw [hdone]
      exact ⟨hhandle, hflag, _, hcontacts, .committed a⟩
    · rw [show result = .error (.failed e) from hresult] at hdone
      rw [hdone]
      rcases db.rollback_recorded t with ⟨hhandle', hflag, undone, hcontacts'⟩
      refine ⟨hhandle'.trans hhandle, hflag, _, ?_, .refused a e undone⟩
      rw [show t.own.handle = s.own.handle from hhandle] at hcontacts'
      rw [hcontacts', hcontacts, List.append_assoc]
      rfl

end Database

section

variable (db : Database η σ) {α : Type} (body : Routine α) (s : State η (Recorded η σ))

/-- What a body and the end of its transaction leave behind, from the state in which the
    transaction was begun. -/
structure Enclosed (opened : State η (Recorded η σ)) : Prop where
  -- The transaction is open when the body begins.
  first : opened.own.inTransaction = true
  -- It is open before and behind each call of the body.
  within : ∀ c ∈ body.calls db.recorded opened,
    c.before.own.inTransaction = true ∧ c.after.own.inTransaction = true
  -- It is open when the body ends.
  last : ((body.run db.recorded).run.run opened).2.own.inTransaction = true
  -- The session is asked for one beginning, then for statements only, then for the end.
  contacts : ∃ inner last,
    ((db.recorded.transaction (body.run db.recorded)).run.run s).2.contacts
      = s.contacts ++ [.call s.own.handle .begin true] ++ inner ++ last
    ∧ (∀ c ∈ inner, c.IsStatement s.own.handle)
    ∧ Ending s.own.handle ((body.run db.recorded).run.run opened).1
        ((db.recorded.transaction (body.run db.recorded)).run.run s).1 last
    ∧ (((db.recorded.transaction (body.run db.recorded)).run.run s).1.isOk = true
        ↔ ((body.run db.recorded).run.run opened).1.isOk = true
          ∧ .call s.own.handle .commit true ∈ last)

/-- What a transaction leaves behind where none was open. -/
structure Bracketed : Prop where
  -- None is open.
  closed : ((db.recorded.transaction (body.run db.recorded)).run.run s).2.own.inTransaction = false
  -- The session is the same.
  handle : ((db.recorded.transaction (body.run db.recorded)).run.run s).2.own.handle = s.own.handle
  -- If it could not be begun, that is all that happened; the body was not run.
  unopened : ∀ stop refused, db.recorded.begin.run.run s = (.error stop, refused) →
    (db.recorded.transaction (body.run db.recorded)).run.run s = (.error stop, refused)
      ∧ refused.contacts = s.contacts ++ [.call s.own.handle .begin false]
  -- Otherwise the body was run, and the transaction was ended.
  opened : ∀ opened, db.recorded.begin.run.run s = (.ok (), opened) → Enclosed db body s opened

end

/-- A transaction is bracketed, whatever its body does and whatever the client answers. -/
theorem transaction_bracketed (db : Database η σ) {α : Type} (body : Routine α)
    (huses : body.Uses (· ≠ .reconnect)) (s : State η (Recorded η σ))
    (h : s.own.inTransaction = false) : Bracketed db body s := by
  have hdone := db.recorded.transaction_outside (body.run db.recorded) s h
  have hbegin := Database.switch_recorded "BEGIN" .begin db.client.begin true
    "transaction started" s
  rcases hrun : db.recorded.begin.run.run s with ⟨result, t⟩
  rw [show (Database.switch "BEGIN" (Request.begin.recorded db.client.begin) true
    "transaction started").run.run s = (result, t) from hrun] at hbegin
  rw [hrun] at hdone
  rcases hbegin with ⟨hhandle, ⟨hresult, hflag, hcontacts⟩ | ⟨⟨e, hresult⟩, hflag, hcontacts⟩⟩
  · rw [show result = .ok () from hresult] at hdone hrun
    have hhandle : t.own.handle = s.own.handle := hhandle
    -- The body keeps the session and adds statements; closing the transaction adds the end.
    have hbody := (inside_respects db).routine huses t hflag
    rcases hbody.contacts with ⟨inner, hinner, hstatements⟩
    rcases db.close_recorded ((body.run db.recorded).run.run t).1
      ((body.run db.recorded).run.run t).2 with ⟨hafter, hclosed, last, hlast, hending⟩
    dsimp only at hdone
    rw [← hdone] at hafter hclosed hlast hending
    rw [hbody.handle, hhandle] at hafter hending
    rw [hhandle] at hstatements
    refine ⟨hclosed, hafter, ?_, ?_⟩
    · intro stop refused hrefused
      rw [hrun] at hrefused
      cases hrefused
    · intro opened hopened
      rw [hrun] at hopened
      cases hopened
      refine ⟨hflag, Routine.calls_inside db huses hflag, hbody.inTransaction, inner, last, ?_,
        hstatements, hending, hending.isOk_iff⟩
      rw [hlast, hinner, show t.contacts = _ from hcontacts]
  · rw [show result = .error (.failed e) from hresult] at hdone hrun
    refine ⟨?_, ?_, ?_, ?_⟩
    · rw [hdone]
      exact hflag.trans h
    · rw [hdone]
      exact hhandle
    · intro stop refused hrefused
      rw [hrun] at hrefused
      cases hrefused
      exact ⟨hdone, hcontacts⟩
    · intro opened hopened
      rw [hrun] at hopened
      cases hopened

/-- The session is dropped at the third request. -/
def Script.thriceAsked : Script where
  replies := [{ }, { }, .dropped]

/-- A write, and another in a transaction of its own, whose error is passed on. -/
def Routine.writes : Routine Unit :=
  .call (.execute "INSERT INTO a VALUES (1);" ∅ false) fun _ =>
    .transaction (.call (.execute "UPDATE b SET n = 2;" ∅ false) fun r => .ending r) fun r =>
      .ending (r.map fun _ => ())

theorem transaction_bracketed_writes :
    Routine.writes.Uses (· ≠ .reconnect)
      ∧ (State.scripted .thriceAsked).own.inTransaction = false
      ∧ Bracketed .scripted Routine.writes (State.scripted .thriceAsked) := by
  have huses : Routine.writes.Uses (· ≠ .reconnect) :=
    ⟨by decide, fun _ => ⟨⟨by decide, fun _ => trivial⟩, fun _ => trivial⟩⟩
  exact ⟨huses, rfl, transaction_bracketed .scripted Routine.writes huses _ rfl⟩

end SqlMapper
