import SqlMapper.Proofs.Client.Recorded

/-!
# Retrying

What the loop that sends a statement does, attempt by attempt.

The client decides how the loop goes. It answers each attempt, and behind each
failed one it gives a session or none. Where an attempt is made, on which
session and in which world, follows from this alone, so the attempts are first
written down without the loop: `Start.behind` is where the attempt behind so
many failed ones is made. A client may answer as it likes, so these cover every
sequence of answers and of attempts to connect.

`Sent` then says what is left behind when the last attempt comes behind so many
failed ones: its answer, the calls and the attempts to connect in order, and the
waits in between. Which attempt is the last is a matter of the answers and of
the number of attempts allowed.

## Main definitions

* `Start`: Where an attempt is made.
* `Start.behind`: Where the attempt behind so many failed ones is made.
* `Start.response`, `Start.rounds`: Its answer, and the contacts before it.
* `settles`: Whether an answer is final whatever the policy says.
* `RetryPolicy.attempts`: How many attempts a statement gets.
* `Reaches`: An attempt that the loop makes, with its counter.
* `Arrived`: What so many failed attempts leave behind.
* `Sent`: What sending a statement leaves behind.

## Theorems

* `Reaches.sendRetrying_run`: From each attempt on the loop runs like the whole.
* `Arrived.recover`: What one failed attempt adds.
* `Arrived.of_failures`: What so many failed ones add up to.
* `sendRetrying_exact`: What the whole loop does.
-/

namespace SqlMapper

variable {η σ : Type}

/-- Where an attempt is made. -/
structure Start (η σ : Type) where
  -- The session.
  handle : η
  -- The world of the client.
  world : σ

/-- Where the next attempt is made. -/
def State.start (s : State η (Recorded η σ)) : Start η σ where
  handle := s.own.handle
  world := s.around.world.world

/-- Whether an answer is final: a success, or a failure that says nothing about the session. -/
def settles : Except ClientFailure Outcome → Bool
  | .ok _ => true
  | .error failure => !failure.isTransient

/-- How many attempts a statement gets; one is made in any case. -/
def RetryPolicy.attempts (p : RetryPolicy) : Nat :=
  max 1 p.maxAttempts.toNat

namespace Start

variable (db : Database η σ) (sql : String) (binds : Binds) (readonly : Bool)

/-- The answer to an attempt, and the world behind it. -/
def answered (a : Start η σ) : Except ClientFailure Outcome × σ :=
  db.client.answer a.handle sql binds readonly a.world

/-- The session given behind a failed attempt, if one is, and the world behind that. -/
def dialed (a : Start η σ) : Except ClientFailure η × σ :=
  (db.client.connect db.dialect.tag db.config).run (a.answered db sql binds readonly).2

/-- Where the attempt behind so many failed ones is made. The session is the one that was given
    last. -/
def behind (a : Start η σ) : Nat → Start η σ
  | 0 => a
  | k + 1 =>
    let before := a.behind k
    { handle := (before.dialed db sql binds readonly).1.toOption.getD before.handle
      world := (before.dialed db sql binds readonly).2 }

/-- The answer to the attempt behind so many failed ones. -/
def response (a : Start η σ) (k : Nat) : Except ClientFailure Outcome :=
  ((a.behind db sql binds readonly k).answered db sql binds readonly).1

/-- The attempt behind so many failed ones as a contact. -/
def call (a : Start η σ) (k : Nat) : Contact η :=
  .call (a.behind db sql binds readonly k).handle (Request.ofStatement sql binds readonly)
    (a.response db sql binds readonly k).isOk

/-- The attempt to connect behind it as a contact. -/
def dial (a : Start η σ) (k : Nat) : Contact η :=
  .connect ((a.behind db sql binds readonly k).dialed db sql binds readonly).1.toOption

/-- The contacts of so many failed attempts. -/
def rounds (a : Start η σ) (k : Nat) : List (Contact η) :=
  (List.range k).flatMap fun j =>
    [a.call db sql binds readonly j, a.dial db sql binds readonly j]

theorem rounds_succ (a : Start η σ) (k : Nat) :
    a.rounds db sql binds readonly (k + 1)
      = a.rounds db sql binds readonly k
        ++ [a.call db sql binds readonly k, a.dial db sql binds readonly k] := by
  simp only [rounds, List.range_succ, List.flatMap_append, List.flatMap_cons, List.flatMap_nil,
    List.append_nil]

end Start

/-- Whether a contact is a call. -/
def Contact.isCall : Contact η → Bool
  | .call _ _ _ => true
  | .connect _ => false

/-- How many calls there were so far. -/
def State.calls (s : State η (Recorded η σ)) : Nat :=
  s.contacts.countP Contact.isCall

/-- How many attempts to connect there were so far. -/
def State.dials (s : State η (Recorded η σ)) : Nat :=
  s.contacts.countP fun c => !c.isCall

theorem Start.countP_rounds (db : Database η σ) (sql : String) (binds : Binds) (readonly : Bool)
    (a : Start η σ) (k : Nat) :
    (a.rounds db sql binds readonly k).countP Contact.isCall = k
      ∧ ((a.rounds db sql binds readonly k).countP fun c => !c.isCall) = k := by
  induction k with
  | zero => exact ⟨rfl, rfl⟩
  | succ k ih =>
      rw [rounds_succ, List.countP_append, List.countP_append, ih.1, ih.2]
      exact ⟨rfl, rfl⟩

namespace Database

theorem callsForRetry_of_settles {r : Except ClientFailure Outcome} (h : settles r = true)
    (transactional : Bool) : callsForRetry transactional r = none := by
  cases r with
  | ok outcome => rfl
  | error failure =>
      have hfailure : failure.isTransient = false := by
        simpa only [settles, Bool.not_eq_true'] using h
      simp only [callsForRetry, hfailure, Bool.false_and, Bool.false_eq_true, if_false]

theorem callsForRetry_of_not_settles {r : Except ClientFailure Outcome} (h : settles r = false) :
    ∃ failure, callsForRetry false r = some failure := by
  cases r with
  | ok outcome => exact absurd h (by simp only [settles, Bool.true_eq_false, not_false_eq_true])
  | error failure =>
      have hfailure : failure.isTransient = true := by
        simpa only [settles, Bool.not_eq_false'] using h
      refine ⟨failure, ?_⟩
      simp only [callsForRetry, hfailure, Bool.not_false, Bool.and_true, if_true]

/-- Recovering from a failure is one attempt to connect and one wait. -/
theorem recover_recorded (db : Database η σ) (attempt : UInt32) (failure : ClientFailure)
    (s : State η (Recorded η σ)) :
    let dialed := (db.client.connect db.dialect.tag db.config).run s.around.world.world
    let done := ((db.recorded.recover attempt failure).run s).2
    done.own.handle = dialed.1.toOption.getD s.own.handle
      ∧ done.around.world.world = dialed.2
      ∧ done.contacts = s.contacts ++ [.connect dialed.1.toOption]
      ∧ done.own.inTransaction = s.own.inTransaction
      ∧ done.pauses = s.pauses ++ [db.options.retry.backoff attempt] := by
  intro dialed done
  rcases db.recorded.recover_rebuilt attempt failure s with ⟨hrebuilt, hpauses⟩
  have hworld : done.around.world = _ := hrebuilt.world
  refine ⟨hrebuilt.handle, congrArg Recorded.world hworld, congrArg Recorded.contacts hworld,
    hrebuilt.inTransaction, hpauses⟩

end Database

section

variable (db : Database η σ) (sql : String) (binds : Binds) (readonly : Bool)
  (s : State η (Recorded η σ))

/-- The attempts that the loop makes, each with its counter and the state in which it is made. -/
inductive Reaches : UInt32 → State η (Recorded η σ) → Prop where
  -- There is always a first one.
  | first : Reaches 1 s
  -- Another one follows an answer that calls for it, if the policy allows it.
  | next {attempt : UInt32} {t : State η (Recorded η σ)} {failure : ClientFailure}
      (before : Reaches attempt t)
      (calls : Database.callsForRetry t.own.inTransaction
        ((db.recorded.send sql binds readonly).run t).1 = some failure)
      (allowed : db.options.retry.allows attempt = true) :
      Reaches (attempt + 1) ((db.recorded.recover attempt failure).run
        ((db.recorded.send sql binds readonly).run t).2).2

/-- What is left behind by so many failed attempts. -/
structure Arrived (k : Nat) (t : State η (Recorded η σ)) : Prop where
  -- The next attempt is made where the client's answers lead.
  start : t.start = s.start.behind db sql binds readonly k
  -- A transaction is open if one was.
  inTransaction : t.own.inTransaction = s.own.inTransaction
  -- Each attempt was followed by an attempt to connect.
  contacts : t.contacts = s.contacts ++ s.start.rounds db sql binds readonly k
  -- And by a wait.
  pauses : t.pauses = s.pauses
    ++ (List.range k).map fun j => db.options.retry.backoff (UInt32.ofNat (j + 1))

/-- What sending a statement leaves behind if the last attempt comes behind so many failed ones. -/
structure Sent (k : Nat) : Prop where
  -- The result is the answer to the last attempt.
  result : ((db.recorded.sendRetrying sql binds readonly).run s).1
    = s.start.response db sql binds readonly k
  -- Each attempt was a call.
  calls : ((db.recorded.sendRetrying sql binds readonly).run s).2.calls = s.calls + (k + 1)
  -- Each but the last was followed by an attempt to connect.
  dials : ((db.recorded.sendRetrying sql binds readonly).run s).2.dials = s.dials + k
  -- The calls went to the sessions that were given last, and nothing else was asked for.
  contacts : ((db.recorded.sendRetrying sql binds readonly).run s).2.contacts
    = s.contacts ++ s.start.rounds db sql binds readonly k
      ++ [s.start.call db sql binds readonly k]
  -- The waits grow with the number of failed attempts, as far as they can be counted.
  pauses : ((db.recorded.sendRetrying sql binds readonly).run s).2.pauses.map UInt64.toNat
    = s.pauses.map UInt64.toNat
      ++ (List.range k).map fun j =>
        min (db.options.retry.baseDelayMs.toNat * (j + 1)) (UInt64.size - 1)

variable {db sql binds readonly s}

/-- From each attempt on the loop runs like the whole. -/
theorem Reaches.sendRetrying_run {attempt : UInt32} {t : State η (Recorded η σ)}
    (h : Reaches db sql binds readonly s attempt t) :
    (db.recorded.sendRetrying sql binds readonly).run s
      = (db.recorded.sendFrom sql binds readonly attempt).run t := by
  induction h with
  | first => rfl
  | next before calls allowed ih =>
      rw [ih]
      exact db.recorded.sendFrom_of_retry sql binds readonly _ _ calls allowed

namespace Arrived

variable {k : Nat} {t : State η (Recorded η σ)}

theorem zero : Arrived db sql binds readonly s 0 s where
  start := rfl
  inTransaction := rfl
  contacts := (List.append_nil _).symm
  pauses := (List.append_nil _).symm

/-- The client answers the next attempt as it answers one that is made there. -/
theorem answered (h : Arrived db sql binds readonly s k t) :
    db.client.answer t.own.handle sql binds readonly t.around.world.world
      = (s.start.behind db sql binds readonly k).answered db sql binds readonly := by
  rw [← h.start]
  rfl

/-- The next attempt is a call. -/
theorem send (h : Arrived db sql binds readonly s k t) :
    let done := (db.recorded.send sql binds readonly).run t
    done.1 = s.start.response db sql binds readonly k
      ∧ done.2.contacts = t.contacts ++ [s.start.call db sql binds readonly k]
      ∧ done.2.around.world.world
        = ((s.start.behind db sql binds readonly k).answered db sql binds readonly).2
      ∧ Kept t done.2 := by
  intro done
  rcases db.send_recorded sql binds readonly t with ⟨hresult, hworld, hcontacts, hkept⟩
  rw [h.answered] at hresult hworld hcontacts
  have hhandle : t.own.handle = (s.start.behind db sql binds readonly k).handle :=
    congrArg Start.handle h.start
  rw [hhandle] at hcontacts
  exact ⟨hresult, hcontacts, hworld, hkept⟩

/-- If it fails, recovering from that leads to where the one behind it is made. -/
theorem recover (h : Arrived db sql binds readonly s k t) {attempt : UInt32}
    (hattempt : attempt.toNat = k + 1) (failure : ClientFailure) :
    Arrived db sql binds readonly s (k + 1) ((db.recorded.recover attempt failure).run
      ((db.recorded.send sql binds readonly).run t).2).2 := by
  rcases h.send with ⟨-, hcall, hsent, hkept⟩
  rcases db.recover_recorded attempt failure ((db.recorded.send sql binds readonly).run t).2 with
    ⟨hhandle, hworld, hdial, hflag, hpause⟩
  rw [hsent] at hhandle hworld hdial
  have hbefore : t.own.handle = (s.start.behind db sql binds readonly k).handle :=
    congrArg Start.handle h.start
  have hcount : UInt32.ofNat (k + 1) = attempt := by
    rw [← hattempt, UInt32.ofNat_toNat]
  constructor
  case start =>
    rw [hkept.handle, hbefore] at hhandle
    exact congr (congrArg Start.mk hhandle) hworld
  case inTransaction =>
    rw [hflag, hkept.inTransaction, h.inTransaction]
  case contacts =>
    rw [hdial, hcall, h.contacts, Start.rounds_succ]
    simp only [List.append_assoc, List.cons_append, List.nil_append]
    rfl
  case pauses =>
    rw [hpause, hkept.pauses, h.pauses, List.range_succ, List.map_append, List.append_assoc,
      List.map_singleton, hcount]

theorem dials (h : Arrived db sql binds readonly s k t) : t.dials = s.dials + k := by
  rw [State.dials, h.contacts, List.countP_append, (Start.countP_rounds _ _ _ _ _ _).2]
  rfl

end Arrived

/-- The counter of an attempt is the number of failed ones and one more. -/
theorem Reaches.arrived {attempt : UInt32} {t : State η (Recorded η σ)}
    (h : Reaches db sql binds readonly s attempt t) :
    ∃ k, attempt.toNat = k + 1 ∧ Arrived db sql binds readonly s k t := by
  induction h with
  | first => exact ⟨0, rfl, Arrived.zero⟩
  | next before calls allowed ih =>
      rcases ih with ⟨k, hattempt, harrived⟩
      refine ⟨k + 1, ?_, harrived.recover hattempt _⟩
      rw [RetryPolicy.toNat_add_one_of_allows allowed, hattempt]

theorem Reaches.le_attempts {attempt : UInt32} {t : State η (Recorded η σ)}
    (h : Reaches db sql binds readonly s attempt t) :
    attempt.toNat ≤ db.options.retry.attempts := by
  cases h with
  | first => exact Nat.le_max_left _ _
  | next before calls allowed =>
      have hlt := RetryPolicy.lt_of_allows allowed
      rw [RetryPolicy.toNat_add_one_of_allows allowed, RetryPolicy.attempts]
      omega

/-- So many failed attempts lead to another one if the policy allows as many. -/
theorem Arrived.of_failures (hflag : s.own.inTransaction = false) {k : Nat}
    (hallowed : k < db.options.retry.attempts)
    (hfail : ∀ j < k, settles (s.start.response db sql binds readonly j) = false) :
    ∃ attempt t, Reaches db sql binds readonly s attempt t ∧ attempt.toNat = k + 1
      ∧ Arrived db sql binds readonly s k t := by
  induction k with
  | zero => exact ⟨1, s, .first, rfl, Arrived.zero⟩
  | succ k ih =>
      have hfewer : k < db.options.retry.attempts := by omega
      rcases ih hfewer fun j hj => hfail j (by omega) with ⟨attempt, t, hreach, hattempt, harrived⟩
      have hanswer := hfail k (by omega)
      rw [← harrived.send.1] at hanswer
      rcases Database.callsForRetry_of_not_settles hanswer with ⟨failure, hcalls⟩
      rw [← hflag, ← harrived.inTransaction] at hcalls
      have hallows : db.options.retry.allows attempt = true := by
        simp only [RetryPolicy.attempts] at hallowed
        simp only [RetryPolicy.allows, decide_eq_true_eq, UInt32.lt_iff_toNat_lt]
        omega
      refine ⟨attempt + 1, _, .next hreach hcalls hallows, ?_, harrived.recover hattempt failure⟩
      rw [RetryPolicy.toNat_add_one_of_allows hallows, hattempt]

/-- An attempt that nothing follows is the last, and its answer is the result. -/
theorem Arrived.sent {k : Nat} {attempt : UInt32} {t : State η (Recorded η σ)}
    (h : Arrived db sql binds readonly s k t) (hreach : Reaches db sql binds readonly s attempt t)
    (hattempt : attempt.toNat = k + 1)
    (hlast : Database.callsForRetry s.own.inTransaction (s.start.response db sql binds readonly k)
      = none ∨ db.options.retry.allows attempt = false) :
    Sent db sql binds readonly s k := by
  rcases h.send with ⟨hanswer, hcall, -, hkept⟩
  have hstop := db.recorded.sendFrom_of_stop sql binds readonly attempt t (by
    rw [hanswer, h.inTransaction]
    exact hlast)
  rw [← hreach.sendRetrying_run] at hstop
  rcases hstop with ⟨hresult, hrest, hworld⟩
  have hcontacts : ((db.recorded.sendRetrying sql binds readonly).run s).2.contacts
      = s.contacts ++ s.start.rounds db sql binds readonly k
        ++ [s.start.call db sql binds readonly k] := by
    rw [← h.contacts, ← hcall]
    exact congrArg Recorded.contacts hworld
  rcases Start.countP_rounds db sql binds readonly s.start k with ⟨hcalls, hdials⟩
  refine ⟨hresult.trans hanswer, ?_, ?_, hcontacts, ?_⟩
  · rw [State.calls, hcontacts, List.countP_append, List.countP_append, hcalls]
    rfl
  · rw [State.dials, hcontacts, List.countP_append, List.countP_append, hdials]
    rfl
  · rw [hrest.pauses, hkept.pauses, h.pauses, List.map_append, List.map_map]
    congr 1
    refine List.map_congr_left fun j hj => ?_
    -- The counter never got further than the last attempt, so its numbers are the true ones.
    have hcount : (UInt32.ofNat (j + 1)).toNat = j + 1 := by
      have hfits := attempt.toNat_lt
      rw [List.mem_range] at hj
      rw [UInt32.toNat_ofNat']
      omega
    rw [Function.comp_apply, RetryPolicy.backoff, toNat_cappedProduct, UInt32.toNat_toUInt64,
      hcount]

/-- Sending a statement, exactly: outside a transaction the first answer that settles it is the
    last, or else the last that the policy allows; inside one the first is. The counter of each
    attempt is the number of attempts to connect before it and one more, so it never overflows. -/
theorem sendRetrying_exact (db : Database η σ) (sql : String) (binds : Binds) (readonly : Bool)
    (s : State η (Recorded η σ)) :
    (s.own.inTransaction = false →
      (∀ k < db.options.retry.attempts,
        settles (s.start.response db sql binds readonly k) = true →
        (∀ j < k, settles (s.start.response db sql binds readonly j) = false) →
        Sent db sql binds readonly s k) ∧
      ((∀ j < db.options.retry.attempts,
          settles (s.start.response db sql binds readonly j) = false) →
        Sent db sql binds readonly s (db.options.retry.attempts - 1))) ∧
    (s.own.inTransaction = true → Sent db sql binds readonly s 0) ∧
    (∀ attempt t, Reaches db sql binds readonly s attempt t →
      t.dials + 1 = s.dials + attempt.toNat ∧ attempt.toNat ≤ db.options.retry.attempts
        ∧ (db.options.retry.allows attempt = true → attempt.toNat + 1 < UInt32.size)) := by
  refine ⟨fun hflag => ⟨?_, ?_⟩, ?_, ?_⟩
  · intro k hk hsettles hfail
    rcases Arrived.of_failures hflag hk hfail with ⟨attempt, t, hreach, hattempt, harrived⟩
    exact harrived.sent hreach hattempt (Or.inl (Database.callsForRetry_of_settles hsettles _))
  · intro hfail
    have hpositive : 1 ≤ db.options.retry.attempts := Nat.le_max_left _ _
    rcases Arrived.of_failures hflag (k := db.options.retry.attempts - 1) (by omega)
      (fun j hj => hfail j (by omega)) with ⟨attempt, t, hreach, hattempt, harrived⟩
    refine harrived.sent hreach hattempt (Or.inr ?_)
    simp only [RetryPolicy.attempts] at hattempt
    simp only [RetryPolicy.allows, decide_eq_false_iff_not, UInt32.lt_iff_toNat_lt]
    omega
  · intro hflag
    refine Arrived.zero.sent .first rfl (Or.inl ?_)
    rw [hflag]
    exact Database.callsForRetry_inside _
  · intro attempt t hreach
    refine ⟨?_, hreach.le_attempts, fun hallows => ?_⟩
    · rcases hreach.arrived with ⟨k, hattempt, harrived⟩
      rw [harrived.dials, hattempt]
      omega
    · have hlt := RetryPolicy.lt_of_allows hallows
      have hmax := db.options.retry.maxAttempts.toNat_lt
      simp only [UInt32.size]
      omega

end

/-- Two dropped sessions, of which only the second can be rebuilt, and rows. -/
def Script.twiceDropped : Script where
  replies := [.dropped, .dropped, { rows := [] }]
  connects := [some { code := none, message := "refused" }, none]

theorem sendRetrying_exact_twiceDropped :
    (State.scripted .twiceDropped).own.inTransaction = false
      ∧ Sent .scripted "SELECT 1;" ∅ true (State.scripted .twiceDropped) 2 :=
  ⟨rfl, ((sendRetrying_exact .scripted "SELECT 1;" ∅ true (State.scripted .twiceDropped)).1 rfl).1
    2 (by decide) (by decide) (by decide)⟩

end SqlMapper
