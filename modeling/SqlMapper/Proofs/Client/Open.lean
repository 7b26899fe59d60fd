import SqlMapper.Proofs.Client.Recorded

/-!
# Open Transactions

Which sessions have a transaction open.

A session begins one when it is asked to and succeeds, and ends it when a commit
or a rollback succeeds; a call that fails leaves it as it was, and a session that
was just given has none. So the contacts with a session tell whether it has a
transaction open, whatever the engine takes down about it.

The two part where a rollback is refused. The session is `Stranded` then: its
transaction stays open until something begins or ends one on that session, or it
is given anew. `Agrees` is the relation between the contacts and what the engine
has taken down that survives every contact: a transaction that counts as open is
open, and one that is open counts unless its session is stranded.

## Main definitions

* `Contact.Settles`: A contact that begins or ends a transaction on a session.
* `openOn`, `State.isOpen`: Whether a session has a transaction open.
* `StrandedOn`, `State.Stranded`: A rollback was refused, and nothing came of it since.
* `Agrees`, `State.Accounted`: What the engine has taken down is right, but for that.

## Theorems

* `isOpen_of_stranded`: A stranded session has a transaction open.
* `Agrees.statement`, `Agrees.begun`, `Agrees.ended`, `Agrees.refused`, `Agrees.rolledBack`,
  `Agrees.dialed`: One more contact of each kind.
* `State.Accounted.truthful_iff`: What was taken down is right unless the session is stranded.
-/

namespace SqlMapper

variable {η σ : Type}

/-- A contact that begins or ends a transaction on a session, or gives the session anew. -/
def Contact.Settles (h : η) : Contact η → Prop
  | .connect session => session = some h
  | .call session request succeeded =>
    session = h ∧ succeeded = true ∧ (request = .begin ∨ request = .commit ∨ request = .rollback)

theorem Contact.not_settles_of_failed (h : η) (request : Request) :
    ¬ Contact.Settles h (.call h request false) :=
  fun hc => Bool.false_ne_true hc.2.1

variable [DecidableEq η]

/-- Whether a session has a transaction open behind a request that succeeded. -/
def Request.opened (before : Bool) : Request → Bool
  | .begin => true
  | .commit | .rollback => false
  | .query _ _ | .execute _ _ => before

/-- Whether a session has a transaction open behind a contact. -/
def Contact.opened (h : η) (before : Bool) : Contact η → Bool
  | .connect session => if session = some h then false else before
  | .call session request succeeded =>
    if session = h ∧ succeeded = true then request.opened before else before

/-- Whether a session has a transaction open behind some contacts. -/
def openOn (h : η) (contacts : List (Contact η)) : Bool :=
  contacts.foldl (Contact.opened h) false

/-- A session refused to roll back an open transaction, and none was begun or ended on it since. -/
def StrandedOn (h : η) (contacts : List (Contact η)) : Prop :=
  ∃ before after, contacts = before ++ .call h .rollback false :: after
    ∧ openOn h before = true ∧ ∀ c ∈ after, ¬ c.Settles h

theorem openOn_append (h : η) (contacts : List (Contact η)) (c : Contact η) :
    openOn h (contacts ++ [c]) = c.opened h (openOn h contacts) := by
  rw [openOn, List.foldl_append]
  rfl

theorem Contact.opened_of_not_settles {h : η} {c : Contact η} (hc : ¬ c.Settles h)
    (before : Bool) : c.opened h before = before := by
  cases c with
  | connect session => exact if_neg hc
  | call session request succeeded =>
      by_cases hcall : session = h ∧ succeeded = true
      · rw [opened, if_pos hcall]
        cases request with
        | query _ _ | execute _ _ => rfl
        | begin => exact absurd ⟨hcall.1, hcall.2, Or.inl rfl⟩ hc
        | commit => exact absurd ⟨hcall.1, hcall.2, Or.inr (Or.inl rfl)⟩ hc
        | rollback => exact absurd ⟨hcall.1, hcall.2, Or.inr (Or.inr rfl)⟩ hc
      · exact if_neg hcall

/-- A stranded session has a transaction open. -/
theorem isOpen_of_stranded {h : η} {contacts : List (Contact η)} (hs : StrandedOn h contacts) :
    openOn h contacts = true := by
  rcases hs with ⟨before, after, rfl, hopen, hafter⟩
  -- The refused rollback changes nothing, and neither does any contact behind it.
  rw [openOn, List.foldl_append, List.foldl_cons]
  have hrefused : Contact.opened h (openOn h before) (.call h .rollback false) = true := by
    rw [hopen, Contact.opened, if_neg (fun hcall => Bool.false_ne_true hcall.2)]
  rw [show before.foldl (Contact.opened h) false = openOn h before from rfl, hrefused]
  induction after with
  | nil => rfl
  | cons c rest ih =>
      rw [List.foldl_cons, Contact.opened_of_not_settles (hafter c List.mem_cons_self)]
      exact ih fun c hc => hafter c (List.mem_cons_of_mem _ hc)

/-- One more contact leaves a session stranded, or strands it, or takes it out of that. -/
theorem strandedOn_append (h : η) (contacts : List (Contact η)) (c : Contact η) :
    StrandedOn h (contacts ++ [c])
      ↔ (c = .call h .rollback false ∧ openOn h contacts = true)
        ∨ (StrandedOn h contacts ∧ ¬ c.Settles h) := by
  constructor
  · rintro ⟨before, after, hsplit, hopen, hafter⟩
    -- By whether the refused rollback is the last contact.
    rcases List.eq_nil_or_concat after with rfl | ⟨rest, last, rfl⟩
    · rcases List.append_inj' hsplit rfl with ⟨rfl, hlast⟩
      exact Or.inl ⟨List.singleton_inj.mp hlast, hopen⟩
    · rw [List.concat_eq_append] at hsplit hafter
      rw [← List.cons_append, ← List.append_assoc] at hsplit
      rcases List.append_inj' hsplit rfl with ⟨rfl, hlast⟩
      rw [List.singleton_inj.mp hlast]
      refine Or.inr ⟨⟨before, rest, rfl, hopen, fun c hc => hafter c ?_⟩, hafter last ?_⟩
      · exact List.mem_append_left _ hc
      · exact List.mem_append_right _ (List.mem_singleton.mpr rfl)
  · rintro (⟨rfl, hopen⟩ | ⟨⟨before, after, rfl, hopen, hafter⟩, hc⟩)
    · exact ⟨contacts, [], rfl, hopen, fun c hc => absurd hc List.not_mem_nil⟩
    · refine ⟨before, after ++ [c], ?_, hopen, fun d hd => ?_⟩
      · rw [List.append_assoc, List.cons_append]
      · rcases List.mem_append.mp hd with hd | hd
        · exact hafter d hd
        · rw [List.mem_singleton.mp hd]
          exact hc

/-- What was taken down about a session is right, unless it is stranded. -/
def Agrees (flag : Bool) (h : η) (contacts : List (Contact η)) : Prop :=
  flag = true ↔ openOn h contacts = true ∧ ¬ StrandedOn h contacts

namespace Agrees

variable {flag : Bool} {h : η} {contacts : List (Contact η)}

/-- A contact that settles nothing and is no refused rollback changes nothing. -/
theorem keep {c : Contact η} (hagrees : Agrees flag h contacts) (hc : ¬ c.Settles h)
    (hrefused : c ≠ .call h .rollback false) : Agrees flag h (contacts ++ [c]) := by
  rw [Agrees, openOn_append, strandedOn_append, c.opened_of_not_settles hc]
  simp only [hrefused, false_and, false_or, hc, not_false_eq_true, and_true]
  exact hagrees

/-- A contact that settles takes the session out of being stranded. -/
theorem not_stranded {c : Contact η} (hc : c.Settles h) (hrefused : c ≠ .call h .rollback false) :
    ¬ StrandedOn h (contacts ++ [c]) := by
  rw [strandedOn_append]
  rintro (⟨hc', -⟩ | ⟨-, hc'⟩)
  · exact hrefused hc'
  · exact hc' hc

theorem statement (hagrees : Agrees flag h contacts) (sql : String) (binds : Binds)
    (readonly succeeded : Bool) :
    Agrees flag h (contacts ++ [.call h (Request.ofStatement sql binds readonly) succeeded]) := by
  refine hagrees.keep ?_ ?_
  · cases readonly <;> simp [Contact.Settles, Request.ofStatement]
  · cases readonly <;> simp [Request.ofStatement]

/-- A transaction is begun. -/
theorem begun : Agrees true h (contacts ++ [.call h .begin true]) := by
  have hopen : openOn h (contacts ++ [.call h .begin true]) = true := by
    rw [openOn_append, Contact.opened, if_pos ⟨rfl, rfl⟩, Request.opened]
  have hstranded : ¬ StrandedOn h (contacts ++ [.call h .begin true]) :=
    not_stranded ⟨rfl, rfl, Or.inl rfl⟩ (by simp)
  exact ⟨fun _ => ⟨hopen, hstranded⟩, fun _ => rfl⟩

/-- A session that has none open agrees that none is. -/
theorem of_closed (hclosed : openOn h contacts = false) : Agrees false h contacts :=
  ⟨fun hfalse => absurd hfalse Bool.false_ne_true,
    fun hopen => absurd (hclosed.symm.trans hopen.1) Bool.false_ne_true⟩

/-- A transaction is committed or rolled back. -/
theorem ended {request : Request} (hends : request = .commit ∨ request = .rollback) :
    Agrees false h (contacts ++ [.call h request true]) := by
  refine of_closed ?_
  rw [openOn_append, Contact.opened, if_pos ⟨rfl, rfl⟩]
  rcases hends with rfl | rfl <;> rfl

/-- A beginning or a commit is refused. -/
theorem refused {request : Request} (hagrees : Agrees flag h contacts)
    (hrequest : request ≠ .rollback) :
    Agrees flag h (contacts ++ [.call h request false]) :=
  hagrees.keep (Contact.not_settles_of_failed h request) fun hc => hrequest (by simpa using hc)

/-- A rollback is tried: the engine counts the transaction as closed in any case. -/
theorem rolledBack (succeeded : Bool) :
    Agrees false h (contacts ++ [.call h .rollback succeeded]) := by
  cases succeeded with
  | true => exact ended (Or.inr rfl)
  | false =>
      refine ⟨fun hfalse => absurd hfalse Bool.false_ne_true, fun ⟨hopen, hstranded⟩ => ?_⟩
      -- If the session still has it open, then it is stranded.
      rw [openOn_append, Contact.opened_of_not_settles
        (Contact.not_settles_of_failed h .rollback)] at hopen
      exact absurd ((strandedOn_append _ _ _).mpr (Or.inl ⟨rfl, hopen⟩)) hstranded

/-- A session is asked for while no transaction counts as open, and is used if it is given. -/
theorem dialed (hagrees : Agrees false h contacts) (given : Option η) :
    Agrees false (given.getD h) (contacts ++ [.connect given]) := by
  cases given with
  | none => exact hagrees.keep (fun hc => nomatch hc) (fun hc => nomatch hc)
  | some session =>
      refine of_closed ?_
      rw [openOn_append]
      exact if_pos rfl

end Agrees

namespace State

/-- Whether the session in use has a transaction open. -/
def isOpen (s : State η (Recorded η σ)) : Bool :=
  openOn s.own.handle s.contacts

/-- The session in use refused to roll back its transaction, and nothing came of it since. -/
def Stranded (s : State η (Recorded η σ)) : Prop :=
  StrandedOn s.own.handle s.contacts

/-- What was taken down about the session in use is right, unless it is stranded. -/
def Accounted (s : State η (Recorded η σ)) : Prop :=
  Agrees s.own.inTransaction s.own.handle s.contacts

/-- Whether a transaction counts as open is right exactly if the session is not stranded. -/
theorem Accounted.truthful_iff {s : State η (Recorded η σ)} (h : s.Accounted) :
    s.own.inTransaction = s.isOpen ↔ ¬ s.Stranded := by
  have hagrees : s.own.inTransaction = true ↔ s.isOpen = true ∧ ¬ s.Stranded := h
  constructor
  · intro htruth hstranded
    have hopen : s.isOpen = true := isOpen_of_stranded hstranded
    exact (hagrees.mp (htruth.trans hopen)).2 hstranded
  · intro hstranded
    rw [Bool.eq_iff_iff, hagrees]
    exact ⟨fun hopen => hopen.1, fun hopen => ⟨hopen, hstranded⟩⟩

end State

end SqlMapper
