import Mathlib.Data.List.Basic

/-!
# Boolean Formulas

Reading a condition as a formula over its atoms.

A condition is a row of lexemes: the words `AND`, `OR` and `NOT`, parentheses,
and the parts between them, of which only the place matters here. `NOT` binds
tighter than `AND` and `AND` tighter than `OR`. So what has been read between two
parentheses is the terms of a disjunction, the factors of the term that is being
read, and the operand the reader stands at, and one lexeme after the other is
taken in. Nothing is looked up ahead, so reading can be followed step by step.

Not every such word joins conditions. The `AND` behind a `BETWEEN` is a part of
its atom, and so is the `NOT` of `IS NOT NULL` and whatever stands in the
parentheses of a call or a list, in a subquery or in a `CASE`. A group that is
followed by anything but a joining word was the first operand of a comparison.

The reader never looks at the text of a part. So a change of the parts changes
the atoms of what is read, and the formula over them stays.

## Main definitions

* `Lexeme`: A word of a condition.
* `Formula`: A formula over atoms, with the groups it was written with.
* `Formula.holds`: Its truth, given that of the atoms.
* `Reader.step`: One lexeme taken in.
* `readFormula?`: A row of lexemes read to its end.

## Theorems

* `readFormula?_map`: The texts of the parts play no part in reading.
* `reading_under`: Reading does not depend on the factors in front.
* `readFormula?_and`: Formulas without `OR` at their top are joined by `AND` to their conjunction.
-/

namespace SqlMapper

/-- A word of a condition. -/
inductive Lexeme (α : Type) where
  | and
  | or
  | xor
  | not
  | between
  -- A `CASE` and its `END`.
  | begins
  | ends
  -- Parentheses.
  | opening
  | closing
  -- Anything else, up to the next of these.
  | part (text : α)
  deriving DecidableEq

/-- A formula over atoms. -/
inductive Formula (α : Type) where
  | atom (a : α)
  -- A formula in parentheses.
  | group (f : Formula α)
  | not (f : Formula α)
  | and (f g : Formula α)
  | or (f g : Formula α)
  deriving DecidableEq

variable {α β : Type}

/-- A lexeme with the text of a part replaced. -/
def Lexeme.map (t : α → β) : Lexeme α → Lexeme β
  | .and => .and
  | .or => .or
  | .xor => .xor
  | .not => .not
  | .between => .between
  | .begins => .begins
  | .ends => .ends
  | .opening => .opening
  | .closing => .closing
  | .part a => .part (t a)

namespace Formula

/-- Whether a formula is true, given the truth of its atoms. -/
def holds (ν : α → Bool) : Formula α → Bool
  | .atom a => ν a
  | .group f => f.holds ν
  | .not f => !f.holds ν
  | .and f g => f.holds ν && g.holds ν
  | .or f g => f.holds ν || g.holds ν

/-- The same formula over other atoms. -/
def map (t : α → β) : Formula α → Formula β
  | .atom a => .atom (t a)
  | .group f => .group (f.map t)
  | .not f => .not (f.map t)
  | .and f g => .and (f.map t) (g.map t)
  | .or f g => .or (f.map t) (g.map t)

/-- A formula without its atoms. -/
def shape (f : Formula α) : Formula Unit :=
  f.map fun _ => ()

/-- Whether a formula is a disjunction that no parentheses hold together. -/
def isOr : Formula α → Bool
  | .or _ _ => true
  | _ => false

/-- A formula with `NOT` in front so many times. -/
def negated (f : Formula α) : Nat → Formula α
  | 0 => f
  | n + 1 => .not (f.negated n)

/-- Formulas and a last one, joined by `AND`. -/
def conj : List (Formula α) → Formula α → Formula α
  | [], last => last
  | f :: fs, last => .and f (conj fs last)

/-- Formulas and a last one, joined by `OR`. -/
def disj : List (Formula α) → Formula α → Formula α
  | [], last => last
  | f :: fs, last => .or f (disj fs last)

theorem holds_conj (ν : α → Bool) (fs : List (Formula α)) (last : Formula α) :
    (conj fs last).holds ν = ((fs.all fun f => f.holds ν) && last.holds ν) := by
  induction fs with
  | nil => rfl
  | cons f fs ih => rw [conj, holds, ih, List.all_cons, Bool.and_assoc]

theorem map_negated (t : α → β) (f : Formula α) (n : Nat) :
    (f.negated n).map t = (f.map t).negated n := by
  induction n with
  | zero => rfl
  | succ n ih => rw [negated, map, ih, negated]

theorem map_conj (t : α → β) (fs : List (Formula α)) (last : Formula α) :
    (conj fs last).map t = conj (fs.map (map t)) (last.map t) := by
  induction fs with
  | nil => rfl
  | cons f fs ih => rw [conj, map, ih, List.map_cons, conj]

theorem map_disj (t : α → β) (fs : List (Formula α)) (last : Formula α) :
    (disj fs last).map t = disj (fs.map (map t)) (last.map t) := by
  induction fs with
  | nil => rfl
  | cons f fs ih => rw [disj, map, ih, List.map_cons, disj]

theorem shape_map (t : α → β) (f : Formula α) : (f.map t).shape = f.shape := by
  induction f with
  | atom a => rfl
  | group f ih => exact congrArg Formula.group ih
  | not f ih => exact congrArg Formula.not ih
  | and f g ihf ihg => exact congrArg₂ Formula.and ihf ihg
  | or f g ihf ihg => exact congrArg₂ Formula.or ihf ihg

end Formula

/-- A formula whose atoms are the lexemes they are made of. -/
abbrev Condition (α : Type) :=
  Formula (List (Lexeme α))

/-- What an atom is inside of. -/
inductive Bracket where
  | parenthesis
  | case
  deriving DecidableEq

/-- The operand a reader stands at. -/
inductive Comparand (α : Type) where
  -- Nothing has been read of it.
  | missing
  -- So far it is a group.
  | group (f : Condition α) (read : List (Lexeme α))
  -- It is an atom, maybe in front of the second bound of a range or inside of brackets.
  | atom (read : List (Lexeme α)) (ranging : Bool) (inside : List Bracket)

namespace Comparand

/-- An atom with one more lexeme, if it does not end in front of it. -/
def extend (read : List (Lexeme α)) (ranging : Bool) (inside : List Bracket) (l : Lexeme α) :
    Option (Comparand α) :=
  match l, inside with
  | .opening, _ => some (.atom (read ++ [l]) ranging (.parenthesis :: inside))
  | .begins, _ => some (.atom (read ++ [l]) ranging (.case :: inside))
  | .closing, .parenthesis :: outside => some (.atom (read ++ [l]) ranging outside)
  | .closing, _ => none
  | .ends, .case :: outside => some (.atom (read ++ [l]) ranging outside)
  | .and, [] => if ranging then some (.atom (read ++ [l]) false []) else none
  | .or, [] => none
  | .xor, [] => none
  | .between, [] => some (.atom (read ++ [l]) true [])
  | _, _ => some (.atom (read ++ [l]) ranging inside)

/-- An operand with one more lexeme, if it does not end in front of it. -/
def absorb : Comparand α → Lexeme α → Option (Comparand α)
  | .missing, .part a => some (.atom [.part a] false [])
  | .missing, .begins => some (.atom [.begins] false [.case])
  | .missing, .ends => some (.atom [.ends] false [])
  | .missing, _ => none
  | .group _ read, l => extend read false [] l
  | .atom read ranging inside, l => extend read ranging inside l

/-- The formula an operand is, if it is complete. -/
def formula? : Comparand α → Option (Condition α)
  | .missing => none
  | .group f _ => some (.group f)
  | .atom read false [] => some (.atom read)
  | .atom _ _ _ => none

end Comparand

/-- What has been read between two parentheses. -/
structure Level (α : Type) where
  -- The terms in front of the last `OR`.
  terms : List (Condition α) := []
  -- The factors of the present term in front of the last `AND`.
  factors : List (Condition α) := []
  -- How often the present factor is negated.
  negations : Nat := 0
  -- The operand of the present factor.
  operand : Comparand α := .missing

namespace Level

/-- The present factor, if it is complete. -/
def factor? (level : Level α) : Option (Condition α) :=
  level.operand.formula?.map fun f => f.negated level.negations

/-- What has been read, if it is complete. -/
def formula? (level : Level α) : Option (Condition α) :=
  level.factor?.map fun f => .disj level.terms (.conj level.factors f)

end Level

/-- A reader, inside of as many parentheses as are open. -/
inductive Reader (α : Type) where
  -- No parenthesis is open.
  | whole (level : Level α)
  -- What has been read outside of a parenthesis, all lexemes behind it, and what they say.
  | within (outer : Reader α) (read : List (Lexeme α)) (level : Level α)

namespace Reader

/-- What has been read since the last parenthesis that is open. -/
def level : Reader α → Level α
  | .whole level => level
  | .within _ _ level => level

/-- A reader behind more lexemes. -/
def advance (ls : List (Lexeme α)) (level : Level α) : Reader α → Reader α
  | .whole _ => .whole level
  | .within outer read _ => .within outer (read ++ ls) level

/-- A reader behind the parenthesis that closes the last one. -/
def close? : Reader α → Option (Reader α)
  | .whole _ => none
  | .within outer read level => level.formula?.map fun f =>
    let all := .opening :: read ++ [.closing]
    outer.advance all { outer.level with operand := .group f all }

/-- A reader behind a lexeme that is no part of the operand in front of it. -/
def turn (r : Reader α) : Lexeme α → Option (Reader α)
  | .not => some (r.advance [.not] { r.level with negations := r.level.negations + 1 })
  | .opening => some (.within r [] { })
  | .closing => r.close?
  | .and => r.level.factor?.map fun f =>
    r.advance [.and] { terms := r.level.terms, factors := r.level.factors ++ [f] }
  | .or => r.level.factor?.map fun f =>
    r.advance [.or] { terms := r.level.terms ++ [.conj r.level.factors f] }
  | _ => none

/-- A reader behind one more lexeme. -/
def step (r : Reader α) (l : Lexeme α) : Option (Reader α) :=
  match r.level.operand.absorb l with
  | some o => some (r.advance [l] { r.level with operand := o })
  | none => r.turn l

/-- What has been read, if it is complete. -/
def formula? : Reader α → Option (Condition α)
  | .whole level => level.formula?
  | .within _ _ _ => none

end Reader

/-- A row of lexemes, read as a formula. -/
def readFormula? (ls : List (Lexeme α)) : Option (Condition α) :=
  (ls.foldlM Reader.step (.whole { })).bind Reader.formula?

/-! ### The texts of the parts -/

namespace Comparand

/-- An operand with the texts of its parts replaced. -/
def map (t : α → β) : Comparand α → Comparand β
  | .missing => .missing
  | .group f read => .group (f.map (List.map (Lexeme.map t))) (read.map (Lexeme.map t))
  | .atom read ranging inside => .atom (read.map (Lexeme.map t)) ranging inside

theorem extend_map (t : α → β) (read : List (Lexeme α)) (ranging : Bool) (inside : List Bracket)
    (l : Lexeme α) :
    extend (read.map (Lexeme.map t)) ranging inside (l.map t)
      = (extend read ranging inside l).map (map t) := by
  have hread : read.map (Lexeme.map t) ++ [l.map t] = (read ++ [l]).map (Lexeme.map t) := by
    rw [List.map_append, List.map_singleton]
  -- What becomes of an atom is told by the kind of the lexeme and by what it is inside of.
  rcases inside with _ | ⟨_ | _, outside⟩ <;> cases l <;>
    simp only [Lexeme.map] at hread <;> simp only [extend, Lexeme.map, hread] <;>
    first
      | rfl
      | cases ranging <;> rfl

theorem absorb_map (t : α → β) (o : Comparand α) (l : Lexeme α) :
    (o.map t).absorb (l.map t) = (o.absorb l).map (map t) := by
  cases o with
  | missing => cases l <;> rfl
  | group f read => exact extend_map t read false [] l
  | atom read ranging inside => exact extend_map t read ranging inside l

theorem formula?_map (t : α → β) (o : Comparand α) :
    (o.map t).formula? = o.formula?.map (Formula.map (List.map (Lexeme.map t))) := by
  cases o with
  | missing => rfl
  | group f read => rfl
  | atom read ranging inside => rcases ranging with _ | _ <;> rcases inside with _ | _ <;> rfl

end Comparand

namespace Level

/-- A level with the texts of its parts replaced. -/
def map (t : α → β) (level : Level α) : Level β where
  terms := level.terms.map (Formula.map (List.map (Lexeme.map t)))
  factors := level.factors.map (Formula.map (List.map (Lexeme.map t)))
  negations := level.negations
  operand := level.operand.map t

theorem factor?_map (t : α → β) (level : Level α) :
    (level.map t).factor? = level.factor?.map (Formula.map (List.map (Lexeme.map t))) := by
  simp only [factor?, map, Comparand.formula?_map, Option.map_map]
  exact congrArg (level.operand.formula?.map ·)
    (funext fun f => (Formula.map_negated _ f level.negations).symm)

theorem formula?_map (t : α → β) (level : Level α) :
    (level.map t).formula? = level.formula?.map (Formula.map (List.map (Lexeme.map t))) := by
  simp only [formula?, factor?_map, Option.map_map]
  refine congrArg (level.factor?.map ·) (funext fun f => ?_)
  simp only [Function.comp_apply, Formula.map_disj, Formula.map_conj]
  rfl

end Level

namespace Reader

/-- A reader with the texts of the parts replaced. -/
def map (t : α → β) : Reader α → Reader β
  | .whole level => .whole (level.map t)
  | .within outer read level => .within (outer.map t) (read.map (Lexeme.map t)) (level.map t)

theorem level_map (t : α → β) (r : Reader α) : (r.map t).level = r.level.map t := by
  cases r <;> rfl

theorem advance_map (t : α → β) (ls : List (Lexeme α)) (level : Level α) (r : Reader α) :
    (r.map t).advance (ls.map (Lexeme.map t)) (level.map t) = (r.advance ls level).map t := by
  cases r with
  | whole _ => rfl
  | within outer read _ => simp only [map, advance, List.map_append]

theorem close?_map (t : α → β) (r : Reader α) : (r.map t).close? = r.close?.map (map t) := by
  cases r with
  | whole _ => rfl
  | within outer read level =>
      simp only [map, close?, Level.formula?_map, Option.map_map]
      refine congrArg (level.formula?.map ·) (funext fun f => ?_)
      simp only [Function.comp_apply, level_map, ← advance_map]
      simp only [List.map_append, List.map_cons, Level.map, Comparand.map]
      rfl

theorem turn_map (t : α → β) (r : Reader α) (l : Lexeme α) :
    (r.map t).turn (l.map t) = (r.turn l).map (map t) := by
  cases l with
  | not =>
      simp only [Lexeme.map, turn, level_map, Option.map_some, ← advance_map]
      rfl
  | opening => rfl
  | closing => exact close?_map t r
  | and =>
      simp only [Lexeme.map, turn, level_map, Level.factor?_map, Option.map_map]
      refine congrArg (r.level.factor?.map ·) (funext fun f => ?_)
      simp only [Function.comp_apply, ← advance_map, Level.map, List.map_append]
      rfl
  | or =>
      simp only [Lexeme.map, turn, level_map, Level.factor?_map, Option.map_map]
      refine congrArg (r.level.factor?.map ·) (funext fun f => ?_)
      simp only [Function.comp_apply, ← advance_map, Level.map, List.map_append, List.map_singleton,
        Formula.map_conj]
      rfl
  | xor => rfl
  | between => rfl
  | begins => rfl
  | ends => rfl
  | part a => rfl

theorem step_map (t : α → β) (r : Reader α) (l : Lexeme α) :
    (r.map t).step (l.map t) = (r.step l).map (map t) := by
  have habsorb : (r.map t).level.operand.absorb (l.map t)
      = (r.level.operand.absorb l).map (Comparand.map t) := by
    rw [level_map, Level.map, Comparand.absorb_map]
  rcases htaken : r.level.operand.absorb l with _ | o
  · rw [htaken] at habsorb
    simp only [step, habsorb, htaken, Option.map_none]
    exact turn_map t r l
  · rw [htaken] at habsorb
    simp only [step, habsorb, htaken, Option.map_some, ← advance_map]
    rw [level_map]
    rfl

theorem formula?_map (t : α → β) (r : Reader α) :
    (r.map t).formula? = r.formula?.map (Formula.map (List.map (Lexeme.map t))) := by
  cases r with
  | whole level => exact Level.formula?_map t level
  | within outer read level => rfl

end Reader

/-- The texts of the parts play no part in reading: other texts give the same formula, over
    other atoms. -/
theorem readFormula?_map (t : α → β) (ls : List (Lexeme α)) :
    readFormula? (ls.map (Lexeme.map t))
      = (readFormula? ls).map (Formula.map (List.map (Lexeme.map t))) := by
  suffices hall : ∀ r : Reader α, ((ls.map (Lexeme.map t)).foldlM Reader.step (r.map t)).bind
      Reader.formula? = ((ls.foldlM Reader.step r).bind Reader.formula?).map
        (Formula.map (List.map (Lexeme.map t))) from hall (.whole { })
  induction ls with
  | nil => exact fun r => Reader.formula?_map t r
  | cons l ls ih =>
      intro r
      rw [List.map_cons, List.foldlM_cons, List.foldlM_cons, Reader.step_map]
      rcases r.step l with _ | r'
      · rfl
      · exact ih r'

/-! ### Factors in front -/

namespace Level

/-- A level with factors in front. -/
def under (fs : List (Condition α)) (level : Level α) : Level α :=
  { level with factors := fs ++ level.factors }

end Level

namespace Reader

/-- A reader with factors in front of everything. -/
def under (fs : List (Condition α)) : Reader α → Reader α
  | .whole level => .whole (level.under fs)
  | .within outer read level => .within (outer.under fs) read level

/-- The terms that stand outside of all parentheses. -/
def terms : Reader α → List (Condition α)
  | .whole level => level.terms
  | .within outer _ _ => outer.terms

theorem terms_advance {r : Reader α} {ls : List (Lexeme α)} {level : Level α}
    (hterms : (r.advance ls level).terms = []) (h : level.terms = [] → r.level.terms = []) :
    r.terms = [] := by
  cases r with
  | whole _ => exact h hterms
  | within outer read _ => exact hterms

/-- A term outside of all parentheses stays. -/
theorem terms_step {r r' : Reader α} {l : Lexeme α} (h : r.step l = some r')
    (hterms : r'.terms = []) : r.terms = [] := by
  unfold step at h
  rcases htaken : r.level.operand.absorb l with _ | o
  · rw [htaken] at h
    cases l with
    | not =>
        cases h
        exact terms_advance hterms id
    | opening =>
        cases h
        exact hterms
    | closing =>
        cases r with
        | whole _ => cases h
        | within outer read level =>
            rcases Option.map_eq_some_iff.mp h with ⟨f, -, rfl⟩
            exact terms_advance (r := outer) hterms id
    | and =>
        rcases Option.map_eq_some_iff.mp h with ⟨f, -, rfl⟩
        exact terms_advance hterms id
    | or =>
        rcases Option.map_eq_some_iff.mp h with ⟨f, -, rfl⟩
        refine terms_advance hterms fun hnil => ?_
        exact absurd hnil (List.append_ne_nil_of_right_ne_nil _ (List.cons_ne_nil _ _))
    | xor => cases h
    | between => cases h
    | begins => cases h
    | ends => cases h
    | part a => cases h
  · rw [htaken] at h
    cases h
    exact terms_advance hterms id

theorem advance_under (fs : List (Condition α)) (ls : List (Lexeme α)) (o : Comparand α)
    (r : Reader α) :
    (r.under fs).advance ls { (r.under fs).level with operand := o }
      = (r.advance ls { r.level with operand := o }).under fs := by
  cases r <;> rfl

theorem turn_under {fs : List (Condition α)} {r r' : Reader α} {l : Lexeme α}
    (h : r.turn l = some r') (hterms : r'.terms = []) :
    (r.under fs).turn l = some (r'.under fs) := by
  cases r with
  | whole level =>
      cases l with
      | not =>
          cases h
          rfl
      | opening =>
          cases h
          rfl
      | and =>
          rcases Option.map_eq_some_iff.mp h with ⟨f, hf, rfl⟩
          refine Option.map_eq_some_iff.mpr ⟨f, hf, ?_⟩
          exact congrArg (fun factors => Reader.whole { terms := level.terms, factors })
            (List.append_assoc fs level.factors [f])
      | or =>
          rcases Option.map_eq_some_iff.mp h with ⟨f, -, rfl⟩
          exact absurd hterms (List.append_ne_nil_of_right_ne_nil _ (List.cons_ne_nil _ _))
      | _ => cases h
  | within outer read level =>
      cases l with
      | closing =>
          rcases Option.map_eq_some_iff.mp h with ⟨f, hf, rfl⟩
          exact Option.map_eq_some_iff.mpr ⟨f, hf, advance_under fs _ _ outer⟩
      | and =>
          rcases Option.map_eq_some_iff.mp h with ⟨f, hf, rfl⟩
          exact Option.map_eq_some_iff.mpr ⟨f, hf, rfl⟩
      | or =>
          rcases Option.map_eq_some_iff.mp h with ⟨f, hf, rfl⟩
          exact Option.map_eq_some_iff.mpr ⟨f, hf, rfl⟩
      | _ =>
          cases h
          all_goals rfl

theorem step_under {fs : List (Condition α)} {r r' : Reader α} {l : Lexeme α}
    (h : r.step l = some r') (hterms : r'.terms = []) :
    (r.under fs).step l = some (r'.under fs) := by
  have hoperand : (r.under fs).level.operand = r.level.operand := by cases r <;> rfl
  unfold step at h ⊢
  rw [hoperand]
  rcases htaken : r.level.operand.absorb l with _ | o
  · rw [htaken] at h
    exact turn_under h hterms
  · rw [htaken] at h
    cases h
    exact congrArg some (advance_under fs [l] o r)

end Reader

/-- Reading does not depend on the factors in front, as long as it meets no `OR` that would end
    their term. -/
theorem reading_under {fs : List (Condition α)} {r r' : Reader α} {ls : List (Lexeme α)}
    (h : ls.foldlM Reader.step r = some r') (hterms : r'.terms = []) :
    ls.foldlM Reader.step (r.under fs) = some (r'.under fs) ∧ r.terms = [] := by
  induction ls generalizing r with
  | nil =>
      cases h
      exact ⟨rfl, hterms⟩
  | cons l ls ih =>
      rw [List.foldlM_cons, Option.bind_eq_bind, Option.bind_eq_some_iff] at h
      rcases h with ⟨q, hstep, hrest⟩
      rcases ih hrest with ⟨hunder, hq⟩
      rw [List.foldlM_cons, Reader.step_under hstep hq]
      exact ⟨hunder, Reader.terms_step hstep hq⟩

/-- What is read without an `OR` at its top is a conjunction of factors. -/
theorem exists_factors {ls : List (Lexeme α)} {f : Condition α} (h : readFormula? ls = some f)
    (hor : f.isOr = false) :
    ∃ level last, ls.foldlM Reader.step (.whole { }) = some (.whole level) ∧ level.terms = []
      ∧ level.factor? = some last ∧ f = .conj level.factors last := by
  rcases Option.bind_eq_some_iff.mp h with ⟨r, hr, hf⟩
  cases r with
  | within outer read level => cases hf
  | whole level =>
      rcases Option.map_eq_some_iff.mp hf with ⟨last, hlast, rfl⟩
      rcases hterms : level.terms with _ | ⟨term, terms⟩
      · exact ⟨level, last, hr, hterms, hlast, rfl⟩
      · rw [hterms] at hor
        cases hor

/-- An operand that is complete ends in front of an `AND`. -/
theorem absorb_and {o : Comparand α} {f : Condition α} (h : o.formula? = some f) :
    o.absorb .and = none := by
  cases o with
  | missing => rfl
  | group g read => rfl
  | atom read ranging inside =>
      rcases ranging with _ | _ <;> rcases inside with _ | _
      · rfl
      all_goals cases h

/-- Formulas without `OR` at their top are joined by `AND` to a formula that is true if both
    are. -/
theorem readFormula?_and {ls ls' : List (Lexeme α)} {f g : Condition α}
    (hf : readFormula? ls = some f) (hg : readFormula? ls' = some g) (hfor : f.isOr = false)
    (hgor : g.isOr = false) :
    ∃ h, readFormula? (ls ++ .and :: ls') = some h ∧ h.isOr = false
      ∧ ∀ ν, h.holds ν = (f.holds ν && g.holds ν) := by
  rcases exists_factors hf hfor with ⟨level, last, hread, hterms, hlast, rfl⟩
  rcases exists_factors hg hgor with ⟨level', last', hread', hterms', hlast', rfl⟩
  have hand : (Reader.whole level).step .and
      = some ((Reader.whole { }).under (level.factors ++ [last])) := by
    rcases Option.map_eq_some_iff.mp hlast with ⟨operand, hoperand, -⟩
    unfold Reader.step
    rw [Reader.level, absorb_and hoperand]
    refine Option.map_eq_some_iff.mpr ⟨last, hlast, ?_⟩
    simp only [Reader.level, Reader.advance, Reader.under, Level.under, hterms, List.append_nil]
  have hall : (ls ++ .and :: ls').foldlM Reader.step (.whole { })
      = some ((Reader.whole level').under (level.factors ++ [last])) := by
    rw [List.foldlM_append, hread, Option.bind_eq_bind, Option.bind_some, List.foldlM_cons, hand]
    exact (reading_under hread' hterms').1
  refine ⟨.conj (level.factors ++ [last] ++ level'.factors) last', ?_, ?_, fun ν => ?_⟩
  · rw [readFormula?, hall]
    refine Option.map_eq_some_iff.mpr ⟨last', hlast', ?_⟩
    rw [show ((level'.under (level.factors ++ [last])).terms = []) from hterms']
    rfl
  · rw [List.append_assoc]
    rcases level.factors with _ | ⟨factor, factors⟩ <;> rfl
  · simp only [Formula.holds_conj, List.all_append, List.all_cons, List.all_nil, Bool.and_true,
      Bool.and_assoc]

end SqlMapper
