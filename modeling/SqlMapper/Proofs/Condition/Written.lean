import SqlMapper.Proofs.Condition.Formula

/-!
# Formulas as They Are Written

Nothing is lost when a condition is read.

Each formula is written in one way: its atoms as they are, `NOT` in front, `AND`
and `OR` between, and parentheses around a group. A row of lexemes that is read
is what its formula is written as. In particular, an atom that is the whole
formula is the whole row.

The induction is on the row. What a reader stands for is written as well: the
terms and factors in front of the present operand, the operand as far as it has
been read, and outside of a parenthesis whatever is in front of that.

## Main definitions

* `Formula.lexemes`: The lexemes that a formula is written with.
* `Level.lexemes`: The lexemes that have been read between two parentheses.
* `Reader.Stands`: A reader stands behind a row of lexemes.

## Theorems

* `stands_step`: Behind one more lexeme, a reader stands behind the row with that lexeme.
* `lexemes_of_readFormula?`: A row that is read is what its formula is written as.
* `readFormula?_of_kinds`: A row of lexemes of the same kinds as those of an atom is an atom.
-/

namespace SqlMapper

variable {α : Type}

namespace Formula

/-- The lexemes that a formula is written with. -/
def lexemes : Condition α → List (Lexeme α)
  | .atom a => a
  | .group f => .opening :: lexemes f ++ [.closing]
  | .not f => .not :: lexemes f
  | .and f g => lexemes f ++ .and :: lexemes g
  | .or f g => lexemes f ++ .or :: lexemes g

/-- Formulas in front of others, with the same word behind each. -/
def leading (word : Lexeme α) (fs : List (Condition α)) : List (Lexeme α) :=
  fs.flatMap fun f => lexemes f ++ [word]

theorem leading_concat (word : Lexeme α) (fs : List (Condition α)) (f : Condition α) :
    leading word (fs ++ [f]) = leading word fs ++ (lexemes f ++ [word]) := by
  rw [leading, List.flatMap_append, List.flatMap_singleton]
  rfl

theorem lexemes_negated (f : Condition α) (n : Nat) :
    lexemes (f.negated n) = List.replicate n .not ++ lexemes f := by
  induction n with
  | zero => rfl
  | succ n ih => rw [negated, lexemes, ih, List.replicate_succ, List.cons_append]

theorem lexemes_conj (fs : List (Condition α)) (last : Condition α) :
    lexemes (conj fs last) = leading .and fs ++ lexemes last := by
  induction fs with
  | nil => rfl
  | cons f fs ih =>
      rw [conj, lexemes, ih, leading, leading, List.flatMap_cons, List.append_assoc,
        List.append_assoc, List.singleton_append]

theorem lexemes_disj (fs : List (Condition α)) (last : Condition α) :
    lexemes (disj fs last) = leading .or fs ++ lexemes last := by
  induction fs with
  | nil => rfl
  | cons f fs ih =>
      rw [disj, lexemes, ih, leading, leading, List.flatMap_cons, List.append_assoc,
        List.append_assoc, List.singleton_append]

end Formula

namespace Comparand

/-- The lexemes that have been read of an operand. -/
def lexemes : Comparand α → List (Lexeme α)
  | .missing => []
  | .group _ read => read
  | .atom read _ _ => read

/-- A group has been read as it is written. -/
def Sound : Comparand α → Prop
  | .group f read => read = Formula.lexemes (.group f)
  | _ => True

theorem lexemes_of_formula? {o : Comparand α} {f : Condition α} (h : o.Sound)
    (hf : o.formula? = some f) : Formula.lexemes f = o.lexemes := by
  cases o with
  | missing => cases hf
  | group g read =>
      cases hf
      exact h.symm
  | atom read ranging inside =>
      rcases ranging with _ | _ <;> rcases inside with _ | _ <;> cases hf
      rfl

theorem extend_atom {read : List (Lexeme α)} {ranging : Bool} {inside : List Bracket}
    {l : Lexeme α} {o : Comparand α} (h : extend read ranging inside l = some o) :
    ∃ ranging inside, o = .atom (read ++ [l]) ranging inside := by
  unfold extend at h
  split at h
  all_goals
    first
      | exact ⟨_, _, (Option.some.inj h).symm⟩
      | cases h
      | (split at h
         · exact ⟨_, _, (Option.some.inj h).symm⟩
         · cases h)

/-- An operand that takes in a lexeme is an atom with that lexeme at its end. -/
theorem lexemes_absorb {o o' : Comparand α} {l : Lexeme α} (h : o.absorb l = some o') :
    o'.lexemes = o.lexemes ++ [l] ∧ o'.Sound := by
  cases o with
  | missing =>
      cases l <;> cases h
      all_goals exact ⟨rfl, trivial⟩
  | group g read =>
      rcases extend_atom h with ⟨ranging, inside, rfl⟩
      exact ⟨rfl, trivial⟩
  | atom read ranging inside =>
      rcases extend_atom h with ⟨ranging', inside', rfl⟩
      exact ⟨rfl, trivial⟩

/-- Only where an operand has to begin is a `NOT` or a parenthesis no part of one. -/
theorem missing_of_absorb {o : Comparand α} {l : Lexeme α} (hl : l = .not ∨ l = .opening)
    (h : o.absorb l = none) : o = .missing := by
  cases o with
  | missing => rfl
  | group g read => rcases hl with rfl | rfl <;> cases h
  | atom read ranging inside =>
      rcases hl with rfl | rfl <;> rcases inside with _ | ⟨_ | _, _⟩ <;> cases h

end Comparand

namespace Level

/-- The lexemes that have been read between two parentheses. -/
def lexemes (level : Level α) : List (Lexeme α) :=
  Formula.leading .or level.terms ++ (Formula.leading .and level.factors
    ++ (List.replicate level.negations .not ++ level.operand.lexemes))

theorem lexemes_of_factor? {level : Level α} {f : Condition α} (h : level.operand.Sound)
    (hf : level.factor? = some f) :
    Formula.lexemes f = List.replicate level.negations .not ++ level.operand.lexemes := by
  rcases Option.map_eq_some_iff.mp hf with ⟨g, hg, rfl⟩
  rw [Formula.lexemes_negated, Comparand.lexemes_of_formula? h hg]

theorem lexemes_of_formula? {level : Level α} {f : Condition α} (h : level.operand.Sound)
    (hf : level.formula? = some f) : Formula.lexemes f = level.lexemes := by
  rcases Option.map_eq_some_iff.mp hf with ⟨g, hg, rfl⟩
  rw [Formula.lexemes_disj, Formula.lexemes_conj, lexemes_of_factor? h hg]
  rfl

end Level

namespace Reader

/-- A reader stands behind a row of lexemes. -/
def Stands : Reader α → List (Lexeme α) → Prop
  | .whole level, ls => level.operand.Sound ∧ level.lexemes = ls
  | .within outer read level, ls => level.operand.Sound ∧ level.lexemes = read
    ∧ outer.level.operand = .missing ∧ ∃ front, Stands outer front ∧ ls = front ++ .opening :: read

theorem Stands.sound {r : Reader α} {ls : List (Lexeme α)} (h : r.Stands ls) :
    r.level.operand.Sound := by
  cases r <;> exact h.1

/-- A reader that goes on stands behind whatever its level was read from. -/
theorem Stands.advance {r : Reader α} {ls more : List (Lexeme α)} (h : r.Stands ls)
    {level : Level α} (hsound : level.operand.Sound)
    (hlexemes : level.lexemes = r.level.lexemes ++ more) :
    (r.advance more level).Stands (ls ++ more) := by
  cases r with
  | whole old =>
      refine ⟨hsound, ?_⟩
      rw [hlexemes, Reader.level, h.2]
  | within outer read old =>
      rcases h with ⟨-, hread, hmissing, front, hfront, rfl⟩
      refine ⟨hsound, ?_, hmissing, front, hfront, ?_⟩
      · rw [hlexemes, Reader.level, hread]
      · rw [List.append_assoc, List.cons_append]

/-- Behind the parenthesis that closes it, a group has been read as it is written. -/
theorem stands_close {r r' : Reader α} {ls : List (Lexeme α)} (h : r.Stands ls)
    (hclose : r.close? = some r') : r'.Stands (ls ++ [.closing]) := by
  cases r with
  | whole level => cases hclose
  | within outer read level =>
      rcases Option.map_eq_some_iff.mp hclose with ⟨f, hf, rfl⟩
      rcases h with ⟨hsound, hread, hmissing, front, hfront, rfl⟩
      have hgroup : Formula.lexemes (.group f) = .opening :: read ++ [.closing] := by
        rw [Formula.lexemes, Level.lexemes_of_formula? hsound hf, hread]
      rw [List.append_assoc, List.cons_append]
      refine hfront.advance hgroup.symm ?_
      simp only [Level.lexemes, hmissing, Comparand.lexemes, List.append_nil, List.append_assoc]

/-- The same for a lexeme that is no part of the operand in front of it. -/
theorem stands_turn {r r' : Reader α} {l : Lexeme α} {ls : List (Lexeme α)} (h : r.Stands ls)
    (habsorb : r.level.operand.absorb l = none) (hturn : r.turn l = some r') :
    r'.Stands (ls ++ [l]) := by
  cases l with
  | not =>
      cases hturn
      have hmissing := Comparand.missing_of_absorb (Or.inl rfl) habsorb
      refine h.advance h.sound ?_
      simp only [Level.lexemes, hmissing, Comparand.lexemes, List.append_nil, List.append_assoc,
        List.replicate_succ']
  | opening =>
      cases hturn
      have hmissing := Comparand.missing_of_absorb (Or.inr rfl) habsorb
      exact ⟨trivial, rfl, hmissing, ls, h, rfl⟩
  | closing => exact stands_close h hturn
  | and =>
      rcases Option.map_eq_some_iff.mp hturn with ⟨f, hf, rfl⟩
      refine h.advance trivial ?_
      simp only [Level.lexemes, Formula.leading_concat, Level.lexemes_of_factor? h.sound hf,
        Comparand.lexemes, List.replicate_zero, List.append_nil, List.append_assoc]
  | or =>
      rcases Option.map_eq_some_iff.mp hturn with ⟨f, hf, rfl⟩
      refine h.advance trivial ?_
      simp only [Level.lexemes, Formula.leading_concat, Formula.lexemes_conj,
        Level.lexemes_of_factor? h.sound hf, Comparand.lexemes, List.replicate_zero,
        List.append_nil, List.append_assoc]
      rfl
  | xor => cases hturn
  | between => cases hturn
  | begins => cases hturn
  | ends => cases hturn
  | part a => cases hturn

/-- Behind one more lexeme, a reader stands behind the row with that lexeme. -/
theorem stands_step {r r' : Reader α} {l : Lexeme α} {ls : List (Lexeme α)} (h : r.Stands ls)
    (hstep : r.step l = some r') : r'.Stands (ls ++ [l]) := by
  unfold step at hstep
  rcases habsorb : r.level.operand.absorb l with _ | o
  · rw [habsorb] at hstep
    exact stands_turn h habsorb hstep
  · rw [habsorb] at hstep
    cases hstep
    rcases Comparand.lexemes_absorb habsorb with ⟨hlexemes, hsound⟩
    refine h.advance hsound ?_
    simp only [Level.lexemes, hlexemes, List.append_assoc]

/-- The same for a row of lexemes. -/
theorem stands_over {r r' : Reader α} {ls more : List (Lexeme α)} (h : r.Stands ls)
    (hover : more.foldlM step r = some r') : r'.Stands (ls ++ more) := by
  induction more generalizing r ls with
  | nil =>
      cases hover
      rwa [List.append_nil]
  | cons l more ih =>
      rw [List.foldlM_cons, Option.bind_eq_bind, Option.bind_eq_some_iff] at hover
      rcases hover with ⟨q, hstep, hrest⟩
      have hall := ih (stands_step h hstep) hrest
      rwa [List.append_assoc, List.singleton_append] at hall

end Reader

/-- A row of lexemes that is read is what its formula is written as. -/
theorem lexemes_of_readFormula? {ls : List (Lexeme α)} {f : Condition α}
    (h : readFormula? ls = some f) : Formula.lexemes f = ls := by
  rcases Option.bind_eq_some_iff.mp h with ⟨r, hr, hf⟩
  have hstart : (Reader.whole ({ } : Level α)).Stands [] := ⟨trivial, rfl⟩
  have hstands := Reader.stands_over hstart hr
  cases r with
  | whole level => rw [Level.lexemes_of_formula? hstands.1 hf, hstands.2, List.nil_append]
  | within outer read level => cases hf

/-- A row of lexemes of the same kinds as those of an atom is an atom. -/
theorem readFormula?_of_kinds {ls ls' : List (Lexeme α)} (h : readFormula? ls = some (.atom ls))
    {β : Type} {t : α → β} (hsame : ls'.map (Lexeme.map t) = ls.map (Lexeme.map t)) :
    readFormula? ls' = some (.atom ls') := by
  have hkinds := readFormula?_map t ls'
  rw [hsame, readFormula?_map, h, Option.map_some] at hkinds
  rcases Option.map_eq_some_iff.mp hkinds.symm with ⟨f, hf, hatom⟩
  have hwritten := lexemes_of_readFormula? hf
  cases f with
  | atom a =>
      rw [Formula.lexemes] at hwritten
      rw [hf, hwritten]
  | group g => cases hatom
  | not g => cases hatom
  | and g g' => cases hatom
  | or g g' => cases hatom

end SqlMapper
