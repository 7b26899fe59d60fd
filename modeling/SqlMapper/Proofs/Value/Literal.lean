import SqlMapper.Value

/-!
# Literals

What the literal of a value looks like, whatever the value is.

A literal is either a run of plain characters, for numbers and the absent value,
or a text between quotes in which every quote is written twice. So where it ends
can be seen from the literal alone: a plain one ends where a separator stands,
and a quoted one at the first quote that is not doubled. A line break or a
separator inside a text does not matter, since it stands between quotes.

`Text.shut` reads a text from left to right and keeps track of whether it is
between quotes. A doubled quote leaves and enters again, so this is as good as
reading literals.

## Main definitions

* `Text.shut`: Line breaks stand between quotes only, and every quote is closed.
* `LiteralForm`: What a literal looks like.
* `Decimal.NumberForm`: What a literal without quotes looks like.

## Theorems

* `Text.shut_of_line`: Behind a line break a text goes on between quotes.
* `Text.not_shut_of_shut`: A text cannot be shut both from inside and from outside.
* `Decimal.mem_magnitudeText`: Magnitudes are written with digits and a point.
* `Value.literal_number`: Literals without quotes look like numbers.
* `Value.literal_form`: Every literal looks like one.
* `LiteralForm.append_inj`: Where a literal ends can be seen.
-/

namespace SqlMapper

namespace Text

/-- Whether every line break of a text stands between quotes and every quote is closed, given
    whether the text begins between quotes. -/
def shut (quoted : Bool) : List Char → Bool
  | [] => !quoted
  | c :: rest =>
    if c = '\'' then shut (!quoted) rest
    else if c = '\n' then quoted && shut quoted rest
    else shut quoted rest

theorem doubled_cons (mark c : Char) (cs : List Char) :
    doubled mark (c :: cs) = (if c = mark then [c, c] else [c]) ++ doubled mark cs := rfl

theorem head?_doubled_cons (mark c : Char) (cs rest : List Char) :
    (doubled mark (c :: cs) ++ rest).head? = some c := by
  rw [doubled_cons]
  by_cases hc : c = mark
  · rw [if_pos hc]
    rfl
  · rw [if_neg hc]
    rfl

theorem shut_append_of_plain {cs : List Char} (h : ∀ c ∈ cs, c ≠ '\'' ∧ c ≠ '\n') (quoted : Bool)
    (rest : List Char) : shut quoted (cs ++ rest) = shut quoted rest := by
  induction cs with
  | nil => rfl
  | cons c cs ih =>
      rcases h c List.mem_cons_self with ⟨hquote, hline⟩
      simp only [List.cons_append, shut, hquote, hline, if_false]
      exact ih fun d hd => h d (List.mem_cons_of_mem c hd)

/-- Between quotes, doubled quotes are passed over and a single one ends the literal. -/
theorem shut_doubled (cs rest : List Char) :
    shut true (doubled '\'' cs ++ '\'' :: rest) = shut false rest := by
  induction cs with
  | nil => simp only [doubled_nil, List.nil_append, shut, if_true, Bool.not_true]
  | cons c cs ih =>
      rw [doubled_cons, List.append_assoc]
      by_cases hquote : c = '\''
      · simp only [hquote, if_true, List.cons_append, List.nil_append, shut, Bool.not_true,
          Bool.not_false, ih]
      · by_cases hline : c = '\n'
        · simp only [hline, List.cons_append, List.nil_append, shut, Bool.true_and, ih,
            if_neg (show ¬ '\n' = '\'' by decide), if_true]
        · simp only [hquote, hline, if_false, List.cons_append, List.nil_append, shut, ih]

/-- A line break of a text that is shut stands between quotes. -/
theorem shut_of_line {quoted : Bool} {before rest : List Char}
    (h : shut quoted (before ++ '\n' :: rest) = true) : shut true rest = true := by
  induction before generalizing quoted with
  | nil =>
      simp only [List.nil_append, shut, if_neg (show ¬ '\n' = '\'' by decide), if_true,
        Bool.and_eq_true] at h
      exact h.1 ▸ h.2
  | cons c before ih =>
      simp only [List.cons_append, shut] at h
      split at h
      · exact ih h
      · split at h
        · exact ih (Bool.and_eq_true_iff.mp h).2
        · exact ih h

theorem not_shut_of_shut {cs : List Char} (h : shut true cs = true) : ¬ shut false cs = true := by
  -- The two readings are on different sides of the quotes from the beginning to the end.
  have hdiffer : ∀ quoted, shut quoted cs = true → ¬ shut (!quoted) cs = true := by
    clear h
    induction cs with
    | nil => intro quoted; cases quoted <;> simp [shut]
    | cons c cs ih =>
        intro quoted h h'
        simp only [shut] at h h'
        split at h
        · rename_i hquote
          rw [if_pos hquote] at h'
          exact ih _ h h'
        · rename_i hquote
          rw [if_neg hquote] at h'
          split at h
          · rename_i hline
            rw [if_pos hline] at h'
            have hquoted := (Bool.and_eq_true_iff.mp h).1
            have hnot := (Bool.and_eq_true_iff.mp h').1
            rw [hquoted] at hnot
            exact Bool.false_ne_true hnot
          · rename_i hline
            rw [if_neg hline] at h'
            exact ih _ h h'
  exact hdiffer true h

/-- A doubled text that is not empty does not end where it begins. -/
theorem doubled_cons_append_ne {c : Char} {cs rest rest' : List Char}
    (hrest : rest.head? ≠ some '\'') :
    '\'' :: rest ≠ doubled '\'' (c :: cs) ++ '\'' :: rest' := by
  intro h
  rw [doubled_cons] at h
  by_cases hc : c = '\''
  · -- The first character is a quote that is written twice, so the rest begins with one.
    simp only [hc, if_true, List.cons_append, List.cons.injEq, true_and] at h
    rw [h] at hrest
    exact hrest rfl
  · rw [if_neg hc, List.singleton_append, List.cons_append, List.cons.injEq] at h
    exact hc h.1.symm

/-- Where a doubled text ends can be seen. -/
theorem doubled_append_inj {cs ds rest rest' : List Char} (hrest : rest.head? ≠ some '\'')
    (hrest' : rest'.head? ≠ some '\'')
    (h : doubled '\'' cs ++ '\'' :: rest = doubled '\'' ds ++ '\'' :: rest') :
    cs = ds ∧ rest = rest' := by
  induction cs generalizing ds with
  | nil =>
      cases ds with
      | nil => exact ⟨rfl, List.tail_eq_of_cons_eq h⟩
      | cons d ds => exact absurd h (doubled_cons_append_ne hrest)
  | cons c cs ih =>
      cases ds with
      | nil => exact absurd h.symm (doubled_cons_append_ne hrest')
      | cons d ds =>
          have hhead := congrArg List.head? h
          rw [head?_doubled_cons, head?_doubled_cons, Option.some.injEq] at hhead
          subst hhead
          rw [doubled_cons, doubled_cons, List.append_assoc, List.append_assoc] at h
          rcases ih (List.append_cancel_left h) with ⟨rfl, hrests⟩
          exact ⟨rfl, hrests⟩

end Text

/-- What a literal looks like. -/
inductive LiteralForm : List Char → Prop where
  -- A text between quotes.
  | quoted (cs : List Char) : LiteralForm ('\'' :: (Text.doubled '\'' cs ++ ['\'']))
  -- A run of characters without quotes, line breaks and separators.
  | plain (cs : List Char) (h : ∀ c ∈ cs, c ≠ '\'' ∧ c ≠ '\n' ∧ c ≠ '&') : LiteralForm cs

namespace Decimal

/-- Whether a character occurs in numbers without a sign. -/
def isUnsigned (c : Char) : Bool :=
  c.isAlphanum || c == '.'

/-- What a number looks like, and any other literal without quotes. -/
inductive NumberForm : List Char → Prop where
  | unsigned (cs : List Char) (hne : cs ≠ []) (h : ∀ c ∈ cs, isUnsigned c = true) : NumberForm cs
  | negative (cs : List Char) (hne : cs ≠ []) (h : ∀ c ∈ cs, isUnsigned c = true) :
    NumberForm ('-' :: cs)

theorem NumberForm.of_sign {sign cs : List Char} (hsign : sign = [] ∨ sign = ['-']) (hne : cs ≠ [])
    (h : ∀ c ∈ cs, isUnsigned c = true) : NumberForm (sign ++ cs) := by
  rcases hsign with rfl | rfl
  · exact .unsigned cs hne h
  · exact .negative cs hne h

theorem isUnsigned_of_mem_toDigits {n : Nat} {c : Char} (h : c ∈ Nat.toDigits 10 n) :
    isUnsigned c = true := by
  have hdigit := Nat.isDigit_of_mem_toDigits (by decide) (by decide) h
  simp only [isUnsigned, Char.isAlphanum, hdigit, Bool.or_true, Bool.true_or]

theorem isUnsigned_of_mem_nat {n : Nat} {c : Char} (h : c ∈ n.repr.toList) :
    isUnsigned c = true := by
  rw [Nat.repr, String.toList_ofList] at h
  exact isUnsigned_of_mem_toDigits h

theorem nat_ne_nil (n : Nat) : n.repr.toList ≠ [] := by
  rw [Nat.repr, String.toList_ofList]
  exact Nat.toDigits_ne_nil

theorem numberForm_int (n : Int) : NumberForm (toString n).toList := by
  cases n with
  | ofNat n => exact .unsigned _ (nat_ne_nil n) fun c => isUnsigned_of_mem_nat
  | negSucc n =>
      have hneg : (toString (Int.negSucc n)).toList = '-' :: n.succ.repr.toList :=
        String.toList_append
      rw [hneg]
      exact .negative _ (nat_ne_nil _) fun c => isUnsigned_of_mem_nat

theorem mem_positionalText {digits : List Char} {lead : Int} {c : Char}
    (h : c ∈ plainNumbers.positionalText digits lead) : c = '0' ∨ c = '.' ∨ c ∈ digits := by
  have hzeros : ∀ n, c ∈ List.replicate n '0' → c = '0' := fun n hc => (List.mem_replicate.mp hc).2
  unfold Layout.positionalText at h
  split at h
  · simp only [List.mem_append, List.mem_cons, List.not_mem_nil, or_false] at h
    rcases h with ((hc | hc) | hc) | hc
    · exact Or.inl hc
    · exact Or.inr (Or.inl hc)
    · exact Or.inl (hzeros _ hc)
    · exact Or.inr (Or.inr hc)
  · simp only at h
    split at h
    · simp only [plainNumbers, List.append_nil, List.mem_append] at h
      rcases h with hc | hc
      · exact Or.inr (Or.inr hc)
      · exact Or.inl (hzeros _ hc)
    · simp only [List.mem_append, List.mem_singleton] at h
      rcases h with (hc | hc) | hc
      · exact Or.inr (Or.inr (List.mem_of_mem_take hc))
      · exact Or.inr (Or.inl hc)
      · exact Or.inr (Or.inr (List.mem_of_mem_drop hc))

/-- The magnitude of a number is written with digits and a point. -/
theorem mem_magnitudeText {bits : UInt64} {c : Char} (h : c ∈ plainNumbers.magnitudeText bits) :
    c.isDigit = true ∨ c = '.' := by
  unfold Layout.magnitudeText at h
  simp only at h
  split at h
  · rw [List.mem_singleton.mp h]
    exact Or.inl (by decide)
  · -- These numbers never have an exponent.
    rw [if_pos (show plainNumbers.positional _ = true from rfl)] at h
    rcases mem_positionalText h with rfl | hc | hc
    · exact Or.inl (by decide)
    · exact Or.inr hc
    · exact Or.inl (Nat.isDigit_of_mem_toDigits (by decide) (by decide) hc)

theorem positionalText_ne_nil {digits : List Char} (hdigits : digits ≠ []) (lead : Int) :
    plainNumbers.positionalText digits lead ≠ [] := by
  unfold Layout.positionalText
  split
  · simp only [List.cons_append, ne_eq, reduceCtorEq, not_false_eq_true]
  · simp only
    split
    · simp only [ne_eq, List.append_eq_nil_iff, hdigits, false_and, not_false_eq_true]
    · simp only [ne_eq, List.append_eq_nil_iff, List.cons_ne_self, and_false, false_and,
        not_false_eq_true]

theorem magnitudeText_form (bits : UInt64) :
    plainNumbers.magnitudeText bits ≠ []
      ∧ ∀ c ∈ plainNumbers.magnitudeText bits, isUnsigned c = true := by
  refine ⟨?_, fun c hc => ?_⟩
  · unfold Layout.magnitudeText
    simp only
    split
    · decide
    · rw [if_pos (show plainNumbers.positional _ = true from rfl)]
      exact positionalText_ne_nil Nat.toDigits_ne_nil _
  · rcases mem_magnitudeText hc with hdigit | rfl
    · simp only [isUnsigned, Char.isAlphanum, hdigit, Bool.or_true, Bool.true_or]
    · rfl

theorem numberForm_render (x : Float) : NumberForm (plainNumbers.render x).toList := by
  have hsign : ∀ bits : UInt64, (if bits >>> 63 = 0 then [] else ['-'] : List Char) = []
      ∨ (if bits >>> 63 = 0 then [] else ['-'] : List Char) = ['-'] := by
    intro bits
    by_cases hbits : bits >>> 63 = 0
    · exact Or.inl (if_pos hbits)
    · exact Or.inr (if_neg hbits)
  unfold Layout.render
  split
  · exact .unsigned _ (by decide) (List.all_eq_true.mp (by decide))
  · simp only
    split
    · rw [String.toList_ofList]
      exact .of_sign (hsign _) (by decide) (List.all_eq_true.mp (by decide))
    · rw [String.toList_ofList]
      exact .of_sign (hsign _) (magnitudeText_form _).1 (magnitudeText_form _).2

end Decimal

theorem LiteralForm.of_number {cs : List Char} (h : Decimal.NumberForm cs) : LiteralForm cs := by
  have hplain : ∀ c, Decimal.isUnsigned c = true → c ≠ '\'' ∧ c ≠ '\n' ∧ c ≠ '&' := by
    intro c hc
    refine ⟨?_, ?_, ?_⟩ <;> rintro rfl <;> exact absurd hc (by decide)
  refine .plain cs fun c hc => ?_
  cases h with
  | unsigned _ _ h => exact hplain c (h c hc)
  | negative cs _ h =>
      rcases List.mem_cons.mp hc with rfl | hc
      · decide
      · exact hplain c (h c hc)

theorem Value.quotedLiteral_form (s : String) : LiteralForm (Value.quotedLiteral s).toList := by
  rw [Value.quotedLiteral, String.toList_ofList]
  exact .quoted s.toList

/-- The values whose literal needs no quotes. -/
def Value.IsPlain : Value → Prop
  | .null | .bool _ | .int _ | .float _ => True
  | .text _ | .bytes _ => False

theorem Value.literal_number {v : Value} (h : v.IsPlain) : Decimal.NumberForm v.literal.toList := by
  cases v with
  | null => exact .unsigned _ (by decide) (List.all_eq_true.mp (by decide))
  | bool b => cases b <;> exact .unsigned _ (by decide) (List.all_eq_true.mp (by decide))
  | int n => exact Decimal.numberForm_int n.toInt
  | float x => exact Decimal.numberForm_render x
  | text s => exact absurd h not_false
  | bytes b => exact absurd h not_false

theorem Value.literal_form (v : Value) : LiteralForm v.literal.toList := by
  cases v with
  | text s => exact quotedLiteral_form s
  | bytes b => exact quotedLiteral_form _
  | _ => exact .of_number (literal_number trivial)

namespace LiteralForm

variable {l l' : List Char}

theorem shut_append (h : LiteralForm l) (rest : List Char) :
    Text.shut false (l ++ rest) = Text.shut false rest := by
  cases h with
  | quoted cs =>
      rw [List.cons_append, List.append_assoc, List.singleton_append]
      simp only [Text.shut, if_true, Bool.not_false]
      exact Text.shut_doubled cs rest
  | plain cs h => exact Text.shut_append_of_plain (fun c hc => ⟨(h c hc).1, (h c hc).2.1⟩) _ _

/-- A plain literal with a separator or nothing behind it does not begin with a quote. -/
theorem head?_plain {rest : List Char} (h : ∀ c ∈ l, c ≠ '\'' ∧ c ≠ '\n' ∧ c ≠ '&')
    (hrest : rest.head?.all (· == '&') = true) : (l ++ rest).head? ≠ some '\'' := by
  cases l with
  | nil =>
      rw [List.nil_append]
      intro hhead
      rw [hhead] at hrest
      exact absurd hrest (by decide)
  | cons c l =>
      intro hhead
      exact (h c List.mem_cons_self).1 (Option.some.inj hhead)

/-- Up to a separator or the end of the text, literals can be told apart. -/
theorem append_inj (h : LiteralForm l) (h' : LiteralForm l') {rest rest' : List Char}
    (hrest : rest.head?.all (· == '&') = true) (hrest' : rest'.head?.all (· == '&') = true)
    (heq : l ++ rest = l' ++ rest') : l = l' ∧ rest = rest' := by
  have hquote : ∀ {cs : List Char}, cs.head?.all (· == '&') = true → cs.head? ≠ some '\'' := by
    intro cs hcs hhead
    rw [hhead] at hcs
    exact absurd hcs (by decide)
  cases h with
  | quoted cs =>
      cases h' with
      | quoted ds =>
          simp only [List.cons_append, List.append_assoc, List.cons.injEq, List.nil_append,
            true_and] at heq
          rcases Text.doubled_append_inj (hquote hrest) (hquote hrest') heq with ⟨rfl, hrests⟩
          exact ⟨rfl, hrests⟩
      | plain ds hds => exact absurd (congrArg List.head? heq).symm (head?_plain hds hrest')
  | plain cs hcs =>
      cases h' with
      | quoted ds => exact absurd (congrArg List.head? heq) (head?_plain hcs hrest)
      | plain ds hds =>
          -- Both literals are what stands before the first separator.
          have hbefore : ∀ {es rs : List Char}, (∀ c ∈ es, c ≠ '\'' ∧ c ≠ '\n' ∧ c ≠ '&') →
              rs.head?.all (· == '&') = true → (es ++ rs).takeWhile (· != '&') = es := by
            intro es rs hes hrs
            rw [List.takeWhile_append_of_pos fun c hc => by
              simpa only [bne_iff_ne] using (hes c hc).2.2]
            cases rs with
            | nil => rw [List.takeWhile_nil, List.append_nil]
            | cons r rs =>
                have hr : (r != '&') = false := by
                  simpa only [List.head?_cons, Option.all_some, beq_iff_eq, bne_eq_false_iff_eq]
                    using hrs
                rw [List.takeWhile_cons, hr]
                exact List.append_nil es
          have hsame : l = l' := by rw [← hbefore hcs hrest, heq, hbefore hds hrest']
          subst hsame
          exact ⟨rfl, List.append_cancel_left heq⟩

end LiteralForm

end SqlMapper
