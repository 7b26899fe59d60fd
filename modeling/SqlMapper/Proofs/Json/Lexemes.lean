import Mathlib.Data.List.TakeWhile
import SqlMapper.Proofs.Json.Tokens

/-!
# Tokens Cut Off

Where a string and a number end.

A reader of tokens is given a whole text and cuts a token off its front. What it
makes of the token depends on the token alone: a string ends with its closing
quote, whatever is behind it, and a number goes on as far as it can, so it is
the same number in front of everything that it cannot go on with. Each part of a
number stops in front of the next one, because a point is no digit, and the
letter of an exponent is neither.

## Main definitions

* `Json.Takes`: A reader takes a text for a value, whatever is behind it.
* `Json.NoNumeral`: What no number goes on with.

## Theorems

* `Json.string?_takes`: A string is cut off behind its closing quote.
* `Json.numeral?_takes`: A number is cut off where it cannot go on.
-/

namespace SqlMapper

namespace Json

/-- A reader takes a text for a value, whatever is behind it, provided that it goes on with such a
    character. -/
def Takes {α : Type} (read : List Char → Option (α × List Char)) (stops : Char → Prop)
    (text : List Char) (a : α) : Prop :=
  ∀ rest : List Char, (∀ c ∈ rest.head?, stops c) → read (text ++ rest) = some (a, rest)

/-- A character that no number goes on with. -/
def NoNumeral (c : Char) : Prop :=
  Decimal.isDigit c = false ∧ c ≠ '.' ∧ c ≠ 'e' ∧ c ≠ 'E'

instance : DecidablePred NoNumeral :=
  fun c => inferInstanceAs (Decidable (Decimal.isDigit c = false ∧ c ≠ '.' ∧ c ≠ 'e' ∧ c ≠ 'E'))

/-- The end of the text stops every reader. -/
theorem stops_nil {stops : Char → Prop} : ∀ c ∈ ([] : List Char).head?, stops c :=
  fun c hc => absurd hc (Option.not_mem_none c)

theorem Takes.whole {α : Type} {read : List Char → Option (α × List Char)} {stops : Char → Prop}
    {text : List Char} {a : α} (h : Takes read stops text a) : read text = some (a, []) := by
  have hread := h [] stops_nil
  rwa [List.append_nil] at hread

/-! ### Strings -/

theorem stringParts?_takes {cs rest : List Char} {parts : List StringPart}
    (h : stringParts? cs = some (parts, rest)) :
    ∃ text, cs = text ++ rest ∧ Takes stringParts? (fun _ => True) text parts := by
  fun_induction stringParts? cs generalizing parts rest with
  | case1 => cases h
  | case2 behind =>
      cases h
      exact ⟨['"'], rfl, fun _ _ => rfl⟩
  | case3 a b c d behind ih =>
      simp only [Option.bind_eq_bind, Option.bind_eq_some_iff, Option.pure_def, Option.some.injEq,
        Prod.mk.injEq] at h
      rcases h with ⟨a', ha, b', hb, c', hc, d', hd, ⟨more, after⟩, hmore, rfl, rfl⟩
      rcases ih hmore with ⟨text, rfl, htext⟩
      refine ⟨'\\' :: 'u' :: a :: b :: c :: d :: text, rfl, fun other _ => ?_⟩
      simp only [List.cons_append, stringParts?, ha, hb, hc, hd, htext other fun _ _ => trivial,
        Option.bind_eq_bind, Option.bind_some]
      rfl
  | case4 c behind _ ih =>
      simp only [Option.bind_eq_bind, Option.bind_eq_some_iff, Option.pure_def, Option.some.injEq,
        Prod.mk.injEq] at h
      rcases h with ⟨e, he, ⟨more, after⟩, hmore, rfl, rfl⟩
      rcases ih hmore with ⟨text, rfl, htext⟩
      have hunit : c ≠ 'u' := by
        rintro rfl
        cases he
      refine ⟨'\\' :: c :: text, rfl, fun other _ => ?_⟩
      rw [List.cons_append, List.cons_append, stringParts?_short he hunit,
        htext other fun _ _ => trivial, Option.map_some]
  | case5 => cases h
  | case6 c behind hquote _ _ hplain ih =>
      simp only [Option.bind_eq_bind, Option.bind_eq_some_iff, Option.pure_def, Option.some.injEq,
        Prod.mk.injEq] at h
      rcases h with ⟨⟨more, after⟩, hmore, rfl, rfl⟩
      rcases ih hmore with ⟨text, rfl, htext⟩
      rcases not_or.mp hplain with ⟨hprintable, hslash⟩
      refine ⟨c :: text, rfl, fun other _ => ?_⟩
      rw [List.cons_append, stringParts?_plain hquote hslash hprintable,
        htext other fun _ _ => trivial, Option.map_some]

theorem string?_takes {cs rest : List Char} {s : Option String}
    (h : string? cs = some (s, rest)) :
    ∃ text, cs = text ++ rest ∧ Takes string? (fun _ => True) text s := by
  simp only [string?, Option.bind_eq_bind, Option.bind_eq_some_iff, Option.pure_def,
    Option.some.injEq, Prod.mk.injEq] at h
  rcases h with ⟨⟨parts, after⟩, hparts, rfl, rfl⟩
  rcases stringParts?_takes hparts with ⟨text, rfl, htext⟩
  refine ⟨text, rfl, fun other hother => ?_⟩
  simp only [string?, htext other hother, Option.bind_eq_bind, Option.bind_some]
  rfl

/-! ### Numbers -/

theorem mem_head?_append {c : Char} {xs ys : List Char} (h : c ∈ (xs ++ ys).head?) :
    c ∈ xs.head? ∨ c ∈ ys.head? := by
  cases xs with
  | nil => exact .inr h
  | cons x xs => exact .inl h

/-- The digits that a text begins with, at least one, and none behind them. -/
theorem digitRun?_eq_some_iff {cs ds rest : List Char} :
    digitRun? cs = some (ds, rest) ↔
      cs = ds ++ rest ∧ ds ≠ [] ∧ (∀ c ∈ ds, Decimal.isDigit c = true)
        ∧ ∀ c ∈ rest.head?, Decimal.isDigit c = false := by
  simp only [digitRun?, Option.ite_none_left_eq_some, Option.some.injEq, Prod.mk.injEq,
    List.isEmpty_iff]
  constructor
  · rintro ⟨hne, rfl, rfl⟩
    refine ⟨List.takeWhile_append_dropWhile.symm, hne, fun c => List.mem_takeWhile_imp,
      fun c hc => ?_⟩
    have hstop := List.head?_dropWhile_not Decimal.isDigit cs
    rw [Option.mem_def.mp hc] at hstop
    exact Bool.not_eq_true _ |>.mp (by simpa using hstop)
  · rintro ⟨rfl, hne, hdigits, hrest⟩
    rw [(takeWhile_digits hdigits hrest).1, (takeWhile_digits hdigits hrest).2]
    exact ⟨hne, rfl, rfl⟩

theorem digitRun?_takes {cs ds rest : List Char} (h : digitRun? cs = some (ds, rest)) :
    cs = ds ++ rest ∧ Takes digitRun? (Decimal.isDigit · = false) ds ds := by
  rcases digitRun?_eq_some_iff.mp h with ⟨hcs, hne, hdigits, -⟩
  exact ⟨hcs, fun other hother => digitRun?_eq_some_iff.mpr ⟨rfl, hne, hdigits, hother⟩⟩

/-- The digits before the decimal point are a run of digits that does not begin with a zero,
    unless that is all of it. -/
theorem whole?_eq_some_iff {cs ds rest : List Char} :
    whole? cs = some (ds, rest) ↔
      digitRun? cs = some (ds, rest) ∧ (ds.head? = some '0' → ds = ['0']) := by
  have zero {behind : List Char} (h : ∀ c ∈ behind.head?, Decimal.isDigit c = false) :
      some (['0'], behind) = some (ds, rest) ↔
        digitRun? ('0' :: behind) = some (ds, rest) ∧ (ds.head? = some '0' → ds = ['0']) := by
    have hrun : digitRun? ('0' :: behind) = some (['0'], behind) :=
      digitRun?_eq_some_iff.mpr ⟨rfl, nofun, List.forall_mem_singleton.mpr (by decide), h⟩
    rw [hrun]
    refine (and_iff_left_of_imp fun heq => ?_).symm
    cases heq
    exact fun _ => rfl
  fun_cases whole? cs with
  | case1 c behind hdigit =>
      refine iff_of_false nofun ?_
      rintro ⟨hrun, hzero⟩
      rcases digitRun?_eq_some_iff.mp hrun with ⟨hcs, hne, -, hrest⟩
      rcases List.exists_cons_of_ne_nil hne with ⟨d, more, rfl⟩
      rcases List.cons.inj hcs with ⟨rfl, hcs⟩
      cases (List.cons.inj (hzero rfl)).2
      cases hcs
      exact absurd hdigit (by rw [hrest c rfl]; decide)
  | case2 c behind hdigit =>
      refine zero fun d hd => ?_
      cases Option.mem_some.mp hd
      exact Bool.not_eq_true _ |>.mp hdigit
  | case3 => exact zero stops_nil
  | case4 cs hzero _ hempty =>
      rw [digitRun?, if_pos hempty]
      exact iff_of_false nofun nofun
  | case5 cs hzero _ hempty =>
      have hrun : digitRun? cs
          = some (cs.takeWhile Decimal.isDigit, cs.dropWhile Decimal.isDigit) := if_neg hempty
      show some (cs.takeWhile Decimal.isDigit, cs.dropWhile Decimal.isDigit) = _ ↔ _
      rw [← hrun]
      refine (and_iff_left_of_imp fun h hhead => ?_).symm
      rcases List.head?_eq_some_iff.mp hhead with ⟨more, rfl⟩
      exact absurd (digitRun?_eq_some_iff.mp h).1 (hzero _)

theorem whole?_takes {cs ds rest : List Char} (h : whole? cs = some (ds, rest)) :
    cs = ds ++ rest ∧ Takes whole? (Decimal.isDigit · = false) ds ds := by
  rcases whole?_eq_some_iff.mp h with ⟨hrun, hzero⟩
  rcases digitRun?_takes hrun with ⟨hcs, htakes⟩
  exact ⟨hcs, fun other hother => whole?_eq_some_iff.mpr ⟨htakes other hother, hzero⟩⟩

theorem fraction?_takes {cs rest : List Char} {f : Option (List Char)}
    (h : fraction? cs = some (f, rest)) :
    ∃ text, cs = text ++ rest ∧ (∀ c ∈ text.head?, c = '.') ∧
      Takes fraction? (fun c => Decimal.isDigit c = false ∧ c ≠ '.') text f := by
  revert h
  fun_cases fraction? cs with
  | case1 behind =>
      intro h
      simp only [Option.map_eq_some_iff, Prod.mk.injEq] at h
      rcases h with ⟨⟨ds, after⟩, hrun, rfl, rfl⟩
      rcases digitRun?_takes hrun with ⟨rfl, htakes⟩
      refine ⟨'.' :: ds, rfl, fun c hc => (Option.mem_some.mp hc).symm, fun other hother => ?_⟩
      rw [List.cons_append, fraction?, htakes other fun c hc => (hother c hc).1, Option.map_some]
  | case2 =>
      intro h
      cases h
      refine ⟨[], rfl, stops_nil,
        fun other hother => fraction?.eq_2 other fun behind hbehind => ?_⟩
      exact (hother '.' (by rw [hbehind]; rfl)).2 rfl

theorem exponent?_unsigned {c d : Char} (hc : c = 'e' ∨ c = 'E')
    (hd : Decimal.isDigit d = true) (more : List Char) :
    exponent? (c :: d :: more)
      = (digitRun? (d :: more)).map fun r => (some (false, r.1), r.2) := by
  simp only [exponent?, if_pos hc]
  split
  next h => exact absurd ((List.cons.inj h).1 ▸ hd) (by decide)
  next h => exact absurd ((List.cons.inj h).1 ▸ hd) (by decide)
  next => rfl

theorem exponent?_takes {cs rest : List Char} {e : Option (Bool × List Char)}
    (h : exponent? cs = some (e, rest)) :
    ∃ text, cs = text ++ rest ∧ (∀ c ∈ text.head?, c = 'e' ∨ c = 'E') ∧
      Takes exponent? (fun c => Decimal.isDigit c = false ∧ c ≠ 'e' ∧ c ≠ 'E') text e := by
  have none : Takes exponent? (fun c => Decimal.isDigit c = false ∧ c ≠ 'e' ∧ c ≠ 'E') [] none := by
    intro other hother
    cases other with
    | nil => rfl
    | cons c other => exact if_neg (not_or.mpr (hother c rfl).2)
  cases cs with
  | nil =>
      cases h
      exact ⟨[], rfl, stops_nil, none⟩
  | cons c behind =>
      unfold exponent? at h
      by_cases hc : c = 'e' ∨ c = 'E'
      · simp only [if_pos hc] at h
        split at h
        -- Either sign, and then the digits.
        iterate 2
          simp only [Option.map_eq_some_iff, Prod.mk.injEq] at h
          rcases h with ⟨⟨ds, after⟩, hrun, rfl, rfl⟩
          rcases digitRun?_takes hrun with ⟨rfl, htakes⟩
          refine ⟨c :: _ :: ds, rfl, fun d hd => Option.mem_some.mp hd ▸ hc,
            fun other hother => ?_⟩
          simp only [List.cons_append, exponent?, if_pos hc,
            htakes other fun d hd => (hother d hd).1, Option.map_some]
        · simp only [Option.map_eq_some_iff, Prod.mk.injEq] at h
          rcases h with ⟨⟨ds, after⟩, hrun, rfl, rfl⟩
          rcases digitRun?_takes hrun with ⟨rfl, htakes⟩
          rcases digitRun?_eq_some_iff.mp hrun with ⟨-, hne, hdigits, -⟩
          rcases List.exists_cons_of_ne_nil hne with ⟨d, more, rfl⟩
          refine ⟨c :: d :: more, rfl, fun d hd => Option.mem_some.mp hd ▸ hc,
            fun other hother => ?_⟩
          have hread := htakes other fun d hd => (hother d hd).1
          simp only [List.cons_append] at hread ⊢
          rw [exponent?_unsigned hc (hdigits d List.mem_cons_self), hread, Option.map_some]
      · simp only [if_neg hc] at h
        cases h
        exact ⟨[], rfl, stops_nil, none⟩

/-- The parts of a number behind its sign. Each of them ends where the next one begins, or else
    where the number ends. -/
theorem parts_takes {cs afterWhole afterFraction rest whole : List Char}
    {fraction : Option (List Char)} {exponent : Option (Bool × List Char)}
    (hwhole : whole? cs = some (whole, afterWhole))
    (hfraction : fraction? afterWhole = some (fraction, afterFraction))
    (hexponent : exponent? afterFraction = some (exponent, rest)) :
    ∃ f e, cs = whole ++ (f ++ (e ++ rest)) ∧
      ∀ other : List Char, (∀ c ∈ other.head?, NoNumeral c) →
        whole? (whole ++ (f ++ (e ++ other))) = some (whole, f ++ (e ++ other)) ∧
        fraction? (f ++ (e ++ other)) = some (fraction, e ++ other) ∧
        exponent? (e ++ other) = some (exponent, other) := by
  rcases exponent?_takes hexponent with ⟨e, rfl, he, etakes⟩
  rcases fraction?_takes hfraction with ⟨f, rfl, hf, ftakes⟩
  rcases whole?_takes hwhole with ⟨rfl, wtakes⟩
  refine ⟨f, e, rfl, fun other hother => ?_⟩
  have hexp : ∀ c ∈ (e ++ other).head?, Decimal.isDigit c = false ∧ c ≠ '.' := by
    intro c hc
    rcases mem_head?_append hc with hc | hc
    · rcases he c hc with rfl | rfl <;> decide
    · exact ⟨(hother c hc).1, (hother c hc).2.1⟩
  have hfrac : ∀ c ∈ (f ++ (e ++ other)).head?, Decimal.isDigit c = false := by
    intro c hc
    rcases mem_head?_append hc with hc | hc
    · cases hf c hc
      decide
    · exact (hexp c hc).1
  exact ⟨wtakes _ hfrac, ftakes _ hexp,
    etakes _ fun c hc => ⟨(hother c hc).1, (hother c hc).2.2⟩⟩

theorem leading_whole {cs rest whole : List Char} (h : whole? cs = some (whole, rest)) :
    ∃ c behind, whole = c :: behind ∧ Decimal.isDigit c = true := by
  rcases digitRun?_eq_some_iff.mp (whole?_eq_some_iff.mp h).1 with ⟨-, hne, hdigits, -⟩
  rcases List.exists_cons_of_ne_nil hne with ⟨c, behind, rfl⟩
  exact ⟨c, behind, rfl, hdigits c List.mem_cons_self⟩

theorem numeral?_of_parts {negative : Bool} {cs afterWhole afterFraction rest whole : List Char}
    {fraction : Option (List Char)} {exponent : Option (Bool × List Char)}
    (hsign : (cs.head? == some '-') = negative)
    (hwhole : whole? (if negative then cs.drop 1 else cs) = some (whole, afterWhole))
    (hfraction : fraction? afterWhole = some (fraction, afterFraction))
    (hexponent : exponent? afterFraction = some (exponent, rest)) :
    numeral? cs = some (⟨negative, whole, fraction, exponent⟩, rest) := by
  subst hsign
  simp only [numeral?, hwhole, hfraction, hexponent, Option.bind_eq_bind, Option.bind_some]
  rfl

/-- A number begins with its sign or with a digit, and what ends it is no part of a number. -/
theorem numeral?_takes {cs rest : List Char} {m : Numeral} (h : numeral? cs = some (m, rest)) :
    ∃ c text, cs = c :: text ++ rest ∧ (c = '-' ∨ Decimal.isDigit c = true)
      ∧ Takes numeral? NoNumeral (c :: text) m := by
  simp only [numeral?, Option.bind_eq_bind, Option.bind_eq_some_iff, Option.pure_def,
    Option.some.injEq, Prod.mk.injEq] at h
  rcases h with ⟨⟨whole, _⟩, hwhole, ⟨fraction, _⟩, hfraction, ⟨exponent, _⟩, hexponent, rfl, rfl⟩
  rcases parts_takes hwhole hfraction hexponent with ⟨f, e, hcs, hparts⟩
  rcases leading_whole hwhole with ⟨d, ds, rfl, hd⟩
  cases hsign : cs.head? == some '-' with
  | true =>
      rw [hsign] at hcs
      rcases List.head?_eq_some_iff.mp (beq_iff_eq.mp hsign) with ⟨more, rfl⟩
      simp only [if_true, List.drop_one, List.tail_cons] at hcs
      refine ⟨'-', d :: ds ++ (f ++ e), ?_, .inl rfl, fun other hother => ?_⟩
      · rw [hcs]
        simp only [List.cons_append, List.append_assoc]
      · rcases hparts other hother with ⟨hwhole, hfraction, hexponent⟩
        refine numeral?_of_parts rfl ?_ hfraction hexponent
        simpa only [if_true, List.drop_one, List.tail_cons, List.cons_append, List.append_assoc]
          using hwhole
  | false =>
      rw [hsign] at hcs
      simp only [Bool.false_eq_true, if_false] at hcs
      refine ⟨d, ds ++ (f ++ e), ?_, .inr hd, fun other hother => ?_⟩
      · rw [hcs]
        simp only [List.cons_append, List.append_assoc]
      · rcases hparts other hother with ⟨hwhole, hfraction, hexponent⟩
        rw [hcs] at hsign
        refine numeral?_of_parts hsign ?_ hfraction hexponent
        simpa only [Bool.false_eq_true, if_false, List.cons_append, List.append_assoc]
          using hwhole

end Json

end SqlMapper
