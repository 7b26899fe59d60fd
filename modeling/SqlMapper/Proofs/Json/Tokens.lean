import Mathlib.Tactic.SplitIfs
import SqlMapper.Json.Node
import SqlMapper.Json.Printer

/-!
# Printed Tokens

What the reader makes of a printed string and of a printed integer.

A character of a string is printed as itself or as an escape, and either way it
is read as one part, which stands for that character. A control character that
has no short escape is written as a code unit. It is far below the surrogates,
so it never pairs up with what comes next.

The digits of an integer tell nothing about where they end. They are cut off in
the right place because a value is only ever followed by a comma, by a closing
bracket or brace, or by nothing, and none of these goes on with a number. The
value of the digits is gathered in 64 bits, which loses nothing as long as the
whole number fits.

## Main definitions

* `Json.Delimited`: What may follow a value.
* `Json.Fits64`: The integers that are kept exactly.

## Theorems

* `Json.stringParts?_escapedChar`: A printed character stands for itself.
* `Json.string?_flatMap`: A printed string is read back.
* `Json.ofWhole_toDigits`: The digits of a number that fits make up that number.
* `Json.numeral?_numberChars`: A printed integer is read back.
-/

namespace SqlMapper

namespace Json

/-! ### Strings -/

theorem hexDigit?_digitChar : ∀ d < 16, Text.hexDigit? (Nat.digitChar d) = some d := by
  decide

theorem stringParts?_short {c e : Char} (hescape : shortEscape? e = some c) (hunit : e ≠ 'u')
    (cs : List Char) :
    stringParts? ('\\' :: e :: cs) = (stringParts? cs).map fun r => (.char c :: r.1, r.2) := by
  rw [stringParts?.eq_4 _ _ fun _ _ _ _ _ h _ => hunit h]
  simp only [hescape, Option.bind_eq_bind, Option.bind_some]
  cases stringParts? cs <;> rfl

theorem stringParts?_plain {c : Char} (hquote : c ≠ '"') (hslash : c ≠ '\\')
    (hprintable : ¬ c.toNat < 0x20) (cs : List Char) :
    stringParts? (c :: cs) = (stringParts? cs).map fun r => (.char c :: r.1, r.2) := by
  rw [stringParts?.eq_5 c cs hquote (fun _ _ _ _ _ h _ => hslash h) fun _ _ h _ => hslash h,
    if_neg (not_or.mpr ⟨hprintable, hslash⟩)]
  cases stringParts? cs <;> rfl

theorem stringParts?_unit {n : Nat} (hcontrol : n < 0x20) (cs : List Char) :
    stringParts? ('\\' :: 'u' :: '0' :: '0' ::
        Nat.digitChar (n / 16) :: Nat.digitChar (n % 16) :: cs)
      = (stringParts? cs).map fun r => (.unit n :: r.1, r.2) := by
  have hhigh := hexDigit?_digitChar (n / 16) (by omega)
  have hlow := hexDigit?_digitChar (n % 16) (by omega)
  have hzero : Text.hexDigit? '0' = some 0 := by decide
  have hn : 0 * 0x1000 + 0 * 0x100 + n / 16 * 0x10 + n % 16 = n := by omega
  simp only [stringParts?, hhigh, hlow, hzero, Option.bind_eq_bind, Option.bind_some, hn]
  cases stringParts? cs <;> rfl

theorem joinParts?_unit {n : Nat} (hcontrol : n < 0x20) (parts : List StringPart) :
    joinParts? (.unit n :: parts) = (joinParts? parts).map (Char.ofNat n :: ·) := by
  have htrailing : ¬ (0xdc00 ≤ n ∧ n < 0xe000) := by omega
  have hleading : ¬ (0xd800 ≤ n ∧ n < 0xdc00) := by omega
  rw [joinParts?.eq_def]
  simp only [if_neg htrailing, if_neg hleading]

/-- A printed character is read as a part that stands for it. -/
theorem stringParts?_escapedChar (c : Char) :
    ∃ part, (∀ cs, stringParts? (escapedChar c ++ cs)
        = (stringParts? cs).map fun r => (part :: r.1, r.2))
      ∧ ∀ parts, joinParts? (part :: parts) = (joinParts? parts).map (c :: ·) := by
  have hchar : ∀ parts, joinParts? (.char c :: parts) = (joinParts? parts).map (c :: ·) :=
    fun parts => rfl
  unfold escapedChar
  split_ifs with hquote hslash hline hreturn htab hback hfeed hcontrol
  · exact ⟨.char c, stringParts?_short (by rw [hquote]; rfl) (by decide), hchar⟩
  · exact ⟨.char c, stringParts?_short (by rw [hslash]; rfl) (by decide), hchar⟩
  · exact ⟨.char c, stringParts?_short (hline ▸ rfl) (by decide), hchar⟩
  · exact ⟨.char c, stringParts?_short (hreturn ▸ rfl) (by decide), hchar⟩
  · exact ⟨.char c, stringParts?_short (htab ▸ rfl) (by decide), hchar⟩
  · exact ⟨.char c, stringParts?_short (hback ▸ rfl) (by decide), hchar⟩
  · exact ⟨.char c, stringParts?_short (hfeed ▸ rfl) (by decide), hchar⟩
  · -- A control character without a name is printed as a code unit, which is no surrogate.
    refine ⟨.unit c.toNat, stringParts?_unit hcontrol, fun parts => ?_⟩
    rw [joinParts?_unit hcontrol, Char.ofNat_toNat]
  · exact ⟨.char c, stringParts?_plain hquote hslash hcontrol, hchar⟩

/-- A printed string is read back, up to its closing quote. -/
theorem stringParts?_flatMap (s rest : List Char) :
    ∃ parts, stringParts? (s.flatMap escapedChar ++ '"' :: rest) = some (parts, rest)
      ∧ joinParts? parts = some s := by
  induction s with
  | nil => exact ⟨[], rfl, rfl⟩
  | cons c s ih =>
      rcases ih with ⟨parts, hread, hjoined⟩
      rcases stringParts?_escapedChar c with ⟨part, hpart, hchar⟩
      refine ⟨part :: parts, ?_, ?_⟩
      · rw [List.flatMap_cons, List.append_assoc, hpart, hread, Option.map_some]
      · rw [hchar, hjoined, Option.map_some]

theorem stringChars_append (s : String) (rest : List Char) :
    stringChars s ++ rest = '"' :: (s.toList.flatMap escapedChar ++ '"' :: rest) := by
  simp only [stringChars, List.cons_append, List.append_assoc, List.nil_append]

theorem string?_flatMap (s : String) (rest : List Char) :
    string? (s.toList.flatMap escapedChar ++ '"' :: rest) = some (some s, rest) := by
  rcases stringParts?_flatMap s.toList rest with ⟨parts, hread, hjoined⟩
  simp only [string?, hread, Option.bind_eq_bind, Option.bind_some, hjoined, Option.map_some,
    String.ofList_toList]
  rfl

/-! ### Integers -/

/-- What may follow a value inside of another one, or at the end of a text. -/
def Delimited (rest : List Char) : Prop :=
  ∀ c ∈ rest.head?, c = ',' ∨ c = ']' ∨ c = '\x7d'

/-- An integer that is kept exactly. -/
def Fits64 (n : Int) : Prop :=
  -0x8000000000000000 ≤ n ∧ n < 0x10000000000000000

theorem isDigit_of_mem_toDigits {n : Nat} {c : Char} (h : c ∈ Nat.toDigits 10 n) :
    Decimal.isDigit c = true := by
  have hdigit := Nat.isDigit_of_mem_toDigits (by decide) (by decide) h
  have hbounds := (Bool.and_eq_true_iff.mp hdigit).imp of_decide_eq_true of_decide_eq_true
  exact Bool.and_eq_true_iff.mpr ⟨decide_eq_true hbounds.1, decide_eq_true hbounds.2⟩

/-- Only zero begins with a zero. -/
theorem leading_toDigits {n : Nat} (hpos : 0 < n) :
    ∃ c behind, Nat.toDigits 10 n = c :: behind ∧ c ≠ '0' := by
  induction n using Nat.strongRecOn with
  | ind n ih =>
      by_cases hsmall : n < 10
      · have hdigits : ∀ d < 10, 0 < d → Nat.digitChar d ≠ '0' := by decide
        exact ⟨_, [], Nat.toDigits_of_lt_base hsmall, hdigits n hsmall hpos⟩
      · rcases ih (n / 10) (by omega) (by omega) with ⟨c, behind, hdigits, hc⟩
        refine ⟨c, behind ++ [Nat.digitChar (n % 10)], ?_, hc⟩
        rw [Nat.toDigits_of_base_le (by decide) (by omega), hdigits, List.cons_append]

theorem takeWhile_digits {digits rest : List Char}
    (hdigits : ∀ c ∈ digits, Decimal.isDigit c = true)
    (hrest : ∀ c ∈ rest.head?, Decimal.isDigit c = false) :
    (digits ++ rest).takeWhile Decimal.isDigit = digits
      ∧ (digits ++ rest).dropWhile Decimal.isDigit = rest := by
  rw [List.takeWhile_append_of_pos hdigits, List.dropWhile_append_of_pos hdigits]
  cases rest with
  | nil => exact ⟨List.append_nil _, rfl⟩
  | cons c rest =>
      have hc := hrest c rfl
      have hnot : ¬ Decimal.isDigit c = true := by
        rw [hc]
        decide
      rw [List.takeWhile_cons_of_neg hnot, List.dropWhile_cons_of_neg hnot]
      exact ⟨List.append_nil _, rfl⟩

theorem whole?_toDigits (n : Nat) {rest : List Char}
    (hrest : ∀ c ∈ rest.head?, Decimal.isDigit c = false) :
    whole? (Nat.toDigits 10 n ++ rest) = some (Nat.toDigits 10 n, rest) := by
  by_cases hzero : n = 0
  · subst hzero
    rw [Nat.toDigits_zero]
    cases rest with
    | nil => rfl
    | cons c rest =>
      have hc := hrest c rfl
      simp only [List.singleton_append, whole?, hc, Bool.false_eq_true, if_false]
  · rcases leading_toDigits (Nat.pos_of_ne_zero hzero) with ⟨c, behind, hdigits, hc⟩
    have hcut := takeWhile_digits (fun c => isDigit_of_mem_toDigits (n := n) (c := c)) hrest
    have hwhole : whole? (Nat.toDigits 10 n ++ rest)
        = if (Nat.toDigits 10 n ++ rest).takeWhile Decimal.isDigit = [] then none
          else some ((Nat.toDigits 10 n ++ rest).takeWhile Decimal.isDigit,
            (Nat.toDigits 10 n ++ rest).dropWhile Decimal.isDigit) := by
      rw [hdigits, List.cons_append, whole?.eq_3 _ fun _ h => hc (List.cons.inj h).1]
      simp only [List.isEmpty_iff]
    rw [hwhole, hcut.1, hcut.2, if_neg Nat.toDigits_ne_nil]

/-- Digits behind others make a number no smaller. -/
theorem le_ofDigitChars (cs : List Char) (n : Nat) : n ≤ Nat.ofDigitChars 10 cs n := by
  rw [Nat.ofDigitChars_eq_ofDigitChars_zero]
  have hscaled : n ≤ 10 ^ cs.length * n := Nat.le_mul_of_pos_left n (Nat.pow_pos (by decide))
  omega

/-- Digits are gathered without loss if the number that they make up fits. -/
theorem foldl_addWhole (cs : List Char) (n : Nat) (hfits : Nat.ofDigitChars 10 cs n < UInt64.size) :
    cs.foldl Significand.addWhole { digits := n, scale := 0, full := false }
      = { digits := Nat.ofDigitChars 10 cs n, scale := 0, full := false } := by
  induction cs generalizing n with
  | nil => rfl
  | cons c cs ih =>
      rw [Nat.ofDigitChars_cons] at hfits ⊢
      have hlonger : n * 10 + (c.toNat - '0'.toNat) < UInt64.size := by
        have hle := le_ofDigitChars cs (10 * n + (c.toNat - '0'.toNat))
        omega
      have hadd : Significand.addWhole { digits := n, scale := 0, full := false } c
          = { digits := 10 * n + (c.toNat - '0'.toNat), scale := 0, full := false } := by
        simp only [Significand.addWhole, Significand.extend?, hlonger, Bool.false_eq_true,
          if_false, if_true, Nat.mul_comm 10]
      rw [List.foldl_cons, hadd]
      exact ih _ hfits

theorem ofWhole_toDigits {n : Nat} (hfits : n < UInt64.size) :
    Significand.ofWhole (Nat.toDigits 10 n) = { digits := n, scale := 0, full := false } := by
  have hgathered := foldl_addWhole (Nat.toDigits 10 n) 0
  rw [Nat.ofDigitChars_ten_toDigits] at hgathered
  exact hgathered hfits

theorem value?_toDigits {n : Nat} (hfits : n < UInt64.size) :
    Numeral.value? ⟨false, Nat.toDigits 10 n, none, none⟩ = some (.int n) := by
  simp only [Numeral.value?, ofWhole_toDigits hfits]
  rfl

theorem value?_toDigits_negative {n : Nat} (hpos : 0 < n) (hfits : n ≤ 0x8000000000000000) :
    Numeral.value? ⟨true, Nat.toDigits 10 n, none, none⟩ = some (.int (-n)) := by
  have hfits' : n < UInt64.size := by
    simp only [UInt64.size]
    omega
  simp only [Numeral.value?, ofWhole_toDigits hfits']
  simp [hpos, hfits]

/-- Neither a fraction nor an exponent follows. -/
theorem no_fraction {rest : List Char} (hrest : Delimited rest) :
    fraction? rest = some (none, rest) := by
  refine fraction?.eq_2 rest fun behind h => ?_
  rcases hrest '.' (by rw [h]; rfl) with h | h | h <;> exact absurd h (by decide)

theorem no_exponent {rest : List Char} (hrest : Delimited rest) :
    exponent? rest = some (none, rest) := by
  cases rest with
  | nil => rfl
  | cons c rest =>
      have hc : ¬ (c = 'e' ∨ c = 'E') := by
        rcases hrest c rfl with rfl | rfl | rfl <;> decide
      unfold exponent?
      simp only [if_neg hc]

theorem not_isDigit_of_delimited {rest : List Char} (hrest : Delimited rest) :
    ∀ c ∈ rest.head?, Decimal.isDigit c = false := by
  intro c hc
  rcases hrest c hc with rfl | rfl | rfl <;> decide

theorem numeral?_unsigned (n : Nat) {rest : List Char} (hrest : Delimited rest) :
    numeral? (Nat.toDigits 10 n ++ rest)
      = some (⟨false, Nat.toDigits 10 n, none, none⟩, rest) := by
  have hwhole := whole?_toDigits n (not_isDigit_of_delimited hrest)
  have hsign : ((Nat.toDigits 10 n ++ rest).head? == some '-') = false := by
    rcases hdigits : Nat.toDigits 10 n with _ | ⟨c, behind⟩
    · exact absurd hdigits Nat.toDigits_ne_nil
    · have hc := isDigit_of_mem_toDigits (hdigits ▸ List.mem_cons_self)
      have hne : c ≠ '-' := by
        rintro rfl
        exact absurd hc (by decide)
      simpa using hne
  simp only [numeral?, hsign, hwhole, no_fraction hrest, no_exponent hrest, Bool.false_eq_true,
    if_false, Option.bind_eq_bind, Option.bind_some]
  rfl

theorem numeral?_negative (n : Nat) {rest : List Char} (hrest : Delimited rest) :
    numeral? ('-' :: Nat.toDigits 10 n ++ rest)
      = some (⟨true, Nat.toDigits 10 n, none, none⟩, rest) := by
  have hwhole := whole?_toDigits n (not_isDigit_of_delimited hrest)
  have hsign : (('-' :: Nat.toDigits 10 n ++ rest).head? == some '-') = true := rfl
  have hdrop : ('-' :: Nat.toDigits 10 n ++ rest).drop 1 = Nat.toDigits 10 n ++ rest := rfl
  simp only [numeral?, hsign, hdrop, hwhole, no_fraction hrest, no_exponent hrest, if_true,
    Option.bind_eq_bind, Option.bind_some]
  rfl

theorem numberChars_ofNat (n : Nat) : numberChars (.int n) = Nat.toDigits 10 n := by
  show (Nat.repr n).toList = _
  rw [Nat.repr_eq_ofList_toDigits, String.toList_ofList]

theorem numberChars_negSucc (n : Nat) :
    numberChars (.int (Int.negSucc n)) = '-' :: Nat.toDigits 10 (n + 1) := by
  show ("-" ++ Nat.repr (n + 1)).toList = _
  rw [Nat.repr_eq_ofList_toDigits, String.toList_append, String.toList_ofList,
    String.toList_ofList]
  rfl

/-- A printed integer begins with its sign or with a digit. -/
theorem leading_numberChars (n : Int) :
    ∃ c behind, numberChars (.int n) = c :: behind ∧ (c = '-' ∨ Decimal.isDigit c = true) := by
  cases n with
  | ofNat n =>
      rcases hdigits : Nat.toDigits 10 n with _ | ⟨c, behind⟩
      · exact absurd hdigits Nat.toDigits_ne_nil
      · refine ⟨c, behind, (numberChars_ofNat n).trans hdigits, Or.inr ?_⟩
        exact isDigit_of_mem_toDigits (hdigits ▸ List.mem_cons_self)
  | negSucc n => exact ⟨'-', _, numberChars_negSucc n, Or.inl rfl⟩

/-- A printed integer that fits is read back. -/
theorem numeral?_numberChars {n : Int} (hfits : Fits64 n) {rest : List Char}
    (hrest : Delimited rest) :
    ∃ m, numeral? (numberChars (.int n) ++ rest) = some (m, rest) ∧ m.value? = some (.int n) := by
  rcases hfits with ⟨hlow, hhigh⟩
  cases n with
  | ofNat n =>
      have hsize : n < UInt64.size := by
        rw [Int.ofNat_eq_natCast] at hhigh
        rw [UInt64.size]
        omega
      refine ⟨_, ?_, value?_toDigits hsize⟩
      rw [Int.ofNat_eq_natCast, numberChars_ofNat]
      exact numeral?_unsigned n hrest
  | negSucc n =>
      have hsize : n + 1 ≤ 0x8000000000000000 := by omega
      refine ⟨_, ?_, value?_toDigits_negative (Nat.succ_pos n) hsize⟩
      rw [numberChars_negSucc]
      exact numeral?_negative (n + 1) hrest

end Json

end SqlMapper
