import SqlMapper.Text.Blank
import SqlMapper.Text.Scan
import SqlMapper.Text.Word

/-!
# Keywords in SQL

Recognising the words of SQL inside a text.

Keywords may be written in either case, in any mix. Case is ignored in the sense
of Unicode, where the Kelvin sign is another K and the long s another S, so those
two letters count as well. A keyword has to start where a word starts, and it is
followed by blanks of any kind.

## Main definitions

* `sameLetter`: Whether a character is a letter in either case.
* `keyword?`: A keyword at the beginning of a text, as written, and what follows.
* `atWordStart`: Whether a word can start behind the character just passed.
* `blankRun`, `afterBlanks`: The blanks a text begins with, and what follows them.
* `placeholder?`: A colon with word characters behind it, and what follows.
-/

namespace SqlMapper

namespace Text

/-- Whether a character is this small letter in either case. -/
def sameLetter (small c : Char) : Bool :=
  c.toLower == small || (small == 'k' && c.toNat == 0x212a) || (small == 's' && c.toNat == 0x17f)

/-- A keyword at the beginning of a text, as it is written there, and what follows it. -/
def keyword? : List Char → List Char → Option (List Char × List Char)
  | [], cs => some ([], cs)
  | _ :: _, [] => none
  | k :: ks, c :: cs =>
    if sameLetter k c then (keyword? ks cs).map fun r => (c :: r.1, r.2) else none

/-- Whether a word can start behind the character just passed. -/
def atWordStart (passed : Option Char) : Bool :=
  !passed.any isWord

/-- The blanks a text begins with. -/
def blankRun (cs : List Char) : List Char :=
  cs.takeWhile isBlank

/-- What follows the blanks a text begins with. -/
def afterBlanks (cs : List Char) : List Char :=
  cs.dropWhile isBlank

/-- A colon with at least one word character behind it, and what follows. -/
def placeholder? : List Char → Option (List Char × List Char)
  | ':' :: rest =>
    if (wordRun rest).isEmpty then none else some (':' :: wordRun rest, afterWord rest)
  | _ => none

theorem keyword?_append {ks cs word rest : List Char} (h : keyword? ks cs = some (word, rest)) :
    word ++ rest = cs := by
  induction ks generalizing cs word with
  | nil => simp only [keyword?, Option.some.injEq, Prod.mk.injEq] at h; simp [← h.1, ← h.2]
  | cons k ks ih =>
      cases cs with
      | nil => simp [keyword?] at h
      | cons c cs =>
          by_cases hc : sameLetter k c = true
          · simp only [keyword?, hc, if_true, Option.map_eq_some_iff, Prod.exists,
              Prod.mk.injEq] at h
            obtain ⟨w, r, hw, rfl, rfl⟩ := h
            simp [ih hw]
          · simp [keyword?, hc] at h

theorem placeholder?_append {cs name rest : List Char} (h : placeholder? cs = some (name, rest)) :
    name ++ rest = cs := by
  unfold placeholder? at h
  split at h
  · split at h
    · simp at h
    · simp only [Option.some.injEq, Prod.mk.injEq] at h
      rw [← h.1, ← h.2, List.cons_append, wordRun_append_afterWord]
  · simp at h

end Text

end SqlMapper
