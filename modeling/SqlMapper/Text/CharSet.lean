/-!
# Character Sets

Sets of characters given by ranges of code points.

Identifiers, placeholders and quoted diagnostics all depend on character
classes that reach far beyond ASCII. A class is kept as the list of its ranges
rather than as a predicate written by hand, so that it can be compared with the
standard's own list at a glance.

## Main definitions

* `CharSet`: A set of characters, as inclusive ranges of code points.
* `CharSet.has`: Membership.
-/

namespace SqlMapper

namespace Text

/-- A set of characters, as inclusive ranges of code points. -/
structure CharSet where
  /-- The ranges, each with its first and its last code point. -/
  ranges : List (Nat × Nat)

/-- Whether a character lies in one of the ranges. -/
def CharSet.has (s : CharSet) (c : Char) : Bool :=
  s.ranges.any fun r => decide (r.1 ≤ c.toNat) && decide (c.toNat ≤ r.2)

theorem CharSet.has_iff (s : CharSet) (c : Char) :
    s.has c = true ↔ ∃ r ∈ s.ranges, r.1 ≤ c.toNat ∧ c.toNat ≤ r.2 := by
  simp only [CharSet.has, List.any_eq_true, Bool.and_eq_true, decide_eq_true_eq]

end Text

end SqlMapper
