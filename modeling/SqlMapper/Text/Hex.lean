/-!
# Hexadecimal Digits

The value of one digit in base sixteen, in either case.

## Main definitions

* `hexDigit?`: The value of a hexadecimal digit.
-/

namespace SqlMapper

namespace Text

/-- The value of a hexadecimal digit. -/
def hexDigit? (c : Char) : Option Nat :=
  if '0' ≤ c ∧ c ≤ '9' then some (c.toNat - '0'.toNat)
  else if 'a' ≤ c ∧ c ≤ 'f' then some (c.toNat - 'a'.toNat + 10)
  else if 'A' ≤ c ∧ c ≤ 'F' then some (c.toNat - 'A'.toNat + 10)
  else none

end Text

end SqlMapper
