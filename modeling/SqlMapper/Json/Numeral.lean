import SqlMapper.Json.Basic
import SqlMapper.Decimal.Reading

/-!
# JSON Numbers

The value of a number as JSON writes it.

An integer that fits 64 bits is kept exactly. Any other number becomes a
floating-point number by a rule that is cheap rather than exact: the digits are
gathered into a significand of 64 bits, digits that no longer fit are dropped,
and the significand is scaled by a power of ten with one multiplication or
division. The last bit may therefore differ from that of the nearest
floating-point number, and what is written by one reader of a stored value has
to be read alike by the next, so the rule is kept as it is.

## Main definitions

* `Numeral`: A number as written, in its parts.
* `Significand`: Digits gathered so far, and the power of ten still missing.
* `Numeral.value?`: The number denoted, unless it is out of range.
-/

namespace SqlMapper

namespace Json

/-- A number as it is written, cut into its parts. -/
structure Numeral where
  /-- Whether a minus sign stands in front. -/
  negative : Bool
  /-- The digits before the decimal point. -/
  whole : List Char
  /-- The digits behind the decimal point, if there is one. -/
  fraction : Option (List Char)
  /-- Whether the exponent is negative, and its digits, if there is one. -/
  exponent : Option (Bool × List Char)
  deriving Repr, DecidableEq

/-- Digits gathered so far, and the power of ten that is still missing. -/
structure Significand where
  /-- The digits gathered, below `2 ^ 64`. -/
  digits : Nat
  /-- The power of ten still missing. -/
  scale : Int
  /-- Whether a digit has been dropped for lack of room. -/
  full : Bool
  deriving Repr, DecidableEq

namespace Significand

/-- The digits with one more behind them, if there is room for it. -/
def extend? (digits : Nat) (c : Char) : Option Nat :=
  let longer := digits * 10 + (c.toNat - '0'.toNat)
  if longer < UInt64.size then some longer else none

/-- One more digit before the decimal point. -/
def addWhole (s : Significand) (c : Char) : Significand :=
  if s.full then
    { s with scale := s.scale + 1 }
  else
    match extend? s.digits c with
    | some digits => { s with digits := digits }
    | none => { s with scale := s.scale + 1, full := true }

/-- One more digit behind the decimal point. -/
def addFraction (s : Significand) (c : Char) : Significand :=
  if s.full then
    s
  else
    match extend? s.digits c with
    | some digits => { s with digits := digits, scale := s.scale - 1 }
    | none => { s with full := true }

/-- The digits before the decimal point. -/
def ofWhole (cs : List Char) : Significand :=
  cs.foldl addWhole { digits := 0, scale := 0, full := false }

/-- More digits behind the decimal point. There is room again after the point for a digit that
    still fits. -/
def withFraction (s : Significand) (cs : List Char) : Significand :=
  cs.foldl addFraction { s with full := false }

end Significand

/-- A power of ten that floating-point numbers reach, rounded to one. -/
def powerOfTen (e : Nat) : Float :=
  Float.ofScientific 1 false e

/-- A floating-point number divided by a power of ten, in steps of at most `10 ^ 308`. -/
def divided (x : Float) (e : Nat) : Float :=
  if e ≤ 308 then x / powerOfTen e
  else if x == 0 then x
  else divided (x / powerOfTen 308) (e - 308)
termination_by e

/-- A floating-point number times a power of ten, unless it is out of range. -/
def multiplied? (x : Float) (e : Nat) : Option Float :=
  if e ≤ 308 then
    let product := x * powerOfTen e
    if product.isInf then none else some product
  else if x == 0 then some x
  else none

/-- A floating-point number times a power of ten with an exponent of either sign. -/
def rescaled? (x : Float) (e : Int) : Option Float :=
  if e < 0 then some (divided x e.natAbs) else multiplied? x e.natAbs

namespace Numeral

/-- The floating-point number denoted, without its sign, unless it is out of range. An exponent
    beyond 31 bits makes any number but zero too large, or else too small to differ from zero. -/
def magnitude? (n : Numeral) : Option Float :=
  let s := (Significand.ofWhole n.whole).withFraction (n.fraction.getD [])
  match n.exponent with
  | none => rescaled? (Float.ofNat s.digits) s.scale
  | some (negative, digits) =>
    let e := Decimal.digitsValue digits
    -- Such an exponent is not added to the scale: the outcome is known without it.
    if 0x80000000 ≤ e then
      if s.digits ≠ 0 ∧ !negative then none else some 0
    else
      rescaled? (Float.ofNat s.digits) (if negative then s.scale - e else s.scale + e)

/-- The number denoted, unless it is out of range. -/
def value? (n : Numeral) : Option Number :=
  let s := Significand.ofWhole n.whole
  -- An integer without a sign has all 64 bits to itself; a negative one has 63, and minus zero
  -- is no integer at all.
  if n.fraction.isNone ∧ n.exponent.isNone ∧ !s.full ∧ !n.negative then
    some (.int s.digits)
  else if n.fraction.isNone ∧ n.exponent.isNone ∧ !s.full ∧ 0 < s.digits
      ∧ s.digits ≤ 0x8000000000000000 then
    some (.int (-(s.digits : Int)))
  else
    n.magnitude?.map fun x => .float (if n.negative then -x else x)

end Numeral

end Json

end SqlMapper
