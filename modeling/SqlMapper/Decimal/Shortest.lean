/-!
# Shortest Decimals

The fewest digits that still denote a given floating-point number.

A finite number stands for all reals that round to it, an interval around its
value. Among the decimals in that interval one of the fewest digits is wanted,
and among those the one nearest to the value. For each digit count in turn the
two neighbours of the value on the decimal grid of that count are tested, in
exact integer arithmetic: if any point of the grid lies in the interval, so does
one of the two.

When both neighbours lie in the interval and are equally near, the format that
is being written decides, so the tie is a parameter.

## Main definitions

* `Tie`: What happens to two equally near neighbours.
* `Binary`: A positive number as an integer times a power of two.
* `Scaled`: An integer times a power of ten.
* `Binary.ofBits`: The magnitude that a bit pattern denotes.
* `Binary.neighbour?`: The better neighbour on one grid, if it reads back.
* `Binary.shortest`: The fewest digits.
-/

namespace SqlMapper

namespace Decimal

/-- Which of two equally near neighbours is taken. -/
inductive Tie where
  /-- The larger one. -/
  | up
  /-- The one whose last digit is even. -/
  | even
  deriving Repr, DecidableEq

/-- A positive number `mantissa · 2 ^ exponent`. -/
structure Binary where
  /-- The integer in front. -/
  mantissa : Nat
  /-- The power of two. -/
  exponent : Int
  /-- Whether the numbers below it lie half as far apart as those above. -/
  narrowBelow : Bool
  deriving Repr, DecidableEq

/-- A number `digits · 10 ^ exponent`. -/
structure Scaled where
  /-- The digits, as an integer. -/
  digits : Nat
  /-- The power of ten. -/
  exponent : Int
  deriving Repr, DecidableEq

namespace Binary

/-- The unit behind which the fraction of a bit pattern stands, `2 ^ 52`. -/
def fractionUnit : Nat := 0x10000000000000

/-- The magnitude that the bits of a finite number denote. -/
def ofBits (bits : UInt64) : Binary :=
  let field : Nat := (bits.toNat / fractionUnit) % 0x800
  let fraction : Nat := bits.toNat % fractionUnit
  if field = 0 then
    { mantissa := fraction, exponent := -1074, narrowBelow := false }
  else
    { mantissa := fractionUnit + fraction
      exponent := (field : Int) - 1075
      narrowBelow := decide (fraction = 0 ∧ 1 < field) }

/-- The numerator of `2 ^ exponent / (4 · 10 ^ step)`. -/
def numerator (b : Binary) (step : Int) : Nat :=
  Nat.pow 2 b.exponent.toNat * Nat.pow 10 (-step).toNat

/-- The denominator of `2 ^ exponent / (4 · 10 ^ step)`. -/
def denominator (b : Binary) (step : Int) : Nat :=
  4 * Nat.pow 2 (-b.exponent).toNat * Nat.pow 10 step.toNat

/-- Whether `c · 10 ^ step` rounds to the number: it lies no more than half a unit of the last
    binary place away, and exactly half a unit only if the mantissa is even. -/
def readsBack (b : Binary) (step : Int) (c : Nat) : Bool :=
  -- Everything is counted in quarters of the last binary place, so that half a place below a
  -- power of two is still an integer.
  let point := c * b.denominator step
  let low := (4 * b.mantissa - (if b.narrowBelow then 1 else 2)) * b.numerator step
  let high := (4 * b.mantissa + 2) * b.numerator step
  if b.mantissa % 2 = 0 then
    decide (low ≤ point) && decide (point ≤ high)
  else
    decide (low < point) && decide (point < high)

/-- Of the two multiples of `10 ^ step` around the number the one to write, if either rounds
    to it. -/
def neighbour? (b : Binary) (tie : Tie) (step : Int) : Option Nat :=
  let value := 4 * b.mantissa * b.numerator step
  let unit := b.denominator step
  let below := value / unit
  match b.readsBack step below, b.readsBack step (below + 1) with
  | false, false => none
  | true, false => some below
  | false, true => some (below + 1)
  | true, true =>
    -- Both read back, so the nearer one is written; the middle between them decides.
    if 2 * value < (2 * below + 1) * unit then some below
    else if (2 * below + 1) * unit < 2 * value then some (below + 1)
    else
      match tie with
      | .up => some (below + 1)
      | .even => some (if below % 2 = 0 then below else below + 1)

/-- How many digits the number has before the decimal point; zero or less when it is below one
    tenth. No number is below `10 ^ -324`, so the digits of a large multiple are counted. -/
def places (b : Binary) : Int :=
  (Nat.toDigits 10 (4 * b.mantissa * b.numerator (-350) / b.denominator (-350))).length - 350

/-- Trailing zeros moved into the exponent, at most `fuel` of them. -/
def withoutZeros (fuel : Nat) (d : Scaled) : Scaled :=
  match fuel with
  | 0 => d
  | fuel + 1 =>
    if d.digits % 10 = 0 ∧ d.digits ≠ 0 then
      withoutZeros fuel { digits := d.digits / 10, exponent := d.exponent + 1 }
    else
      d

/-- The fewest digits that denote the number. Seventeen always do. -/
def shortest (b : Binary) (tie : Tie) : Scaled :=
  let places := b.places
  let found := (List.range 17).findSome? fun (n : Nat) =>
    let step := places - ((n : Int) + 1)
    (b.neighbour? tie step).map fun c => ({ digits := c, exponent := step } : Scaled)
  withoutZeros 20 (found.getD { digits := 0, exponent := 0 })

end Binary

end Decimal

end SqlMapper
