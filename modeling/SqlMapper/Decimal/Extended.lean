import SqlMapper.Decimal.Reading

/-!
# Extended Precision

Powers of ten applied with more digits than a floating-point number holds.

An extended number has a significand of 64 binary digits where a floating-point
number has 53. Whoever scales a decimal step by step in extended precision loses
a little with each step, but mostly too little to show once the result is
rounded again. Mostly is not always, so the steps are part of what such a reader
does: first hundreds of powers of ten, then tens, then single ones, each product
rounded to the nearest extended number, and to the even one of two equally near.

The exponent is not bounded here. A number that leaves the range on the way
would never come back to it, because all steps point in one direction.

## Main definitions

* `roundedQuotient`: A quotient rounded to the nearest integer.
* `Extended`: An integer times a power of two.
* `Extended.rounded`: An integer times a power of two, kept to 64 digits.
* `Extended.scale`: An extended number times a power of ten, step by step.
* `Extended.float`: The nearest floating-point number.

## Theorems

* `two_mul_roundedQuotient_le`, `le_two_mul_roundedQuotient`: A rounded quotient
  is off by half a unit at most.
-/

namespace SqlMapper

namespace Decimal

/-- A quotient rounded to the nearest integer, and to the even one of two equally near. -/
def roundedQuotient (n d : Nat) : Nat :=
  let below := n / d
  let rest := 2 * (n % d)
  if rest < d then below
  else if d < rest then below + 1
  else if below % 2 = 0 then below
  else below + 1

/-- Rounding never adds more than half a unit. -/
theorem two_mul_roundedQuotient_le (n d : Nat) :
    2 * d * roundedQuotient n d ≤ 2 * n + d := by
  have hdiv : d * (n / d) + n % d = n := Nat.div_add_mod n d
  have hunit : d * (n / d + 1) = d * (n / d) + d := Nat.mul_succ d (n / d)
  have hdown : 2 * d * (n / d) = 2 * (d * (n / d)) := Nat.mul_assoc 2 d (n / d)
  have hup : 2 * d * (n / d + 1) = 2 * (d * (n / d + 1)) := Nat.mul_assoc 2 d (n / d + 1)
  simp only [roundedQuotient]
  -- Only the cases that round up add anything.
  split
  · omega
  · split
    · omega
    · split <;> omega

/-- Rounding never takes more than half a unit away. -/
theorem le_two_mul_roundedQuotient (n d : Nat) (hd : 0 < d) :
    2 * n ≤ 2 * d * roundedQuotient n d + d := by
  have hdiv : d * (n / d) + n % d = n := Nat.div_add_mod n d
  have hlt : n % d < d := Nat.mod_lt n hd
  have hunit : d * (n / d + 1) = d * (n / d) + d := Nat.mul_succ d (n / d)
  have hdown : 2 * d * (n / d) = 2 * (d * (n / d)) := Nat.mul_assoc 2 d (n / d)
  have hup : 2 * d * (n / d + 1) = 2 * (d * (n / d + 1)) := Nat.mul_assoc 2 d (n / d + 1)
  simp only [roundedQuotient]
  split
  · omega
  · split
    · omega
    · split <;> omega

/-- A number `significand · 2 ^ exponent`. -/
structure Extended where
  /-- The integer in front. -/
  significand : Nat
  /-- The power of two. -/
  exponent : Int
  deriving Repr, DecidableEq

namespace Extended

/-- The number `n · 2 ^ e`, rounded to 64 binary digits. -/
def rounded (n : Nat) (e : Int) : Extended :=
  let excess := n.log2 + 1 - 64
  { significand := roundedQuotient n (Nat.pow 2 excess), exponent := e + excess }

/-- The product of two numbers. -/
def mul (x y : Extended) : Extended :=
  rounded (x.significand * y.significand) (x.exponent + y.exponent)

/-- A power of ten. -/
def powerOfTen (k : Nat) : Extended :=
  rounded (Nat.pow 10 k) 0

/-- One divided by a power of ten. The dividend is chosen so that the quotient has 64 binary
    digits. -/
def inversePowerOfTen (k : Nat) : Extended :=
  let room := (Nat.pow 10 k).log2 + 64
  { significand := roundedQuotient (Nat.pow 2 room) (Nat.pow 10 k), exponent := -(room : Int) }

/-- A number multiplied several times by the same factor. -/
def mulTimes (x factor : Extended) : Nat → Extended
  | 0 => x
  | times + 1 => mulTimes (x.mul factor) factor times

/-- A number times `10 ^ e`, by hundreds, then by tens, then by ones. -/
def scale (x : Extended) (e : Int) : Extended :=
  let step (k : Nat) := if e < 0 then inversePowerOfTen k else powerOfTen k
  let size := e.natAbs
  ((x.mulTimes (step 100) (size / 100)).mulTimes (step 10) (size / 10 % 10)).mulTimes
    (step 1) (size % 10)

/-- The power of two of the largest binary digit. -/
def top (x : Extended) : Int :=
  x.significand.log2 + x.exponent

/-- Whether a number is larger than the largest finite floating-point number,
    `(2 ^ 53 - 1) · 2 ^ 971`. -/
def isHuge (x : Extended) : Bool :=
  decide (0x1fffffffffffff * Nat.pow 2 (971 - x.exponent).toNat
    < x.significand * Nat.pow 2 (x.exponent - 971).toNat)

/-- The bits of the nearest floating-point number, for a number in the range. The last binary
    place of a floating-point number lies 52 below the largest digit, but never below
    `2 ^ -1074`. -/
def bits (x : Extended) : Nat :=
  let place := max (x.top - 52) (-1074)
  let digits := roundedQuotient (x.significand * Nat.pow 2 (x.exponent - place).toNat)
    (Nat.pow 2 (place - x.exponent).toNat)
  -- A carry out of the digits moves on into the exponent field, which is where it belongs.
  (place + 1074).toNat * 0x10000000000000 + digits

/-- The nearest floating-point number, or infinity above the largest. Numbers far outside the
    range are settled first, so no huge power is ever computed. -/
def float (x : Extended) : Float :=
  if x.significand = 0 then 0
  else if x.top < -1100 then 0
  else if 1024 ≤ x.top then infinity
  else if x.isHuge then infinity
  else Float.ofBits (UInt64.ofNat x.bits)

end Extended

end Decimal

end SqlMapper
