import SqlMapper.Decimal.Extended

/-!
# SQLite Numerals

The number that a text begins with.

SQLite takes any text for a number and reads as far as it looks like one. The
digits are gathered into a significand of 64 bits. Once it has no room for
another digit, further digits before the point only count, and those behind it
are dropped. What remains is a power of ten, and since each step of scaling
costs precision, as much of it as fits is first moved into the significand; the
rest is applied in extended precision.

Where an integer is wanted the digits are read exactly, so both readings are
kept.

## Main definitions

* `Gathered`: Digits gathered so far, and the power of ten still missing.
* `Gathered.float`: Their value as a floating-point number.
* `Numeral`, `Numeral.read`: The number that a text begins with.
* `Numeral.integer?`: Its value, if it is written as an integer.
* `Numeral.float`: Its value as a floating-point number.
-/

namespace SqlMapper

namespace Sqlite

/-- Whether a character counts as blank around a number. -/
def isNumeralBlank (c : Char) : Bool :=
  decide (c = ' ') || (decide ('\t' ≤ c) && decide (c ≤ '\r'))

/-- Digits gathered so far, and the power of ten still missing. -/
structure Gathered where
  /-- The digits, as an integer of 64 bits. -/
  digits : Nat := 0
  /-- The power of ten still missing. -/
  scale : Int := 0
  deriving Repr, DecidableEq

namespace Gathered

/-- Whether there is room for another digit, whichever it is. -/
def hasRoom (g : Gathered) : Bool :=
  decide (g.digits < (UInt64.size - 10) / 10)

/-- One more digit before the decimal point. -/
def addWhole (g : Gathered) (c : Char) : Gathered :=
  if g.hasRoom then { g with digits := g.digits * 10 + (c.toNat - '0'.toNat) }
  else { g with scale := g.scale + 1 }

/-- One more digit behind the decimal point. -/
def addFraction (g : Gathered) (c : Char) : Gathered :=
  if g.hasRoom then
    { digits := g.digits * 10 + (c.toNat - '0'.toNat), scale := g.scale - 1 }
  else
    g

/-- Digits before and behind the decimal point. -/
def ofDigits (whole fraction : List Char) : Gathered :=
  fraction.foldl addFraction (whole.foldl addWhole { })

/-- A power of ten moved into the digits while they have room: the digits, and what is left of
    the power. -/
def grown (digits : Nat) : Nat → Nat × Nat
  | 0 => (digits, 0)
  | power + 1 =>
    if digits < (UInt64.size - 1) / 10 then grown (digits * 10) power else (digits, power + 1)

/-- Zeros at the end of the digits taken out of a divisor that is a power of ten: the digits, and
    what is left of the power. -/
def shrunk (digits : Nat) : Nat → Nat × Nat
  | 0 => (digits, 0)
  | power + 1 => if digits % 10 = 0 then shrunk (digits / 10) power else (digits, power + 1)

/-- The digits with as little scaling left to do as possible. -/
def settled (g : Gathered) : Gathered :=
  if g.scale < 0 then
    let (digits, power) := shrunk g.digits g.scale.natAbs
    { digits, scale := -(power : Int) }
  else
    let (digits, power) := grown g.digits g.scale.natAbs
    { digits, scale := power }

/-- The value as a floating-point number. -/
def float (g : Gathered) : Float :=
  -- Zero would never run out of room, so it is settled by itself.
  if g.digits = 0 then 0
  else
    let s := g.settled
    ((Decimal.Extended.rounded s.digits 0).scale s.scale).float

end Gathered

/-- The number that a text begins with. -/
structure Numeral where
  /-- Whether there is a minus sign. -/
  negative : Bool
  /-- The digits before the decimal point. -/
  whole : List Char
  /-- The digits behind the decimal point, if there is a point. -/
  fraction : Option (List Char)
  /-- The exponent, if there is a letter for it. -/
  exponent : Option Int
  /-- Whether the text holds a number and nothing else. -/
  complete : Bool
  deriving Repr, DecidableEq

namespace Numeral

/-- A sign, if there is one, and what follows: whether it is a minus sign. -/
def sign : List Char → Bool × List Char
  | '-' :: rest => (true, rest)
  | '+' :: rest => (false, rest)
  | cs => (false, cs)

/-- The digits behind a point, if there is a point, and what follows. -/
def fractionPart : List Char → Option (List Char) × List Char
  | '.' :: rest => (some (rest.takeWhile Decimal.isDigit), rest.dropWhile Decimal.isDigit)
  | cs => (none, cs)

/-- The digits of an exponent with one more behind them. Large exponents are all alike, so they
    are not told apart. -/
def addExponentDigit (e : Nat) (c : Char) : Nat :=
  if e < 10000 then e * 10 + (c.toNat - '0'.toNat) else 10000

/-- An exponent, if there is a letter for it: its value, whether it has digits, and what
    follows. -/
def exponentPart? : List Char → Option (Int × Bool × List Char)
  | c :: rest =>
    if c = 'e' ∨ c = 'E' then
      let (negative, rest) := sign rest
      let digits := rest.takeWhile Decimal.isDigit
      let size := digits.foldl addExponentDigit 0
      some (if negative then -(size : Int) else size, !digits.isEmpty,
        rest.dropWhile Decimal.isDigit)
    else
      none
  | [] => none

/-- The number that a text begins with; zero if there is none. -/
def read (cs : List Char) : Numeral :=
  let (negative, cs) := sign (cs.dropWhile isNumeralBlank)
  let whole := cs.takeWhile Decimal.isDigit
  let (fraction, cs) := fractionPart (cs.dropWhile Decimal.isDigit)
  let scale := exponentPart? cs
  -- A letter without digits behind it spoils the number, but not what was read before it.
  let (_, scaled, cs) := scale.getD (0, true, cs)
  {
    negative := negative
    whole := whole
    fraction := fraction
    exponent := scale.map (·.1)
    complete := !(whole ++ fraction.getD []).isEmpty && scaled && cs.all isNumeralBlank }

/-- The value, if there is neither a point nor an exponent. -/
def integer? (n : Numeral) : Option Int :=
  if n.fraction.isNone ∧ n.exponent.isNone then
    let size : Int := Decimal.digitsValue n.whole
    some (if n.negative then -size else size)
  else
    none

/-- The value as a floating-point number. -/
def float (n : Numeral) : Float :=
  let g := Gathered.ofDigits n.whole (n.fraction.getD [])
  let size := { g with scale := g.scale + n.exponent.getD 0 }.float
  if n.negative then -size else size

end Numeral

end Sqlite

end SqlMapper
