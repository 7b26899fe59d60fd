/-!
# Reading Integers

Integers written in decimal, with their sign.

Only ASCII digits count, at least one of them, and nothing may surround them. A
signed number may carry a plus or a minus sign, an unsigned one only a plus
sign; a number outside the range asked for is refused rather than wrapped.

## Main definitions

* `digits?`: The value of a run of digits.
* `natural?`: An unsigned number.
* `integer?`: A signed number.
* `naturalWithin?`: An unsigned number between two bounds.
* `int64?`: A signed number of 64 bits.
-/

namespace SqlMapper

namespace Decimal

/-- The value of one decimal digit. -/
def digit? (c : Char) : Option Nat :=
  if '0' ≤ c ∧ c ≤ '9' then some (c.toNat - '0'.toNat) else none

/-- The value of a number whose leading digits have the value `high`, once the digits that
    follow are read. -/
def digitsFrom? (high : Nat) : List Char → Option Nat
  | [] => some high
  | c :: rest => do digitsFrom? (high * 10 + (← digit? c)) rest

/-- The value of a run of digits that is not empty. -/
def digits? : List Char → Option Nat
  | [] => none
  | cs => digitsFrom? 0 cs

/-- An unsigned number, with or without a plus sign. -/
def natural? : List Char → Option Nat
  | '+' :: rest => digits? rest
  | cs => digits? cs

/-- A signed number. -/
def integer? : List Char → Option Int
  | '+' :: rest => (digits? rest).map Int.ofNat
  | '-' :: rest => (digits? rest).map fun n => -(n : Int)
  | cs => (digits? cs).map Int.ofNat

/-- An unsigned number between two bounds, both included. -/
def naturalWithin? (least most : Nat) (s : String) : Option Nat :=
  (natural? s.toList).filter fun n => decide (least ≤ n) && decide (n ≤ most)

/-- Whether a number fits into 64 bits with a sign. -/
def fitsInt64 (n : Int) : Bool :=
  decide (-0x8000000000000000 ≤ n) && decide (n ≤ 0x7fffffffffffffff)

/-- A signed number of 64 bits. -/
def int64? (s : String) : Option Int64 := do
  let n ← integer? s.toList
  if fitsInt64 n then some (Int64.ofInt n) else none

end Decimal

end SqlMapper
