import SqlMapper.Decimal.Integer

/-!
# Reading Decimals

Floating-point numbers written in decimal.

The text is a sign, digits with at most one decimal point among them, and an
exponent, each part optional as long as one digit remains. Infinity and the
value that is not a number may be written in words, in any case. The result is
the floating-point number nearest to what is written, however long it is.

## Main definitions

* `scaled`: The floating-point number nearest to `m · 10 ^ e`.
* `magnitude?`: A number without its sign.
* `float?`: A number with its sign.
-/

namespace SqlMapper

namespace Decimal

/-- Positive infinity. -/
def infinity : Float :=
  Float.ofBits 0x7ff0000000000000

/-- The value that is not a number. -/
def notANumber : Float :=
  Float.ofBits 0x7ff8000000000000

/-- The floating-point number nearest to `m · 10 ^ e`. Exponents far outside the range of
    floating-point numbers are settled first, so no huge power is ever computed. -/
def scaled (m : Nat) (e : Int) : Float :=
  let top := (Nat.toDigits 10 m).length + e
  if m = 0 then 0
  else if 310 < top then infinity
  else if top < -330 then 0
  else Float.ofScientific m (decide (e < 0)) e.natAbs

/-- Whether a character is a decimal digit. -/
def isDigit (c : Char) : Bool :=
  decide ('0' ≤ c) && decide (c ≤ '9')

/-- The value of digits known to be such; zero if there are none. -/
def digitsValue (cs : List Char) : Nat :=
  cs.foldl (fun n c => n * 10 + (c.toNat - '0'.toNat)) 0

/-- An exponent with its sign, behind its letter. -/
def exponent? : List Char → Option Int
  | '+' :: rest => if rest.all isDigit then (digits? rest).map Int.ofNat else none
  | '-' :: rest => if rest.all isDigit then (digits? rest).map fun n => -(n : Int) else none
  | rest => if rest.all isDigit then (digits? rest).map Int.ofNat else none

/-- A number in digits, without its sign. -/
def plain? (cs : List Char) : Option Float :=
  let whole := cs.takeWhile isDigit
  let afterWhole := cs.dropWhile isDigit
  let fraction :=
    match afterWhole with
    | '.' :: rest => rest.takeWhile isDigit
    | _ => []
  let afterFraction :=
    match afterWhole with
    | '.' :: rest => rest.dropWhile isDigit
    | rest => rest
  if whole.isEmpty && fraction.isEmpty then
    none
  else
    let value := digitsValue (whole ++ fraction)
    match afterFraction with
    | [] => some (scaled value (-(fraction.length : Int)))
    | c :: rest =>
      if c = 'e' ∨ c = 'E' then
        (exponent? rest).map fun e => scaled value (e - fraction.length)
      else
        none

/-- A number without its sign, in digits or in words. -/
def magnitude? (cs : List Char) : Option Float :=
  let word := String.ofList (cs.map Char.toLower)
  if word = "inf" ∨ word = "infinity" then some infinity
  else if word = "nan" then some notANumber
  else plain? cs

/-- A number with its sign. -/
def float? (s : String) : Option Float :=
  match s.toList with
  | '-' :: rest => (magnitude? rest).map fun x => -x
  | '+' :: rest => magnitude? rest
  | cs => magnitude? cs

end Decimal

end SqlMapper
