import SqlMapper.Decimal.Shortest

/-!
# Decimal Layouts

How the digits of a floating-point number are laid out as text.

Which digits are written is settled by `Decimal.Shortest`. What remains are the
decisions of a format: up to which magnitude a number is written positionally,
whether a whole number keeps its decimal point, whether the exponent carries a
plus sign. They are gathered in one record, so that each place that writes
numbers states its format once.

## Main definitions

* `Layout`: The decisions of a format.
* `Layout.render`: A number as text.
-/

namespace SqlMapper

namespace Decimal

/-- The decisions of a number format. -/
structure Layout where
  /-- Whether a number whose first digit counts `10 ^ e` is written without an exponent. -/
  positional : Int → Bool
  /-- What follows the digits of a whole number written positionally. -/
  wholeMark : List Char
  /-- What precedes the digits of an exponent that is not negative. -/
  plusMark : List Char
  /-- Which of two equally near decimals is taken. -/
  tie : Tie
  /-- How a value that is not a number is written. -/
  nan : String
  /-- How positive infinity is written. -/
  infinity : String

namespace Layout

/-- Digits without an exponent; the first one counts `10 ^ lead`. -/
def positionalText (l : Layout) (digits : List Char) (lead : Int) : List Char :=
  if lead < 0 then
    ['0', '.'] ++ List.replicate (-lead - 1).toNat '0' ++ digits
  else
    let whole := lead.toNat + 1
    if digits.length ≤ whole then
      digits ++ List.replicate (whole - digits.length) '0' ++ l.wholeMark
    else
      digits.take whole ++ ['.'] ++ digits.drop whole

/-- Digits with an exponent; the first one counts `10 ^ lead`. -/
def exponentText (l : Layout) (digits : List Char) (lead : Int) : List Char :=
  let point := if 1 < digits.length then ['.'] else []
  let exponent :=
    if lead < 0 then '-' :: Nat.toDigits 10 (-lead).toNat
    else l.plusMark ++ Nat.toDigits 10 lead.toNat
  digits.take 1 ++ point ++ digits.drop 1 ++ 'e' :: exponent

/-- The magnitude of a finite number as text. -/
def magnitudeText (l : Layout) (bits : UInt64) : List Char :=
  let b := Binary.ofBits bits
  if b.mantissa = 0 then
    '0' :: l.wholeMark
  else
    let d := b.shortest l.tie
    let digits := Nat.toDigits 10 d.digits
    let lead := d.exponent + digits.length - 1
    if l.positional lead then l.positionalText digits lead else l.exponentText digits lead

/-- A number as text. -/
def render (l : Layout) (x : Float) : String :=
  if x.isNaN then
    l.nan
  else
    let bits := x.toBits
    let sign := if bits >>> 63 = 0 then [] else ['-']
    if x.isInf then
      String.ofList (sign ++ l.infinity.toList)
    else
      String.ofList (sign ++ l.magnitudeText bits)

end Layout

end Decimal

end SqlMapper
