import SqlMapper.Json.Basic
import SqlMapper.Decimal.Layout

/-!
# JSON Text

Writing a JSON value in its compact form.

Nothing but the characters that JSON cannot hold in a string is escaped, and no
blank is written, so a stored value is as short as JSON allows. A floating-point
number always shows that it is one: it keeps its point when it is whole, and far
from one it is written with an exponent.

## Main definitions

* `Json.numberLayout`: The format of floating-point numbers.
* `Json.escapedChar`: How one character of a string is written.
* `Json.chars`: A value as characters.
* `Json.text`: A value as a string.
-/

namespace SqlMapper

namespace Json

/-- Floating-point numbers are positional from `1e-5` to below `1e16`, whole ones keep `.0`,
    an exponent always has its sign, and a tie goes to the even digit. -/
def numberLayout : Decimal.Layout where
  positional := fun e => decide (-5 ≤ e) && decide (e < 16)
  wholeMark := ['.', '0']
  plusMark := ['+']
  tie := .even
  nan := "null"
  infinity := "null"

/-- A number as characters. What is not finite has no JSON form and is written as `null`. -/
def numberChars : Number → List Char
  | .int n => (toString n).toList
  | .float x => if x.isNaN || x.isInf then "null".toList else (numberLayout.render x).toList

/-- How one character of a string is written. -/
def escapedChar (c : Char) : List Char :=
  if c = '"' then ['\\', '"']
  else if c = '\\' then ['\\', '\\']
  else if c = '\n' then ['\\', 'n']
  else if c = '\r' then ['\\', 'r']
  else if c = '\t' then ['\\', 't']
  else if c = '\x08' then ['\\', 'b']
  else if c = '\x0c' then ['\\', 'f']
  else if c.toNat < 0x20 then
    ['\\', 'u', '0', '0', Nat.digitChar (c.toNat / 16), Nat.digitChar (c.toNat % 16)]
  else [c]

/-- A string as characters, between its quotes. -/
def stringChars (s : String) : List Char :=
  '"' :: s.toList.flatMap escapedChar ++ ['"']

mutual

/-- A value as characters. -/
def chars : Json → List Char
  | .null => ['n', 'u', 'l', 'l']
  | .bool true => ['t', 'r', 'u', 'e']
  | .bool false => ['f', 'a', 'l', 's', 'e']
  | .number n => numberChars n
  | .string s => stringChars s
  | .array [] => ['[', ']']
  | .array (item :: rest) => '[' :: chars item ++ itemChars rest
  | .object [] => ['\x7b', '\x7d']
  | .object ((key, value) :: rest) =>
    '\x7b' :: stringChars key ++ ':' :: chars value ++ memberChars rest

/-- The items behind the first one, with the closing bracket. -/
def itemChars : List Json → List Char
  | [] => [']']
  | item :: rest => ',' :: chars item ++ itemChars rest

/-- The members behind the first one, with the closing brace. -/
def memberChars : List (String × Json) → List Char
  | [] => ['\x7d']
  | (key, value) :: rest => ',' :: stringChars key ++ ':' :: chars value ++ memberChars rest

end

/-- A value as a string. -/
def text (j : Json) : String :=
  String.ofList j.chars

end Json

end SqlMapper
