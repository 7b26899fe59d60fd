import SqlMapper.Json.Numeral
import SqlMapper.Text.Hex

/-!
# JSON as Written

JSON text taken apart, before it is given a meaning.

What a reader makes of a text depends on what it is looking for: a member that
nobody asks for only has to be well formed, while one that is wanted must also
denote a value. A `Node` therefore keeps what is written. Members stay in the
order of the text, repeated keys included, and a number out of range or a string
with half a surrogate pair is kept as a node without a value.

## Main definitions

* `Node`: A value as written.
* `Node.read?`: The node that a whole text is.
* `Node.nesting`: How deeply arrays and objects are nested.
* `Node.json?`: The value denoted, if there is one.
* `Json.read?`: The value a whole text denotes.
* `Json.node`: A value as it would be written.
-/

namespace SqlMapper

namespace Json

/-- A JSON value as written. -/
inductive Node where
  /-- The word `null`. -/
  | null
  /-- One of the words `true` and `false`. -/
  | bool (b : Bool)
  /-- A number; no value if it is out of range. -/
  | number (value : Option Number)
  /-- A string; no value if it holds half a surrogate pair. -/
  | string (value : Option String)
  /-- An array. -/
  | array (items : List Node)
  /-- An object, its members as written. -/
  | object (members : List (Option String × Node))

/-- The blanks JSON allows between tokens. -/
def isSpace (c : Char) : Bool :=
  c == ' ' || c == '\n' || c == '\t' || c == '\r'

/-- A text without the blanks it begins with. -/
def skipSpace (cs : List Char) : List Char :=
  cs.dropWhile isSpace

/-- What follows a word, if the text begins with it. -/
def after? (word : List Char) (cs : List Char) : Option (List Char) :=
  if word.isPrefixOf cs then some (cs.drop word.length) else none

/-- A character of a string, or a code unit written in hexadecimal. -/
inductive StringPart where
  /-- A character. -/
  | char (c : Char)
  /-- A code unit of 16 bits. -/
  | unit (n : Nat)

/-- The character that a short escape stands for. -/
def shortEscape? (c : Char) : Option Char :=
  if c = '"' ∨ c = '\\' ∨ c = '/' then some c
  else if c = 'b' then some '\x08'
  else if c = 'f' then some '\x0c'
  else if c = 'n' then some '\n'
  else if c = 'r' then some '\r'
  else if c = 't' then some '\t'
  else none

/-- The parts of a string up to its closing quote, and what follows the quote. -/
def stringParts? : List Char → Option (List StringPart × List Char)
  | [] => none
  | '"' :: rest => some ([], rest)
  | '\\' :: 'u' :: a :: b :: c :: d :: rest => do
    -- Four digits, the first one worth the most.
    let n := (← Text.hexDigit? a) * 0x1000 + (← Text.hexDigit? b) * 0x100
      + (← Text.hexDigit? c) * 0x10 + (← Text.hexDigit? d)
    let (parts, after) ← stringParts? rest
    return (.unit n :: parts, after)
  | '\\' :: c :: rest => do
    let e ← shortEscape? c
    let (parts, after) ← stringParts? rest
    return (.char e :: parts, after)
  | c :: rest =>
    if c.toNat < 0x20 ∨ c = '\\' then
      none
    else do
      let (parts, after) ← stringParts? rest
      return (.char c :: parts, after)

/-- The characters of a string, if its code units pair up: a leading surrogate is followed by a
    trailing one, and a trailing one follows a leading one. -/
def joinParts? : List StringPart → Option (List Char)
  | [] => some []
  | .char c :: rest => (joinParts? rest).map (c :: ·)
  | .unit n :: rest =>
    -- A trailing surrogate that nothing leads is refused.
    if 0xdc00 ≤ n ∧ n < 0xe000 then
      none
    else if 0xd800 ≤ n ∧ n < 0xdc00 then
      match rest with
      | .unit m :: rest' =>
        if 0xdc00 ≤ m ∧ m < 0xe000 then
          let c := Char.ofNat (0x10000 + (n - 0xd800) * 0x400 + (m - 0xdc00))
          (joinParts? rest').map (c :: ·)
        else
          none
      | _ => none
    else
      (joinParts? rest).map (Char.ofNat n :: ·)

/-- A string behind its opening quote, and what follows it. -/
def string? (cs : List Char) : Option (Option String × List Char) := do
  let (parts, rest) ← stringParts? cs
  return ((joinParts? parts).map String.ofList, rest)

/-- The digits before the decimal point: a zero alone, or digits that do not begin with one. -/
def whole? : List Char → Option (List Char × List Char)
  | '0' :: rest =>
    match rest with
    | c :: _ => if Decimal.isDigit c then none else some (['0'], rest)
    | [] => some (['0'], rest)
  | cs =>
    let digits := cs.takeWhile Decimal.isDigit
    if digits.isEmpty then none else some (digits, cs.dropWhile Decimal.isDigit)

/-- At least one digit, and what follows the digits. -/
def digitRun? (cs : List Char) : Option (List Char × List Char) :=
  let digits := cs.takeWhile Decimal.isDigit
  if digits.isEmpty then none else some (digits, cs.dropWhile Decimal.isDigit)

/-- The digits behind the decimal point, if there is one. -/
def fraction? : List Char → Option (Option (List Char) × List Char)
  | '.' :: rest => (digitRun? rest).map fun r => (some r.1, r.2)
  | cs => some (none, cs)

/-- The sign and the digits of the exponent, if there is one. -/
def exponent? : List Char → Option (Option (Bool × List Char) × List Char)
  | [] => some (none, [])
  | c :: rest =>
    if c = 'e' ∨ c = 'E' then
      match rest with
      | '+' :: rest' => (digitRun? rest').map fun r => (some (false, r.1), r.2)
      | '-' :: rest' => (digitRun? rest').map fun r => (some (true, r.1), r.2)
      | _ => (digitRun? rest).map fun r => (some (false, r.1), r.2)
    else
      some (none, c :: rest)

/-- A number, and what follows it. -/
def numeral? (cs : List Char) : Option (Numeral × List Char) := do
  let negative := cs.head? == some '-'
  let (whole, afterWhole) ← whole? (if negative then cs.drop 1 else cs)
  let (fraction, afterFraction) ← fraction? afterWhole
  let (exponent, rest) ← exponent? afterFraction
  return ({ negative, whole, fraction, exponent }, rest)

namespace Node

mutual

/-- A value at the beginning of a text, and what follows it. Each call uses up fuel. -/
def value? (fuel : Nat) (cs : List Char) : Option (Node × List Char) :=
  match fuel with
  | 0 => none
  | fuel + 1 =>
    match skipSpace cs with
    | [] => none
    | '"' :: rest => (string? rest).map fun r => (.string r.1, r.2)
    | '[' :: rest =>
      match skipSpace rest with
      | ']' :: after => some (.array [], after)
      | rest' => (items? fuel rest').map fun r => (.array r.1, r.2)
    -- A brace is an object; its key is looked for where the blanks end.
    | '\x7b' :: rest =>
      match skipSpace rest with
      | '\x7d' :: after => some (.object [], after)
      | rest' => (members? fuel rest').map fun r => (.object r.1, r.2)
    | c :: rest =>
      if c = 'n' then (after? ['u', 'l', 'l'] rest).map fun after => (.null, after)
      else if c = 't' then (after? ['r', 'u', 'e'] rest).map fun after => (.bool true, after)
      else if c = 'f' then
        (after? ['a', 'l', 's', 'e'] rest).map fun after => (.bool false, after)
      else (numeral? (c :: rest)).map fun r => (.number r.1.value?, r.2)

/-- The items of an array up to its closing bracket, at least one, and what follows. -/
def items? (fuel : Nat) (cs : List Char) : Option (List Node × List Char) :=
  match fuel with
  | 0 => none
  | fuel + 1 => do
    let (item, rest) ← value? fuel cs
    match skipSpace rest with
    | ']' :: after => return ([item], after)
    | ',' :: more =>
      let (items, after) ← items? fuel more
      return (item :: items, after)
    | _ => none

/-- The members of an object up to its closing brace, at least one, and what follows. -/
def members? (fuel : Nat) (cs : List Char) : Option (List (Option String × Node) × List Char) :=
  match fuel with
  | 0 => none
  | fuel + 1 =>
    match skipSpace cs with
    | '"' :: rest => do
      let (key, afterKey) ← string? rest
      match skipSpace afterKey with
      | ':' :: beforeValue =>
        let (value, afterValue) ← value? fuel beforeValue
        match skipSpace afterValue with
        | '\x7d' :: after => return ([(key, value)], after)
        | ',' :: more =>
          let (members, after) ← members? fuel more
          return ((key, value) :: members, after)
        | _ => none
      | _ => none
    | _ => none

end

/-- The node that a whole text is. Every second call takes a character, so twice the length of
    the text is fuel enough. -/
def read? (s : String) : Option Node := do
  let cs := s.toList
  let (node, rest) ← value? (2 * cs.length + 2) cs
  if (skipSpace rest).isEmpty then some node else none

mutual

/-- How deeply arrays and objects are nested. -/
def nesting : Node → Nat
  | .array items => nestingItems items + 1
  | .object members => nestingMembers members + 1
  | _ => 0

/-- The deepest nesting among items. -/
def nestingItems : List Node → Nat
  | [] => 0
  | item :: rest => max (nesting item) (nestingItems rest)

/-- The deepest nesting among members. -/
def nestingMembers : List (Option String × Node) → Nat
  | [] => 0
  | (_, value) :: rest => max (nesting value) (nestingMembers rest)

end

mutual

/-- The value denoted, if every part of it has one. -/
def json? : Node → Option Json
  | .null => some .null
  | .bool b => some (.bool b)
  | .number n => n.map .number
  | .string s => s.map .string
  | .array items => (itemsJson? items).map .array
  | .object members => (membersJson? members).map fun ms => .object (ofPairs ms)

/-- The values of items. -/
def itemsJson? : List Node → Option (List Json)
  | [] => some []
  | item :: rest => do return (← json? item) :: (← itemsJson? rest)

/-- The keys and values of members, as written. -/
def membersJson? : List (Option String × Node) → Option (List (String × Json))
  | [] => some []
  | (key, value) :: rest => do return (← key, ← json? value) :: (← membersJson? rest)

end

end Node

/-- How many arrays and objects may lie within each other. -/
def nestingLimit : Nat := 127

/-- The value a whole text denotes. -/
def read? (s : String) : Option Json := do
  let node ← Node.read? s
  if node.nesting ≤ nestingLimit then node.json? else none

mutual

/-- A value as it would be written. -/
def node : Json → Node
  | .null => .null
  | .bool b => .bool b
  | .number n => .number (some n)
  | .string s => .string (some s)
  | .array items => .array (itemNodes items)
  | .object members => .object (memberNodes members)

/-- Items as they would be written. -/
def itemNodes : List Json → List Node
  | [] => []
  | item :: rest => node item :: itemNodes rest

/-- Members as they would be written. -/
def memberNodes : List (String × Json) → List (Option String × Node)
  | [] => []
  | (key, value) :: rest => (some key, node value) :: memberNodes rest

end

end Json

end SqlMapper
