/-!
# Bytes as Text

Reading UTF-8 that may be damaged.

A column may hold bytes that are not valid UTF-8 and that still have to be
shown or bound as text. The longest part of a sequence that could have been
completed is replaced, as a whole, by one replacement character, and reading
goes on at the next byte.

## Main definitions

* `isContinuation`: Bytes that continue a sequence.
* `secondByteFits`: Which second byte a first byte of three or four allows.
* `decodeLossy`: Bytes as characters, damaged parts replaced.
* `ofBytesLossy`: The same as a string.
* `ofBytes?`: Bytes as a string, if they are valid throughout.
* `toBytes`: The UTF-8 form of a string.
-/

namespace SqlMapper

namespace Text

/-- What stands for a damaged sequence. -/
def replacement : Char :=
  Char.ofNat 0xfffd

/-- Whether a byte continues a sequence. -/
def isContinuation (b : UInt8) : Bool :=
  decide (0x80 ≤ b ∧ b ≤ 0xbf)

/-- How many bytes the sequence that a byte begins should have; none for a byte that begins
    no sequence. -/
def sequenceLength? (b : UInt8) : Option Nat :=
  if b < 0x80 then some 1
  else if 0xc2 ≤ b ∧ b ≤ 0xdf then some 2
  else if 0xe0 ≤ b ∧ b ≤ 0xef then some 3
  else if 0xf0 ≤ b ∧ b ≤ 0xf4 then some 4
  else none

/-- Whether a second byte may follow this first one. Overlong forms, surrogates and code
    points past the last one are ruled out here, by the second byte alone. -/
def secondByteFits (first second : UInt8) : Bool :=
  if first = 0xe0 then decide (0xa0 ≤ second ∧ second ≤ 0xbf)
  else if first = 0xed then decide (0x80 ≤ second ∧ second ≤ 0x9f)
  else if first = 0xf0 then decide (0x90 ≤ second ∧ second ≤ 0xbf)
  else if first = 0xf4 then decide (0x80 ≤ second ∧ second ≤ 0x8f)
  else isContinuation second

/-- The six bits that a continuation byte adds. -/
def payload (b : UInt8) : Nat :=
  b.toNat % 0x40

/-- Bytes as characters, each damaged part as one replacement character. -/
def decodeLossy : List UInt8 → List Char
  | [] => []
  | b :: rest =>
    match sequenceLength? b with
    | some 1 => Char.ofNat b.toNat :: decodeLossy rest
    | some 2 =>
      match rest with
      | c :: rest' =>
        if secondByteFits b c then
          Char.ofNat (b.toNat % 0x20 * 0x40 + payload c) :: decodeLossy rest'
        else
          replacement :: decodeLossy (c :: rest')
      | [] => [replacement]
    | some 3 =>
      match rest with
      | c :: d :: rest' =>
        if secondByteFits b c then
          if isContinuation d then
            Char.ofNat (b.toNat % 0x10 * 0x1000 + payload c * 0x40 + payload d)
              :: decodeLossy rest'
          else
            replacement :: decodeLossy (d :: rest')
        else
          replacement :: decodeLossy (c :: d :: rest')
      | [c] =>
        if secondByteFits b c then [replacement] else replacement :: decodeLossy [c]
      | [] => [replacement]
    | some _ =>
      match rest with
      | c :: d :: e :: rest' =>
        if secondByteFits b c then
          if isContinuation d then
            if isContinuation e then
              Char.ofNat (b.toNat % 0x8 * 0x40000 + payload c * 0x1000 + payload d * 0x40
                + payload e) :: decodeLossy rest'
            else
              replacement :: decodeLossy (e :: rest')
          else
            replacement :: decodeLossy (d :: e :: rest')
        else
          replacement :: decodeLossy (c :: d :: e :: rest')
      | [c, d] =>
        if secondByteFits b c then
          if isContinuation d then [replacement] else replacement :: decodeLossy [d]
        else
          replacement :: decodeLossy [c, d]
      | [c] =>
        if secondByteFits b c then [replacement] else replacement :: decodeLossy [c]
      | [] => [replacement]
    | none => replacement :: decodeLossy rest
termination_by bytes => bytes.length

/-- Bytes as a string, each damaged part as one replacement character. -/
def ofBytesLossy (bytes : List UInt8) : String :=
  String.ofList (decodeLossy bytes)

/-- Bytes as a string, if they are valid UTF-8 throughout. -/
def ofBytes? (bytes : List UInt8) : Option String :=
  String.fromUTF8? ⟨bytes.toArray⟩

/-- The UTF-8 form of a string. -/
def toBytes (s : String) : List UInt8 :=
  s.toUTF8.data.toList

end Text

end SqlMapper
