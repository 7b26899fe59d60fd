import Mathlib.Tactic.SplitIfs
import SqlMapper.Text.Utf8

/-!
# Text That Was Encoded

Reading bytes that are the UTF-8 form of a text gives the text back.

The reader looks for damage: at the first byte it decides how many bytes there
should be, and each of the others has to fit. None of this matters where the
bytes were written by the encoder. A first byte announces as many bytes as the
encoder writes; the second one avoids what would be an overlong form, a
surrogate or a number past the last character, because the number is that of a
character; and the bits of all of them together are the number again. So every
character is read back from its own bytes, and a text character by character.

## Theorems

* `decodeLossy_one`, `decodeLossy_two`, `decodeLossy_three`, `decodeLossy_four`: Reading a sequence
  that is complete.
* `decodeLossy_char`: A character is read back from its bytes.
* `ofBytesLossy_toBytes`: So is a text.
* `toBytes_ofBytesLossy_iff`: Exactly the forms of texts are read without loss.
-/

namespace SqlMapper

namespace Text

section

variable {b c d e : UInt8} (rest : List UInt8)

theorem decodeLossy_one (hb : sequenceLength? b = some 1) :
    decodeLossy (b :: rest) = Char.ofNat b.toNat :: decodeLossy rest := by
  cases rest with
  | nil =>
      rw [decodeLossy.eq_def]
      simp only [hb]
  | cons c rest =>
      rw [decodeLossy.eq_def]
      simp only [hb]

theorem decodeLossy_two (hb : sequenceLength? b = some 2) (hc : secondByteFits b c = true) :
    decodeLossy (b :: c :: rest)
      = Char.ofNat (b.toNat % 0x20 * 0x40 + payload c) :: decodeLossy rest := by
  rw [decodeLossy, hb]
  simp only [hc, if_true]

theorem decodeLossy_three (hb : sequenceLength? b = some 3) (hc : secondByteFits b c = true)
    (hd : isContinuation d = true) :
    decodeLossy (b :: c :: d :: rest)
      = Char.ofNat (b.toNat % 0x10 * 0x1000 + payload c * 0x40 + payload d)
        :: decodeLossy rest := by
  rw [decodeLossy, hb]
  simp only [hc, hd, if_true]

theorem decodeLossy_four (hb : sequenceLength? b = some 4) (hc : secondByteFits b c = true)
    (hd : isContinuation d = true) (he : isContinuation e = true) :
    decodeLossy (b :: c :: d :: e :: rest)
      = Char.ofNat (b.toNat % 0x8 * 0x40000 + payload c * 0x1000 + payload d * 0x40 + payload e)
        :: decodeLossy rest := by
  rw [decodeLossy, hb]
  simp only [hc, hd, he, if_true]

end

-- The tests of the reader, as tests of numbers.

theorem sequenceLength?_toNat (b : UInt8) :
    sequenceLength? b = if b.toNat < 0x80 then some 1
      else if 0xc2 ≤ b.toNat ∧ b.toNat ≤ 0xdf then some 2
      else if 0xe0 ≤ b.toNat ∧ b.toNat ≤ 0xef then some 3
      else if 0xf0 ≤ b.toNat ∧ b.toNat ≤ 0xf4 then some 4
      else none := by
  simp only [sequenceLength?, UInt8.lt_iff_toNat_lt, UInt8.le_iff_toNat_le]
  rfl

theorem isContinuation_toNat (b : UInt8) :
    isContinuation b = decide (0x80 ≤ b.toNat ∧ b.toNat ≤ 0xbf) := by
  simp only [isContinuation, UInt8.le_iff_toNat_le]
  rfl

theorem secondByteFits_toNat (b c : UInt8) :
    secondByteFits b c = if b.toNat = 0xe0 then decide (0xa0 ≤ c.toNat ∧ c.toNat ≤ 0xbf)
      else if b.toNat = 0xed then decide (0x80 ≤ c.toNat ∧ c.toNat ≤ 0x9f)
      else if b.toNat = 0xf0 then decide (0x90 ≤ c.toNat ∧ c.toNat ≤ 0xbf)
      else if b.toNat = 0xf4 then decide (0x80 ≤ c.toNat ∧ c.toNat ≤ 0x8f)
      else decide (0x80 ≤ c.toNat ∧ c.toNat ≤ 0xbf) := by
  simp only [secondByteFits, isContinuation_toNat, UInt8.le_iff_toNat_le, ← UInt8.toNat_inj]
  rfl

theorem toNat_ofNat_byte {n : Nat} (h : n < 256) : (UInt8.ofNat n).toNat = n :=
  UInt8.toNat_ofNat_of_lt' h

-- A byte that carries six bits, with the mark of those that continue a sequence.
theorem isContinuation_tail (n : Nat) : isContinuation (UInt8.ofNat (n % 64 + 128)) = true := by
  rw [isContinuation_toNat, toNat_ofNat_byte (by omega), decide_eq_true_eq]
  omega

theorem payload_tail (n : Nat) : payload (UInt8.ofNat (n % 64 + 128)) = n % 64 := by
  rw [payload, toNat_ofNat_byte (by omega)]
  omega

section

variable {v : Nat} (rest : List UInt8)

-- The three longer forms of a number. No shorter form would do, and the number is that of a
-- character, so the second byte fits.
theorem decodeLossy_twoBytes (hlower : 127 < v) (hupper : v ≤ 2047) :
    decodeLossy (UInt8.ofNat (v / 64 % 32 + 192) :: UInt8.ofNat (v % 64 + 128) :: rest)
      = Char.ofNat v :: decodeLossy rest := by
  have hfirst := toNat_ofNat_byte (n := v / 64 % 32 + 192) (by omega)
  have hb : sequenceLength? (UInt8.ofNat (v / 64 % 32 + 192)) = some 2 := by
    rw [sequenceLength?_toNat, hfirst, if_neg (by omega), if_pos (by omega)]
  have hc : secondByteFits (UInt8.ofNat (v / 64 % 32 + 192)) (UInt8.ofNat (v % 64 + 128))
      = true := by
    rw [secondByteFits_toNat, hfirst, if_neg (by omega), if_neg (by omega), if_neg (by omega),
      if_neg (by omega), ← isContinuation_toNat]
    exact isContinuation_tail v
  have hnumber : (v / 64 % 32 + 192) % 0x20 * 0x40 + v % 64 = v := by omega
  rw [decodeLossy_two rest hb hc, hfirst, payload_tail, hnumber]

theorem decodeLossy_threeBytes (hlower : 2047 < v) (hupper : v ≤ 65535)
    (hvalid : v < 0xd800 ∨ 0xdfff < v) :
    decodeLossy (UInt8.ofNat (v / 4096 % 16 + 224) :: UInt8.ofNat (v / 64 % 64 + 128)
        :: UInt8.ofNat (v % 64 + 128) :: rest)
      = Char.ofNat v :: decodeLossy rest := by
  have hfirst := toNat_ofNat_byte (n := v / 4096 % 16 + 224) (by omega)
  have hsecond := toNat_ofNat_byte (n := v / 64 % 64 + 128) (by omega)
  have hb : sequenceLength? (UInt8.ofNat (v / 4096 % 16 + 224)) = some 3 := by
    rw [sequenceLength?_toNat, hfirst, if_neg (by omega), if_neg (by omega), if_pos (by omega)]
  have hc : secondByteFits (UInt8.ofNat (v / 4096 % 16 + 224)) (UInt8.ofNat (v / 64 % 64 + 128))
      = true := by
    rw [secondByteFits_toNat, hfirst, hsecond]
    split_ifs <;> rw [decide_eq_true_eq] <;> omega
  have hnumber : (v / 4096 % 16 + 224) % 0x10 * 0x1000 + v / 64 % 64 * 0x40 + v % 64 = v := by
    omega
  rw [decodeLossy_three rest hb hc (isContinuation_tail v), hfirst, payload_tail, payload_tail,
    hnumber]

theorem decodeLossy_fourBytes (hlower : 65535 < v) (hvalid : v < 0x110000) :
    decodeLossy (UInt8.ofNat (v / 262144 % 8 + 240) :: UInt8.ofNat (v / 4096 % 64 + 128)
        :: UInt8.ofNat (v / 64 % 64 + 128) :: UInt8.ofNat (v % 64 + 128) :: rest)
      = Char.ofNat v :: decodeLossy rest := by
  have hfirst := toNat_ofNat_byte (n := v / 262144 % 8 + 240) (by omega)
  have hsecond := toNat_ofNat_byte (n := v / 4096 % 64 + 128) (by omega)
  have hb : sequenceLength? (UInt8.ofNat (v / 262144 % 8 + 240)) = some 4 := by
    rw [sequenceLength?_toNat, hfirst, if_neg (by omega), if_neg (by omega), if_neg (by omega),
      if_pos (by omega)]
  have hc : secondByteFits (UInt8.ofNat (v / 262144 % 8 + 240))
      (UInt8.ofNat (v / 4096 % 64 + 128)) = true := by
    rw [secondByteFits_toNat, hfirst, hsecond]
    split_ifs <;> rw [decide_eq_true_eq] <;> omega
  have hnumber : (v / 262144 % 8 + 240) % 0x8 * 0x40000 + v / 4096 % 64 * 0x1000
      + v / 64 % 64 * 0x40 + v % 64 = v := by omega
  rw [decodeLossy_four rest hb hc (isContinuation_tail (v / 64)) (isContinuation_tail v), hfirst,
    payload_tail, payload_tail, payload_tail, hnumber]

end

/-- A character is read back from its bytes, whatever follows them. -/
theorem decodeLossy_char (c : Char) (rest : List UInt8) :
    decodeLossy (String.utf8EncodeChar c ++ rest) = c :: decodeLossy rest := by
  have hchar : Char.ofNat c.val.toNat = c := Char.ofNat_toNat c
  have hvalid : c.val.toNat < 0xd800 ∨ 0xdfff < c.val.toNat ∧ c.val.toNat < 0x110000 := c.valid
  unfold String.utf8EncodeChar
  generalize c.val.toNat = v at hchar hvalid ⊢
  dsimp only
  -- By the number of bytes; in each case the first one announces it.
  by_cases hone : v ≤ 127
  · have hb : sequenceLength? (UInt8.ofNat v) = some 1 := by
      rw [sequenceLength?_toNat, toNat_ofNat_byte (by omega), if_pos (by omega)]
    rw [if_pos hone, List.singleton_append, decodeLossy_one rest hb,
      toNat_ofNat_byte (by omega), hchar]
  rw [if_neg hone]
  by_cases htwo : v ≤ 2047
  · rw [if_pos htwo, List.cons_append, List.singleton_append,
      decodeLossy_twoBytes rest (by omega) htwo, hchar]
  rw [if_neg htwo]
  by_cases hthree : v ≤ 65535
  · rw [if_pos hthree, List.cons_append, List.cons_append, List.singleton_append,
      decodeLossy_threeBytes rest (by omega) hthree (by omega), hchar]
  · rw [if_neg hthree, List.cons_append, List.cons_append, List.cons_append,
      List.singleton_append, decodeLossy_fourBytes rest (by omega) (by omega), hchar]

theorem decodeLossy_chars (cs : List Char) :
    decodeLossy (cs.flatMap String.utf8EncodeChar) = cs := by
  induction cs with
  | nil => rw [List.flatMap_nil, decodeLossy]
  | cons c rest ih => rw [List.flatMap_cons, decodeLossy_char, ih]

theorem toBytes_ofList (cs : List Char) :
    toBytes (String.ofList cs) = cs.flatMap String.utf8EncodeChar := by
  rw [toBytes, String.toUTF8_eq_toByteArray, String.toByteArray_ofList]
  exact List.toList_data_toByteArray

/-- A text is read back from its bytes. -/
theorem ofBytesLossy_toBytes (s : String) : ofBytesLossy (toBytes s) = s := by
  rw [← String.ofList_toList (s := s), toBytes_ofList, ofBytesLossy, decodeLossy_chars]

/-- The bytes of a text are valid throughout, and they are read back as the text. -/
theorem ofBytes?_toBytes (s : String) : ofBytes? (toBytes s) = some s :=
  dif_pos s.isValidUTF8

/-- Bytes are read without loss exactly if they are the form of a text. -/
theorem toBytes_ofBytesLossy_iff (bytes : List UInt8) :
    toBytes (ofBytesLossy bytes) = bytes ↔ ∃ s, toBytes s = bytes := by
  constructor
  · exact fun h => ⟨_, h⟩
  · rintro ⟨s, rfl⟩
    rw [ofBytesLossy_toBytes]

end Text

end SqlMapper
