/-
# What hexadecimal text is read as

A text is read as bytes if all characters behind the mark are digits, in either case. The
bytes are as many as the digits fill, the first one half if need be, and they denote the
number that the digits do. Since bytes are known by their count and their number, this says
which bytes a text is read as, and that no other text is read at all.
-/

import CallTrace.Proofs.Bytes.Hex
import CallTrace.Proofs.Text.Utf8

namespace CallTrace

namespace Hex

/-- The digits that bytes encode, if each of them encodes one. -/
def nibbles? (bytes : List UInt8) : Option (List Nat) :=
  bytes.mapM nibble?

/-- Digits in pairs as bytes. -/
def pairUp : List Nat → List UInt8
  | high :: low :: rest => UInt8.ofNat (16 * high + low) :: pairUp rest
  | _ => []

/-- Digits with a zero before them if their number is odd. -/
def padLeft (nibbles : List Nat) : List Nat :=
  if nibbles.length % 2 = 1 then 0 :: nibbles else nibbles

section Nibbles

variable {bytes : List UInt8} {nibbles : List Nat} {c : Char}

theorem digitValue?_of_le (high : 0x80 ≤ c.toNat) : Numeral.digitValue? 16 c = none := by
  have above {last : Char} (ascii : last.toNat < 0x80) : ¬ c ≤ last := by
    rw [Char.le_def, UInt32.le_iff_toNat_le, Char.toNat_val, Char.toNat_val]
    omega
  have nine : ¬ c ≤ '9' := above (by decide)
  have lower : ¬ c ≤ 'z' := above (by decide)
  have upper : ¬ c ≤ 'Z' := above (by decide)
  simp [Numeral.digitValue?, nine, lower, upper]

theorem nibble?_of_lt (low : c.toNat < 0x80) :
    nibble? (UInt8.ofNat c.toNat) = Numeral.digitValue? 16 c := by
  have value : (UInt8.ofNat c.toNat).toNat = c.toNat := Utf8.toNat_ofNat (by omega)
  have below : UInt8.ofNat c.toNat < 0x80 := by
    rw [UInt8.lt_iff_toNat_lt, value]
    exact low
  rw [nibble?, if_pos below, value, Char.ofNat_toNat]

/-- A character that is no digit has no byte that encodes one, however many bytes it has. -/
theorem nibbles?_utf8_encode (text : List Char) :
    nibbles? (Utf8.encode text) = Numeral.digits? 16 text := by
  induction text with
  | nil => rfl
  | cons c text ih =>
      rw [Utf8.encode, List.flatMap_cons, ← Utf8.encode, Numeral.digits?_cons]
      by_cases low : c.toNat < 0x80
      · have single : String.utf8EncodeChar c = [UInt8.ofNat c.toNat] := by
          rw [String.utf8EncodeChar, Char.toNat_val]
          exact if_pos (by omega)
        rw [single, List.singleton_append, nibbles?, mapM_cons_eq, nibble?_of_lt low, ← nibbles?,
          ih]
      · obtain ⟨lead, rest, written, -⟩ := Utf8.character?_utf8EncodeChar c
        have high : ¬ lead < 0x80 := by
          have byte := Utf8.of_mem_utf8EncodeChar c lead (written ▸ List.mem_cons_self)
          simp only [UInt8.lt_iff_toNat_lt, UInt8.reduceToNat]
          omega
        rw [written, List.cons_append, nibbles?, mapM_cons_eq, nibble?, if_neg high,
          digitValue?_of_le (Nat.not_lt.mp low), Option.bind_none, Option.bind_none]

/-- Bytes have the digits that they were paired from. -/
theorem halves_pairUp (even : nibbles.length % 2 = 0) (below : ∀ digit ∈ nibbles, digit < 16) :
    halves (pairUp nibbles) = nibbles := by
  induction nibbles using pairUp.induct with
  | case1 high low rest ih =>
      simp only [List.forall_mem_cons] at below
      obtain ⟨highBelow, lowBelow, restBelow⟩ := below
      have byte : (UInt8.ofNat (16 * high + low)).toNat = 16 * high + low :=
        Utf8.toNat_ofNat (by omega)
      have front : (16 * high + low) / 16 = high ∧ (16 * high + low) % 16 = low := by omega
      rw [List.length_cons, List.length_cons] at even
      rw [pairUp, halves, List.flatMap_cons, ← halves, ih (by omega) restBelow, byte, front.1,
        front.2]
      rfl
  | case2 nibbles short =>
      cases nibbles with
      | nil => rfl
      | cons high rest =>
          cases rest with
          | nil => cases even
          | cons low rest => exact absurd rfl (short high low rest)

/-- Bytes that have a partner each are read if they all encode digits. -/
theorem toOption_decodePairs (position : Nat) (even : bytes.length % 2 = 0) :
    (decodePairs position bytes).toOption = (nibbles? bytes).map pairUp := by
  induction position, bytes using decodePairs.induct with
  | case1 position high low rest noHigh =>
      rw [decodePairs, nibbles?, mapM_cons_eq, noHigh]
      rfl
  | case2 position high low rest h isHigh noLow =>
      rw [decodePairs, nibbles?, mapM_cons_eq, mapM_cons_eq, isHigh, noLow]
      rfl
  | case3 position high low rest h l isHigh isLow ih =>
      rw [List.length_cons, List.length_cons] at even
      rw [decodePairs, nibbles?, mapM_cons_eq, mapM_cons_eq, isHigh, isLow, ← nibbles?]
      change ((decodePairs (position + 2) rest).map _).toOption =
        (((nibbles? rest).map (l :: ·)).map (h :: ·)).map pairUp
      rw [toOption_map, ih (by omega), Option.map_map, Option.map_map, Option.map_map]
      rfl
  | case4 position last => cases even
  | case5 position => rfl

/-- One more item makes an odd number of them even. -/
theorem even_length_pad {α : Type} (front : α) (items : List α) :
    (if items.length % 2 = 1 then front :: items else items).length % 2 = 0 := by
  split
  next odd =>
      rw [List.length_cons]
      omega
  next even => omega

/-- A zero in front does not change the number. -/
theorem extend_padLeft (nibbles : List Nat) :
    Numeral.extend 16 0 (padLeft nibbles) = Numeral.extend 16 0 nibbles := by
  rw [padLeft]
  split <;> rfl

theorem padLeft_lt (below : ∀ digit ∈ nibbles, digit < 16) :
    ∀ digit ∈ padLeft nibbles, digit < 16 := by
  rw [padLeft]
  split
  next => exact List.forall_mem_cons.mpr ⟨by decide, below⟩
  next => exact below

theorem nibbles?_padded (bytes : List UInt8) :
    nibbles? (padded bytes) = (nibbles? bytes).map padLeft := by
  have counted {nibbles : List Nat} (read : nibbles ∈ nibbles? bytes) :
      nibbles.length = bytes.length := (of_mapM_eq_some read).1
  rw [padded]
  split
  next odd =>
      have front : nibble? 0x30 = some 0 := by decide
      rw [nibbles?, mapM_cons_eq, front, ← nibbles?, Option.bind_some]
      refine Option.map_congr fun nibbles read => ?_
      rw [padLeft, if_pos (by rw [counted read]; exact odd)]
  next even =>
      refine Option.map_id'.symm.trans (Option.map_congr fun nibbles read => ?_)
      rw [padLeft, if_neg (by rw [counted read]; exact even)]

/-- The bytes of a text are its digits in pairs. -/
theorem toOption_decode (text : List Char) :
    (decode text).toOption =
      (Numeral.digits? 16 (Text.dropOpening ['0', 'x'] text)).map fun nibbles =>
        pairUp (padLeft nibbles) := by
  have pairs : (decode text).toOption =
      (decodePairs 0 (padded (Utf8.encode (Text.dropOpening ['0', 'x'] text)))).toOption := by
    rw [decode]
    split
    next read => rw [read]; rfl
    next read => rw [read]; rfl
  have even (bytes : List UInt8) : (padded bytes).length % 2 = 0 := even_length_pad 0x30 bytes
  rw [pairs, toOption_decodePairs 0 (even _), nibbles?_padded, nibbles?_utf8_encode,
    Option.map_map]
  rfl

/-- Paired digits denote what the digits do, in as many bytes as they fill. -/
theorem pairUp_padLeft (below : ∀ digit ∈ nibbles, digit < 16) :
    bigEndian (pairUp (padLeft nibbles)) = Numeral.extend 16 0 nibbles ∧
      (pairUp (padLeft nibbles)).length = (nibbles.length + 1) / 2 := by
  have found : halves (pairUp (padLeft nibbles)) = padLeft nibbles :=
    halves_pairUp (even_length_pad 0 nibbles) (padLeft_lt below)
  constructor
  · rw [← extend_halves, found, extend_padLeft]
  · have count := length_halves (pairUp (padLeft nibbles))
    rw [found, padLeft] at count
    split at count
    next odd =>
        rw [List.length_cons] at count
        rw [padLeft, if_pos odd]
        omega
    next even =>
        rw [padLeft, if_neg even]
        omega

end Nibbles

/-- A text is read as the bytes that denote its number, as many as its digits fill. -/
theorem decode_eq_ok_iff {text : List Char} {bytes : List UInt8} :
    decode text = .ok bytes ↔
      Numeral.value? 16 (Text.dropOpening ['0', 'x'] text) = some (bigEndian bytes) ∧
        bytes.length = ((Text.dropOpening ['0', 'x'] text).length + 1) / 2 := by
  rw [← toOption_eq_some_iff, toOption_decode, Option.map_eq_some_iff, Numeral.value?,
    Option.map_eq_some_iff]
  constructor
  · rintro ⟨nibbles, read, rfl⟩
    obtain ⟨below, count⟩ := Numeral.of_digits? read
    obtain ⟨number, length⟩ := pairUp_padLeft below
    exact ⟨⟨nibbles, read, number.symm⟩, by rw [length, count]⟩
  · rintro ⟨⟨nibbles, read, number⟩, length⟩
    obtain ⟨below, count⟩ := Numeral.of_digits? read
    obtain ⟨denotes, filled⟩ := pairUp_padLeft below
    refine ⟨nibbles, read, eq_of_bigEndian_eq ?_ (denotes.trans number)⟩
    rw [filled, length, count]

/-- Digits are read. -/
theorem exists_decode {text : List Char} {number : Nat}
    (value : Numeral.value? 16 (Text.dropOpening ['0', 'x'] text) = some number) :
    ∃ bytes, decode text = .ok bytes ∧ bigEndian bytes = number := by
  obtain ⟨nibbles, read, rfl⟩ := Option.map_eq_some_iff.mp value
  refine ⟨pairUp (padLeft nibbles), ?_, (pairUp_padLeft (Numeral.of_digits? read).1).1⟩
  rw [← toOption_eq_some_iff, toOption_decode, read]
  rfl

/-- Byte strings are read as what was written. -/
@[simp]
theorem decode_encodeMarked (bytes : List UInt8) : decode (encodeMarked bytes) = .ok bytes := by
  have opening : Text.dropOpening ['0', 'x'] (encodeMarked bytes) = encode bytes := rfl
  have value : Numeral.value? 16 (encode bytes) = some (bigEndian bytes) := by
    rw [encode_eq_map_halves, Numeral.value?,
      Numeral.digits?_map_digitChar (Nat.le_refl 16) (halves_lt bytes), Option.map_some,
      extend_halves]
  rw [decode_eq_ok_iff, opening]
  refine ⟨value, ?_⟩
  rw [encode_eq_map_halves, List.length_map, length_halves]
  omega

end Hex

namespace FixedBytes

variable {n : Nat} {text : List Char} {fixed : FixedBytes n}

theorem ofHex_eq_ok_iff_decode : ofHex text = .ok fixed ↔ Hex.decode text = .ok fixed.toList := by
  rw [ofHex]
  cases Hex.decode text with
  | error fault => simp
  | ok bytes =>
      simp only [ofList?, Except.ok.injEq]
      by_cases fits : bytes.length = n
      · rw [dif_pos fits]
        obtain ⟨list, length⟩ := fixed
        simp
      · rw [dif_neg fits]
        refine iff_of_false (by simp) fun same => fits ?_
        rw [same, fixed.length_toList]

/-- A text is read as the byte string that denotes its number, if its digits fill one of that
length. -/
theorem ofHex_eq_ok_iff :
    ofHex text = .ok fixed ↔
      Numeral.value? 16 (Text.dropOpening ['0', 'x'] text) = some (bigEndian fixed.toList) ∧
        n = ((Text.dropOpening ['0', 'x'] text).length + 1) / 2 := by
  rw [ofHex_eq_ok_iff_decode, Hex.decode_eq_ok_iff, fixed.length_toList]

/-- Digits that fill a byte string of some length denote one. -/
theorem exists_ofHex {number : Nat}
    (value : Numeral.value? 16 (Text.dropOpening ['0', 'x'] text) = some number)
    (filled : n = ((Text.dropOpening ['0', 'x'] text).length + 1) / 2) :
    ∃ fixed : FixedBytes n, ofHex text = .ok fixed ∧ bigEndian fixed.toList = number := by
  obtain ⟨bytes, read, denotes⟩ := Hex.exists_decode value
  have length : bytes.length = n := by rw [filled, (Hex.decode_eq_ok_iff.mp read).2]
  exact ⟨⟨bytes, length⟩, ofHex_eq_ok_iff_decode.mpr read, denotes⟩

theorem bigEndian_inj {first second : FixedBytes n} :
    bigEndian first.toList = bigEndian second.toList ↔ first = second := by
  constructor
  · intro number
    obtain ⟨bytes, length⟩ := first
    obtain rfl : bytes = second.toList :=
      eq_of_bigEndian_eq (length.trans second.length_toList.symm) number
    rfl
  · rintro rfl
    rfl

/-- The last bytes hold what remains of the number by as many bytes. -/
theorem bigEndian_takeLast (m : Nat) (within : m ≤ n) (fixed : FixedBytes n) :
    bigEndian (fixed.takeLast m within).toList = bigEndian fixed.toList % 256 ^ m := by
  have kept : (fixed.takeLast m within).toList.length = m := (fixed.takeLast m within).length_toList
  have whole : fixed.toList =
      fixed.toList.take (n - m) ++ (fixed.takeLast m within).toList :=
    (List.take_append_drop (n - m) fixed.toList).symm
  have below := bigEndian_lt (fixed.takeLast m within).toList
  rw [kept] at below
  rw [whole, bigEndian_append, kept, Nat.mul_comm, Nat.mul_add_mod, Nat.mod_eq_of_lt below]

/-- Byte strings of a fixed length are read as what was written. -/
@[simp]
theorem ofHex_toHex (bytes : FixedBytes n) : ofHex bytes.toHex = .ok bytes :=
  ofHex_eq_ok_iff_decode.mpr (Hex.decode_encodeMarked bytes.toList)

/-- Byte strings that are written the same are the same. -/
theorem eq_of_toHex_eq {first second : FixedBytes n} (written : first.toHex = second.toHex) :
    first = second := by
  have read := ofHex_toHex first
  rw [written, ofHex_toHex] at read
  exact (Except.ok.inj read).symm

end FixedBytes

end CallTrace
