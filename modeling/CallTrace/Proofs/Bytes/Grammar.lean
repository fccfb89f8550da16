/-
# Which texts are hexadecimal

A text is hexadecimal if all bytes of its encoding are digits, the mark in front set aside.
Whether it has any digits, and whether their number is even, makes no difference: half a byte
is filled up with a zero in front. A text that is not hexadecimal is refused for the first byte
that is no digit, with its place among the bytes as they are read, so that the zero counts if
there is one. Addresses and hashes are hexadecimal texts of a length, where again the first
digit may be missing, and are written in one way only: all digits in lower case, with zeros
where the number has none.
-/

import CallTrace.Proofs.Bytes.Decode

namespace CallTrace

namespace Hex

/-- Whether a byte is a digit: a figure, or one of the first six letters in either case. -/
def IsDigit (byte : UInt8) : Prop :=
  (0x30 ≤ byte ∧ byte ≤ 0x39) ∨ (0x41 ≤ byte ∧ byte ≤ 0x46) ∨ (0x61 ≤ byte ∧ byte ≤ 0x66)

instance : DecidablePred IsDigit := fun byte =>
  inferInstanceAs (Decidable
    ((0x30 ≤ byte ∧ byte ≤ 0x39) ∨ (0x41 ≤ byte ∧ byte ≤ 0x46) ∨ (0x61 ≤ byte ∧ byte ≤ 0x66)))

/-- A text without the mark in front. -/
def unmarked (text : List Char) : List Char :=
  Text.dropOpening ['0', 'x'] text

section Digits

variable {text : List Char} {front after : List UInt8} {bad : UInt8}

theorem isSome_nibble?_iff (byte : UInt8) : (nibble? byte).isSome ↔ IsDigit byte := by
  have all : ∀ n < 256, (nibble? (UInt8.ofNat n)).isSome = decide (IsDigit (UInt8.ofNat n)) := by
    decide +kernel
  have this := all byte.toNat byte.toNat_lt
  rw [UInt8.ofNat_toNat] at this
  rw [this, decide_eq_true_eq]

theorem nibble?_eq_none (noDigit : ¬ IsDigit bad) : nibble? bad = none := by
  rw [← isSome_nibble?_iff, Option.not_isSome_iff_eq_none] at noDigit
  exact noDigit

theorem exists_nibble? {byte : UInt8} (digit : IsDigit byte) : ∃ value, nibble? byte = some value :=
  Option.isSome_iff_exists.mp ((isSome_nibble?_iff byte).mpr digit)

/-- A text is hexadecimal if it has a number. -/
theorem isSome_value?_iff :
    (Numeral.value? 16 text).isSome ↔ ∀ byte ∈ Utf8.encode text, IsDigit byte := by
  rw [Numeral.value?, Option.isSome_map, ← nibbles?_utf8_encode, nibbles?, isSome_mapM_iff]
  simp only [isSome_nibble?_iff]

/-- Digits are encoded in one byte each. -/
theorem length_encode_of_value? {number : Nat} (value : Numeral.value? 16 text = some number) :
    (Utf8.encode text).length = text.length := by
  obtain ⟨nibbles, read, -⟩ := Option.map_eq_some_iff.mp value
  rw [← (Numeral.of_digits? read).2]
  rw [← nibbles?_utf8_encode] at read
  exact (of_mapM_eq_some read).1.symm

/-- Reading pairs stops at the first byte that is no digit, whichever place it has in its pair. -/
theorem decodePairs_of_bad (position : Nat) (digits : ∀ byte ∈ front, IsDigit byte)
    (noDigit : ¬ IsDigit bad) (even : (front ++ bad :: after).length % 2 = 0) :
    decodePairs position (front ++ bad :: after) = .error (bad, position + front.length) := by
  induction position, front using decodePairs.induct with
  | case1 position high low rest noHigh =>
      obtain ⟨value, isHigh⟩ := exists_nibble? (digits high List.mem_cons_self)
      cases noHigh.symm.trans isHigh
  | case2 position high low rest h noLow isHigh =>
      obtain ⟨value, isLow⟩ := exists_nibble? (digits low (by simp))
      cases noLow.symm.trans isLow
  | case3 position high low rest h l isHigh isLow ih =>
      have later : ∀ byte ∈ rest, IsDigit byte := fun byte member => digits byte (by simp [member])
      simp only [List.cons_append, List.length_cons] at even
      rw [List.cons_append, List.cons_append, decodePairs, isHigh, isLow]
      simp only [ih later (by omega), List.length_cons]
      rw [Nat.add_assoc position, Nat.add_comm 2]
      rfl
  | case4 position last =>
      obtain ⟨value, isLast⟩ := exists_nibble? (digits last List.mem_cons_self)
      rw [List.singleton_append, decodePairs, isLast, nibble?_eq_none noDigit]
      rfl
  | case5 position =>
      cases after with
      | nil => cases even
      | cons next after =>
          rw [List.nil_append, decodePairs, nibble?_eq_none noDigit]
          rfl

/-- A text is refused for its first byte that is no digit. -/
theorem decode_of_bad (split : Utf8.encode (unmarked text) = front ++ bad :: after)
    (digits : ∀ byte ∈ front, IsDigit byte) (noDigit : ¬ IsDigit bad) :
    decode text = .error (.badDigit (String.ofList (unmarked text)) bad
      (front.length + (front ++ bad :: after).length % 2)) := by
  have pairs : decodePairs 0 (padded (front ++ bad :: after)) =
      .error (bad, front.length + (front ++ bad :: after).length % 2) := by
    have even : (padded (front ++ bad :: after)).length % 2 = 0 := even_length_pad 0x30 _
    rw [padded] at even ⊢
    split at even
    next odd =>
        have zero : ∀ byte ∈ (0x30 :: front), IsDigit byte :=
          List.forall_mem_cons.mpr ⟨by decide, digits⟩
        rw [if_pos odd, odd]
        exact (decodePairs_of_bad 0 zero noDigit even).trans (by rw [Nat.zero_add]; rfl)
    next whole =>
        rw [if_neg whole, decodePairs_of_bad 0 digits noDigit even, even, Nat.zero_add]
        rfl
  rw [unmarked] at split ⊢
  rw [decode, split, pairs]

/-- The bytes that are read are as many as the digits fill, and denote their number. -/
theorem of_decode {bytes : List UInt8} (read : decode text = .ok bytes) :
    bytes.length = ((Utf8.encode (unmarked text)).length + 1) / 2 ∧
      Numeral.value? 16 (unmarked text) = some (bigEndian bytes) := by
  obtain ⟨value, filled⟩ := decode_eq_ok_iff.mp read
  have count : (Utf8.encode (unmarked text)).length = (unmarked text).length :=
    length_encode_of_value? value
  exact ⟨count ▸ filled, value⟩

/-- A text is read if it is hexadecimal. -/
theorem exists_decode_iff :
    (∃ bytes, decode text = .ok bytes) ↔
      ∀ byte ∈ Utf8.encode (unmarked text), IsDigit byte := by
  rw [← isSome_value?_iff, Option.isSome_iff_exists]
  constructor
  · rintro ⟨bytes, read⟩
    exact ⟨_, (decode_eq_ok_iff.mp read).1⟩
  · rintro ⟨number, value⟩
    obtain ⟨bytes, read, -⟩ := exists_decode value
    exact ⟨bytes, read⟩

end Digits

section Message

/-- The number of the byte that is shown between quotes. -/
def unquoted? (text : List Char) : Option Nat :=
  match text.tail.dropLast with
  | ['\\', '0'] => some 0
  | ['\\', 't'] => some 9
  | ['\\', 'n'] => some 10
  | ['\\', 'r'] => some 13
  | ['\\', c] => some c.toNat
  | '\\' :: 'u' :: '\x7b' :: digits => Numeral.value? 16 digits.dropLast
  | [c] => some c.toNat
  | _ => none

theorem unquoted?_quoted (byte : UInt8) : unquoted? (quoted byte) = some byte.toNat := by
  have all : ∀ n < 256, unquoted? (quoted (UInt8.ofNat n)) = some n := by decide +kernel
  have this := all byte.toNat byte.toNat_lt
  rwa [UInt8.ofNat_toNat] at this

/-- No two bytes are shown alike. -/
theorem eq_of_quoted_eq {first second : UInt8} (same : quoted first = quoted second) :
    first = second := by
  have number := congrArg unquoted? same
  rw [unquoted?_quoted, unquoted?_quoted, Option.some_inj] at number
  exact UInt8.toNat_inj.mp number

/-- A refusal shows the text, the byte at fault and its place. -/
theorem message_badDigit (text : String) (byte : UInt8) (position : Nat) :
    (HexFault.badDigit text byte position).message =
      "Invalid hex string: " ++ text ++ ": Invalid character " ++ String.ofList (quoted byte) ++
        " at position " ++ toString position := rfl

/-- A refusal for the length shows the one that was asked for and the one that was found. -/
theorem message_badLength (expected found : Nat) :
    (HexFault.badLength expected found).message =
      "Expected " ++ toString expected ++ " bytes, found " ++ toString found := rfl

end Message

section FullWidth

variable {digits : List Nat}

theorem leftpad_concat {α : Type} (width : Nat) (fill last : α) (items : List α) :
    (items ++ [last]).leftpad (width + 1) fill = items.leftpad width fill ++ [last] := by
  rw [List.leftpad, List.leftpad, List.length_append, List.length_singleton,
    Nat.add_sub_add_right, List.append_assoc]

/-- Zero has a digit of its own, which is filled up like the missing ones. -/
theorem leftpad_zero {width : Nat} (wide : width ≠ 0) :
    (Numeral.hexadecimal 0).leftpad width '0' = List.replicate width '0' := by
  obtain ⟨less, rfl⟩ := Nat.exists_eq_succ_of_ne_zero wide
  exact List.replicate_succ'.symm

/-- Digits are the numeral of their number with zeros in front of it. -/
theorem map_digitChar_eq_leftpad (below : ∀ digit ∈ digits, digit < 16) (some : digits ≠ []) :
    digits.map Nat.digitChar =
      (Numeral.hexadecimal (Numeral.extend 16 0 digits)).leftpad digits.length '0' := by
  -- By the last digit, in which the numeral ends as well.
  induction digits using List.reverseRecOn with
  | nil => exact absurd rfl some
  | append_singleton digits digit ih =>
      obtain ⟨belowOthers, belowLast⟩ := List.forall_mem_append.mp below
      have small : digit < 16 := belowLast digit List.mem_cons_self
      have alone : Numeral.hexadecimal digit = [] ++ [Nat.digitChar digit] :=
        Nat.toDigits_of_lt_base small
      rw [List.map_append, List.map_singleton, Numeral.extend_concat, List.length_append,
        List.length_singleton]
      by_cases others : digits = []
      · subst others
        show _ = (Numeral.hexadecimal (0 * 16 + digit)).leftpad 1 '0'
        rw [Nat.zero_mul, Nat.zero_add, alone]
        rfl
      · rw [ih belowOthers others]
        by_cases zero : Numeral.extend 16 0 digits = 0
        · have wide : digits.length ≠ 0 := mt List.length_eq_zero_iff.mp others
          have nothing : [].leftpad digits.length '0' = List.replicate digits.length '0' :=
            List.append_nil _
          rw [zero, leftpad_zero wide, Nat.zero_mul, Nat.zero_add, alone, leftpad_concat, nothing]
        · have longer : Numeral.hexadecimal (Numeral.extend 16 0 digits * 16 + digit) =
              Numeral.hexadecimal (Numeral.extend 16 0 digits) ++ [Nat.digitChar digit] := by
            have front : (Numeral.extend 16 0 digits * 16 + digit) / 16 =
                Numeral.extend 16 0 digits := by omega
            have last : (Numeral.extend 16 0 digits * 16 + digit) % 16 = digit := by omega
            rw [Numeral.hexadecimal, Nat.toDigits_of_base_le (by decide) (by omega), front, last]
            rfl
          rw [longer, leftpad_concat]

end FullWidth

end Hex

namespace FixedBytes

variable {n : Nat} {text : List Char} {fixed : FixedBytes n}

/-- The written form is the numeral of the number in full width. -/
theorem toHex_eq_leftpad (positive : 0 < n) (fixed : FixedBytes n) :
    fixed.toHex =
      '0' :: 'x' :: (Numeral.hexadecimal (bigEndian fixed.toList)).leftpad (2 * n) '0' := by
  have count : (Hex.halves fixed.toList).length = 2 * n := by
    rw [Hex.length_halves, fixed.length_toList]
  have some : Hex.halves fixed.toList ≠ [] := by
    intro none
    rw [none, List.length_nil] at count
    omega
  rw [toHex, Hex.encodeMarked, Hex.encode_eq_map_halves,
    Hex.map_digitChar_eq_leftpad (Hex.halves_lt _) some, Hex.extend_halves, count]

/-- Reading a length is reading bytes and counting them. -/
theorem ofHex_of_decode {bytes : List UInt8} (read : Hex.decode text = .ok bytes) :
    (ofHex text : Except HexFault (FixedBytes n)) =
      if fits : bytes.length = n then .ok ⟨bytes, fits⟩
      else .error (.badLength n bytes.length) := by
  rw [ofHex, read]
  by_cases fits : bytes.length = n
  · simp only [ofList?, dif_pos fits]
  · simp only [ofList?, dif_neg fits]

/-- Whether the byte strings of a length are read from the text just as its digits say. -/
structure ReadsExactly (n : Nat) (text : List Char) : Prop where
  /-- Digits are read if there are as many as are written, or one fewer. -/
  accepted : (∃ fixed : FixedBytes n, ofHex text = .ok fixed) ↔
    (∀ byte ∈ Utf8.encode (Hex.unmarked text), Hex.IsDigit byte) ∧
      ((Utf8.encode (Hex.unmarked text)).length = 2 * n - 1 ∨
        (Utf8.encode (Hex.unmarked text)).length = 2 * n)
  /-- If there are more digits or fewer, the number of bytes that they fill is reported. -/
  length {bytes : List UInt8} (read : Hex.decode text = .ok bytes)
    (short : (Utf8.encode (Hex.unmarked text)).length ≠ 2 * n - 1)
    (long : (Utf8.encode (Hex.unmarked text)).length ≠ 2 * n) :
    let fault : HexFault := .badLength n bytes.length
    (ofHex text : Except HexFault (FixedBytes n)) = .error fault ∧
      fault.message = "Expected " ++ toString n ++ " bytes, found " ++ toString bytes.length
  /-- A text that is not hexadecimal is refused as such, whatever its length. -/
  fault {fault : HexFault} (refused : Hex.decode text = .error fault) :
    (ofHex text : Except HexFault (FixedBytes n)) = .error fault
  /-- What is read is written as the numeral of the same number in full width. -/
  written {fixed : FixedBytes n} (read : ofHex text = .ok fixed) :
    ∃ number, Numeral.value? 16 (Hex.unmarked text) = some number ∧
      fixed.toHex = '0' :: 'x' :: (Numeral.hexadecimal number).leftpad (2 * n) '0'

theorem readsExactly (positive : 0 < n) (text : List Char) : ReadsExactly n text where
  accepted := by
    rw [← Hex.exists_decode_iff]
    constructor
    · rintro ⟨fixed, read⟩
      have decoded := ofHex_eq_ok_iff_decode.mp read
      have filled := (Hex.of_decode decoded).1
      rw [fixed.length_toList] at filled
      exact ⟨⟨_, decoded⟩, by omega⟩
    · rintro ⟨⟨bytes, read⟩, count⟩
      have filled := (Hex.of_decode read).1
      have fits : bytes.length = n := by omega
      exact ⟨⟨bytes, fits⟩, ofHex_eq_ok_iff_decode.mpr read⟩
  length := by
    intro bytes read short long
    have filled := (Hex.of_decode read).1
    have other : bytes.length ≠ n := by omega
    refine ⟨?_, Hex.message_badLength n bytes.length⟩
    rw [ofHex_of_decode read, dif_neg other]
  fault := by
    intro fault refused
    rw [ofHex, refused]
  written := by
    intro fixed read
    have value := (Hex.of_decode (ofHex_eq_ok_iff_decode.mp read)).2
    exact ⟨_, value, toHex_eq_leftpad positive fixed⟩

end FixedBytes

/-- Hexadecimal texts are those whose bytes are digits, the mark set aside. They are read as the
bytes that denote their number, as many as the digits fill, and other texts are refused for the
first byte that is no digit, at its place behind the zero that fills up half a byte. The byte and
its place are what the refusal says, and the byte can be told from its quote. Addresses
and hashes are read from the digits that fill them, also without the first digit. What was
written of them is read back, and what is read of a text in any spelling is written in the one
spelling of its number. -/
theorem hexadecimal_is_read_exactly (text : List Char) :
    let digits := Utf8.encode (Hex.unmarked text)
    ((∃ bytes, Hex.decode text = .ok bytes) ↔ ∀ byte ∈ digits, Hex.IsDigit byte) ∧
      (∀ bytes, Hex.decode text = .ok bytes →
        bytes.length = (digits.length + 1) / 2 ∧
          Numeral.value? 16 (Hex.unmarked text) = some (bigEndian bytes)) ∧
      (∀ front bad after, digits = front ++ bad :: after →
        (∀ byte ∈ front, Hex.IsDigit byte) → ¬ Hex.IsDigit bad →
          let place := front.length + digits.length % 2
          let fault : HexFault := .badDigit (String.ofList (Hex.unmarked text)) bad place
          Hex.decode text = .error fault ∧
            fault.message = "Invalid hex string: " ++ String.ofList (Hex.unmarked text) ++
              ": Invalid character " ++ String.ofList (Hex.quoted bad) ++ " at position " ++
              toString place ∧
            ∀ other, Hex.quoted other = Hex.quoted bad → other = bad) ∧
      FixedBytes.ReadsExactly 20 text ∧ FixedBytes.ReadsExactly 32 text ∧
      (∀ address : Address, FixedBytes.ofHex address.toHex = .ok address) ∧
      ∀ hash : Hash, FixedBytes.ofHex hash.toHex = .ok hash := by
  intro digits
  refine ⟨Hex.exists_decode_iff, fun bytes read => Hex.of_decode read, ?_, ?_, ?_, ?_, ?_⟩
  · intro front bad after split isDigit noDigit
    refine ⟨?_, Hex.message_badDigit _ _ _, fun _ => Hex.eq_of_quoted_eq⟩
    rw [split]
    exact Hex.decode_of_bad split isDigit noDigit
  · exact FixedBytes.readsExactly (by decide) text
  · exact FixedBytes.readsExactly (by decide) text
  · exact FixedBytes.ofHex_toHex
  · exact FixedBytes.ofHex_toHex

/-- An address without its first digit is read, and written with it in lower case. With an
umlaut behind its first digit it is refused for the first of the two bytes of that, at a place
that counts the zero in front. The byte is shown as the character of that number. -/
theorem address_is_read_without_first_digit :
    let short := 'A' :: List.replicate 38 '0'
    let address : Address := ⟨0x0a :: List.replicate 19 0, rfl⟩
    let damaged := ['0', 'x', '1', 'ä', 'g', '2']
    let fault : HexFault := .badDigit (String.ofList ['1', 'ä', 'g', '2']) 0xc3 2
    FixedBytes.ofHex short = .ok address ∧
      address.toHex = '0' :: 'x' :: '0' :: 'a' :: List.replicate 38 '0' ∧
      Utf8.encode (Hex.unmarked damaged) = [0x31] ++ 0xc3 :: [0xa4, 0x67, 0x32] ∧
      Hex.decode damaged = .error fault ∧
      (FixedBytes.ofHex damaged : Except HexFault Hash) = .error fault ∧
      fault.message =
        "Invalid hex string: 1äg2: Invalid character " ++ "\x27Ã\x27" ++ " at position 2" := by
  intro short address damaged fault
  obtain ⟨-, -, -, addresses, -⟩ := hexadecimal_is_read_exactly short
  obtain ⟨-, -, refused, -, hashes, -⟩ := hexadecimal_is_read_exactly damaged
  have isDigit : ∀ byte ∈ Utf8.encode (Hex.unmarked short), Hex.IsDigit byte := by
    decide +kernel
  have count : (Utf8.encode (Hex.unmarked short)).length = 39 := by decide
  obtain ⟨fixed, read⟩ := addresses.accepted.mpr ⟨isDigit, .inl count⟩
  obtain ⟨number, value, written⟩ := addresses.written read
  have denotes : Numeral.value? 16 (Hex.unmarked short) = some (10 * 16 ^ 38) := by decide
  obtain rfl : number = 10 * 16 ^ 38 := Option.some_inj.mp (value.symm.trans denotes)
  have lower : address.toHex = '0' :: 'x' :: '0' :: 'a' :: List.replicate 38 '0' := by decide
  have same : fixed.toHex = address.toHex := written.trans (by decide)
  have split : Utf8.encode (Hex.unmarked damaged) = [0x31] ++ 0xc3 :: [0xa4, 0x67, 0x32] := by
    decide
  have bare : Hex.unmarked damaged = ['1', 'ä', 'g', '2'] := by decide
  obtain ⟨faulty, -⟩ := refused [0x31] 0xc3 _ split
    (List.forall_mem_singleton.mpr (by decide)) (by decide)
  rw [split, bare] at faulty
  exact ⟨FixedBytes.eq_of_toHex_eq same ▸ read, lower, split, faulty, hashes.fault faulty,
    by decide⟩

end CallTrace
