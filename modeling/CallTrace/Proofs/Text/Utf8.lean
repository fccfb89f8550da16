/-
# Bytes are read as the text they were written for

A character is written in one to four bytes, and the lead byte tells how many. The
reader therefore takes exactly the bytes of one character and goes on behind them,
whatever follows. Bytes below 128 stand for themselves only, so a line break among the
bytes of a text is a line break of the text.
-/

import CallTrace.Text.Utf8
import Mathlib.Tactic.SplitIfs

namespace CallTrace.Utf8

section Character

theorem toNat_ofNat {n : Nat} (byte : n < 256) : (UInt8.ofNat n).toNat = n :=
  UInt8.toNat_ofNat_of_lt byte

/-- Six bits are found again in their continuation byte. -/
theorem continuation?_ofNat {low : Nat} (six : low < 64) :
    continuation? (UInt8.ofNat (low + 128)) = some low := by
  have value : (UInt8.ofNat (low + 128)).toNat = low + 128 := toNat_ofNat (by omega)
  have least : (0x80 : UInt8) ≤ UInt8.ofNat (low + 128) := by
    rw [UInt8.le_iff_toNat_le, value]
    exact Nat.le_add_left 128 low
  have below : UInt8.ofNat (low + 128) < (0xC0 : UInt8) := by
    rw [UInt8.lt_iff_toNat_lt, value]
    exact Nat.add_lt_add_right six 128
  rw [continuation?, if_pos ⟨least, below⟩, value, Nat.add_sub_cancel]

/-- The code point of a character is read as the character, in the form that it needs. -/
theorem scalar?_toNat {least : Nat} {c : Char} (needed : least ≤ c.toNat) :
    scalar? least c.toNat = some c := by
  have valid : c.toNat.isValidChar := c.valid
  rw [scalar?, if_pos ⟨needed, valid⟩, Char.ofNat_toNat]

theorem character?_one {n : Nat} (lead : n < 0x80) (tail : List UInt8) :
    character? (UInt8.ofNat n) tail = some (Char.ofNat n, 0) := by
  have value : (UInt8.ofNat n).toNat = n := toNat_ofNat (by omega)
  simp only [character?, UInt8.lt_iff_toNat_lt, value, UInt8.reduceToNat]
  rw [if_pos lead]

theorem character?_two {high low : Nat} (five : high < 32) (six : low < 64) (tail : List UInt8) :
    character? (UInt8.ofNat (high + 0xC0)) (UInt8.ofNat (low + 0x80) :: tail) =
      (scalar? 0x80 (high * 0x40 + low)).map (·, 1) := by
  have value : (UInt8.ofNat (high + 0xC0)).toNat = high + 0xC0 := toNat_ofNat (by omega)
  simp only [character?, UInt8.lt_iff_toNat_lt, value, UInt8.reduceToNat]
  rw [if_neg (by omega), if_neg (by omega), if_pos (by omega)]
  simp only [pair?, continuation?_ofNat six, value, Nat.add_sub_cancel, Option.bind_eq_bind,
    Option.bind_some]

theorem character?_three {high middle low : Nat} (four : high < 16) (six : middle < 64)
    (last : low < 64) (tail : List UInt8) :
    character? (UInt8.ofNat (high + 0xE0))
        (UInt8.ofNat (middle + 0x80) :: UInt8.ofNat (low + 0x80) :: tail) =
      (scalar? 0x800 (high * 0x1000 + middle * 0x40 + low)).map (·, 2) := by
  have value : (UInt8.ofNat (high + 0xE0)).toNat = high + 0xE0 := toNat_ofNat (by omega)
  simp only [character?, UInt8.lt_iff_toNat_lt, value, UInt8.reduceToNat]
  rw [if_neg (by omega), if_neg (by omega), if_neg (by omega), if_pos (by omega)]
  simp only [triple?, continuation?_ofNat six, continuation?_ofNat last, value,
    Nat.add_sub_cancel, Option.bind_eq_bind, Option.bind_some]

theorem quadruple?_eq {lead second third fourth : UInt8} {high middle low last : Nat}
    (announced : lead.toNat = high + 0xF0) (six : continuation? second = some middle)
    (next : continuation? third = some low) (final : continuation? fourth = some last) :
    quadruple? lead second third fourth =
      scalar? 0x10000 (high * 0x40000 + middle * 0x1000 + low * 0x40 + last) := by
  -- What reads the code point is left open, since looking into it takes long here.
  have joined (read : Nat → Option Char) :
      (do
        let h ← some middle
        let m ← some low
        let l ← some last
        read (high * 0x40000 + h * 0x1000 + m * 0x40 + l)) =
      read (high * 0x40000 + middle * 0x1000 + low * 0x40 + last) := rfl
  have first : lead.toNat - 0xF0 = high := by rw [announced, Nat.add_sub_cancel]
  rw [quadruple?, six, next, final, first]
  exact joined (scalar? 0x10000)

theorem character?_four {high middle low last : Nat} (three : high < 8) (six : middle < 64)
    (next : low < 64) (final : last < 64) (tail : List UInt8) :
    character? (UInt8.ofNat (high + 0xF0)) (UInt8.ofNat (middle + 0x80) ::
        UInt8.ofNat (low + 0x80) :: UInt8.ofNat (last + 0x80) :: tail) =
      (scalar? 0x10000 (high * 0x40000 + middle * 0x1000 + low * 0x40 + last)).map (·, 3) := by
  have value : (UInt8.ofNat (high + 0xF0)).toNat = high + 0xF0 := toNat_ofNat (by omega)
  have read := quadruple?_eq value (continuation?_ofNat six) (continuation?_ofNat next)
    (continuation?_ofNat final)
  simp only [character?, UInt8.lt_iff_toNat_lt, value, UInt8.reduceToNat]
  rw [if_neg (by omega), if_neg (by omega), if_neg (by omega), if_neg (by omega),
    if_pos (by omega), read]

/-- The bytes of a character are read as the character, and they are all taken. -/
theorem character?_utf8EncodeChar (c : Char) :
    ∃ lead rest, String.utf8EncodeChar c = lead :: rest ∧
      ∀ tail, character? lead (rest ++ tail) = some (c, rest.length) := by
  have bound : c.toNat < 0x110000 := by
    have valid := c.valid
    simp only [UInt32.isValidChar, Nat.isValidChar] at valid
    rw [← Char.toNat_val]
    omega
  rw [String.utf8EncodeChar]
  simp only [Char.toNat_val]
  -- One case for each number of bytes; the digits in base 64 make up the code point.
  split_ifs with one two three
  · refine ⟨_, [], rfl, fun tail => ?_⟩
    rw [character?_one (by omega), Char.ofNat_toNat]
    rfl
  · refine ⟨_, _, rfl, fun tail => ?_⟩
    have code : c.toNat / 64 % 32 * 0x40 + c.toNat % 64 = c.toNat := by omega
    refine (character?_two (by omega) (by omega) tail).trans ?_
    rw [code, scalar?_toNat (by omega)]
    rfl
  · refine ⟨_, _, rfl, fun tail => ?_⟩
    have code : c.toNat / 4096 % 16 * 0x1000 + c.toNat / 64 % 64 * 0x40 + c.toNat % 64 =
        c.toNat := by omega
    refine (character?_three (by omega) (by omega) (by omega) tail).trans ?_
    rw [code, scalar?_toNat (by omega)]
    rfl
  · refine ⟨_, _, rfl, fun tail => ?_⟩
    have code : c.toNat / 262144 % 8 * 0x40000 + c.toNat / 4096 % 64 * 0x1000 +
        c.toNat / 64 % 64 * 0x40 + c.toNat % 64 = c.toNat := by omega
    refine (character?_four (by omega) (by omega) (by omega) (by omega) tail).trans ?_
    rw [code, scalar?_toNat (by omega)]
    rfl

/-- Bytes that are to be passed over are passed over. -/
theorem scanAfter_length (passed tail : List UInt8) :
    scanAfter passed.length (passed ++ tail) = scanAfter 0 tail := by
  induction passed with
  | nil => rfl
  | cons byte passed ih => exact ih

theorem scanAfter_utf8EncodeChar (c : Char) (tail : List UInt8) :
    scanAfter 0 (String.utf8EncodeChar c ++ tail) = some c :: scanAfter 0 tail := by
  obtain ⟨lead, rest, written, read⟩ := character?_utf8EncodeChar c
  rw [written, List.cons_append, scanAfter, read tail]
  exact congrArg (some c :: ·) (scanAfter_length rest tail)

/-- A byte of a character is the character itself, or its highest bit is set. -/
theorem of_mem_utf8EncodeChar (c : Char) :
    ∀ byte ∈ String.utf8EncodeChar c, c.toNat = byte.toNat ∨ 0x80 ≤ byte.toNat := by
  have high {n : Nat} (least : 0x80 ≤ n) (byte : n < 256) : 0x80 ≤ (UInt8.ofNat n).toNat := by
    rwa [toNat_ofNat byte]
  rw [String.utf8EncodeChar]
  simp only [Char.toNat_val]
  split_ifs with one two three
  all_goals
    simp only [List.mem_cons, List.not_mem_nil, or_false, forall_eq_or_imp, forall_eq]
  · exact .inl (toNat_ofNat (by omega)).symm
  · exact ⟨.inr (high (by omega) (by omega)), .inr (high (by omega) (by omega))⟩
  · exact ⟨.inr (high (by omega) (by omega)), .inr (high (by omega) (by omega)),
      .inr (high (by omega) (by omega))⟩
  · exact ⟨.inr (high (by omega) (by omega)), .inr (high (by omega) (by omega)),
      .inr (high (by omega) (by omega)), .inr (high (by omega) (by omega))⟩

end Character

section Text

theorem encode_append (first second : List Char) :
    encode (first ++ second) = encode first ++ encode second :=
  List.flatMap_append

/-- Portions are encoded each for itself. -/
theorem encode_flatten (pieces : List (List Char)) :
    encode pieces.flatten = (pieces.map encode).flatten := by
  induction pieces with
  | nil => rfl
  | cons piece pieces ih =>
      rw [List.flatten_cons, encode_append, ih]
      rfl

/-- Text in front of any bytes is read as it is. -/
theorem scanAfter_encode (text : List Char) (tail : List UInt8) :
    scanAfter 0 (encode text ++ tail) = text.map some ++ scanAfter 0 tail := by
  induction text with
  | nil => rfl
  | cons c text ih =>
      have split : encode (c :: text) ++ tail =
          String.utf8EncodeChar c ++ (encode text ++ tail) := by
        rw [encode, List.flatMap_cons, List.append_assoc]
        rfl
      rw [split, scanAfter_utf8EncodeChar, ih]
      rfl

@[simp]
theorem scan_encode (text : List Char) : scan (encode text) = text.map some := by
  have whole := scanAfter_encode text []
  rwa [List.append_nil, scanAfter, List.append_nil] at whole

/-- The bytes of a text are read as the text. -/
@[simp]
theorem decode?_encode (text : List Char) : decode? (encode text) = some text := by
  rw [decode?, scan_encode]
  induction text with
  | nil => rfl
  | cons c text ih =>
      rw [List.map_cons, List.mapM_cons, ih]
      rfl

/-- A byte below 128 among the bytes of a text stands for a character of the text. -/
theorem exists_mem_of_mem_encode {text : List Char} {byte : UInt8} (member : byte ∈ encode text)
    (low : byte.toNat < 0x80) : ∃ c ∈ text, c.toNat = byte.toNat := by
  obtain ⟨c, among, inside⟩ := List.mem_flatMap.mp member
  have itself := of_mem_utf8EncodeChar c byte inside
  exact ⟨c, among, itself.resolve_right (Nat.not_le.mpr low)⟩

end Text

section Torn

variable {lead : UInt8} {rest : List UInt8} {c : Char} {n : Nat}

theorem le_of_continuation? {byte : UInt8} {low : Nat} (six : continuation? byte = some low) :
    (0x80 : UInt8) ≤ byte := by
  rw [continuation?] at six
  split_ifs at six with continues
  exact continues.1

/-- How many bytes belong to a character besides its lead byte. -/
def announced (lead : UInt8) : Nat :=
  if lead < 0x80 then 0 else if lead < 0xE0 then 1 else if lead < 0xF0 then 2 else 3

/-- The bytes that a lead byte announces are there, and their highest bit is set. -/
theorem of_character? (read : character? lead rest = some (c, n)) :
    n = announced lead ∧ n ≤ rest.length ∧ ∀ byte ∈ rest.take n, (0x80 : UInt8) ≤ byte := by
  rw [character?.eq_def] at read
  split_ifs at read with one none two three four
  · obtain ⟨-, rfl⟩ := Prod.mk.inj (Option.some_inj.mp read)
    simp [announced, one]
  · split at read
    · obtain ⟨c, found, same⟩ := Option.map_eq_some_iff.mp read
      obtain ⟨-, rfl⟩ := Prod.mk.inj same
      obtain ⟨low, last, -⟩ := Option.bind_eq_some_iff.mp found
      simpa [announced, one, two] using le_of_continuation? last
    · cases read
  · split at read
    · obtain ⟨c, found, same⟩ := Option.map_eq_some_iff.mp read
      obtain ⟨-, rfl⟩ := Prod.mk.inj same
      obtain ⟨middle, first, more⟩ := Option.bind_eq_some_iff.mp found
      obtain ⟨low, last, -⟩ := Option.bind_eq_some_iff.mp more
      simpa [announced, one, two, three] using ⟨le_of_continuation? first, le_of_continuation? last⟩
    · cases read
  · split at read
    · obtain ⟨c, found, same⟩ := Option.map_eq_some_iff.mp read
      obtain ⟨-, rfl⟩ := Prod.mk.inj same
      obtain ⟨high, first, more⟩ := Option.bind_eq_some_iff.mp found
      obtain ⟨middle, second, rest⟩ := Option.bind_eq_some_iff.mp more
      obtain ⟨low, last, -⟩ := Option.bind_eq_some_iff.mp rest
      simpa [announced, one, two, three] using
        ⟨le_of_continuation? first, le_of_continuation? second, le_of_continuation? last⟩
    · cases read

theorem mapM_id_eq_none {source : List (Option Char)} (damaged : none ∈ source) :
    source.mapM id = none := by
  induction source with
  | nil => exact absurd damaged List.not_mem_nil
  | cons first source ih =>
      rw [List.mapM_cons]
      rcases List.mem_cons.mp damaged with rfl | later
      · rfl
      · rw [ih later]
        cases first <;> rfl

/-- A character that lacks some of its bytes is no character, whatever follows, unless that
begins with a byte that could be one of them. -/
theorem decode?_of_torn {part missing : List UInt8}
    (whole : String.utf8EncodeChar c = part ++ missing) (something : part ≠ [])
    (lacking : missing ≠ []) (front : List Char) {tail : List UInt8}
    (plain : ∀ byte ∈ tail.head?, byte < 0x80) :
    decode? (encode front ++ part ++ tail) = none := by
  obtain ⟨lead, shown, rfl⟩ := List.exists_cons_of_ne_nil something
  have damaged : character? lead (shown ++ tail) = none := by
    obtain ⟨lead, rest, written, full⟩ := character?_utf8EncodeChar c
    obtain ⟨rfl, rfl⟩ := List.cons.inj (written.symm.trans whole)
    obtain ⟨length, -⟩ := of_character? (full [])
    obtain ⟨first, others, rfl⟩ := List.exists_cons_of_ne_nil lacking
    cases read : character? lead (shown ++ tail) with
    | none => rfl
    | some found =>
        obtain ⟨count, there, high⟩ := of_character? (c := found.1) (n := found.2) read
        rw [count, ← length, List.append_eq, List.length_append, List.length_cons] at there high
        cases tail with
        | nil =>
            rw [List.append_nil] at there
            omega
        | cons byte tail =>
            have among :
                byte ∈ (shown ++ byte :: tail).take (shown.length + (others.length + 1)) := by
              rw [List.take_length_add_append, List.take_succ_cons]
              exact List.mem_append_right shown List.mem_cons_self
            exact absurd (plain byte rfl) (UInt8.not_lt.mpr (high byte among))
  rw [decode?, scan, List.append_assoc, scanAfter_encode]
  apply mapM_id_eq_none
  rw [List.cons_append, scanAfter, damaged]
  simp

/-- Where a text is cut off in bytes, the bytes are those of the text up to there, or they end
inside a character and are no text, whatever plain character comes next. -/
theorem decode?_of_prefix {bytes behind : List UInt8} {text : List Char}
    (parts : bytes ++ behind = encode text) :
    (∃ front back, front ++ back = text ∧ bytes = encode front) ∨
      ∀ tail : List UInt8, (∀ byte ∈ tail.head?, byte < 0x80) → decode? (bytes ++ tail) = none := by
  suffices cut : (∃ front back, front ++ back = text ∧ bytes = encode front) ∨
      ∃ front c part missing, bytes = encode front ++ part ∧ part ≠ [] ∧ missing ≠ [] ∧
        String.utf8EncodeChar c = part ++ missing by
    refine cut.imp_right ?_
    rintro ⟨front, c, part, missing, rfl, something, lacking, whole⟩ tail plain
    exact decode?_of_torn whole something lacking front plain
  induction text generalizing bytes with
  | nil => exact .inl ⟨[], [], rfl, (List.append_eq_nil_iff.mp parts).1⟩
  | cons c text ih =>
      have first : encode (c :: text) = String.utf8EncodeChar c ++ encode text := List.flatMap_cons
      rw [first] at parts
      rcases List.append_eq_append_iff.mp parts with ⟨missing, whole, -⟩ | ⟨later, rfl, rest⟩
      · by_cases something : bytes = []
        · exact .inl ⟨[], c :: text, rfl, something⟩
        by_cases lacking : missing = []
        · rw [lacking, List.append_nil] at whole
          exact .inl ⟨[c], text, rfl, by rw [← whole]; exact (List.append_nil _).symm⟩
        · exact .inr ⟨[], c, bytes, missing, rfl, something, lacking, whole⟩
      · rcases ih rest.symm with ⟨front, back, rfl, rfl⟩ | ⟨front, d, part, missing, rfl, others⟩
        · exact .inl ⟨c :: front, back, rfl, rfl⟩
        · exact .inr ⟨c :: front, d, part, missing, by simp [encode], others⟩

end Torn

end CallTrace.Utf8
