/-
# Numerals are read as what was written

Digits are read one after the other, and each step carries the number read so far
along. What the digits of a numeral denote is built up in the same way: `n` is written
as the digits of `n / base` and the digit of `n % base` behind them.
-/

import CallTrace.Amount
import CallTrace.Proofs.Digits

namespace CallTrace

namespace Numeral

/-- A numeral is made of the digits of its base that denote its number. -/
theorem exists_digits {base : Nat} (large : 1 < base) (n : Nat) :
    ∃ digits, (∀ digit ∈ digits, digit < base) ∧
      Nat.toDigits base n = digits.map Nat.digitChar ∧ extend base 0 digits = n := by
  -- By the last digit: `n` is written as `n / base` with one more digit behind it.
  induction n using Nat.strongRecOn with
  | ind n ih =>
      by_cases short : n < base
      · refine ⟨[n], List.forall_mem_singleton.mpr short, Nat.toDigits_of_lt_base short, ?_⟩
        rw [extend_cons, Nat.zero_mul, Nat.zero_add]
        rfl
      · obtain ⟨digits, below, front, value⟩ := ih _ (Nat.div_lt_self (by omega) large)
        refine ⟨digits ++ [n % base], ?_, ?_, ?_⟩
        · rw [List.forall_mem_append, List.forall_mem_singleton]
          exact ⟨below, Nat.mod_lt n (by omega)⟩
        · rw [Nat.toDigits_of_base_le large (Nat.le_of_not_lt short), front, List.map_append,
            List.map_singleton]
        · rw [extend_concat, value, Nat.div_add_mod']

/-- A numeral denotes the number it was written for. -/
theorem value?_toDigits {base : Nat} (large : 1 < base) (small : base ≤ 16) (n : Nat) :
    value? base (Nat.toDigits base n) = some n := by
  obtain ⟨digits, below, written, denotes⟩ := exists_digits large n
  rw [written, value?, digits?_map_digitChar small below, Option.map_some, denotes]

/-- The digits of a number are read as that number. -/
theorem readDigits_toDigits {base bound : Nat} (large : 1 < base) (small : base ≤ 16) {n : Nat}
    (within : n < bound) : readDigits base bound (Nat.toDigits base n) 0 = .ok n := by
  rw [← toOption_eq_some_iff,
    toOption_readDigits_zero (Nat.le_of_lt large) (Nat.zero_lt_of_lt within),
    value?_toDigits large small, Option.filter_some, if_pos (decide_eq_true within)]

/-- A numeral has no other characters than digits of its base. -/
theorem exists_digit_of_mem_toDigits {base : Nat} (large : 1 < base) {n : Nat} {c : Char}
    (member : c ∈ Nat.toDigits base n) : ∃ digit < base, c = Nat.digitChar digit := by
  obtain ⟨digits, below, written, -⟩ := exists_digits large n
  rw [written] at member
  obtain ⟨digit, among, rfl⟩ := List.mem_map.mp member
  exact ⟨digit, below digit among, rfl⟩

theorem digitChar_ne_plus {digit : Nat} (small : digit < 16) : Nat.digitChar digit ≠ '+' := by
  have all : ∀ digit < 16, Nat.digitChar digit ≠ '+' := by decide
  exact all digit small

/-- Without a sign in front, reading begins with the first character. -/
theorem read_cons {base bound : Nat} {c : Char} (noSign : c ≠ '+') (rest : List Char) :
    read base bound (c :: rest) = readDigits base bound (c :: rest) 0 := by
  unfold read
  split <;> simp_all

/-- Behind a plus sign stands at least one digit. -/
theorem read_plus {base bound : Nat} {text : List Char} (something : text ≠ []) :
    read base bound ('+' :: text) = readDigits base bound text 0 := by
  cases text with
  | nil => exact absurd rfl something
  | cons c text => rfl

/-- A numeral is read as the number it was written for. -/
theorem read_toDigits {base bound : Nat} (large : 1 < base) (small : base ≤ 16) {n : Nat}
    (within : n < bound) : read base bound (Nat.toDigits base n) = .ok n := by
  cases text : Nat.toDigits base n with
  | nil => exact absurd text Nat.toDigits_ne_nil
  | cons c rest =>
      obtain ⟨digit, below, rfl⟩ :=
        exists_digit_of_mem_toDigits large (text ▸ List.mem_cons_self)
      rw [read_cons (digitChar_ne_plus (Nat.lt_of_lt_of_le below small)), ← text]
      exact readDigits_toDigits large small within

theorem read_decimal {bound n : Nat} (within : n < bound) :
    read 10 bound (decimal n) = .ok n :=
  read_toDigits (by decide) (by decide) within

@[simp]
theorem readUInt64_decimal (number : UInt64) :
    readUInt64 (decimal number.toNat) = .ok number := by
  rw [readUInt64, read_decimal number.toNat_lt]
  exact congrArg Except.ok (UInt64.ofNat_toNat)

@[simp]
theorem readUInt32_decimal (number : UInt32) :
    readUInt32 (decimal number.toNat) = .ok number := by
  rw [readUInt32, read_decimal number.toNat_lt]
  exact congrArg Except.ok (UInt32.ofNat_toNat)

theorem decimal_ne_nil (n : Nat) : decimal n ≠ [] :=
  Nat.toDigits_ne_nil

theorem isDigit_of_mem_decimal {n : Nat} {c : Char} (member : c ∈ decimal n) : c.isDigit :=
  Nat.isDigit_of_mem_toDigits (by decide) (by decide) member

end Numeral

/-- Text is an amount if it has digits only, some of them, and their number is in range. -/
theorem Amount.toOption_ofDecimal (text : List Char) :
    (Amount.ofDecimal text).toOption =
      if text = [] then none else (Numeral.value? 10 text).bind Amount.ofNat? := by
  rw [Amount.ofDecimal]
  cases text with
  | nil => rfl
  | cons c text =>
      rw [if_neg (List.cons_ne_nil c text), List.isEmpty_cons, Bool.false_or,
        ← Numeral.isSome_value?_ten]
      cases value : Numeral.value? 10 (c :: text) with
      | none => rfl
      | some number =>
          have noSign : c ≠ '+' := by
            rintro rfl
            cases value
          have read : (Numeral.read 10 Amount.count (c :: text)).toOption =
              (some number).filter (· < Amount.count) := by
            rw [Numeral.read_cons noSign, Numeral.toOption_readDigits_zero (by decide) (by decide),
              value]
          rw [if_neg (by simp), Option.bind_some]
          by_cases within : number < Amount.count
          · rw [Option.filter_some, if_pos (decide_eq_true within), toOption_eq_some_iff] at read
            simp only [read, Amount.ofNat?, dif_pos within]
            rfl
          · rw [Option.filter_some, if_neg (by simpa using within)] at read
            cases outcome : Numeral.read 10 Amount.count (c :: text) with
            | error cause =>
                rw [Amount.ofNat?, dif_neg within]
                rfl
            | ok n =>
                rw [outcome] at read
                cases read

/-- Amounts are read as what was written. -/
@[simp]
theorem Amount.ofDecimal_toDecimal (amount : Amount) :
    Amount.ofDecimal amount.toDecimal = .ok amount := by
  have value : Numeral.value? 10 amount.toDecimal = some amount.toNat :=
    Numeral.value?_toDigits (by decide) (by decide) _
  have something : amount.toDecimal ≠ [] := Numeral.decimal_ne_nil _
  rw [← toOption_eq_some_iff, toOption_ofDecimal, if_neg something, value, Option.bind_some,
    ofNat?, dif_pos amount.toNat_lt]

end CallTrace
