/-
# Whole numbers in JSON

A whole number is written in decimal digits alone and read as the number that it is. A
number of 64 bits is within the reach of doubles in any way of rounding: none of its
digits is lost before it is rounded, and rounding less than doubles it.
-/

import CallTrace.Json.Basic
import CallTrace.Proofs.Numeral
import Mathlib.Data.List.Basic
import Mathlib.Data.List.TakeWhile
import Mathlib.Tactic.SplitIfs

namespace CallTrace

namespace Numeral

/-- Only zero is written with a zero in front. -/
theorem eq_zero_of_head?_decimal {n : Nat} (zero : (decimal n).head? = some '0') : n = 0 := by
  -- By the last digit: what stands in front of it begins in the same way.
  induction n using Nat.strongRecOn with
  | ind n ih =>
      rw [decimal] at zero
      by_cases short : n < 10
      · rw [Nat.toDigits_of_lt_base short, List.head?_cons, Option.some_inj] at zero
        have only : ∀ digit < 10, Nat.digitChar digit = '0' → digit = 0 := by decide
        exact only n short zero
      · rw [Nat.toDigits_of_base_le (by decide) (Nat.le_of_not_lt short),
          List.head?_append_of_ne_nil _ Nat.toDigits_ne_nil] at zero
        have front : n / 10 = 0 := ih (n / 10) (by omega) zero
        omega

end Numeral

namespace JsonNumber

@[simp]
theorem write_ofNat (n : Nat) : (ofNat n).write = Numeral.decimal n := by
  simp [write, ofNat]

/-- A numeral is read as its number. -/
theorem read?_decimal (n : Nat) : read? (Numeral.decimal n) = some (ofNat n) := by
  have digits : ∀ c ∈ Numeral.decimal n, c.isDigit := fun c => Numeral.isDigit_of_mem_decimal
  have taken : (Numeral.decimal n).takeWhile Char.isDigit = Numeral.decimal n :=
    List.takeWhile_eq_self_iff.mpr digits
  have left : (Numeral.decimal n).dropWhile Char.isDigit = [] :=
    List.dropWhile_eq_nil_iff.mpr digits
  have value : Nat.ofDigitChars 10 (Numeral.decimal n) 0 = n :=
    Nat.ofDigitChars_toDigits (by decide) (by decide)
  have something : (Numeral.decimal n).isEmpty = false :=
    List.isEmpty_eq_false_iff.mpr (Numeral.decimal_ne_nil n)
  have noZero : ((Numeral.decimal n).head? == some '0' && (Numeral.decimal n).length != 1) =
      false := by
    by_cases zero : (Numeral.decimal n).head? = some '0'
    · rw [Numeral.eq_zero_of_head?_decimal zero]
      decide
    · rw [beq_eq_false_iff_ne.mpr zero, Bool.false_and]
  have noSign (rest : List Char) (sign : Numeral.decimal n = '-' :: rest) : False := by
    have digit := digits '-' (sign ▸ List.mem_cons_self)
    exact absurd digit (by decide)
  rw [read?]
  · simp only [taken, left, something, noZero, value]
    rfl
  · exact noSign

end JsonNumber

namespace Decimal

/-- All digits of a number that fits 64 bits count by their values. -/
theorem leading_map_digitChar {digits : List Nat} (below : ∀ digit ∈ digits, digit < 10)
    {n : Nat} (fits : Numeral.extend 10 n digits < UInt64.size) :
    leading n (digits.map Nat.digitChar) = ⟨Numeral.extend 10 n digits, 0⟩ := by
  induction digits generalizing n with
  | nil => rfl
  | cons digit digits ih =>
      have value : extended n (Nat.digitChar digit) = n * 10 + digit := by
        have all : ∀ digit < 10, (Nat.digitChar digit).toNat - '0'.toNat = digit := by decide
        rw [extended, all digit (below digit List.mem_cons_self)]
      have first : n * 10 + digit < UInt64.size :=
        Nat.lt_of_le_of_lt (Numeral.le_extend (by decide) _ digits) fits
      rw [List.map_cons, leading, value, if_pos first,
        ih (fun other member => below other (List.mem_cons_of_mem digit member)) fits]
      rfl

/-- A number that fits 64 bits keeps all its digits. -/
theorem leading_decimal {n : Nat} (fits : n < UInt64.size) :
    leading 0 (Numeral.decimal n) = ⟨n, 0⟩ := by
  obtain ⟨digits, below, written, value⟩ := Numeral.exists_digits (by decide : 1 < 10) n
  rw [Numeral.decimal, written, leading_map_digitChar below (value ▸ fits), value]

/-- Rounding does not carry a number beyond its double. -/
theorem rounded_le (n : Nat) : rounded n ≤ 2 * n := by
  by_cases zero : n = 0
  · rw [zero]
    decide
  · let step := Nat.pow 2 (Nat.log2 n - 52)
    have small : step ≤ n :=
      calc
        step ≤ 2 ^ Nat.log2 n := Nat.pow_le_pow_right (by decide) (Nat.sub_le _ _)
        _ ≤ n := Nat.log2_self_le zero
    have below : n / step * step ≤ n := Nat.div_mul_le_self n step
    have above : (n / step + 1) * step ≤ 2 * n := by
      rw [Nat.add_one_mul]
      omega
    rw [rounded]
    change (if _ then n / step + 1 else n / step) * step ≤ 2 * n
    split_ifs
    · exact above
    · omega

end Decimal

/-- Numbers of 64 bits are within the reach of doubles. -/
theorem JsonNumber.isFinite_ofNat {n : Nat} (fits : n < UInt64.size) :
    (JsonNumber.ofNat n).isFinite := by
  have figures : Decimal.ofLeadingFigures n [] 0 = ⟨n, 0⟩ := by
    rw [Decimal.ofLeadingFigures, Decimal.leading_decimal fits]
    rfl
  have one : Decimal.rounded (Nat.pow 10 (0 : Int).toNat) = 1 := by decide
  have reach : 2 * UInt64.size ≤ Decimal.doubleEnd := by decide +kernel
  change (Decimal.ofLeadingFigures n [] 0).isFiniteInSteps
  rw [figures, Decimal.isFiniteInSteps]
  simp only [one, Nat.mul_one]
  split_ifs
  · rfl
  · exact absurd ‹_› (by decide)
  · have within : Decimal.rounded n < Decimal.doubleEnd := by
      have double := Decimal.rounded_le n
      omega
    exact decide_eq_true within

end CallTrace
