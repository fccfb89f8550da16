/-
# Bytes, their number and their digits

Bytes denote a number and are known by it, provided that one knows how many they are. They
are written as two digits each, and the digits denote the number that the bytes do.
-/

import CallTrace.Bytes.Fixed
import CallTrace.Proofs.Numeral
import Mathlib.Algebra.Ring.Nat
import Mathlib.Data.List.Induction

namespace CallTrace

/-- The number that bytes denote, the most significant first. -/
def bigEndian (bytes : List UInt8) : Nat :=
  bytes.foldl (fun value byte => value * 256 + byte.toNat) 0

section BigEndian

theorem bigEndian_concat (bytes : List UInt8) (byte : UInt8) :
    bigEndian (bytes ++ [byte]) = bigEndian bytes * 256 + byte.toNat := by
  rw [bigEndian, List.foldl_append]
  rfl

theorem bigEndian_lt (bytes : List UInt8) : bigEndian bytes < 256 ^ bytes.length := by
  induction bytes using List.reverseRecOn with
  | nil => exact Nat.one_pos
  | append_singleton bytes byte ih =>
      have last := byte.toNat_lt
      rw [bigEndian_concat, List.length_append, List.length_singleton, Nat.pow_succ]
      omega

theorem bigEndian_append (first second : List UInt8) :
    bigEndian (first ++ second) = bigEndian first * 256 ^ second.length + bigEndian second := by
  induction second using List.reverseRecOn with
  | nil => simp [bigEndian]
  | append_singleton second byte ih =>
      rw [← List.append_assoc, bigEndian_concat, ih, bigEndian_concat, List.length_append,
        List.length_singleton, Nat.pow_succ, Nat.add_mul, Nat.mul_assoc, Nat.add_assoc]

/-- Bytes are known by their count and their number. -/
theorem eq_of_bigEndian_eq {first second : List UInt8} (count : first.length = second.length)
    (number : bigEndian first = bigEndian second) : first = second := by
  induction first using List.reverseRecOn generalizing second with
  | nil => exact (List.length_eq_zero_iff.mp count.symm).symm
  | append_singleton first byte ih =>
      cases second using List.reverseRecOn with
      | nil => simp at count
      | append_singleton second other =>
          have one := byte.toNat_lt
          have two := other.toNat_lt
          rw [bigEndian_concat, bigEndian_concat] at number
          simp only [List.length_append, List.length_singleton, Nat.add_right_cancel_iff] at count
          have last : byte = other := UInt8.toNat_inj.mp (by omega)
          rw [ih count (by omega), last]

end BigEndian

namespace Hex

theorem high_lt (byte : UInt8) : byte.toNat / 16 < 16 :=
  Nat.div_lt_of_lt_mul byte.toNat_lt

theorem low_lt (byte : UInt8) : byte.toNat % 16 < 16 :=
  Nat.mod_lt _ (by decide)

/-- The values of the digits of bytes. -/
def halves (bytes : List UInt8) : List Nat :=
  bytes.flatMap fun byte => [byte.toNat / 16, byte.toNat % 16]

theorem halves_lt (bytes : List UInt8) : ∀ digit ∈ halves bytes, digit < 16 := by
  intro digit member
  obtain ⟨byte, -, inside⟩ := List.mem_flatMap.mp member
  rw [List.mem_cons, List.mem_singleton] at inside
  rcases inside with rfl | rfl
  · exact high_lt byte
  · exact low_lt byte

theorem length_halves (bytes : List UInt8) : (halves bytes).length = 2 * bytes.length := by
  induction bytes with
  | nil => rfl
  | cons byte bytes ih =>
      rw [halves, List.flatMap_cons, ← halves, List.length_append, ih, List.length_cons]
      simp only [List.length_cons, List.length_nil]
      omega

theorem encode_eq_map_halves (bytes : List UInt8) :
    encode bytes = (halves bytes).map Nat.digitChar := by
  rw [encode, halves, List.map_flatMap]
  rfl

/-- The digits of bytes denote the number that the bytes do. -/
theorem extend_halves (bytes : List UInt8) :
    Numeral.extend 16 0 (halves bytes) = bigEndian bytes := by
  rw [bigEndian]
  generalize 0 = value
  induction bytes generalizing value with
  | nil => rfl
  | cons byte bytes ih =>
      have whole : (value * 16 + byte.toNat / 16) * 16 + byte.toNat % 16 =
          value * 256 + byte.toNat := by omega
      rw [List.foldl_cons, ← ih, ← whole]
      rfl

/-- Written byte strings are made of digits and the mark in front of them. -/
theorem mem_encodeMarked {bytes : List UInt8} {c : Char} (member : c ∈ encodeMarked bytes) :
    c = 'x' ∨ ∃ value < 16, c = digit value := by
  rw [encodeMarked, List.mem_cons, List.mem_cons, encode_eq_map_halves, List.mem_map] at member
  rcases member with rfl | rfl | ⟨value, among, rfl⟩
  · exact .inr ⟨0, by decide, rfl⟩
  · exact .inl rfl
  · exact .inr ⟨value, halves_lt bytes value among, rfl⟩

end Hex

end CallTrace
