/-
# What digits denote

A text of digits denotes a number, and a text with any other character in it denotes none.
A reader of a bounded number stops at the first character that is no digit and at the first
digit that carries it past the bound, but whether it comes through, and with which number, is
a matter of the whole text: all of it must be digits, and their number within the bound.
-/

import CallTrace.Numeral
import Mathlib.Tactic.SplitIfs

namespace CallTrace

section MapM

variable {α β : Type} {f : α → Option β} {item : α} {items : List α} {results : List β}

theorem mapM_cons_eq :
    (item :: items).mapM f =
      (f item).bind fun first => (items.mapM f).map (first :: ·) := by
  simp only [List.mapM_cons, Option.bind_eq_bind, Option.pure_def, Option.map_eq_bind,
    Function.comp_def]

/-- If all items are mapped, there is one result for each of them, and no other. -/
theorem of_mapM_eq_some (mapped : items.mapM f = some results) :
    results.length = items.length ∧ ∀ result ∈ results, ∃ item ∈ items, f item = some result := by
  induction items generalizing results with
  | nil =>
      obtain rfl := Option.some_inj.mp mapped
      exact ⟨rfl, List.forall_mem_nil _⟩
  | cons item items ih =>
      rw [mapM_cons_eq, Option.bind_eq_some_iff] at mapped
      obtain ⟨first, isFirst, rest⟩ := mapped
      obtain ⟨others, areOthers, rfl⟩ := Option.map_eq_some_iff.mp rest
      obtain ⟨length, come⟩ := ih areOthers
      refine ⟨congrArg (· + 1) length, List.forall_mem_cons.mpr ⟨?_, fun result member => ?_⟩⟩
      · exact ⟨item, List.mem_cons_self, isFirst⟩
      · obtain ⟨source, among, same⟩ := come result member
        exact ⟨source, List.mem_cons_of_mem item among, same⟩

/-- All items are mapped if each of them is. -/
theorem isSome_mapM_iff : (items.mapM f).isSome ↔ ∀ item ∈ items, (f item).isSome := by
  induction items with
  | nil => simp
  | cons item items ih =>
      rw [mapM_cons_eq, List.forall_mem_cons, ← ih]
      cases f item with
      | none => simp
      | some first => simp

end MapM

section Outcome

variable {ε α β : Type} {value : α}

theorem toOption_map (f : α → β) (result : Except ε α) :
    (result.map f).toOption = result.toOption.map f := by
  cases result <;> rfl

theorem toOption_eq_some_iff {result : Except ε α} :
    result.toOption = some value ↔ result = .ok value := by
  cases result <;> simp [Except.toOption]

end Outcome

namespace Numeral

theorem digitValue?_digitChar {base digit : Nat} (small : base ≤ 16) (within : digit < base) :
    digitValue? base (Nat.digitChar digit) = some digit := by
  have values : ∀ digit < 16, ∀ base ≤ 16, digit < base →
      digitValue? base (Nat.digitChar digit) = some digit := by decide
  exact values digit (Nat.lt_of_lt_of_le within small) base small within

/-- The number that digits denote behind a number that was read before them. -/
def extend (base value : Nat) (digits : List Nat) : Nat :=
  digits.foldl (fun value digit => value * base + digit) value

theorem extend_cons (base value digit : Nat) (digits : List Nat) :
    extend base value (digit :: digits) = extend base (value * base + digit) digits := rfl

theorem extend_concat (base value digit : Nat) (digits : List Nat) :
    extend base value (digits ++ [digit]) = extend base value digits * base + digit := by
  rw [extend, List.foldl_append]
  rfl

/-- More digits do not make a number smaller. -/
theorem le_extend {base : Nat} (some : 1 ≤ base) (value : Nat) (digits : List Nat) :
    value ≤ extend base value digits := by
  induction digits generalizing value with
  | nil => exact Nat.le_refl value
  | cons digit digits ih =>
      calc
        value ≤ value * base := Nat.le_mul_of_pos_right value some
        _ ≤ value * base + digit := Nat.le_add_right _ _
        _ ≤ extend base value (digit :: digits) := ih _

/-- The digits of a text that has no other characters. -/
def digits? (base : Nat) (text : List Char) : Option (List Nat) :=
  text.mapM (digitValue? base)

/-- The number that the digits of a text denote. No digits denote zero. -/
def value? (base : Nat) (text : List Char) : Option Nat :=
  (digits? base text).map (extend base 0)

variable {base bound value : Nat} {c : Char} {text : List Char} {digits : List Nat}

theorem digits?_cons :
    digits? base (c :: text) =
      (digitValue? base c).bind fun digit => (digits? base text).map (digit :: ·) :=
  mapM_cons_eq

theorem digitValue?_lt {digit : Nat} (isDigit : digitValue? base c = some digit) :
    digit < base := by
  simp only [digitValue?, Option.ite_none_right_eq_some] at isDigit
  obtain ⟨within, same⟩ := isDigit
  exact Option.some_inj.mp same ▸ within

/-- Digits are below the base, and every character is one of them. -/
theorem of_digits? (read : digits? base text = some digits) :
    (∀ digit ∈ digits, digit < base) ∧ digits.length = text.length := by
  obtain ⟨length, come⟩ := of_mapM_eq_some read
  refine ⟨fun digit member => ?_, length⟩
  obtain ⟨c, -, isDigit⟩ := come digit member
  exact digitValue?_lt isDigit

/-- Reading comes through if all characters are digits and their number is within the bound. A
number that has passed the bound on the way does not come back. -/
theorem toOption_readDigits (positive : 1 ≤ base) (within : value < bound) :
    (readDigits base bound text value).toOption =
      ((digits? base text).map (extend base value)).filter (· < bound) := by
  induction text generalizing value with
  | nil => exact (if_pos (decide_eq_true within)).symm
  | cons c text ih =>
      rw [readDigits, digits?_cons]
      cases digitValue? base c with
      | none => rfl
      | some digit =>
          rw [Option.bind_some, Option.map_map]
          change _ = ((digits? base text).map (extend base (value * base + digit))).filter _
          by_cases fits : value * base + digit < bound
          · simp only [if_pos fits]
            exact ih fits
          · simp only [if_neg fits]
            symm
            rw [Except.toOption, Option.filter_eq_none_iff]
            intro number isNumber
            obtain ⟨digits, -, rfl⟩ := Option.map_eq_some_iff.mp isNumber
            have above := le_extend positive (value * base + digit) digits
            simp only [decide_eq_true_eq]
            omega

/-- From the first character on, what is read is the number of the text. -/
theorem toOption_readDigits_zero (positive : 1 ≤ base) (within : 0 < bound) (text : List Char) :
    (readDigits base bound text 0).toOption = (value? base text).filter (· < bound) :=
  toOption_readDigits positive within

theorem digits?_map_digitChar (small : base ≤ 16) (below : ∀ digit ∈ digits, digit < base) :
    digits? base (digits.map Nat.digitChar) = some digits := by
  induction digits with
  | nil => rfl
  | cons digit digits ih =>
      rw [List.forall_mem_cons] at below
      rw [List.map_cons, digits?_cons, digitValue?_digitChar small below.1, ih below.2]
      rfl

/-- A zero in front does not change the number. -/
theorem value?_zero_cons (positive : 1 ≤ base) :
    value? base ('0' :: text) = value? base text := by
  have zero : digitValue? base '0' = some 0 := if_pos positive
  rw [value?, digits?_cons, zero, Option.bind_some, Option.map_map, value?]
  exact congrArg (Option.map · _) (funext fun digits => by simp [extend_cons])

theorem value?_replicate_zero_append (positive : 1 ≤ base) (zeros : Nat) :
    value? base (List.replicate zeros '0' ++ text) = value? base text := by
  induction zeros with
  | zero => rfl
  | succ zeros ih => rw [List.replicate_succ, List.cons_append, value?_zero_cons positive, ih]

/-- Letters count from ten on, so they are no decimal digits. -/
theorem isSome_digitValue?_ten : (digitValue? 10 c).isSome = c.isDigit := by
  have decimal : c.isDigit = decide ('0' ≤ c ∧ c ≤ '9') := (Bool.decide_and _ _).symm
  rw [decimal, digitValue?]
  by_cases within : '0' ≤ c ∧ c ≤ '9'
  · have last : c.toNat ≤ 57 := within.2
    have small : c.toNat - '0'.toNat < 10 := by
      change c.toNat - 48 < 10
      omega
    simp only [if_pos within, if_pos small, decide_eq_true within, Option.isSome_some]
  · have large : ¬ (if 'a' ≤ c ∧ c ≤ 'z' then c.toNat - 'a'.toNat + 10
        else if 'A' ≤ c ∧ c ≤ 'Z' then c.toNat - 'A'.toNat + 10 else 10) < 10 := by
      rw [Nat.not_lt]
      split_ifs <;> omega
    simp only [if_neg within, if_neg large, decide_eq_false within, Option.isSome_none]

/-- A text denotes a number if it has no other characters than digits. -/
theorem isSome_value?_ten : (value? 10 text).isSome = text.all Char.isDigit := by
  rw [value?, Option.isSome_map]
  induction text with
  | nil => rfl
  | cons c text ih =>
      rw [digits?_cons, List.all_cons, ← isSome_digitValue?_ten, ← ih]
      cases digitValue? 10 c with
      | none => rfl
      | some digit => rw [Option.bind_some, Option.isSome_map]; rfl

end Numeral

end CallTrace
