/-
# Numerals

Whole numbers are written in the fewest digits of their base. A reader of a
bounded number goes through the digits from the left and stops at the first
that is no digit or that carries the value past the bound, so of two faults the
leftmost decides what is reported.
-/

namespace CallTrace

/-- Why a text is no whole number in range. -/
inductive NumeralFault where
  | empty
  | invalidDigit
  | tooLarge
  deriving DecidableEq, Repr

namespace NumeralFault

def message : NumeralFault → String
  | .empty => "cannot parse integer from empty string"
  | .invalidDigit => "invalid digit found in string"
  | .tooLarge => "number too large to fit in target type"

end NumeralFault

namespace Numeral

/-- A whole number in decimal digits. -/
def decimal (n : Nat) : List Char :=
  Nat.toDigits 10 n

/-- A whole number in lowercase hexadecimal digits. -/
def hexadecimal (n : Nat) : List Char :=
  Nat.toDigits 16 n

/-- The value of a digit character: a letter of either case continues after nine. -/
def digitValue? (base : Nat) (c : Char) : Option Nat :=
  let value :=
    if '0' ≤ c ∧ c ≤ '9' then c.toNat - '0'.toNat
    else if 'a' ≤ c ∧ c ≤ 'z' then c.toNat - 'a'.toNat + 10
    else if 'A' ≤ c ∧ c ≤ 'Z' then c.toNat - 'A'.toNat + 10
    else base
  if value < base then some value else none

/-- Extends the number read so far by further digits, keeping it below `bound`. -/
def readDigits (base bound : Nat) : List Char → Nat → Except NumeralFault Nat
  | [], value => .ok value
  | c :: rest, value =>
    match digitValue? base c with
    | none => .error .invalidDigit
    | some digit =>
      let value := value * base + digit
      if value < bound then readDigits base bound rest value else .error .tooLarge

/-- Reads a number below `bound`. One leading plus sign is allowed; a sign alone
is not a number. -/
def read (base bound : Nat) : List Char → Except NumeralFault Nat
  | [] => .error .empty
  | ['+'] => .error .invalidDigit
  | '+' :: digits => readDigits base bound digits 0
  | digits => readDigits base bound digits 0

/-- Reads a 64-bit number. -/
def readUInt64 (text : List Char) : Except NumeralFault UInt64 :=
  (read 10 UInt64.size text).map UInt64.ofNat

/-- Reads a 32-bit number. -/
def readUInt32 (text : List Char) : Except NumeralFault UInt32 :=
  (read 10 UInt32.size text).map UInt32.ofNat

end Numeral

end CallTrace
