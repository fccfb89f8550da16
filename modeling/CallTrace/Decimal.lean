/-
# Decimal numbers and the reach of doubles

A decimal number is a coefficient scaled by a power of ten. A double has 53 binary
digits and ends below 2 to the power of 1024; a decimal number is within its reach
if rounding keeps it finite. That depends on what is rounded. One reader rounds
once, from the exact value. Another keeps the digits that fit 64 bits, rounds them
and the power of ten each to a double, and then rounds their product; near the end
of the range the two readers do not always agree.
-/

import CallTrace.Numeral

namespace CallTrace

/-- A coefficient times a power of ten. -/
structure Decimal where
  coefficient : Nat
  /-- The exponent of the power of ten. -/
  scale : Int
  deriving DecidableEq, Repr

namespace Decimal

/-- The exact value of digits before and after a point, times a power of ten. -/
def ofFigures (whole : Nat) (fraction : List Char) (exponent : Int) : Decimal :=
  ⟨whole * Nat.pow 10 fraction.length + Nat.ofDigitChars 10 fraction 0,
    exponent - fraction.length⟩

/-- The least number that does not round to a double: half a step above the greatest
of them. -/
def doubleEnd : Nat :=
  Nat.pow 2 1024 - Nat.pow 2 970

/-- Whether the exact value rounds to a double. Numbers whose order of magnitude
decides the matter are not computed, since an exponent may have any number of
digits. -/
def isFinite (number : Decimal) : Bool :=
  let magnitude := (Numeral.decimal number.coefficient).length + number.scale
  if number.coefficient = 0 then true
  else if magnitude < 300 then true
  else if 320 < magnitude then false
  else
    number.coefficient * Nat.pow 10 number.scale.toNat <
      doubleEnd * Nat.pow 10 (-number.scale).toNat

/-- A number with one more digit at its end. -/
def extended (n : Nat) (digit : Char) : Nat :=
  n * 10 + (digit.toNat - '0'.toNat)

/-- The leading digits of a whole number, after those that make up `n`. From the first
that does not fit 64 bits on, digits no longer count by their values, only by their
places. -/
def leading (n : Nat) : List Char → Decimal
  | [] => ⟨n, 0⟩
  | digit :: rest =>
    if extended n digit < UInt64.size then leading (extended n digit) rest
    else ⟨n, rest.length + 1⟩

/-- Appends digits that stand after a point, up to the first with which the coefficient
does not fit 64 bits. -/
def refined (number : Decimal) : List Char → Decimal
  | [] => number
  | digit :: rest =>
    if extended number.coefficient digit < UInt64.size then
      refined ⟨extended number.coefficient digit, number.scale - 1⟩ rest
    else number

/-- The digits of a number that fit 64 bits, and the power of ten that scales them. -/
def ofLeadingFigures (whole : Nat) (fraction : List Char) (exponent : Int) : Decimal :=
  let number := refined (leading 0 (Numeral.decimal whole)) fraction
  ⟨number.coefficient, number.scale + exponent⟩

/-- A whole number rounded to 53 binary digits. A tie goes to the even neighbour. -/
def rounded (n : Nat) : Nat :=
  let step := Nat.pow 2 (Nat.log2 n - 52)
  let below := n / step
  let rest := n % step
  (if step < 2 * rest || (2 * rest == step && below % 2 == 1) then below + 1 else below) * step

/-- Whether coefficient and power of ten, each rounded to a double, have a product that
rounds to one. Division by a power of ten leaves no coefficient of 64 bits out of
reach; with a power of ten that is itself out of reach, only zero is within it. -/
def isFiniteInSteps (number : Decimal) : Bool :=
  if number.coefficient = 0 || number.scale < 0 then true
  else if 308 < number.scale then false
  else rounded number.coefficient * rounded (Nat.pow 10 number.scale.toNat) < doubleEnd

end Decimal

end CallTrace
