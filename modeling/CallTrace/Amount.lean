/-
# Amounts

An amount of the native currency is a whole number of its smallest unit below
`2 ^ 128`. Its written form is plain decimal: digits only, without sign, without
separators. Leading zeros are read and never written.
-/

import CallTrace.Numeral

namespace CallTrace

/-- The number of different amounts, `2 ^ 128`. -/
def Amount.count : Nat := 0x100000000000000000000000000000000

/-- A whole number below `2 ^ 128`. -/
structure Amount where
  toNat : Nat
  toNat_lt : toNat < Amount.count
  deriving DecidableEq

/-- Why a text is no amount. -/
inductive AmountFault where
  | notDecimal (text : String)
  | outOfRange (text : String) (cause : NumeralFault)
  deriving DecidableEq, Repr

namespace AmountFault

def message : AmountFault → String
  | .notDecimal text => "invalid decimal amount '" ++ text ++ "'"
  | .outOfRange text cause => "invalid decimal amount '" ++ text ++ "': " ++ cause.message

end AmountFault

namespace Amount

def zero : Amount := ⟨0, by decide⟩

instance : Inhabited Amount := ⟨zero⟩

/-- The amount of a number that is in range. -/
def ofNat? (n : Nat) : Option Amount :=
  if h : n < count then some ⟨n, h⟩ else none

/-- The amount of a 64-bit number, which is always in range. -/
def ofUInt64 (n : UInt64) : Amount :=
  ⟨n.toNat, Nat.lt_trans n.toNat_lt (by decide)⟩

/-- Decimal digits, no leading zero. -/
def toDecimal (amount : Amount) : List Char :=
  Numeral.decimal amount.toNat

/-- Lowercase hexadecimal digits, no prefix. -/
def toHexadecimal (amount : Amount) : List Char :=
  Numeral.hexadecimal amount.toNat

/-- Reads decimal digits. The text must consist of digits before its size is
looked at, so a sign is never accepted here. -/
def ofDecimal (text : List Char) : Except AmountFault Amount :=
  if text.isEmpty || !text.all Char.isDigit then
    .error (.notDecimal (String.ofList text))
  else
    match Numeral.read 10 count text with
    | .error cause => .error (.outOfRange (String.ofList text) cause)
    | .ok n =>
      match ofNat? n with
      | some amount => .ok amount
      | none => .error (.outOfRange (String.ofList text) .tooLarge)

end Amount

end CallTrace
