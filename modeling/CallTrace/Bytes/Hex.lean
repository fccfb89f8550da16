/-
# Hexadecimal text

Byte strings are written as two lowercase digits a byte. Reading is wider than
writing: one leading `0x` may stand before the digits, letters may be of either
case, and an odd number of digits is read as if one more zero stood in front.

A refusal names the leftmost byte that is no digit. Positions are counted in the
bytes of the padded digits, so a character outside ASCII is reported by the
first byte of its encoding.
-/

import CallTrace.Numeral
import CallTrace.Text.Utf8
import CallTrace.Text.Split

namespace CallTrace

/-- Why a text is no byte string, or not one of the length asked for. -/
inductive HexFault where
  | badDigit (text : String) (byte : UInt8) (position : Nat)
  | badLength (expected found : Nat)
  deriving DecidableEq, Repr

namespace Hex

/-- The lowercase digit of a value below sixteen. -/
def digit (value : Nat) : Char :=
  Nat.digitChar value

/-- Two digits a byte, the high half first. -/
def encode (bytes : List UInt8) : List Char :=
  bytes.flatMap fun byte => [digit (byte.toNat / 16), digit (byte.toNat % 16)]

/-- Digits behind the customary mark. -/
def encodeMarked (bytes : List UInt8) : List Char :=
  '0' :: 'x' :: encode bytes

/-- The value of the digit that a byte encodes in ASCII. -/
def nibble? (byte : UInt8) : Option Nat :=
  if byte < 0x80 then Numeral.digitValue? 16 (Char.ofNat byte.toNat) else none

/-- Reads digits in pairs. `position` is the place of the first of them, and a
refusal gives the byte at fault with its place. -/
def decodePairs : Nat → List UInt8 → Except (UInt8 × Nat) (List UInt8)
  | position, high :: low :: rest =>
    match nibble? high, nibble? low with
    | none, _ => .error (high, position)
    | some _, none => .error (low, position + 1)
    | some h, some l => (decodePairs (position + 2) rest).map (UInt8.ofNat (16 * h + l) :: ·)
  | position, [last] => .error (last, position)
  | _, [] => .ok []

/-- The digits with a zero before them if their number is odd. -/
def padded (digits : List UInt8) : List UInt8 :=
  if digits.length % 2 = 1 then 0x30 :: digits else digits

/-- Reads a byte string. -/
def decode (text : List Char) : Except HexFault (List UInt8) :=
  let digits := Text.dropOpening ['0', 'x'] text
  match decodePairs 0 (padded (Utf8.encode digits)) with
  | .ok bytes => .ok bytes
  | .error (byte, position) => .error (.badDigit (String.ofList digits) byte position)

/-- A byte, read as a character of the first Unicode block, between single quotes.
Quotes, backslashes and the common controls have a short escape; the rest of what
cannot be seen is shown by its number. -/
def quoted (byte : UInt8) : List Char :=
  let shown :=
    if byte = 0 then ['\\', '0']
    else if byte = 9 then ['\\', 't']
    else if byte = 10 then ['\\', 'n']
    else if byte = 13 then ['\\', 'r']
    else if byte = 39 then ['\\', '\x27']
    else if byte = 92 then ['\\', '\\']
    else if byte < 0x20 ∨ (0x7F ≤ byte ∧ byte ≤ 0xA0) ∨ byte = 0xAD then
      ['\\', 'u', '\x7b'] ++ Numeral.hexadecimal byte.toNat ++ ['\x7d']
    else [Char.ofNat byte.toNat]
  '\x27' :: shown ++ ['\x27']

end Hex

namespace HexFault

def message : HexFault → String
  | .badDigit text byte position =>
    "Invalid hex string: " ++ text ++ ": Invalid character " ++
      String.ofList (Hex.quoted byte) ++ " at position " ++
      String.ofList (Numeral.decimal position)
  | .badLength expected found =>
    "Expected " ++ String.ofList (Numeral.decimal expected) ++ " bytes, found " ++
      String.ofList (Numeral.decimal found)

end HexFault

end CallTrace
