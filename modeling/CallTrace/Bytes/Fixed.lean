/-
# Byte strings of a fixed length

Accounts are named by twenty bytes, transactions and log topics by thirty-two.
Both are one type, indexed by its length, so that reading and writing are defined
and reasoned about once.
-/

import CallTrace.Bytes.Hex

namespace CallTrace

/-- A byte string of exactly `n` bytes. -/
structure FixedBytes (n : Nat) where
  toList : List UInt8
  length_toList : toList.length = n
  deriving DecidableEq

namespace FixedBytes

variable {n : Nat}

/-- The byte string of a list that has the right length. -/
def ofList? (bytes : List UInt8) : Option (FixedBytes n) :=
  if h : bytes.length = n then some ⟨bytes, h⟩ else none

/-- All bytes zero. -/
def zero (n : Nat) : FixedBytes n :=
  ⟨List.replicate n 0, List.length_replicate⟩

instance : Inhabited (FixedBytes n) := ⟨zero n⟩

def isZero (bytes : FixedBytes n) : Bool :=
  bytes.toList.all (· == 0)

/-- The written form: lowercase digits behind `0x`, two for every byte. -/
def toHex (bytes : FixedBytes n) : List Char :=
  Hex.encodeMarked bytes.toList

/-- Reads hexadecimal text of exactly `n` bytes. Digits are checked before the
length. -/
def ofHex (text : List Char) : Except HexFault (FixedBytes n) :=
  match Hex.decode text with
  | .error fault => .error fault
  | .ok bytes =>
    match ofList? bytes with
    | some fixed => .ok fixed
    | none => .error (.badLength n bytes.length)

/-- The last `m` of the bytes. -/
def takeLast (m : Nat) (h : m ≤ n) (bytes : FixedBytes n) : FixedBytes m :=
  ⟨bytes.toList.drop (n - m), by rw [List.length_drop, bytes.length_toList]; omega⟩

end FixedBytes

/-- An account or contract. -/
abbrev Address := FixedBytes 20

/-- A transaction hash or a log topic. -/
abbrev Hash := FixedBytes 32

/-- A topic that holds an account holds it in its last twenty bytes. -/
def Hash.toAddress (hash : Hash) : Address :=
  hash.takeLast 20 (by decide)

end CallTrace
