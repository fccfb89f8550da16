/-
# Texts as bytes

A text is a list of characters; on disk it is a list of bytes. `encode` is the
one written form of a text. `scan` goes the other way on arbitrary bytes: every
well-formed sequence becomes its character and every byte that belongs to none
becomes `none`, so a reader that must notice damage still sees where the intact
characters are.
-/

namespace CallTrace.Utf8

/-- The bytes of a text, the shortest form of each character in turn. -/
def encode (text : List Char) : List UInt8 :=
  text.flatMap String.utf8EncodeChar

/-- The six low bits of a continuation byte. -/
def continuation? (byte : UInt8) : Option Nat :=
  if 0x80 ≤ byte ∧ byte < 0xC0 then some (byte.toNat - 0x80) else none

/-- The character of a code point that needed the form it was written in: a code
point below `least` has a shorter form, and surrogates and numbers beyond the
last plane are no characters at all. -/
def scalar? (least code : Nat) : Option Char :=
  if least ≤ code ∧ code.isValidChar then some (Char.ofNat code) else none

/-- The character written by a lead byte and one continuation. -/
def pair? (lead second : UInt8) : Option Char := do
  let low ← continuation? second
  scalar? 0x80 ((lead.toNat - 0xC0) * 0x40 + low)

/-- The character written by a lead byte and two continuations. -/
def triple? (lead second third : UInt8) : Option Char := do
  let middle ← continuation? second
  let low ← continuation? third
  scalar? 0x800 ((lead.toNat - 0xE0) * 0x1000 + middle * 0x40 + low)

/-- The character written by a lead byte and three continuations. -/
def quadruple? (lead second third fourth : UInt8) : Option Char := do
  let high ← continuation? second
  let middle ← continuation? third
  let low ← continuation? fourth
  scalar? 0x10000 ((lead.toNat - 0xF0) * 0x40000 + high * 0x1000 + middle * 0x40 + low)

/-- The character that begins with `lead`, and how many of the bytes after the
lead byte belong to it. -/
def character? (lead : UInt8) (rest : List UInt8) : Option (Char × Nat) :=
  if lead < 0x80 then some (Char.ofNat lead.toNat, 0)
  else if lead < 0xC0 then none
  else if lead < 0xE0 then
    match rest with
    | b :: _ => (pair? lead b).map (·, 1)
    | _ => none
  else if lead < 0xF0 then
    match rest with
    | b :: c :: _ => (triple? lead b c).map (·, 2)
    | _ => none
  else if lead < 0xF8 then
    match rest with
    | b :: c :: d :: _ => (quadruple? lead b c d).map (·, 3)
    | _ => none
  else none

/-- Reads bytes left to right, passing over the first `skip` of them. A byte that
starts no well-formed sequence is given up alone, so that whatever follows it is
still read. -/
def scanAfter : Nat → List UInt8 → List (Option Char)
  | _, [] => []
  | skip + 1, _ :: rest => scanAfter skip rest
  | 0, lead :: rest =>
    match character? lead rest with
    | some (c, more) => some c :: scanAfter more rest
    | none => none :: scanAfter 0 rest

/-- The characters of a run of bytes, with `none` for every byte outside all of
them. -/
def scan (bytes : List UInt8) : List (Option Char) :=
  scanAfter 0 bytes

/-- The text that the bytes are the written form of, if they are one. -/
def decode? (bytes : List UInt8) : Option (List Char) :=
  (scan bytes).mapM id

end CallTrace.Utf8
