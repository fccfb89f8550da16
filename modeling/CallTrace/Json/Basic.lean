/-
# JSON values

A value as it stands in a text, before anything is made of it. Three things that
are often thrown away on reading are kept, because the readers of this library
decide by them: a number keeps the way it was written, an object keeps its
members in order with every repetition, and a string that holds no text (an
unpaired surrogate, or bytes that are no characters) is `none`.
-/

import CallTrace.Decimal

namespace CallTrace

/-- A number as written. -/
structure JsonNumber where
  negative : Bool
  whole : Nat
  /-- The digits after the point; without a point there are none. -/
  fraction : List Char
  /-- The power of ten, if one is written. -/
  exponent : Option Int
  deriving DecidableEq, Repr

/-- A value as a text holds it. -/
inductive Json where
  | null
  | bool (value : Bool)
  | number (value : JsonNumber)
  | string (value : Option String)
  | array (items : List Json)
  | object (members : List (Option String × Json))
  deriving Inhabited

namespace JsonNumber

/-- The number that is written with digits alone. -/
def ofNat (n : Nat) : JsonNumber :=
  ⟨false, n, [], none⟩

/-- The value of a number that is written with digits alone. A sign, a point or a
power of ten excludes it, whatever its value. -/
def toNat? (number : JsonNumber) : Option Nat :=
  if !number.negative && number.fraction.isEmpty && number.exponent.isNone then
    some number.whole
  else none

/-- Whether a double holds the number, when its digits are rounded in steps. -/
def isFinite (number : JsonNumber) : Bool :=
  (Decimal.ofLeadingFigures number.whole number.fraction (number.exponent.getD 0)).isFiniteInSteps

/-- Reads a number from the characters that make it up: an optional minus sign,
digits without a leading zero, then optionally a point with digits and a power of
ten with digits. -/
def read? (text : List Char) : Option JsonNumber :=
  let (negative, text) := match text with
    | '-' :: rest => (true, rest)
    | _ => (false, text)
  let whole := text.takeWhile Char.isDigit
  let text := text.dropWhile Char.isDigit
  if whole.isEmpty || (whole.head? == some '0' && whole.length != 1) then none
  else
    let (fraction, text, fractionOk) := match text with
      | '.' :: rest =>
        (rest.takeWhile Char.isDigit, rest.dropWhile Char.isDigit,
          (rest.head?.map Char.isDigit).getD false)
      | _ => ([], text, true)
    let number (exponent : Option Int) : JsonNumber :=
      ⟨negative, Nat.ofDigitChars 10 whole 0, fraction, exponent⟩
    if !fractionOk then none
    else match text with
      | [] => some (number none)
      | mark :: rest =>
        if mark == 'e' || mark == 'E' then
          let (down, digits) := match rest with
            | '-' :: digits => (true, digits)
            | '+' :: digits => (false, digits)
            | _ => (false, rest)
          if digits.isEmpty || !digits.all Char.isDigit then none
          else
            let size : Int := Nat.ofDigitChars 10 digits 0
            some (number (some (if down then -size else size)))
        else none

/-- The written form of a number. -/
def write (number : JsonNumber) : List Char :=
  (if number.negative then ['-'] else []) ++ Numeral.decimal number.whole ++
    (if number.fraction.isEmpty then [] else '.' :: number.fraction) ++
    match number.exponent with
    | none => []
    | some power =>
      'e' :: (if power < 0 then ['-'] else []) ++ Numeral.decimal power.natAbs

end JsonNumber

namespace Json

/-- The number `n`. -/
def nat (n : Nat) : Json :=
  .number (.ofNat n)

/-- The string holding a text. -/
def text (value : String) : Json :=
  .string (some value)

/-- The string holding a list of characters. -/
def chars (value : List Char) : Json :=
  .string (some (String.ofList value))

/-- The object with the given members. -/
def fields (members : List (String × Json)) : Json :=
  .object (members.map fun member => (some member.1, member.2))

mutual

/-- Whether a value can be taken in whole: containers nest at most `room` deep,
numbers stay finite as doubles, and every string and key holds text. -/
def isSound (room : Nat) : Json → Bool
  | .null => true
  | .bool _ => true
  | .number value => value.isFinite
  | .string value => value.isSome
  | .array items =>
    match room with
    | 0 => false
    | room + 1 => areSound room items
  | .object members =>
    match room with
    | 0 => false
    | room + 1 => areSoundMembers room members

/-- `isSound` for every item of an array. -/
def areSound (room : Nat) : List Json → Bool
  | [] => true
  | item :: rest => isSound room item && areSound room rest

/-- `isSound` for every member of an object. -/
def areSoundMembers (room : Nat) : List (Option String × Json) → Bool
  | [] => true
  | (key, value) :: rest => key.isSome && isSound room value && areSoundMembers room rest

end

end Json

end CallTrace
