/-
# Taking values apart

A structured value is read from an object by naming its fields. A named field may
stand in the object at most once; fields that are not named are passed over
without being looked into. A field with a default may be missing, and the default
stands for a missing field only, never for `null`.

The fields may also stand in an array, in their order and without their names.
Only the last ones can be missing then, and there is room for no others.
-/

import CallTrace.Json.Basic
import CallTrace.Amount
import CallTrace.Bytes.Fixed

namespace CallTrace.Json

/-- The members of an object whose keys all hold text. -/
abbrev Members := List (String × Json)

/-- The members of a value that is an object. -/
def members? : Json → Option Members
  | .object members => members.mapM fun member => member.1.map (·, member.2)
  | _ => none

/-- The members of a value that holds fields with the given names, which are those of
an object, or in an array the items under the names in their order. -/
def fieldsOf? (names : List String) : Json → Option Members
  | .array items => if items.length ≤ names.length then some (names.zip items) else none
  | value => value.members?

/-- The value of the field `name`: `some none` if there is no such field, `none` if
there is more than one. -/
def Members.find? (members : Members) (name : String) : Option (Option Json) :=
  match members.filter (·.1 == name) with
  | [] => some none
  | [(_, value)] => some (some value)
  | _ => none

/-- Reads a field that must be there. -/
def Members.required {α : Type} (members : Members) (name : String)
    (read : Json → Option α) : Option α := do
  let found ← members.find? name
  let value ← found
  read value

/-- Reads a field that may be missing. -/
def Members.optional {α : Type} (members : Members) (name : String) (default : α)
    (read : Json → Option α) : Option α := do
  match ← members.find? name with
  | none => some default
  | some value => read value

def toText? : Json → Option String
  | .string value => value
  | _ => none

/-- A name that stands for itself: a text, or an object that holds nothing but the name,
with a value that tells nothing. -/
def toName? (isIdle : Json → Bool) : Json → Option String
  | .string value => value
  | .object [(name, value)] => if isIdle value then name else none
  | _ => none

/-- Whether a value that was read where it stands tells nothing. -/
def isNull : Json → Bool
  | .null => true
  | _ => false

/-- Whether a value that was taken in whole before it was read tells nothing. -/
def isNothing : Json → Bool
  | .null | .object [] => true
  | _ => false

def toBool? : Json → Option Bool
  | .bool value => some value
  | _ => none

/-- A whole number of 64 bits, written with digits alone. -/
def toUInt64? : Json → Option UInt64
  | .number value => do
    let n ← value.toNat?
    if n < UInt64.size then some (UInt64.ofNat n) else none
  | _ => none

/-- An array, each of its items read. -/
def toList? {α : Type} (read : Json → Option α) : Json → Option (List α)
  | .array items => items.mapM read
  | _ => none

/-- `null`, or a value that is read. -/
def toOption? {α : Type} (read : Json → Option α) : Json → Option (Option α)
  | .null => some none
  | value => (read value).map some

def toFixedBytes? {n : Nat} (value : Json) : Option (FixedBytes n) := do
  let text ← value.toText?
  (FixedBytes.ofHex text.toList).toOption

/-- A byte string in hexadecimal text; the empty text is the empty byte string. -/
def toBytes? (value : Json) : Option (List UInt8) := do
  let text ← value.toText?
  (Hex.decode text.toList).toOption

/-- An amount: a 64-bit number, or a string of decimal digits. -/
def toAmount? : Json → Option Amount
  | .string value => do
    let text ← value
    (Amount.ofDecimal text.toList).toOption
  | value => value.toUInt64?.map Amount.ofUInt64

end CallTrace.Json
