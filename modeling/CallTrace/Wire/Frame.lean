/-
# The JSON form of frames

Addresses and byte strings are hexadecimal text and amounts decimal text, since
they exceed the numbers that other readers of JSON can hold. What a frame leaves
out is zero or empty.
-/

import CallTrace.Frame
import CallTrace.Json.Fields
import CallTrace.Json.Writer

namespace CallTrace

namespace FixedBytes

def toJson {n : Nat} (bytes : FixedBytes n) : Json :=
  .chars bytes.toHex

end FixedBytes

namespace Json

/-- A byte string. -/
def bytes (value : List UInt8) : Json :=
  .chars (Hex.encodeMarked value)

/-- A 64-bit number. -/
def uint64 (value : UInt64) : Json :=
  .nat value.toNat

end Json

namespace CallType

def toJson (callType : CallType) : Json :=
  .text callType.label

def ofJson? (value : Json) : Option CallType := do
  ofLabel? (← value.toName? Json.isNull)

/-- Reads a kind of call from a value that was taken in whole before. -/
def ofWhole? (value : Json) : Option CallType := do
  ofLabel? (← value.toName? Json.isNothing)

end CallType

namespace CallFrame

/-- The names of the fields of a frame in their order. -/
def fieldNames : List String :=
  ["index", "call_type", "depth", "from", "to", "value", "gas", "input", "output"]

/-- The fields of a frame in the order in which they are written. -/
def toFields (frame : CallFrame) : List (String × Json) :=
  [("index", .uint64 frame.index), ("call_type", frame.callType.toJson),
    ("depth", .uint64 frame.depth), ("from", frame.sender.toJson), ("to", frame.target.toJson),
    ("value", .chars frame.value.toDecimal), ("gas", .uint64 frame.gas),
    ("input", .bytes frame.input), ("output", .bytes frame.output)]

def toJson (frame : CallFrame) : Json :=
  .fields frame.toFields

/-- Reads a frame from its fields, with a reader for the kind of call. -/
def ofFields? (callTypeOf? : Json → Option CallType) (members : Json.Members) :
    Option CallFrame := do
  let index ← members.required "index" Json.toUInt64?
  let callType ← members.required "call_type" callTypeOf?
  let depth ← members.required "depth" Json.toUInt64?
  let sender ← members.required "from" Json.toFixedBytes?
  let target ← members.required "to" Json.toFixedBytes?
  let value ← members.optional "value" .zero Json.toAmount?
  let gas ← members.optional "gas" 0 Json.toUInt64?
  let input ← members.optional "input" [] Json.toBytes?
  let output ← members.optional "output" [] Json.toBytes?
  return ⟨index, callType, depth, sender, target, value, gas, input, output⟩

def ofJson? (value : Json) : Option CallFrame := do
  ofFields? CallType.ofJson? (← value.fieldsOf? fieldNames)

end CallFrame

end CallTrace
