/-
# The JSON form of logs

A log must say which contract emitted it; all else may be left out and is then
empty or zero.
-/

import CallTrace.Event
import CallTrace.Wire.Frame

namespace CallTrace

namespace EventTag

def toJson (tag : EventTag) : Json :=
  .text tag.label

def ofJson? (value : Json) : Option EventTag := do
  ofLabel? (← value.toName? Json.isNull)

end EventTag

namespace LogEvent

/-- The names of the fields of a log in their order. -/
def fieldNames : List String := ["address", "topics", "data", "depth"]

/-- The fields of a log in the order in which they are written. -/
def toFields (log : LogEvent) : List (String × Json) :=
  [("address", log.address.toJson), ("topics", .array (log.topics.map FixedBytes.toJson)),
    ("data", .bytes log.data), ("depth", .uint64 log.depth)]

def toJson (log : LogEvent) : Json :=
  .fields log.toFields

def ofFields? (members : Json.Members) : Option LogEvent := do
  let address ← members.required "address" Json.toFixedBytes?
  let topics ← members.optional "topics" [] (Json.toList? Json.toFixedBytes?)
  let data ← members.optional "data" [] Json.toBytes?
  let depth ← members.optional "depth" 0 Json.toUInt64?
  return ⟨address, topics, data, depth⟩

def ofJson? (value : Json) : Option LogEvent := do
  ofFields? (← value.fieldsOf? fieldNames)

end LogEvent

end CallTrace
