/-
# The JSON form of recordings

A step names its kind in a field of its own, which may stand anywhere among the
others. A reader therefore takes a step in whole before it makes anything of it,
and refuses it also for a fault in a field that nobody asks for. Where the fields
stand in an array, the kind comes first.
-/

import CallTrace.Json.Reader
import CallTrace.Recording
import CallTrace.Wire.Event
import CallTrace.Wire.Record

namespace CallTrace

namespace Step

/-- The name of a kind of step. -/
def kind : Step → String
  | .call _ => "call"
  | .log _ => "log"
  | .transfer .. => "value_transfer"

/-- The fields of a step in the order in which they are written. -/
def toFields : Step → List (String × Json)
  | .call frame => frame.toFields
  | .log entry => entry.toFields
  | .transfer sender receiver value depth =>
    [("from", sender.toJson), ("to", receiver.toJson), ("value", .chars value.toDecimal),
      ("depth", .uint64 depth)]

def toJson (step : Step) : Json :=
  .fields (("kind", .text step.kind) :: step.toFields)

/-- How deep a step may nest, itself included: it stands inside four containers. -/
def nesting : Nat := 123

/-- The names of the fields of a movement of native currency in their order. -/
def transferNames : List String := ["from", "to", "value", "depth"]

/-- A movement of native currency, all of whose fields must be there. -/
def transferOfFields? (members : Json.Members) : Option Step := do
  let sender ← members.required "from" Json.toFixedBytes?
  let receiver ← members.required "to" Json.toFixedBytes?
  let value ← members.required "value" Json.toAmount?
  let depth ← members.required "depth" Json.toUInt64?
  return .transfer sender receiver value depth

/-- The step of a kind whose fields a value holds. -/
def ofKind? (value : Json) : String → Option Step
  | "call" => do
    let members ← value.fieldsOf? CallFrame.fieldNames
    (CallFrame.ofFields? CallType.ofWhole? members).map .call
  | "log" => do
    let members ← value.fieldsOf? LogEvent.fieldNames
    (LogEvent.ofFields? members).map .log
  | "value_transfer" => do
    transferOfFields? (← value.fieldsOf? transferNames)
  | _ => none

def ofJson? (value : Json) : Option Step := do
  if !value.isSound nesting then none
  else
    match value with
    | .array [] => none
    | .array (kind :: items) => ofKind? (.array items) (← kind.toText?)
    | _ => ofKind? value (← (← value.members?).required "kind" Json.toText?)

end Step

namespace RecordedTransaction

/-- The names of the fields of a transaction in their order. -/
def fieldNames : List String := ["metadata", "steps"]

def toJson (transaction : RecordedTransaction) : Json :=
  .fields [("metadata", transaction.metadata.toJson),
    ("steps", .array (transaction.steps.map Step.toJson))]

def ofJson? (value : Json) : Option RecordedTransaction := do
  let members ← value.fieldsOf? fieldNames
  let metadata ← members.required "metadata" TxMetadata.ofJson?
  let steps ← members.optional "steps" [] (Json.toList? Step.ofJson?)
  return ⟨metadata, steps⟩

end RecordedTransaction

namespace Recording

/-- The name of the only field of a recording. -/
def fieldNames : List String := ["transactions"]

def toJson (recording : Recording) : Json :=
  .fields [("transactions", .array (recording.transactions.map RecordedTransaction.toJson))]

def ofJson? (value : Json) : Option Recording := do
  let members ← value.fieldsOf? fieldNames
  let transactions ← members.optional "transactions" [] (Json.toList? RecordedTransaction.ofJson?)
  return ⟨transactions⟩

/-- The recording that the bytes of a file hold. -/
def ofBytes (bytes : List UInt8) : Except RecordingError Recording :=
  match Json.ofBytes? bytes >>= ofJson? with
  | some recording => .ok recording
  | none => .error .notRecording

end Recording

end CallTrace
