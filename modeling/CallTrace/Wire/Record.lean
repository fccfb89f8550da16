/-
# The JSON form of trace records

The metadata of a record stands among the record's own fields. Since a reader
cannot tell beforehand which of the other fields belong to the metadata, it takes
all of them in whole, so that a record is refused also for a fault in a field that
nobody asks for.

When a record is written to a store, its text is handed on in portions. They are
listed by `TraceRecord.pieces`; together they are the written form of
`TraceRecord.toJson`.
-/

import CallTrace.Record
import CallTrace.Wire.Frame

namespace CallTrace

namespace TxMetadata

/-- The names of the fields of the metadata in their order. -/
def fieldNames : List String :=
  ["block", "tx", "from", "to", "value", "gasprice", "gasused"]

/-- The fields of the metadata in the order in which they are written. -/
def toFields (metadata : TxMetadata) : List (String × Json) :=
  [("block", .uint64 metadata.block), ("tx", metadata.hash.toJson),
    ("from", metadata.sender.toJson),
    ("to", match metadata.receiver with
      | some receiver => receiver.toJson
      | none => .null),
    ("value", .text metadata.value), ("gasprice", .text metadata.gasPrice),
    ("gasused", .uint64 metadata.gasUsed)]

def toJson (metadata : TxMetadata) : Json :=
  .fields metadata.toFields

def ofFields? (members : Json.Members) : Option TxMetadata := do
  let block ← members.required "block" Json.toUInt64?
  let hash ← members.required "tx" Json.toFixedBytes?
  let sender ← members.required "from" Json.toFixedBytes?
  let receiver ← members.optional "to" none (Json.toOption? Json.toFixedBytes?)
  let value ← members.optional "value" "0" Json.toText?
  let gasPrice ← members.optional "gasprice" "0" Json.toText?
  let gasUsed ← members.optional "gasused" 0 Json.toUInt64?
  return ⟨block, hash, sender, receiver, value, gasPrice, gasUsed⟩

def ofJson? (value : Json) : Option TxMetadata := do
  ofFields? (← value.fieldsOf? fieldNames)

end TxMetadata

namespace TraceRecord

/-- The fields of a record in the order in which they are written. -/
def toFields (record : TraceRecord) : List (String × Json) :=
  ("version", .text record.version) :: record.metadata.toFields ++
    [("functrace", .text record.functionTrace), ("eventtrace", .text record.eventTrace),
      ("transferlogs", .text record.transferTrace), ("complete", .bool record.complete),
      ("recorded_at", .text record.recordedAt)]

def toJson (record : TraceRecord) : Json :=
  .fields record.toFields

/-- The names of the fields that are the record's own and not its metadata's. -/
def ownFields : List String :=
  ["version", "functrace", "eventtrace", "transferlogs", "complete", "recorded_at"]

/-- How deep the fields that are taken in whole may nest. -/
def nesting : Nat := 126

def ofJson? (value : Json) : Option TraceRecord := do
  let members ← value.members?
  let others := members.filter fun member => !ownFields.contains member.1
  if !others.all fun member => member.2.isSound nesting then none
  else do
    let version ← members.required "version" Json.toText?
    let metadata ← TxMetadata.ofFields? others
    let functionTrace ← members.required "functrace" Json.toText?
    let eventTrace ← members.required "eventtrace" Json.toText?
    let transferTrace ← members.required "transferlogs" Json.toText?
    let complete ← members.required "complete" Json.toBool?
    let recordedAt ← members.required "recorded_at" Json.toText?
    return ⟨version, metadata, functionTrace, eventTrace, transferTrace, complete, recordedAt⟩

/-- The portions of an identifier: its mark and its digits apart. -/
def identifierPieces {n : Nat} (bytes : FixedBytes n) : List (List Char) :=
  [['"'], ['0', 'x'], Hex.encode bytes.toList, ['"']]

/-- The portions of a field, with a comma before it unless it is the first. -/
def fieldPieces (first : Bool) (name : String) (value : List (List Char)) : List (List Char) :=
  (if first then [] else [[',']]) ++ Json.stringPieces name.toList ++ [':'] :: value

/-- The portions in which a record is written. -/
def pieces (record : TraceRecord) : List (List Char) :=
  let metadata := record.metadata
  let text (value : String) : List (List Char) := Json.stringPieces value.toList
  let number (value : UInt64) : List (List Char) := [Numeral.decimal value.toNat]
  ['\x7b'] :: fieldPieces true "version" (text record.version) ++
    fieldPieces false "block" (number metadata.block) ++
    fieldPieces false "tx" (identifierPieces metadata.hash) ++
    fieldPieces false "from" (identifierPieces metadata.sender) ++
    fieldPieces false "to"
      (match metadata.receiver with
      | some receiver => identifierPieces receiver
      | none => Json.null.pieces) ++
    fieldPieces false "value" (text metadata.value) ++
    fieldPieces false "gasprice" (text metadata.gasPrice) ++
    fieldPieces false "gasused" (number metadata.gasUsed) ++
    fieldPieces false "functrace" (text record.functionTrace) ++
    fieldPieces false "eventtrace" (text record.eventTrace) ++
    fieldPieces false "transferlogs" (text record.transferTrace) ++
    fieldPieces false "complete" (Json.bool record.complete).pieces ++
    fieldPieces false "recorded_at" (text record.recordedAt) ++ [['\x7d']]

end TraceRecord

end CallTrace
