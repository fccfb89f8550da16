/-
# Records are read as they were written

The portions in which a record is handed on make up the JSON form of the record, and the
record is read from its JSON form. The metadata is read from all fields that are not the
record's own, of which a reader demands that they can be taken in whole.
-/

import CallTrace.Proofs.Json.Fields
import CallTrace.Proofs.Json.Reader
import CallTrace.Wire.Record

namespace CallTrace

namespace Hex

/-- No character of a byte string needs an escape. -/
theorem flatMap_escaped (bytes : List UInt8) :
    (encodeMarked bytes).flatMap Json.escaped = encodeMarked bytes := by
  apply Json.flatMap_escaped
  intro c member
  have digits : ∀ value < 16, Json.escape? (digit value) = none := by decide
  rcases mem_encodeMarked member with rfl | ⟨value, within, rfl⟩
  · decide
  · exact digits value within

end Hex

/-- The fields of metadata are values that are read as written. -/
theorem TxMetadata.plain_of_mem_toFields (metadata : TxMetadata) :
    ∀ member ∈ metadata.toFields, member.2.Plain := by
  rw [toFields]
  simp only [List.forall_mem_cons]
  refine ⟨Json.plain_uint64 _, Json.plain_toJson _, Json.plain_toJson _, ?_, .text _, .text _,
    Json.plain_uint64 _, List.forall_mem_nil _⟩
  cases metadata.receiver with
  | none => exact .null
  | some receiver => exact Json.plain_toJson receiver

namespace TraceRecord

theorem flatten_identifierPieces {n : Nat} (bytes : FixedBytes n) :
    (identifierPieces bytes).flatten = bytes.toJson.write := by
  have text : bytes.toJson.write = Json.quoted bytes.toHex := by
    rw [FixedBytes.toJson, Json.chars, ← Json.text, Json.write_text, String.toList_ofList]
  rw [text, Json.quoted, FixedBytes.toHex, Hex.flatMap_escaped, identifierPieces]
  simp [Hex.encodeMarked]

/-- The portions of a field make up a member of the object. -/
theorem flatten_fieldPieces {first : Bool} {name : String} {value : Json}
    {pieces : List (List Char)} (same : pieces.flatten = value.write) :
    (fieldPieces first name pieces).flatten =
      (if first then [] else [',']) ++ Json.writeMember (name, value) := by
  rw [fieldPieces, List.flatten_append, List.flatten_append, List.flatten_cons,
    Json.flatten_stringPieces, same, Json.writeMember, List.append_assoc]
  cases first <;> rfl

/-- The portions of a record make up its JSON form. -/
theorem flatten_pieces (record : TraceRecord) : record.pieces.flatten = record.toJson.write := by
  have text (value : String) :
      (Json.stringPieces value.toList).flatten = (Json.text value).write := by
    rw [Json.flatten_stringPieces, Json.write_text]
  have number (value : UInt64) :
      [Numeral.decimal value.toNat].flatten = (Json.uint64 value).write := by
    rw [Json.uint64, Json.write_nat]
    exact List.append_nil _
  obtain ⟨version, ⟨block, hash, sender, receiver, value, gasPrice, gasUsed⟩, functionTrace,
    eventTrace, transferTrace, complete, recordedAt⟩ := record
  rw [toJson, toFields, TxMetadata.toFields, List.cons_append, Json.write_fields]
  -- A missing receiver is written as the word `null`, all else in the same way.
  cases receiver
  all_goals
    simp only [pieces, List.flatten_append, List.flatten_cons, flatten_fieldPieces (text _),
      flatten_fieldPieces (number _), flatten_fieldPieces (flatten_identifierPieces _),
      flatten_fieldPieces (Eq.refl Json.null.write),
      flatten_fieldPieces (Eq.refl (Json.bool _).write)]
    simp

/-- The fields of a record in its JSON form are values that are read as written. -/
theorem plain_of_mem_toFields (record : TraceRecord) :
    ∀ member ∈ record.toFields, member.2.Plain := by
  rw [toFields, List.cons_append, List.forall_mem_cons, List.forall_mem_append]
  refine ⟨.text _, record.metadata.plain_of_mem_toFields, ?_⟩
  simp only [List.forall_mem_cons]
  exact ⟨.text _, .text _, .text _, .bool _, .text _, List.forall_mem_nil _⟩

theorem plain_toJson (record : TraceRecord) : record.toJson.Plain :=
  .fields record.plain_of_mem_toFields

/-- The fields of a record are all different. -/
theorem nodup_toFields (record : TraceRecord) : (record.toFields.map (·.1)).Nodup := by
  have names : record.toFields.map (·.1) =
      ["version", "block", "tx", "from", "to", "value", "gasprice", "gasused", "functrace",
        "eventtrace", "transferlogs", "complete", "recorded_at"] := rfl
  rw [names]
  decide

end TraceRecord

namespace TxMetadata

theorem names_toFields (metadata : TxMetadata) :
    metadata.toFields.map (·.1) = fieldNames := rfl

/-- The fields of the metadata are all different. -/
theorem nodup_toFields (metadata : TxMetadata) : (metadata.toFields.map (·.1)).Nodup := by
  rw [metadata.names_toFields]
  decide

/-- The metadata is read from its own fields. -/
theorem ofFields?_toFields (metadata : TxMetadata) :
    ofFields? metadata.toFields = some metadata := by
  have distinct := metadata.nodup_toFields
  have block : Json.Members.required metadata.toFields "block" Json.toUInt64? =
      some metadata.block :=
    Json.Members.required_of_mem distinct (by simp [toFields]) (Json.toUInt64?_uint64 _)
  have hash : Json.Members.required metadata.toFields "tx" Json.toFixedBytes? =
      some metadata.hash :=
    Json.Members.required_of_mem distinct (by simp [toFields]) (Json.toFixedBytes?_toJson _)
  have sender : Json.Members.required metadata.toFields "from" Json.toFixedBytes? =
      some metadata.sender :=
    Json.Members.required_of_mem distinct (by simp [toFields]) (Json.toFixedBytes?_toJson _)
  have receiver : Json.Members.optional metadata.toFields "to" none
      (Json.toOption? Json.toFixedBytes?) = some metadata.receiver := by
    refine Json.Members.optional_of_mem distinct (by simp [toFields]; rfl) _ ?_
    cases metadata.receiver with
    | none => rfl
    | some receiver => exact Json.toOption?_toJson receiver
  have value : Json.Members.optional metadata.toFields "value" "0" Json.toText? =
      some metadata.value :=
    Json.Members.optional_of_mem distinct (by simp [toFields]) _ (Json.toText?_text _)
  have gasPrice : Json.Members.optional metadata.toFields "gasprice" "0" Json.toText? =
      some metadata.gasPrice :=
    Json.Members.optional_of_mem distinct (by simp [toFields]) _ (Json.toText?_text _)
  have gasUsed : Json.Members.optional metadata.toFields "gasused" 0 Json.toUInt64? =
      some metadata.gasUsed :=
    Json.Members.optional_of_mem distinct (by simp [toFields]) _ (Json.toUInt64?_uint64 _)
  rw [ofFields?, block, hash, sender, receiver, value, gasPrice, gasUsed]
  rfl

/-- A value that holds the fields of metadata is read as the metadata. -/
theorem ofJson?_of_fields (metadata : TxMetadata) {value : Json}
    (holds : value.fieldsOf? fieldNames = some metadata.toFields) :
    ofJson? value = some metadata := by
  rw [ofJson?, holds, Option.bind_eq_bind, Option.bind_some]
  exact metadata.ofFields?_toFields

/-- Metadata is read from its JSON form. -/
theorem ofJson?_toJson (metadata : TxMetadata) : ofJson? metadata.toJson = some metadata :=
  metadata.ofJson?_of_fields (Json.fieldsOf?_fields _ _)

theorem plain_toJson (metadata : TxMetadata) : metadata.toJson.Plain :=
  .fields metadata.plain_of_mem_toFields

end TxMetadata

namespace TraceRecord

/-- The fields that are not the record's own are those of its metadata. -/
theorem filter_toFields (record : TraceRecord) :
    (record.toFields.filter fun member => !ownFields.contains member.1) =
      record.metadata.toFields := by
  rw [toFields, TxMetadata.toFields]
  rfl

/-- The fields of the metadata can be taken in whole. -/
theorem isSound_toFields (metadata : TxMetadata) (room : Nat) :
    metadata.toFields.all fun member => member.2.isSound room := by
  rw [TxMetadata.toFields, List.all_eq_true]
  simp only [List.forall_mem_cons]
  refine ⟨Json.isSound_uint64 _ _, rfl, rfl, ?_, rfl, rfl, Json.isSound_uint64 _ _,
    List.forall_mem_nil _⟩
  -- A transaction that creates a contract has no receiver, and writes `null` for it.
  cases metadata.receiver <;> rfl

/-- A record is read from its JSON form. -/
theorem ofJson?_toJson (record : TraceRecord) : ofJson? record.toJson = some record := by
  have distinct := record.nodup_toFields
  have version : Json.Members.required record.toFields "version" Json.toText? =
      some record.version :=
    Json.Members.required_of_mem distinct (by simp [toFields]) (Json.toText?_text _)
  have functionTrace : Json.Members.required record.toFields "functrace" Json.toText? =
      some record.functionTrace :=
    Json.Members.required_of_mem distinct (by simp [toFields]) (Json.toText?_text _)
  have eventTrace : Json.Members.required record.toFields "eventtrace" Json.toText? =
      some record.eventTrace :=
    Json.Members.required_of_mem distinct (by simp [toFields]) (Json.toText?_text _)
  have transferTrace : Json.Members.required record.toFields "transferlogs" Json.toText? =
      some record.transferTrace :=
    Json.Members.required_of_mem distinct (by simp [toFields]) (Json.toText?_text _)
  have complete : Json.Members.required record.toFields "complete" Json.toBool? =
      some record.complete :=
    Json.Members.required_of_mem distinct (by simp [toFields]) (Json.toBool?_bool record.complete)
  have recordedAt : Json.Members.required record.toFields "recorded_at" Json.toText? =
      some record.recordedAt :=
    Json.Members.required_of_mem distinct (by simp [toFields]) (Json.toText?_text _)
  have sound : (!record.metadata.toFields.all fun member => member.2.isSound nesting) = false := by
    rw [isSound_toFields, Bool.not_true]
  rw [ofJson?, toJson, Json.members?_fields]
  change (if !((record.toFields.filter fun member => !ownFields.contains member.1).all _) then _
    else _) = _
  rw [filter_toFields, sound, if_neg Bool.false_ne_true, version, functionTrace, eventTrace,
    transferTrace, complete, recordedAt, TxMetadata.ofFields?_toFields]
  rfl

end TraceRecord

end CallTrace
