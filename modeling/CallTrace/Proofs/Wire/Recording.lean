/-
# Recordings are read as they were written

All values in the JSON form of a recording are read as they were written, so the bytes of
a written recording hold the JSON form itself. From there it is taken apart value by value.
A step shows its kind beside the fields of what it is, under a name that none of these has,
and it never nests too deep to be taken in whole.
-/

import CallTrace.Proofs.Wire.Frame
import CallTrace.Proofs.Wire.Record
import CallTrace.Wire.Recording

namespace CallTrace

namespace Step

theorem plain_toJson (step : Step) : step.toJson.Plain := by
  apply Json.Plain.fields
  rw [List.forall_mem_cons]
  refine ⟨.text _, ?_⟩
  cases step with
  | call frame => exact frame.plain_of_mem_toFields
  | log log => exact log.plain_of_mem_toFields
  | transfer sender receiver value depth =>
      simp only [toFields, List.forall_mem_cons]
      exact ⟨.text _, .text _, .text _, Json.plain_uint64 _, List.forall_mem_nil _⟩

/-- The fields of a step can be taken in whole, its kind with the rest. -/
theorem isSound_of_mem_toFields (step : Step) :
    ∀ member ∈ ("kind", Json.text step.kind) :: step.toFields, member.2.isSound 122 := by
  rw [List.forall_mem_cons]
  refine ⟨Json.isSound_text _ _, ?_⟩
  cases step with
  | call frame => exact frame.isSound_of_mem_toFields _
  | log log => exact log.isSound_of_mem_toFields _
  | transfer sender receiver value depth =>
      simp only [toFields, List.forall_mem_cons]
      exact ⟨Json.isSound_text _ _, Json.isSound_text _ _, Json.isSound_text _ _,
        Json.isSound_uint64 _ _, List.forall_mem_nil _⟩

theorem isSound_toJson (step : Step) : step.toJson.isSound nesting :=
  Json.isSound_fields_iff.mpr step.isSound_of_mem_toFields

/-- The fields of a step are all different, and none of them is called `kind`. -/
theorem nodup_toFields (step : Step) :
    ((("kind", Json.text step.kind) :: step.toFields).map (·.1)).Nodup := by
  rw [List.map_cons, List.nodup_cons]
  cases step with
  | call frame => exact ⟨by simp [toFields, CallFrame.toFields], frame.nodup_toFields⟩
  | log log => exact ⟨by simp [toFields, LogEvent.toFields], log.nodup_toFields⟩
  | transfer sender receiver value depth => exact ⟨by simp [toFields], by simp [toFields]⟩

/-- A movement of native currency is read from an object that holds its fields. -/
theorem transferOfFields?_of_subset {members : Json.Members}
    (distinct : (members.map (·.1)).Nodup) {sender receiver : Address} {value : Amount}
    {depth : UInt64} (holds : (transfer sender receiver value depth).toFields ⊆ members) :
    transferOfFields? members = some (.transfer sender receiver value depth) := by
  have first : members.required "from" Json.toFixedBytes? = some sender :=
    Json.Members.required_of_mem distinct (holds (by simp [toFields]))
      (Json.toFixedBytes?_toJson _)
  have second : members.required "to" Json.toFixedBytes? = some receiver :=
    Json.Members.required_of_mem distinct (holds (by simp [toFields]))
      (Json.toFixedBytes?_toJson _)
  have amount : members.required "value" Json.toAmount? = some value :=
    Json.Members.required_of_mem distinct (holds (by simp [toFields])) (Json.toAmount?_chars _)
  have level : members.required "depth" Json.toUInt64? = some depth :=
    Json.Members.required_of_mem distinct (holds (by simp [toFields])) (Json.toUInt64?_uint64 _)
  rw [transferOfFields?, first, second, amount, level]
  rfl

/-- What holds the fields of a step is read as the step once its kind is known. -/
theorem ofKind?_of_subset (step : Step) {value : Json} {members : Json.Members}
    (taken : value.fieldsOf? (step.toFields.map (·.1)) = some members)
    (distinct : (members.map (·.1)).Nodup) (holds : step.toFields ⊆ members) :
    ofKind? value step.kind = some step := by
  cases step with
  | call frame =>
      change (value.fieldsOf? CallFrame.fieldNames).bind _ = _
      rw [← frame.names_toFields]
      refine (congrArg (Option.bind · _) taken).trans ?_
      rw [Option.bind_some,
        frame.ofFields?_of_subset frame.callType.ofWhole?_toJson distinct holds]
      rfl
  | log log =>
      change (value.fieldsOf? LogEvent.fieldNames).bind _ = _
      rw [← log.names_toFields]
      refine (congrArg (Option.bind · _) taken).trans ?_
      rw [Option.bind_some, log.ofFields?_of_subset distinct holds]
      rfl
  | transfer sender receiver value' depth =>
      refine (congrArg (Option.bind · _) taken).trans ?_
      exact transferOfFields?_of_subset distinct holds

/-- A step that an object holds is read as the field of its kind tells. -/
theorem ofJson?_fields (members : Json.Members) :
    ofJson? (.fields members) =
      if (Json.fields members).isSound nesting then
        (members.required "kind" Json.toText?).bind (ofKind? (.fields members))
      else none := by
  unfold ofJson?
  cases (Json.fields members).isSound nesting with
  | false => rfl
  | true =>
      change (Json.fields members).members?.bind (fun found =>
        (found.required "kind" Json.toText?).bind (ofKind? (.fields members))) = _
      rw [Json.members?_fields]
      rfl

/-- A step is read from its JSON form. -/
theorem ofJson?_toJson (step : Step) : ofJson? step.toJson = some step := by
  have distinct := step.nodup_toFields
  have sound := step.isSound_toJson
  rw [toJson] at sound ⊢
  rw [ofJson?_fields, if_pos sound,
    Json.Members.required_of_mem distinct List.mem_cons_self (Json.toText?_text _)]
  exact step.ofKind?_of_subset (Json.fieldsOf?_fields _ _) distinct (List.subset_cons_self _ _)

/-- A step is read from an array of its kind and its fields. -/
theorem ofJson?_array (step : Step) :
    ofJson? (.array (.text step.kind :: step.toFields.map (·.2))) = some step := by
  have distinct : (step.toFields.map (·.1)).Nodup :=
    (List.nodup_cons.mp (step.nodup_toFields)).2
  have sound : (Json.array (.text step.kind :: step.toFields.map (·.2))).isSound nesting := by
    apply Json.isSound_array
    rw [← List.map_cons (f := fun member : String × Json => member.2) (a := ("kind", _)),
      List.forall_mem_map]
    exact step.isSound_of_mem_toFields
  rw [ofJson?, sound, Bool.not_true, if_neg Bool.false_ne_true]
  simp only [Json.toText?_text, Option.bind_eq_bind, Option.bind_some]
  exact step.ofKind?_of_subset (Json.fieldsOf?_values rfl) distinct (List.Subset.refl _)

end Step

namespace RecordedTransaction

theorem plain_toJson (transaction : RecordedTransaction) : transaction.toJson.Plain := by
  apply Json.Plain.fields
  simp only [List.forall_mem_cons]
  exact ⟨transaction.metadata.plain_toJson, Json.plain_map Step.plain_toJson _,
    List.forall_mem_nil _⟩

/-- A transaction is read from its JSON form. -/
theorem ofJson?_toJson (transaction : RecordedTransaction) :
    ofJson? transaction.toJson = some transaction := by
  let members : Json.Members :=
    [("metadata", transaction.metadata.toJson),
      ("steps", .array (transaction.steps.map Step.toJson))]
  have distinct : (members.map (·.1)).Nodup := by simp [members]
  have metadata : members.required "metadata" TxMetadata.ofJson? = some transaction.metadata :=
    Json.Members.required_of_mem distinct (by simp [members]) transaction.metadata.ofJson?_toJson
  have steps : members.optional "steps" [] (Json.toList? Step.ofJson?) =
      some transaction.steps :=
    Json.Members.optional_of_mem distinct (by simp [members]) _
      (Json.toList?_map Step.ofJson?_toJson _)
  have taken : transaction.toJson.fieldsOf? fieldNames = some members :=
    Json.fieldsOf?_fields _ members
  rw [ofJson?, taken]
  simp only [Option.bind_eq_bind, Option.bind_some, metadata, steps]
  rfl

end RecordedTransaction

namespace Recording

theorem plain_toJson (recording : Recording) : recording.toJson.Plain := by
  apply Json.Plain.fields
  rw [List.forall_mem_singleton]
  exact Json.plain_map RecordedTransaction.plain_toJson _

/-- A recording is read from its JSON form. -/
theorem ofJson?_toJson (recording : Recording) : ofJson? recording.toJson = some recording := by
  let members : Json.Members :=
    [("transactions", .array (recording.transactions.map RecordedTransaction.toJson))]
  have distinct : (members.map (·.1)).Nodup := by simp [members]
  have transactions : members.optional "transactions" []
      (Json.toList? RecordedTransaction.ofJson?) = some recording.transactions :=
    Json.Members.optional_of_mem distinct (by simp [members]) _
      (Json.toList?_map RecordedTransaction.ofJson?_toJson _)
  have taken : recording.toJson.fieldsOf? fieldNames = some members :=
    Json.fieldsOf?_fields _ members
  rw [ofJson?, taken]
  simp only [Option.bind_eq_bind, Option.bind_some, transactions]
  rfl

/-- What the bytes of a written recording come to is decided by its JSON form. -/
theorem ofBytes_encode_write (recording : Recording) :
    ofBytes (Utf8.encode recording.toJson.write) =
      match ofJson? recording.toJson with
      | some read => .ok read
      | none => .error .notRecording := by
  rw [ofBytes, recording.plain_toJson.ofBytes?_encode_write]
  rfl

/-- Frames, logs, metadata, records and recordings are read back from their written texts,
whatever their fields hold: the text of each is taken in by the reader, and what it comes to
is the value that was written. The portions in which a store writes a record make up the same
text, and the bytes of a recording's text are those of a file from which it is read. -/
theorem written_values_are_read_back :
    (∀ frame : CallFrame,
      (Json.ofText? frame.toJson.write >>= CallFrame.ofJson?) = some frame) ∧
    (∀ log : LogEvent, (Json.ofText? log.toJson.write >>= LogEvent.ofJson?) = some log) ∧
    (∀ metadata : TxMetadata,
      (Json.ofText? metadata.toJson.write >>= TxMetadata.ofJson?) = some metadata) ∧
    (∀ record : TraceRecord,
      (Json.ofText? record.toJson.write >>= TraceRecord.ofJson?) = some record ∧
        record.pieces.flatten = record.toJson.write) ∧
    (∀ recording : Recording,
      (Json.ofText? recording.toJson.write >>= ofJson?) = some recording ∧
        ofBytes (Utf8.encode recording.toJson.write) = .ok recording) := by
  refine ⟨fun frame => ?_, fun log => ?_, fun metadata => ?_, fun record => ⟨?_, ?_⟩,
    fun recording => ⟨?_, ?_⟩⟩
  · have plain : frame.toJson.Plain := .fields frame.plain_of_mem_toFields
    exact plain.read_write frame.ofJson?_toJson
  · have plain : log.toJson.Plain := .fields log.plain_of_mem_toFields
    exact plain.read_write log.ofJson?_toJson
  · exact metadata.plain_toJson.read_write metadata.ofJson?_toJson
  · exact record.plain_toJson.read_write record.ofJson?_toJson
  · exact record.flatten_pieces
  · exact recording.plain_toJson.read_write recording.ofJson?_toJson
  · rw [ofBytes_encode_write, recording.ofJson?_toJson]

/-- What a recording holds is read from arrays as well, in which the values of the fields stand
in their order. -/
theorem values_are_read_from_arrays :
    (∀ frame : CallFrame, CallFrame.ofJson? (.array (frame.toFields.map (·.2))) = some frame) ∧
    (∀ log : LogEvent, LogEvent.ofJson? (.array (log.toFields.map (·.2))) = some log) ∧
    (∀ metadata : TxMetadata,
      TxMetadata.ofJson? (.array (metadata.toFields.map (·.2))) = some metadata) ∧
    (∀ step : Step,
      Step.ofJson? (.array (.text step.kind :: step.toFields.map (·.2))) = some step) ∧
    (∀ transaction : RecordedTransaction,
      RecordedTransaction.ofJson? (.array [transaction.metadata.toJson,
        .array (transaction.steps.map Step.toJson)]) = some transaction) ∧
    ∀ recording : Recording,
      ofJson? (.array [.array (recording.transactions.map RecordedTransaction.toJson)]) =
        some recording := by
  refine ⟨fun frame => ?_, fun log => ?_, fun metadata => ?_, Step.ofJson?_array,
    fun transaction => ?_, fun recording => ?_⟩
  · exact frame.ofJson?_of_fields (Json.fieldsOf?_values frame.names_toFields)
  · exact log.ofJson?_of_fields (Json.fieldsOf?_values log.names_toFields)
  · exact metadata.ofJson?_of_fields (Json.fieldsOf?_values metadata.names_toFields)
  · exact transaction.ofJson?_toJson
  · exact recording.ofJson?_toJson

/-- An array without a field is the recording without a transaction. -/
example : ofBytes [0x5b, 0x5d] = .ok ⟨[]⟩ := rfl

end Recording

end CallTrace
