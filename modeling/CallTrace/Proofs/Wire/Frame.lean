/-
# Frames and logs are read as they were written

A frame is read from any object that holds its fields and holds no field twice, since a step
of a recording shows the fields of its frame beside one of its own. The same is true of
logs.
-/

import CallTrace.Proofs.Json.Fields
import CallTrace.Wire.Event

namespace CallTrace

theorem CallType.ofJson?_toJson (callType : CallType) :
    ofJson? callType.toJson = some callType := by
  cases callType <;> rfl

theorem CallType.ofWhole?_toJson (callType : CallType) :
    ofWhole? callType.toJson = some callType := by
  cases callType <;> rfl

/-- The label of a kind of call may stand before a value that tells nothing. An object without
members is one only where the frame was taken in whole before. -/
theorem CallType.ofJson?_labelled (callType : CallType) :
    ofJson? (.fields [(callType.label, .null)]) = some callType ∧
      ofWhole? (.fields [(callType.label, .null)]) = some callType ∧
      ofJson? (.fields [(callType.label, .fields [])]) = none ∧
      ofWhole? (.fields [(callType.label, .fields [])]) = some callType := by
  cases callType <;> exact ⟨rfl, rfl, rfl, rfl⟩

section Frame

variable (frame : CallFrame)

theorem CallFrame.plain_of_mem_toFields : ∀ member ∈ frame.toFields, member.2.Plain := by
  rw [toFields]
  simp only [List.forall_mem_cons]
  exact ⟨Json.plain_uint64 _, .text _, Json.plain_uint64 _, Json.plain_toJson _,
    Json.plain_toJson _, .text _, Json.plain_uint64 _, .text _, .text _, List.forall_mem_nil _⟩

/-- The fields of a frame can be taken in whole. -/
theorem CallFrame.isSound_of_mem_toFields (room : Nat) :
    ∀ member ∈ frame.toFields, member.2.isSound room := by
  rw [toFields]
  simp only [List.forall_mem_cons]
  exact ⟨Json.isSound_uint64 _ _, Json.isSound_text _ _, Json.isSound_uint64 _ _,
    Json.isSound_text _ _, Json.isSound_text _ _, Json.isSound_text _ _, Json.isSound_uint64 _ _,
    Json.isSound_text _ _, Json.isSound_text _ _, List.forall_mem_nil _⟩

theorem CallFrame.names_toFields : frame.toFields.map (·.1) = fieldNames := rfl

/-- The fields of a frame are all different. -/
theorem CallFrame.nodup_toFields : (frame.toFields.map (·.1)).Nodup := by
  rw [frame.names_toFields]
  decide

/-- A frame is read from members that hold its fields. -/
theorem CallFrame.ofFields?_of_subset {callTypeOf? : Json → Option CallType}
    (callTypes : callTypeOf? frame.callType.toJson = some frame.callType)
    {members : Json.Members} (distinct : (members.map (·.1)).Nodup)
    (holds : frame.toFields ⊆ members) : ofFields? callTypeOf? members = some frame := by
  have index : members.required "index" Json.toUInt64? = some frame.index :=
    Json.Members.required_of_mem distinct (holds (by simp [toFields])) (Json.toUInt64?_uint64 _)
  have callType : members.required "call_type" callTypeOf? = some frame.callType :=
    Json.Members.required_of_mem distinct (holds (by simp [toFields])) callTypes
  have depth : members.required "depth" Json.toUInt64? = some frame.depth :=
    Json.Members.required_of_mem distinct (holds (by simp [toFields])) (Json.toUInt64?_uint64 _)
  have sender : members.required "from" Json.toFixedBytes? = some frame.sender :=
    Json.Members.required_of_mem distinct (holds (by simp [toFields]))
      (Json.toFixedBytes?_toJson _)
  have target : members.required "to" Json.toFixedBytes? = some frame.target :=
    Json.Members.required_of_mem distinct (holds (by simp [toFields]))
      (Json.toFixedBytes?_toJson _)
  have value : members.optional "value" .zero Json.toAmount? = some frame.value :=
    Json.Members.optional_of_mem distinct (holds (by simp [toFields])) _
      (Json.toAmount?_chars _)
  have gas : members.optional "gas" 0 Json.toUInt64? = some frame.gas :=
    Json.Members.optional_of_mem distinct (holds (by simp [toFields])) _
      (Json.toUInt64?_uint64 _)
  have input : members.optional "input" [] Json.toBytes? = some frame.input :=
    Json.Members.optional_of_mem distinct (holds (by simp [toFields])) _ (Json.toBytes?_bytes _)
  have output : members.optional "output" [] Json.toBytes? = some frame.output :=
    Json.Members.optional_of_mem distinct (holds (by simp [toFields])) _ (Json.toBytes?_bytes _)
  rw [ofFields?, index, callType, depth, sender, target, value, gas, input, output]
  rfl

/-- A value that holds the fields of a frame is read as the frame. -/
theorem CallFrame.ofJson?_of_fields {value : Json}
    (holds : value.fieldsOf? fieldNames = some frame.toFields) : ofJson? value = some frame := by
  rw [ofJson?, holds, Option.bind_eq_bind, Option.bind_some]
  exact frame.ofFields?_of_subset frame.callType.ofJson?_toJson frame.nodup_toFields
    (List.Subset.refl _)

theorem CallFrame.ofJson?_toJson : ofJson? frame.toJson = some frame :=
  frame.ofJson?_of_fields (Json.fieldsOf?_fields _ _)

end Frame

section Log

variable (log : LogEvent)

theorem LogEvent.plain_of_mem_toFields : ∀ member ∈ log.toFields, member.2.Plain := by
  rw [toFields]
  simp only [List.forall_mem_cons]
  exact ⟨Json.plain_toJson _, Json.plain_map Json.plain_toJson _, .text _, Json.plain_uint64 _,
    List.forall_mem_nil _⟩

/-- The fields of a log can be taken in whole where an array may stand. -/
theorem LogEvent.isSound_of_mem_toFields (room : Nat) :
    ∀ member ∈ log.toFields, member.2.isSound (room + 1) := by
  have topics : (Json.array (log.topics.map FixedBytes.toJson)).isSound (room + 1) := by
    apply Json.isSound_array
    rw [List.forall_mem_map]
    exact fun topic _ => Json.isSound_text _ room
  rw [toFields]
  simp only [List.forall_mem_cons]
  exact ⟨Json.isSound_text _ _, topics, Json.isSound_text _ _, Json.isSound_uint64 _ _,
    List.forall_mem_nil _⟩

theorem LogEvent.names_toFields : log.toFields.map (·.1) = fieldNames := rfl

/-- The fields of a log are all different. -/
theorem LogEvent.nodup_toFields : (log.toFields.map (·.1)).Nodup := by
  rw [log.names_toFields]
  decide

/-- A log is read from an object that holds its fields. -/
theorem LogEvent.ofFields?_of_subset {members : Json.Members}
    (distinct : (members.map (·.1)).Nodup) (holds : log.toFields ⊆ members) :
    ofFields? members = some log := by
  have address : members.required "address" Json.toFixedBytes? = some log.address :=
    Json.Members.required_of_mem distinct (holds (by simp [toFields]))
      (Json.toFixedBytes?_toJson _)
  have topics : members.optional "topics" [] (Json.toList? Json.toFixedBytes?) =
      some log.topics :=
    Json.Members.optional_of_mem distinct (holds (by simp [toFields])) _
      (Json.toList?_map Json.toFixedBytes?_toJson _)
  have data : members.optional "data" [] Json.toBytes? = some log.data :=
    Json.Members.optional_of_mem distinct (holds (by simp [toFields])) _ (Json.toBytes?_bytes _)
  have depth : members.optional "depth" 0 Json.toUInt64? = some log.depth :=
    Json.Members.optional_of_mem distinct (holds (by simp [toFields])) _
      (Json.toUInt64?_uint64 _)
  rw [ofFields?, address, topics, data, depth]
  rfl

/-- A value that holds the fields of a log is read as the log. -/
theorem LogEvent.ofJson?_of_fields {value : Json}
    (holds : value.fieldsOf? fieldNames = some log.toFields) : ofJson? value = some log := by
  rw [ofJson?, holds, Option.bind_eq_bind, Option.bind_some]
  exact log.ofFields?_of_subset log.nodup_toFields (List.Subset.refl _)

theorem LogEvent.ofJson?_toJson : ofJson? log.toJson = some log :=
  log.ofJson?_of_fields (Json.fieldsOf?_fields _ _)

end Log

end CallTrace
