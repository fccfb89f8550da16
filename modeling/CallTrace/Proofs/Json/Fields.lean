/-
# Fields of written objects

A field is found in an object whose keys are all different, and what was written into a
field is what is read from it: numbers of 64 bits, byte strings, amounts and texts.
-/

import CallTrace.Proofs.Bytes.Decode
import CallTrace.Proofs.Json.Writer
import CallTrace.Wire.Frame

namespace CallTrace.Json

@[simp]
theorem members?_fields (members : List (String × Json)) :
    (fields members).members? = some members := by
  rw [fields, members?]
  induction members with
  | nil => rfl
  | cons member members ih =>
      rw [List.map_cons, List.mapM_cons, ih]
      rfl

@[simp]
theorem fieldsOf?_fields (names : List String) (members : List (String × Json)) :
    (fields members).fieldsOf? names = some members :=
  members?_fields members

/-- Without their names, fields in the order of the names are the same fields. -/
theorem fieldsOf?_values {names : List String} {members : Members}
    (named : members.map (·.1) = names) :
    (array (members.map (·.2))).fieldsOf? names = some members := by
  have together : names.zip (members.map (·.2)) = members := by
    rw [← named]
    exact (List.zip_of_prod rfl rfl).symm
  have count : (members.map (·.2)).length ≤ names.length := by
    rw [← named, List.length_map, List.length_map]
  rw [fieldsOf?, if_pos count, together]

namespace Members

variable {members : Members} {name : String} {value : Json}

/-- A member is found under its key if no other has it. -/
theorem find?_of_mem (distinct : (members.map (·.1)).Nodup) (member : (name, value) ∈ members) :
    members.find? name = some (some value) := by
  have only : members.filter (·.1 == name) = [(name, value)] := by
    induction members with
    | nil => exact absurd member (List.not_mem_nil)
    | cons first rest ih =>
        obtain ⟨fresh, others⟩ := List.nodup_cons.mp distinct
        rcases List.mem_cons.mp member with here | later
        · have none : rest.filter (·.1 == name) = [] := by
            rw [List.filter_eq_nil_iff]
            intro other among same
            have key : other.1 = first.1 := (beq_iff_eq.mp same).trans (congrArg Prod.fst here)
            exact fresh (List.mem_map.mpr ⟨other, among, key⟩)
          rw [← here, List.filter_cons_of_pos (by simp), here, none]
        · have different : first.1 ≠ name := fun same =>
            fresh (List.mem_map.mpr ⟨(name, value), later, same.symm⟩)
          rw [List.filter_cons_of_neg (by simpa using different)]
          exact ih others later
  rw [find?, only]

variable {α : Type} {read : Json → Option α} {result : Option α}

/-- A field that must be there is read from its value. -/
theorem required_of_mem (distinct : (members.map (·.1)).Nodup) (member : (name, value) ∈ members)
    (meaning : read value = result) : members.required name read = result := by
  rw [required, find?_of_mem distinct member]
  exact meaning

/-- A field that may be missing is read from its value if it is there. -/
theorem optional_of_mem (distinct : (members.map (·.1)).Nodup) (member : (name, value) ∈ members)
    (default : α) (meaning : read value = result) :
    members.optional name default read = result := by
  rw [optional, find?_of_mem distinct member]
  exact meaning

section Replace

variable {front back : Members} {other : String} {old new : Json} {default found : α}

/-- What a field holds does not matter to the others. -/
theorem find?_replace (different : name ≠ other) :
    find? (front ++ (name, new) :: back) other = find? (front ++ (name, old) :: back) other := by
  have passed (value : Json) : (front ++ (name, value) :: back).filter (·.1 == other) =
      front.filter (·.1 == other) ++ back.filter (·.1 == other) := by
    rw [List.filter_append, List.filter_cons_of_neg (by simpa using different)]
  rw [find?, passed new, find?, passed old]

/-- If a name is not held twice, its field holds what stands there. -/
theorem find?_middle (once : find? (front ++ (name, old) :: back) name ≠ none) :
    find? (front ++ (name, new) :: back) name = some (some new) := by
  have kept (value : Json) : (front ++ (name, value) :: back).filter (·.1 == name) =
      front.filter (·.1 == name) ++ (name, value) :: back.filter (·.1 == name) := by
    rw [List.filter_append, List.filter_cons_of_pos (by simp)]
  rw [find?, kept old] at once
  rw [find?, kept new]
  cases earlier : front.filter (·.1 == name) with
  | nil =>
      cases later : back.filter (·.1 == name) with
      | nil => rfl
      | cons second others => exact absurd (by rw [earlier, later]; rfl) once
  | cons first others => cases others <;> exact absurd (by rw [earlier]; rfl) once

theorem required_replace (different : name ≠ other)
    (taken : required (front ++ (name, old) :: back) other read = result) :
    required (front ++ (name, new) :: back) other read = result := by
  rw [← taken, required, find?_replace different, required]

theorem optional_replace (different : name ≠ other)
    (taken : optional (front ++ (name, old) :: back) other default read = result) :
    optional (front ++ (name, new) :: back) other default read = result := by
  rw [← taken, optional, find?_replace different, optional]

theorem required_middle (taken : required (front ++ (name, old) :: back) name read = some found) :
    required (front ++ (name, new) :: back) name read = read new := by
  have once : find? (front ++ (name, old) :: back) name ≠ none := by
    intro twice
    rw [required, twice] at taken
    cases taken
  rw [required, find?_middle once]
  rfl

theorem optional_middle
    (taken : optional (front ++ (name, old) :: back) name default read = some found) :
    optional (front ++ (name, new) :: back) name default read = read new := by
  have once : find? (front ++ (name, old) :: back) name ≠ none := by
    intro twice
    rw [optional, twice] at taken
    cases taken
  rw [optional, find?_middle once]
  rfl

end Replace

end Members

section Values

theorem plain_uint64 (value : UInt64) : (uint64 value).Plain :=
  .nat value.toNat

theorem plain_toJson {n : Nat} (bytes : FixedBytes n) : bytes.toJson.Plain :=
  .text _

@[simp]
theorem toText?_text (value : String) : (text value).toText? = some value :=
  rfl

@[simp]
theorem toBool?_bool (value : Bool) : (bool value).toBool? = some value :=
  rfl

@[simp]
theorem toUInt64?_uint64 (value : UInt64) : (uint64 value).toUInt64? = some value := by
  have whole : (JsonNumber.ofNat value.toNat).toNat? = some value.toNat := rfl
  rw [uint64, nat, toUInt64?, whole]
  change (if value.toNat < UInt64.size then some (UInt64.ofNat value.toNat) else none) = _
  rw [if_pos value.toNat_lt, UInt64.ofNat_toNat]

@[simp]
theorem toFixedBytes?_toJson {n : Nat} (value : FixedBytes n) :
    toFixedBytes? value.toJson = some value := by
  have text : value.toJson.toText? = some (String.ofList value.toHex) := rfl
  rw [toFixedBytes?, text]
  simp only [Option.bind_eq_bind, Option.bind_some, String.toList_ofList, FixedBytes.ofHex_toHex]
  rfl

/-- A value that is not `null` is read like one that may be. -/
theorem toOption?_toJson {n : Nat} (value : FixedBytes n) :
    toOption? toFixedBytes? value.toJson = some (some value) := by
  have text : value.toJson = .string (some (String.ofList value.toHex)) := rfl
  rw [text, toOption?, ← text, toFixedBytes?_toJson]
  · rfl
  · simp

/-- A byte string is read from its hexadecimal text. -/
@[simp]
theorem toBytes?_bytes (value : List UInt8) : (bytes value).toBytes? = some value := by
  have text : (bytes value).toText? = some (String.ofList (Hex.encodeMarked value)) := rfl
  rw [toBytes?, text]
  simp only [Option.bind_eq_bind, Option.bind_some, String.toList_ofList, Hex.decode_encodeMarked]
  rfl

/-- An amount is read from its decimal text. -/
@[simp]
theorem toAmount?_chars (value : Amount) : (chars value.toDecimal).toAmount? = some value := by
  rw [chars, toAmount?]
  simp only [Option.bind_eq_bind, Option.bind_some, String.toList_ofList,
    Amount.ofDecimal_toDecimal]
  rfl

/-- An array is plain if the JSON form of each of its values is. -/
theorem plain_map {α : Type} {write : α → Json} (plain : ∀ value, (write value).Plain)
    (values : List α) : (Json.array (values.map write)).Plain :=
  .array (List.forall_mem_map.mpr fun value _ => plain value)

/-- An array is read if each of its items is. -/
theorem toList?_map {α : Type} {read : Json → Option α} {write : α → Json}
    (inverse : ∀ value, read (write value) = some value) (values : List α) :
    toList? read (.array (values.map write)) = some values := by
  rw [toList?]
  induction values with
  | nil => rfl
  | cons value values ih =>
      rw [List.map_cons, List.mapM_cons, inverse, ih]
      rfl

end Values

section Sound

/-- A text can be taken in whole. -/
theorem isSound_text (value : String) (room : Nat) : (text value).isSound room := by
  rw [text, isSound]
  rfl

/-- Numbers of 64 bits can be taken in whole. -/
theorem isSound_uint64 (value : UInt64) (room : Nat) : (uint64 value).isSound room :=
  JsonNumber.isFinite_ofNat value.toNat_lt

/-- An array can be taken in whole if its items can, one level further in. -/
theorem isSound_array {items : List Json} {room : Nat}
    (each : ∀ item ∈ items, item.isSound room) : (array items).isSound (room + 1) := by
  rw [isSound]
  induction items with
  | nil => rfl
  | cons item items ih =>
      rw [areSound, each item List.mem_cons_self,
        ih fun other member => each other (List.mem_cons_of_mem item member)]
      rfl

/-- An object can be taken in whole if the values of its fields can, one level further in. -/
theorem isSound_fields_iff {members : List (String × Json)} {room : Nat} :
    (fields members).isSound (room + 1) ↔ ∀ member ∈ members, member.2.isSound room := by
  rw [fields, isSound]
  induction members with
  | nil => exact iff_of_true rfl (List.forall_mem_nil _)
  | cons member members ih =>
      rw [List.map_cons, areSoundMembers, Option.isSome_some, Bool.true_and, Bool.and_eq_true,
        ih, List.forall_mem_cons]

end Sound

end CallTrace.Json
