/-
# What a torn line costs

A store that is stopped in the middle of a record leaves the beginning of a line behind. The
line has no end, so it is the last one that a reader sees, and it holds no record, unless only
its line break is missing. A reader gives up at such a line, and with it everything that was
read before. A store that is opened again goes on where the file ends: its first record comes
to stand on the torn line, which then holds no record in any case, and a reader reaches none of
the records behind it either.
-/

import CallTrace.Proofs.Json.Prefix
import CallTrace.Proofs.Store.Visits

namespace CallTrace

namespace TraceRecord

variable (record : TraceRecord)

/-- A record is written with its version first. -/
theorem exists_write_toJson :
    ∃ text, record.toJson.write = '\x7b' :: '"' :: 'v' :: text := by
  have name : Json.quoted "version".toList =
      ['"', 'v', 'e', 'r', 's', 'i', 'o', 'n', '"'] := by decide
  rw [toJson, toFields, List.cons_append, Json.write_fields, Json.writeMember, name]
  exact ⟨_, rfl⟩

theorem exists_encoded : ∃ bytes, record.encoded = 0x7b :: 0x22 :: bytes := by
  obtain ⟨text, written⟩ := record.exists_write_toJson
  rw [encoded, written]
  exact ⟨_, rfl⟩

theorem head?_encoded : record.encoded.head? = some 0x7b := by
  obtain ⟨bytes, begins⟩ := record.exists_encoded
  rw [begins, List.head?_cons]

variable {record} {torn behind : List UInt8} (parts : torn ++ behind = record.encoded)
  (something : torn ≠ [])
include parts something

/-- Where the JSON form of a record is cut off, there is a text that begins with its brace, or
there is no text, whatever record comes next. -/
theorem decode?_torn :
    (∃ front back, '\x7b' :: front ++ back = record.toJson.write ∧
        torn = Utf8.encode ('\x7b' :: front) ∧ behind = Utf8.encode back) ∨
      Utf8.decode? torn = none ∧
        ∀ next : TraceRecord, Utf8.decode? (torn ++ next.encoded) = none := by
  rcases Utf8.decode?_of_prefix parts with ⟨front, back, whole, rfl⟩ | damaged
  · obtain ⟨text, written⟩ := record.exists_write_toJson
    cases front with
    | nil => exact absurd rfl something
    | cons c front =>
        obtain rfl : c = '\x7b' := by
          rw [written] at whole
          exact (List.cons.inj whole).1
        refine .inl ⟨front, back, whole, rfl, ?_⟩
        rw [encoded, ← whole, Utf8.encode_append] at parts
        exact List.append_cancel_left parts
  · refine .inr ⟨?_, fun next => damaged next.encoded ?_⟩
    · have alone := damaged [] (by simp)
      rwa [List.append_nil] at alone
    · rw [next.head?_encoded]
      simp

end TraceRecord

namespace LineStore

/-- Why a line holds no record, if it holds none: its text is none, or it is not of a record. -/
def lineFault (number : Nat) (line : List UInt8) : StoreError :=
  if (Utf8.decode? line).isSome then .malformedRecord number else .readFailed

/-- A line that begins with a brace is read as what its text holds. -/
theorem readLine_brace (number : Nat) (text : List Char) :
    readLine number (Utf8.encode ('\x7b' :: text)) =
      match Json.ofText? ('\x7b' :: text) >>= TraceRecord.ofJson? with
      | some record => .ok (some record)
      | none => .error (.malformedRecord number) := by
  have brace : Text.isBlank '\x7b' = false := by decide
  rw [readLine, Utf8.decode?_encode]
  simp only [List.all_cons, brace, Bool.false_and]
  rfl

theorem lineFault_encode (number : Nat) (text : List Char) :
    lineFault number (Utf8.encode text) = .malformedRecord number := by
  rw [lineFault, Utf8.decode?_encode]
  rfl

section Line

variable {record : TraceRecord} {torn behind : List UInt8}
  (parts : torn ++ behind = record.encoded) (something : torn ≠ []) (number : Nat)
include parts something

/-- The beginning of a record on a line of its own is no record. -/
theorem readLine_torn (lacking : behind ≠ []) :
    readLine number torn = .error (lineFault number torn) := by
  rcases TraceRecord.decode?_torn parts something with
    ⟨front, back, whole, rfl, rfl⟩ | ⟨damaged, -⟩
  · obtain ⟨inside, written⟩ := record.write_toJson
    have more : back ≠ [] := by
      rintro rfl
      exact lacking rfl
    rw [readLine_brace, lineFault_encode,
      Json.ofText?_of_prefix record.plain_toJson written whole (List.cons_ne_nil _ _) more]
    rfl
  · rw [readLine, lineFault, damaged]
    rfl

/-- The beginning of a record is no record with a whole one behind it either. -/
theorem readLine_torn_append (next : TraceRecord) :
    readLine number (torn ++ next.encoded) = .error (lineFault number torn) := by
  rcases TraceRecord.decode?_torn parts something with
    ⟨front, back, whole, rfl, -⟩ | ⟨damaged, damagedToo⟩
  · obtain ⟨inside, written⟩ := record.write_toJson
    obtain ⟨text, writtenToo⟩ := next.exists_write_toJson
    rw [TraceRecord.encoded, ← Utf8.encode_append, List.cons_append, readLine_brace,
      lineFault_encode, ← List.cons_append,
      Json.ofText?_of_prefix_append record.plain_toJson written whole (List.cons_ne_nil _ _)
        next.plain_toJson writtenToo (by decide)]
    rfl
  · rw [readLine, lineFault, damaged, damagedToo]
    rfl

end Line

section File

variable {record : TraceRecord} {torn behind : List UInt8}
  (parts : torn ++ behind = record.encoded)
include parts

theorem noBreak_torn : ∀ byte ∈ torn, (byte == 10) = false := by
  intro byte member
  exact record.noBreak_encoded byte (parts ▸ List.mem_append_left behind member)

/-- The last line of a file may lack its line break. -/
theorem splitLines_torn (something : torn ≠ []) : splitLines torn = [torn] := by
  rw [splitLines, Text.splitAt_of_forall_not (noBreak_torn parts), trimLines,
    if_neg (by simpa using something)]

/-- A file that ends in the beginning of a record is read without it if nothing is left of it,
and with it if only its line break is missing; else a reader gives up. -/
theorem readBytes_torn (records : List TraceRecord) :
    readBytes (records.flatMap (·.line) ++ torn) =
      if torn = [] then .ok records
      else if behind = [] then .ok (records ++ [record])
      else .error (lineFault (records.length + 1) torn) := by
  split_ifs with nothing whole
  · rw [nothing, List.append_nil]
    exact readBytes_lines records
  · rw [whole] at parts
    rw [readBytes, readLines_lines, splitLines_torn parts nothing, readLines,
      ← List.append_nil torn, parts, readLine_encoded]
    rfl
  · rw [readBytes, readLines_lines, splitLines_torn parts nothing, readLines,
      readLine_torn parts nothing _ whole, Nat.add_comm 1]
    rfl

/-- Further records behind the beginning of a record are read if nothing is left of it; else a
reader gives up. -/
theorem readBytes_torn_append (records : List TraceRecord) (next : TraceRecord)
    (later : List TraceRecord) :
    readBytes (records.flatMap (·.line) ++ torn ++ (next :: later).flatMap (·.line)) =
      if torn = [] then .ok (records ++ next :: later)
      else .error (lineFault (records.length + 1) torn) := by
  split_ifs with nothing
  · rw [nothing, List.append_nil, ← List.flatMap_append]
    exact readBytes_lines _
  · have line : records.flatMap (·.line) ++ torn ++ (next :: later).flatMap (·.line) =
        records.flatMap (·.line) ++
          (torn ++ next.encoded ++ 10 :: later.flatMap (·.line)) := by
      rw [List.flatMap_cons, TraceRecord.line]
      simp only [List.append_assoc, List.cons_append, List.nil_append]
    have noBreak : ∀ byte ∈ torn ++ next.encoded, (byte == 10) = false :=
      List.forall_mem_append.mpr ⟨noBreak_torn parts, next.noBreak_encoded⟩
    have last : (torn ++ next.encoded).getLast? ≠ some 13 := by
      rw [List.getLast?_append_of_ne_nil _ next.encoded_ne_nil]
      exact next.getLast?_encoded
    rw [line, readBytes, readLines_lines, splitLines_append noBreak last, readLines,
      readLine_torn_append parts nothing, Nat.add_comm 1]
    rfl

end File

section Crash

variable {tree opened : FileTree} {path : String} {store : LineStore FileHandle}

/-- What a crash in the middle of a record costs. Let records be put at a path where there was
no file, or an empty one, and let the first bytes of the line of a further record be left at
the end of the file. If this is nothing, all is as it was. If only the line break is missing,
the further record is read with the others. Else a reader reports the torn line and gives up,
and none of the records is had. Stores that are opened there again take all records that they
are offered, but of these and of the records before them none can be read, unless nothing was
left of the torn line. -/
theorem torn_line_hides_all_records (opens : openAt tree path = (.ok store, opened))
    (blank : tree.node? store.writer.device.location = none ∨
      tree.node? store.writer.device.location = some (.file []))
    (records : List TraceRecord) (record : TraceRecord) {size : Nat}
    (inside : size < record.line.length) (later : List (List TraceRecord)) :
    let torn := record.line.take size
    let written := (visit path records tree).2
    let crashed := (written.append store.writer.device.location torn).2
    let reopened := visitAll path later crashed
    let fault := lineFault (records.length + 1) torn
    readAt crashed path =
        (if size = 0 then .ok records
        else if size + 1 = record.line.length then .ok (records ++ [record])
        else .error fault) ∧
      reopened.1 =
        later.map (fun records => .ok ⟨records.map fun _ => true, records.length⟩) ∧
      (later.flatten ≠ [] → readAt reopened.2 path =
        if size = 0 then .ok (records ++ later.flatten) else .error fault) := by
  intro torn written crashed reopened fault
  obtain ⟨base, location, openedAt⟩ := openAt_ok opens
  have rest : AtRest (HandleHolds base location) [] store := openedAt.atRest_of_blank blank
  have put : base.Holds location (records.flatMap (·.line)) written :=
    (visit_of_atRest opens (rest.takes openedAt.takesSome) openedAt.written_eq records).2
  have left : base.Holds location (records.flatMap (·.line) ++ torn) crashed :=
    openedAt.location_eq ▸ (put.append torn).2
  obtain ⟨told, last⟩ := openedAt.visitAll_again left later
  -- What is left of the line is the beginning of the record without its line break.
  have length : record.line.length = record.encoded.length + 1 := List.length_append
  have short : torn = record.encoded.take size :=
    List.take_append_of_le_length (by omega)
  have parts : torn ++ record.encoded.drop size = record.encoded := by
    rw [short, List.take_append_drop]
  have nothing : torn = [] ↔ size = 0 := by
    rw [short, List.take_eq_nil_iff, or_iff_left record.encoded_ne_nil]
  have whole : record.encoded.drop size = [] ↔ size + 1 = record.line.length := by
    rw [List.drop_eq_nil_iff]
    omega
  refine ⟨?_, told, fun some => ?_⟩
  · rw [readAt, openedAt.opened.read_of_holds left]
    simp only [readBytes_torn parts, nothing, whole]
    rfl
  · obtain ⟨next, others, more⟩ := List.exists_cons_of_ne_nil some
    rw [readAt, openedAt.opened.read_of_holds last, more]
    simp only [readBytes_torn_append parts, nothing]
    rfl

/-- One byte is left of the second record. The first record can no longer be read, and neither
can the third, which a store takes that is opened behind them. -/
theorem torn_line_between_records :
    let tree : FileTree := ⟨[], []⟩
    let location : Location := ["traces.jsonl"]
    let opened : FileTree := ⟨[(location, .file [])], []⟩
    let store : LineStore FileHandle := ⟨"traces.jsonl", .new ⟨opened, location, .ample⟩, 0⟩
    let record (mark : UInt8) : TraceRecord :=
      { version := "1.0.0"
        metadata :=
          ⟨1, ⟨.replicate 32 mark, List.length_replicate⟩, .zero 20, none, "0", "1", 21000⟩
        functionTrace := ""
        eventTrace := ""
        transferTrace := ""
        complete := true
        recordedAt := "now" }
    let written := (visit "traces.jsonl" [record 1] tree).2
    let crashed := (written.append location [0x7b]).2
    let reopened := visitAll "traces.jsonl" [[record 3]] crashed
    openAt tree "traces.jsonl" = (.ok store, opened) ∧
      tree.node? location = none ∧
      1 < (record 2).line.length ∧ (record 2).line.take 1 = [0x7b] ∧
      readAt crashed "traces.jsonl" = .error (.malformedRecord 2) ∧
      reopened.1 = [.ok ⟨[true], 1⟩] ∧
      readAt reopened.2 "traces.jsonl" = .error (.malformedRecord 2) := by
  intro tree location opened store record written crashed reopened
  have opens : openAt tree "traces.jsonl" = (.ok store, opened) := rfl
  have absent : tree.node? location = none := rfl
  obtain ⟨bytes, begins⟩ := (record 2).exists_encoded
  have length : (record 2).line.length = bytes.length + 3 := by
    rw [TraceRecord.line, begins]
    simp
  have inside : 1 < (record 2).line.length := by omega
  have torn : (record 2).line.take 1 = [0x7b] := by
    rw [TraceRecord.line, begins]
    rfl
  have fault : lineFault 2 [0x7b] = .malformedRecord 2 := by decide
  obtain ⟨read, told, last⟩ :=
    torn_line_hides_all_records opens (.inl absent) [record 1] (record 2) inside [[record 3]]
  rw [torn, if_neg (by decide), if_neg (by omega)] at read
  rw [torn] at told last
  refine ⟨opens, absent, inside, torn, read.trans (congrArg _ fault), told, ?_⟩
  refine (last (by simp)).trans ?_
  rw [if_neg (by decide)]
  exact congrArg _ fault

/-- A reader does not pass over a torn line: not all that was put before it can be read. -/
theorem torn_line_is_not_passed_over :
    ¬ ∀ (records : List TraceRecord) (record : TraceRecord) (size : Nat),
      size < record.line.length →
        readBytes (records.flatMap (·.line) ++ record.line.take size) = .ok records := by
  intro passes
  let record : TraceRecord := ⟨"1.0.0", default, "", "", "", true, "now"⟩
  obtain ⟨bytes, begins⟩ := record.exists_encoded
  have torn := passes [] record 1 (by rw [TraceRecord.line, begins]; simp)
  rw [TraceRecord.line, begins] at torn
  have refused : readBytes [0x7b] = .error (.malformedRecord 1) := rfl
  exact absurd (refused.symm.trans torn) (by simp)

end Crash

end LineStore

end CallTrace
