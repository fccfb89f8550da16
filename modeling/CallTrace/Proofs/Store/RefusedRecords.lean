/-
# What a refused record leaves behind

A record is put in three steps: its JSON form goes to the writer portion by portion, a line break
follows, and the writer is flushed. Each of them may fail, because the device fails or takes only
a part of what it is offered. The record is not counted then, but what the writer had taken of it
by that time is in the device already or stays in the buffer. It stands in front of whatever is
put next, takes up room there, and goes into the device together with the next record that is
stored.
-/

import CallTrace.Proofs.Store.Visits

namespace CallTrace

namespace TraceRecord

variable (record : TraceRecord)

/-- What a record leaves with a store that it was offered to, by the answer of the store. -/
inductive Leaves : Except StoreError Unit → List UInt8 → Prop
  /-- A record that is stored is a line. -/
  | stored : Leaves (.ok ()) record.line
  /-- The JSON form was cut short. -/
  | cut {text missing : List UInt8} (whole : text ++ missing = record.encoded)
      (short : missing ≠ []) : Leaves (.error .serializationFailed) text
  /-- The JSON form was taken, and the line break was not. -/
  | unbroken : Leaves (.error .writeFailed) record.encoded
  /-- The line was taken, and could not be handed over. -/
  | unflushed : Leaves (.error .writeFailed) record.line

/-- Letters are written as they are, between quotes. -/
theorem length_encode_letters (count : Nat) :
    (Utf8.encode (Json.quoted (List.replicate count 'a'))).length = count + 2 := by
  have plain : ∀ c ∈ List.replicate count 'a', Json.escape? c = none := by
    intro c member
    rw [List.eq_of_mem_replicate member]
    decide
  have quote : String.utf8EncodeChar '"' = [0x22] := by decide
  have letter : String.utf8EncodeChar 'a' = [0x61] := by decide
  rw [Json.quoted, Json.flatMap_escaped plain, Utf8.encode, List.flatMap_cons, List.flatMap_append,
    List.flatMap_replicate, letter, List.flatMap_singleton, quote]
  simp

/-- Records that differ in the text of their calls differ in length as these do. -/
theorem length_encoded_functionTrace (text : String) :
    { record with functionTrace := text }.encoded.length +
        (Utf8.encode (Json.quoted record.functionTrace.toList)).length =
      record.encoded.length + (Utf8.encode (Json.quoted text.toList)).length := by
  simp only [← flatten_portions, portions, ← Utf8.encode_flatten, pieces, fieldPieces,
    List.flatten_append, List.flatten_cons, Json.flatten_stringPieces, Utf8.encode_append,
    List.length_append]
  omega

end TraceRecord

namespace BufferedWriter

variable {δ : Type} [ByteSink δ] {holds : List UInt8 → δ → Prop} {bytes : List UInt8}
  {writer : BufferedWriter δ}

/-- Where there is room for the JSON form of a record, it goes into the buffer as a whole. -/
theorem putAll_portions_of_fits {record : TraceRecord}
    (fits : writer.buffer.length + record.encoded.length ≤ capacity) :
    writer.putAll record.portions =
      (true, { writer with buffer := writer.buffer ++ record.encoded }) := by
  rw [← record.flatten_portions] at fits ⊢
  obtain ⟨fields, portions⟩ := record.exists_portions
  rw [portions, List.flatten_cons, List.length_append, List.length_singleton] at fits
  have short : [(0x7b : UInt8)].length < capacity := by decide
  have begun : writer.buffer ++ [(0x7b : UInt8)] ≠ [] := by simp
  rw [portions, putAll, put_of_fits short (by rw [List.length_singleton]; omega),
    List.flatten_cons, ← List.append_assoc]
  apply putAll_of_fits begun
  change (writer.buffer ++ [(0x7b : UInt8)]).length + _ ≤ _
  rw [List.length_append, List.length_singleton]
  omega

/-- Of the JSON form of a record a part is taken, and all of it only if no portion is refused.
Nothing of it is taken exactly if the buffer was full and could not be emptied. -/
theorem Given.putAll_portions (keeps : ByteSink.Keeps holds) (given : Given holds bytes writer)
    (record : TraceRecord) :
    ∃ text missing, text ++ missing = record.encoded ∧
      Given holds (bytes ++ text) (writer.putAll record.portions).2 ∧
      ((writer.putAll record.portions).1 = true ↔ missing = []) ∧
      (text = [] ↔ capacity ≤ writer.buffer.length ∧ writer.flush.1 = false) ∧
      (text = [] → (writer.putAll record.portions).2 = writer.flush.2) := by
  obtain ⟨fields, portions⟩ := record.exists_portions
  have short : [(0x7b : UInt8)].length < capacity := by decide
  obtain ⟨part, rest, split, kept, all, -⟩ := given.put keeps [0x7b]
  have refused_iff : (writer.put [0x7b]).1 = false ↔ _ := put_refused_iff short
  have unmoved : (writer.put [0x7b]).1 = false → _ := put_of_refused short
  rw [List.length_singleton, Nat.lt_succ_iff] at refused_iff
  rw [← record.flatten_portions, portions, BufferedWriter.putAll, ← refused_iff]
  generalize writer.put [0x7b] = result at kept all unmoved ⊢
  obtain ⟨taken, next⟩ := result
  cases taken with
  | false =>
      refine ⟨[], _, rfl, ?_, by simp, by simp, fun _ => unmoved rfl⟩
      rw [unmoved rfl, List.append_nil]
      exact given.flush keeps
  | true =>
      obtain rfl := all rfl
      obtain rfl : part = [0x7b] := by rwa [List.append_nil] at split
      obtain ⟨text, missing, whole, more, complete, cut⟩ :=
        Given.putAll keeps kept (fields ++ [[0x7d]])
      refine ⟨[0x7b] ++ text, missing, ?_, ?_, ⟨complete, fun none => ?_⟩, by simp, by simp⟩
      · rw [List.append_assoc, whole, List.flatten_cons]
      · rwa [← List.append_assoc]
      · -- The last portion is the closing brace, so something is missing where one was refused.
        by_contra refused
        refine cut (Bool.eq_false_iff.mpr refused) [0x7d] ?_ (List.cons_ne_nil _ _) none
        rw [List.getLast?_concat, Option.mem_some]

end BufferedWriter

namespace LineStore

open BufferedWriter (Given capacity)

variable {δ : Type} [ByteSink δ] {holds : List UInt8 → δ → Prop} {bytes : List UInt8}
  {store : LineStore δ} {record : TraceRecord}

/-- A JSON form for which there is room is not cut short. -/
theorem uncut_of_fits (room : store.writer.buffer.length + record.encoded.length ≤ capacity) :
    (store.put record).1 ≠ .error .serializationFailed := by
  obtain ⟨_, cut, -⟩ | ⟨_, -, ⟨_, -, put⟩ | ⟨_, -, ⟨_, -, put⟩ | ⟨_, -, put⟩⟩⟩ :=
    store.put_cases record
  · rw [BufferedWriter.putAll_portions_of_fits room] at cut
    simp at cut
  all_goals
    rw [put]
    simp

/-- A store that was given `bytes` is offered a record. The result is an answer and the store as
it is then, with which the record has left `left`. -/
structure Offered (holds : List UInt8 → δ → Prop) (bytes : List UInt8) (store : LineStore δ)
    (record : TraceRecord) (left : List UInt8) (result : Except StoreError Unit × LineStore δ) :
    Prop where
  leaves : record.Leaves result.1 left
  given : Given holds (bytes ++ left) result.2.writer
  /-- A store that has taken a record has nothing left to hand over. -/
  handed : result.1 = .ok () → result.2.writer.buffer = []
  /-- A line for which there is room is left as a whole. -/
  whole : store.writer.buffer.length + record.line.length ≤ capacity → left = record.line
  /-- Nothing is left exactly if the buffer was full and could not be emptied. -/
  nothing : left = [] ↔ capacity ≤ store.writer.buffer.length ∧ store.writer.flush.1 = false
  /-- Where nothing is left, the record has caused no more than that the buffer was offered. -/
  unseen : left = [] → result.2 = { store with writer := store.writer.flush.2 }

/-- What one put does, whether or not it succeeds. -/
theorem exists_offered (keeps : ByteSink.Keeps holds) (given : Given holds bytes store.writer)
    (record : TraceRecord) : ∃ left, Offered holds bytes store record left (store.put record) := by
  have length : record.line.length = record.encoded.length + 1 := List.length_append
  obtain ⟨text, missing, split, form, all, nothing, unmoved⟩ := given.putAll_portions keeps record
  obtain ⟨writer, cut, put⟩ | ⟨body, taken, next⟩ := store.put_cases record
  · have overflow : ¬ store.writer.buffer.length + record.line.length ≤ capacity := by
      intro room
      rw [BufferedWriter.putAll_portions_of_fits (by omega)] at cut
      simp at cut
    rw [cut] at form all unmoved
    rw [put]
    exact ⟨text, {
      leaves := .cut split fun none => Bool.false_ne_true (all.mpr none)
      given := form
      handed := fun taken => absurd taken (by simp)
      whole := fun room => absurd room overflow
      nothing := nothing
      unseen := fun empty => by
        rw [← unmoved empty] }⟩
  -- From here on the JSON form has been taken as a whole.
  rw [taken] at form all
  obtain rfl : missing = [] := all.mp rfl
  obtain rfl : text = record.encoded := by rwa [List.append_nil] at split
  have possible : ¬ (capacity ≤ store.writer.buffer.length ∧ store.writer.flush.1 = false) :=
    fun impossible => record.encoded_ne_nil (nothing.mpr impossible)
  obtain ⟨part, missing, one, line, ends, stops⟩ := form.put keeps [10]
  obtain ⟨writer, refused, put⟩ | ⟨whole, ended, next⟩ := next
  · have overflow : ¬ store.writer.buffer.length + record.line.length ≤ capacity := by
      intro room
      have fits := taken.symm.trans (BufferedWriter.putAll_portions_of_fits (by omega))
      obtain rfl : body = _ := (Prod.mk.inj fits).2
      rw [BufferedWriter.put_of_fits (by decide)
        (by rw [List.length_append, List.length_singleton]; omega)] at refused
      simp at refused
    rw [refused] at line stops
    obtain rfl : part = [] := by
      obtain _ | ⟨byte, front⟩ := part
      · rfl
      · have nothing := (List.append_eq_nil_iff.mp (List.cons.inj one).2).2
        exact absurd nothing (stops rfl (List.cons_ne_nil _ _))
    rw [List.append_nil] at line
    rw [put]
    exact ⟨record.encoded, {
      leaves := .unbroken
      given := line
      handed := fun taken => absurd taken (by simp)
      whole := fun room => absurd room overflow
      nothing := iff_of_false record.encoded_ne_nil possible
      unseen := fun empty => absurd empty record.encoded_ne_nil }⟩
  rw [ended] at line ends
  obtain rfl := ends rfl
  obtain rfl : part = [10] := by rwa [List.append_nil] at one
  rw [List.append_assoc] at line
  have handed := Given.flush keeps line
  have emptied : whole.flush.1 = true → _ := BufferedWriter.flushed_iff.mp
  obtain ⟨writer, refused, put⟩ | ⟨writer, flushed, put⟩ := next
  · rw [refused] at handed
    rw [put]
    exact ⟨record.line, {
      leaves := .unflushed
      given := handed
      handed := fun taken => absurd taken (by simp)
      whole := fun _ => rfl
      nothing := iff_of_false record.line_ne_nil possible
      unseen := fun empty => absurd empty record.line_ne_nil }⟩
  · rw [flushed] at handed emptied
    rw [put]
    exact ⟨record.line, {
      leaves := .stored
      given := handed
      handed := fun _ => emptied rfl
      whole := fun _ => rfl
      nothing := iff_of_false record.line_ne_nil possible
      unseen := fun empty => absurd empty record.line_ne_nil }⟩

/-- Puts records one after the other. In contrast to what `TraceStore.offerAll` tells, the errors
are kept. -/
def putEach : List TraceRecord → LineStore δ → List (Except StoreError Unit) × LineStore δ
  | [], store => ([], store)
  | record :: records, store =>
    let first := store.put record
    let others := putEach records first.2
    (first.1 :: others.1, others.2)

theorem offerAll_eq_putEach (records : List TraceRecord) (store : LineStore δ) :
    TraceStore.offerAll records store =
      ((putEach records store).1.map (·.isOk), (putEach records store).2) := by
  induction records generalizing store with
  | nil => rfl
  | cons record records ih =>
      rw [TraceStore.offerAll]
      exact congrArg (fun rest => ((store.put record).1.isOk :: rest.1, rest.2)) (ih _)

/-- Every record that was taken is counted, and no other. -/
theorem written_putEach (records : List TraceRecord) (store : LineStore δ) :
    (putEach records store).2.written =
      store.written + ((putEach records store).1.map (·.isOk)).count true := by
  have counted := written_offerAll records store
  rwa [offerAll_eq_putEach] at counted

/-- What records leave one behind the other, by the answers to them. -/
inductive LeftBy :
    List TraceRecord → List (Except StoreError Unit) → List UInt8 → Prop
  | nil : LeftBy [] [] []
  | cons {record : TraceRecord} {answer : Except StoreError Unit} {left : List UInt8}
      {records : List TraceRecord} {answers : List (Except StoreError Unit)} {others : List UInt8}
      (first : record.Leaves answer left) (rest : LeftBy records answers others) :
      LeftBy (record :: records) (answer :: answers) (left ++ others)

theorem LeftBy.eq_line {left : List UInt8} (taken : LeftBy [record] [.ok ()] left) :
    left = record.line := by
  obtain _ | ⟨⟨⟩, ⟨⟩⟩ := taken
  rw [List.append_nil]

/-- Whatever becomes of the records, what they leave stands behind what was given before. It is
in the device when the last of them has been taken. -/
theorem given_putEach (keeps : ByteSink.Keeps holds) (given : Given holds bytes store.writer)
    (records : List TraceRecord) :
    ∃ left, LeftBy records (putEach records store).1 left ∧
      Given holds (bytes ++ left) (putEach records store).2.writer ∧
      ((putEach records store).1.getLast? = some (.ok ()) →
        (putEach records store).2.writer.buffer = []) := by
  induction records generalizing bytes store with
  | nil =>
      refine ⟨[], .nil, ?_, by simp [putEach]⟩
      rwa [List.append_nil]
  | cons record records ih =>
      obtain ⟨left, first⟩ := exists_offered keeps given record
      obtain ⟨others, rest, later, last⟩ := ih first.given
      refine ⟨left ++ others, .cons first.leaves rest, ?_, ?_⟩
      · rwa [← List.append_assoc]
      · intro taken
        cases records with
        | nil =>
            simp only [putEach, List.getLast?_singleton, Option.some.injEq] at taken ⊢
            exact first.handed taken
        | cons next records =>
            simp only [putEach, List.getLast?_cons_cons] at taken last ⊢
            exact last taken

/-- A line for which there is room goes into the buffer, and the buffer is flushed. -/
theorem put_of_fits (room : store.writer.buffer.length + record.line.length ≤ capacity) :
    store.put record =
      let flushed := BufferedWriter.flush ⟨store.writer.buffer ++ record.line, store.writer.device⟩
      if flushed.1 then (.ok (), { store with writer := flushed.2, written := store.written + 1 })
      else (.error .writeFailed, { store with writer := flushed.2 }) := by
  have lineBreak : Utf8.encode ['\n'] = [10] := by decide
  have length : record.line.length = record.encoded.length + 1 := List.length_append
  rw [LineStore.put, ← TraceRecord.portions, lineBreak,
    BufferedWriter.putAll_portions_of_fits (by omega)]
  simp only
  rw [BufferedWriter.put_of_fits (by decide)
    (by rw [List.length_append, List.length_singleton]; omega)]
  simp only [List.append_assoc]
  rw [← TraceRecord.line]
  generalize BufferedWriter.flush ⟨store.writer.buffer ++ record.line, store.writer.device⟩ = result
  obtain ⟨taken, writer⟩ := result
  cases taken <;> rfl

/-- While a device refuses everything, the lines for which there is room gather in the buffer. -/
theorem put_of_refuses
    (refuses : ∀ bytes, ByteSink.write bytes store.writer.device = (none, store.writer.device))
    (room : store.writer.buffer.length + record.line.length ≤ capacity) :
    store.put record = (.error .writeFailed,
      { store with writer.buffer := store.writer.buffer ++ record.line }) := by
  obtain ⟨byte, rest, line⟩ : ∃ byte rest, store.writer.buffer ++ record.line = byte :: rest :=
    List.exists_cons_of_ne_nil (List.append_ne_nil_of_right_ne_nil _ record.line_ne_nil)
  rw [put_of_fits room, line, BufferedWriter.flush_eq, ByteSink.offer_of_stuck (refuses _) nofun]
  rfl

/-- A record that does not fit beside what refused records have left in the buffer is cut short,
if the device still refuses everything. -/
theorem cut_of_refuses
    (refuses : ∀ bytes, ByteSink.write bytes store.writer.device = (none, store.writer.device))
    (bounded : store.writer.buffer.length ≤ capacity)
    (overflow : capacity < store.writer.buffer.length + record.encoded.length) :
    (store.put record).1 = .error .serializationFailed := by
  let holds (contents : List UInt8) (device : δ) : Prop :=
    contents = [] ∧ device = store.writer.device
  have keeps : ByteSink.Keeps holds := by
    rintro contents device ⟨rfl, rfl⟩ bytes
    rw [refuses]
    exact ⟨by simp, rfl⟩
  have given : Given holds store.writer.buffer store.writer := ⟨[], ⟨rfl, rfl⟩, rfl⟩
  obtain ⟨text, missing, split, form, all, -, -⟩ := given.putAll_portions keeps record
  have within := BufferedWriter.length_putAll_le bounded record.portions
  obtain ⟨_, -, put⟩ | ⟨body, taken, -⟩ := store.put_cases record
  · rw [put]
  · rw [taken] at form all within
    obtain rfl : missing = [] := all.mp rfl
    obtain rfl : text = record.encoded := by rwa [List.append_nil] at split
    obtain ⟨_, ⟨rfl, -⟩, held⟩ := form
    have length := congrArg List.length held
    simp only [List.nil_append, List.length_append] at length
    simp only at within
    omega

/-- A disk fills up in the middle of a line. What it has taken of the line stays in the file, and
the rest of the line stays in the buffer. -/
theorem put_of_full_disk {base : FileTree} {location : Location} {store : LineStore FileHandle}
    (rest : AtRest (HandleHolds base location) bytes store) (record : TraceRecord) {count : Nat}
    (takes : store.writer.device.disk 0 = .first (count + 1))
    (full : store.writer.device.disk 1 = .refused)
    (long : count + 1 < record.line.length) (short : record.line.length ≤ capacity) :
    ∃ device, store.put record = (.error .writeFailed,
        { store with writer := ⟨record.line.drop (count + 1), device⟩ }) ∧
      device.disk = store.writer.device.disk.later.later ∧
      HandleHolds base location (bytes ++ record.line.take (count + 1)) device := by
  have room : store.writer.buffer.length + record.line.length ≤ capacity := by
    rwa [rest.empty, List.length_nil, Nat.zero_add]
  rw [put_of_fits room, rest.empty, List.nil_append, BufferedWriter.flush_eq]
  generalize record.line = line at long ⊢
  obtain ⟨byte, others, rfl⟩ : ∃ byte others, line = byte :: others :=
    List.exists_cons_of_ne_nil (by rintro rfl; simp at long)
  obtain ⟨next, behind, left⟩ : ∃ next behind, others.drop count = next :: behind :=
    List.exists_cons_of_ne_nil (by simpa using long)
  obtain ⟨later, begun, second, held⟩ := write_eq rest.held (byte :: others)
  obtain ⟨last, stopped, third, stays⟩ := write_eq held (next :: behind)
  have size : (List.take (count + 1) (byte :: others)).length = count + 1 := by
    rw [List.length_take, Nat.min_eq_left (Nat.le_of_lt long)]
  have refused : later.disk 0 = .refused := by
    rw [second]
    exact full
  rw [takes] at begun stays
  rw [refused] at stopped stays
  simp only [WriteAnswer.taken?, Option.map_some, Option.map_none, size] at begun stopped
  rw [ByteSink.offer_of_taken begun, left, ByteSink.offer_of_stuck stopped nofun]
  refine ⟨last, by rw [List.drop_succ_cons, left]; rfl, by rw [third, second], ?_⟩
  simpa [WriteAnswer.taken?] using stays

/-- A put that fails is not counted, and leaves a part of the record's line in front of all that
is put later: the whole line where the buffer had room for it, and nothing exactly if the buffer
was full and could not be emptied. The error is that of a failed write, except that a JSON form
that did not fit into the buffer and was cut short is told as a record that could not be written
as JSON. With the next record that is taken, everything that refused records have left goes into
the device. -/
theorem refused_record_stands_before_the_next (keeps : ByteSink.Keeps holds)
    (given : Given holds bytes store.writer) {fault : StoreError} {after : LineStore δ}
    (refused : store.put record = (.error fault, after)) :
    after.written = store.written ∧
      (store.writer.buffer.length + record.encoded.length ≤ capacity → fault = .writeFailed) ∧
      ∃ left, record.Leaves (.error fault) left ∧
        (store.writer.buffer.length + record.line.length ≤ capacity → left = record.line) ∧
        (left = [] ↔ capacity ≤ store.writer.buffer.length ∧ store.writer.flush.1 = false) ∧
        (left = [] → after = { store with writer := store.writer.flush.2 }) ∧
        ∀ later : List TraceRecord,
          let result := putEach later after
          result.2.written = store.written + (result.1.map (·.isOk)).count true ∧
            ∃ behind, LeftBy later result.1 behind ∧
              Given holds (bytes ++ left ++ behind) result.2.writer ∧
              (result.1.getLast? = some (.ok ()) →
                holds (bytes ++ left ++ behind) result.2.writer.device) := by
  have counted := written_put record store
  obtain ⟨left, offered⟩ := exists_offered keeps given record
  have uncut : _ → (store.put record).1 ≠ .error .serializationFailed := uncut_of_fits
  rw [refused] at counted offered uncut
  have same : after.written = store.written := counted
  refine ⟨same, fun room => ?_, left, offered.leaves, offered.whole, offered.nothing,
    offered.unseen, ?_⟩
  · cases offered.leaves with
    | cut => exact absurd rfl (uncut room)
    | unbroken | unflushed => rfl
  · intro later result
    obtain ⟨behind, others, held, last⟩ := given_putEach keeps offered.given later
    refine ⟨?_, behind, others, held, fun taken => held.held (last taken)⟩
    rw [← same]
    exact written_putEach later after

/-- A disk fills up in the middle of a record, and has room again for the next one. Both lines
are in the file then, though the first record was told to have failed and is not counted. -/
theorem refused_line_before_stored_line :
    let record (mark : UInt8) : TraceRecord :=
      { version := "1"
        metadata := ⟨1, ⟨.replicate 32 mark, List.length_replicate⟩, .zero 20, none, "0", "1", 0⟩
        functionTrace := ""
        eventTrace := ""
        transferTrace := ""
        complete := true
        recordedAt := "" }
    let tree : FileTree := ⟨[(["traces.jsonl"], .file [])], []⟩
    let disk : Disk := fun place => [.first 10, .refused].getD place .all
    let store : LineStore FileHandle :=
      ⟨"traces.jsonl", .new ⟨tree, ["traces.jsonl"], disk⟩, 0⟩
    ∃ after, putEach [record 1, record 2] store = ([.error .writeFailed, .ok ()], after) ∧
      after.written = 1 ∧
      after.tree.file? ["traces.jsonl"] = some ((record 1).line ++ (record 2).line) := by
  intro record tree disk store
  have sizes : (10 < (record 1).line.length ∧ (record 1).line.length ≤ 400) ∧
      (record 2).line.length ≤ 400 := by
    simp only [TraceRecord.line, ← TraceRecord.flatten_portions]
    decide +kernel
  -- All else is the same for any two records as short as these.
  generalize record 1 = first at sizes ⊢
  generalize record 2 = second at sizes ⊢
  obtain ⟨⟨long, short⟩, shortAfter⟩ := sizes
  have rest : AtRest (HandleHolds tree ["traces.jsonl"]) [] store := ⟨rfl, rfl, .refl rfl⟩
  have within : first.line.length ≤ capacity := short.trans (by decide)
  obtain ⟨device, refused, again, held⟩ :=
    put_of_full_disk rest first rfl rfl long within
  obtain ⟨-, -, left, -, whole, -, -, later⟩ :=
    refused_record_stands_before_the_next (keeps_handleHolds _ _) rest.given refused
  obtain rfl : left = first.line := whole (by rwa [rest.empty, List.length_nil, Nat.zero_add])
  obtain ⟨written, behind, others, -, last⟩ := later [second]
  generalize openedAgain : ({ store with writer := ⟨_, device⟩ } : LineStore FileHandle) = after
    at refused written others last
  have takes : device.disk.TakesSome := again ▸ fun _ => WriteAnswer.takesSome_all
  have given : Given (HandleTakes tree ["traces.jsonl"]) first.line after.writer := by
    rw [← openedAgain]
    refine ⟨_, ⟨held, takes⟩, ?_⟩
    rw [List.nil_append, List.take_append_drop]
  have answers : (putEach [second] after).1 = [.ok ()] := by
    rw [putEach, putEach, (put_accepted (accepts_handleTakes _ _) given second).1]
  rw [answers] at written others last
  rw [List.nil_append] at last
  obtain rfl : behind = second.line := others.eq_line
  refine ⟨(putEach [second] after).2, by rw [putEach, refused, answers], written, ?_⟩
  rw [LineStore.tree, (last rfl).2.file?_eq]

/-- A device that takes nothing refuses a record. The next one would be told as refused in the
same way, but beside what the first has left there is no room for it any more, so that it is told
as a record that could not be written as JSON. -/
theorem refusal_changes_next_answer :
    let tree : FileTree := ⟨[(["dev"], .directory), (["dev", "full"], .fullDevice)], []⟩
    let store : LineStore FileHandle := ⟨"/dev/full", .new ⟨tree, ["dev", "full"], .ample⟩, 0⟩
    let record (text : String) : TraceRecord :=
      { version := "1"
        metadata := ⟨1, ⟨.replicate 32 1, List.length_replicate⟩, .zero 20, none, "0", "1", 0⟩
        functionTrace := text
        eventTrace := ""
        transferTrace := ""
        complete := true
        recordedAt := "" }
    let long := String.ofList (List.replicate 7700 'a')
    openAt tree "/dev/full" = (.ok store, tree) ∧
      (putEach [record long] store).1 = [.error .writeFailed] ∧
      (putEach [record "", record long] store).1 =
        [.error .writeFailed, .error .serializationFailed] := by
  intro tree store record long
  have refuses (bytes : List UInt8) :
      ByteSink.write bytes (⟨tree, ["dev", "full"], .ample⟩ : FileHandle) =
        (none, ⟨tree, ["dev", "full"], .ample⟩) := rfl
  have short : (record "").encoded.length = 282 := by
    rw [← TraceRecord.flatten_portions]
    decide +kernel
  have difference := (record "").length_encoded_functionTrace long
  have empty : (Utf8.encode (Json.quoted (record "").functionTrace.toList)).length = 2 := by decide
  rw [short, empty, String.toList_ofList, TraceRecord.length_encode_letters] at difference
  have whole : (record long).encoded.length = 7982 := Nat.add_right_cancel difference
  refine ⟨rfl, ?_⟩
  generalize record "" = first at short ⊢
  generalize record long = second at whole ⊢
  have length (record : TraceRecord) : record.line.length = record.encoded.length + 1 :=
    List.length_append
  have empty : store.writer.buffer = [] := rfl
  let after : LineStore FileHandle :=
    { store with writer.buffer := store.writer.buffer ++ first.line }
  have refused : store.put first = (.error .writeFailed, after) :=
    put_of_refuses refuses (by rw [empty, List.length_nil, length, short]; decide)
  have alone : (store.put second).1 = .error .writeFailed := by
    rw [put_of_refuses refuses (by rw [empty, List.length_nil, length, whole]; decide)]
  have filled : after.writer.buffer.length = 283 := by
    change (store.writer.buffer ++ first.line).length = 283
    rw [empty, List.nil_append, length, short]
  have cut : (after.put second).1 = .error .serializationFailed :=
    cut_of_refuses refuses (by rw [filled]; decide) (by rw [filled, whole]; decide)
  constructor
  · rw [putEach, putEach, alone]
  · rw [putEach, refused, putEach, putEach, cut]

end LineStore

end CallTrace
