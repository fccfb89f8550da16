/-
# What records add to a file

A store that is offered records one after the other takes some of them and refuses others. Each
record adds to the file in its turn: its line if it was taken, and a beginning of its line if it
was refused, be it nothing or the whole line. What has not reached the file when the store is
closed comes from records behind the last one that was taken.
-/

import CallTrace.Proofs.Store.RefusedRecords

namespace CallTrace

namespace TraceRecord

variable {record : TraceRecord} {answer : Except StoreError Unit} {left : List UInt8}

/-- Whatever a record leaves is a beginning of its line. -/
theorem Leaves.isPrefix (leaves : record.Leaves answer left) : left <+: record.line := by
  cases leaves with
  | stored | unflushed => exact List.prefix_refl _
  | cut whole => exact (whole ▸ List.prefix_append _ _).trans (List.prefix_append _ _)
  | unbroken => exact List.prefix_append _ _

/-- A record that was taken leaves its line. -/
theorem Leaves.eq_line_of_isOk (leaves : record.Leaves answer left) (taken : answer.isOk = true) :
    left = record.line := by
  cases leaves with
  | stored => rfl
  | cut | unbroken | unflushed => cases taken

end TraceRecord

namespace LineStore

open BufferedWriter (Given given_of_empty)

/-- What each of some records adds, by whether it was taken. -/
inductive Adds : List TraceRecord → List Bool → List (List UInt8) → Prop
  | nil : Adds [] [] []
  | cons {record : TraceRecord} {taken : Bool} {part : List UInt8} {records : List TraceRecord}
      {answers : List Bool} {parts : List (List UInt8)} (begins : part <+: record.line)
      (line : taken = true → part = record.line) (rest : Adds records answers parts) :
      Adds (record :: records) (taken :: answers) (part :: parts)

/-- What a file has gained from records, by which of them were taken. Of what they add one after
the other, a beginning is in the file, and in any case what was added up to a record that was
taken. -/
def Gained (records : List TraceRecord) (answers : List Bool) (added : List UInt8) : Prop :=
  ∃ parts, Adds records answers parts ∧ added <+: parts.flatten ∧
    ∀ place, answers[place]? = some true → (parts.take (place + 1)).flatten <+: added

variable {records : List TraceRecord} {answers : List Bool} {parts : List (List UInt8)}
  {added : List UInt8}

theorem Adds.length_eq (adds : Adds records answers parts) : answers.length = parts.length := by
  induction adds with
  | nil => rfl
  | cons _ _ _ ih => exact congrArg (· + 1) ih

theorem Adds.flatten_eq (adds : Adds records answers parts)
    (all : ∀ answer ∈ answers, answer = true) : parts.flatten = records.flatMap (·.line) := by
  induction adds with
  | nil => rfl
  | cons _ line _ ih =>
      rw [List.forall_mem_cons] at all
      rw [List.flatten_cons, List.flatMap_cons, line all.1, ih all.2]

/-- Where every record was taken, their lines were added and nothing else. -/
theorem Gained.eq_lines (gained : Gained records answers added)
    (all : ∀ answer ∈ answers, answer = true) : added = records.flatMap (·.line) := by
  obtain ⟨parts, adds, within, handed⟩ := gained
  rw [← adds.flatten_eq all]
  refine within.eq_of_length_le ?_
  cases size : answers.length with
  | zero =>
      rw [adds.length_eq, List.length_eq_zero_iff] at size
      rw [size]
      exact Nat.zero_le _
  | succ place =>
      -- The last of them was taken, and with it everything is in the file.
      have inside : place < answers.length := by omega
      have last : answers[place]? = some true := by
        rw [List.getElem?_eq_getElem inside, all _ (List.getElem_mem inside)]
      have whole := handed place last
      rw [← size, adds.length_eq, List.take_length] at whole
      exact whole.length_le

section Offering

variable {δ : Type} [ByteSink δ] {holds : List UInt8 → δ → Prop} {bytes : List UInt8}

/-- The devices that hold more than the given bytes. -/
def Above (floor : List UInt8) (holds : List UInt8 → δ → Prop) (contents : List UInt8)
    (device : δ) : Prop :=
  floor <+: contents ∧ holds contents device

/-- What a device holds already stays in it. -/
theorem keeps_above (keeps : ByteSink.Keeps holds) (floor : List UInt8) :
    ByteSink.Keeps (Above floor holds) :=
  fun _ _ held bytes => ⟨held.1.trans (List.prefix_append _ _), keeps _ _ held.2 bytes⟩

/-- Records are offered to a store. What they add stands behind what was given before, and when
one of them has been taken, everything up to it is in the device. -/
theorem exists_adds (keeps : ByteSink.Keeps holds) {store : LineStore δ}
    (given : Given holds bytes store.writer) (records : List TraceRecord) :
    let result := TraceStore.offerAll records store
    ∃ parts contents, Adds records result.1 parts ∧ holds contents result.2.writer.device ∧
      contents ++ result.2.writer.buffer = bytes ++ parts.flatten ∧
      ∀ place, result.1[place]? = some true →
        bytes ++ (parts.take (place + 1)).flatten <+: contents := by
  induction records generalizing holds bytes store with
  | nil =>
      obtain ⟨contents, held, whole⟩ := given
      exact ⟨[], contents, .nil, held, by rw [List.flatten_nil, List.append_nil]; exact whole,
        nofun⟩
  | cons record records ih =>
      intro result
      obtain ⟨left, offered⟩ := exists_offered keeps given record
      have first : result.1 = (store.put record).1.isOk ::
          (TraceStore.offerAll records (store.put record).2).1 := rfl
      have last : result.2 = (TraceStore.offerAll records (store.put record).2).2 := rfl
      rw [first, last]
      cases taken : (store.put record).1.isOk with
      | false =>
          obtain ⟨parts, contents, adds, held, whole, handed⟩ := ih keeps offered.given
          rw [List.append_assoc] at whole
          refine ⟨left :: parts, contents, .cons offered.leaves.isPrefix nofun adds, held, whole,
            ?_⟩
          rintro (_ | place) told
          · cases told
          · rw [List.take_succ_cons, List.flatten_cons, ← List.append_assoc]
            exact handed place told
      | true =>
          have ok : (store.put record).1 = .ok () := by
            cases answer : (store.put record).1 with
            | ok => rfl
            | error => simp [answer, Except.isOk, Except.toBool] at taken
          -- From here on the device holds the line of the record.
          have empty := offered.handed ok
          have next : Given (Above (bytes ++ left) holds) (bytes ++ left)
              (store.put record).2.writer :=
            given_of_empty ⟨List.prefix_refl _, offered.given.held empty⟩ empty
          obtain ⟨parts, contents, adds, held, whole, handed⟩ :=
            ih (keeps_above keeps (bytes ++ left)) next
          rw [List.append_assoc] at whole
          refine ⟨left :: parts, contents, .cons offered.leaves.isPrefix
            (fun _ => offered.leaves.eq_line_of_isOk taken) adds, held.2, whole, ?_⟩
          rintro (_ | place) told
          · rw [Nat.zero_add, List.take_succ_cons, List.take_zero, List.flatten_singleton]
            exact held.1
          · rw [List.take_succ_cons, List.flatten_cons, ← List.append_assoc]
            exact handed place told

end Offering

/-- What the file of a store has gained from the records that were offered to it, when the store
is closed. -/
theorem AtRest.gained_close {base : FileTree} {location : Location} {bytes : List UInt8}
    {store : LineStore FileHandle} (rest : AtRest (HandleHolds base location) bytes store)
    (records : List TraceRecord) :
    ∃ added, Gained records (TraceStore.offerAll records store).1 added ∧
      base.Holds location (bytes ++ added) (TraceStore.offerAll records store).2.close := by
  have keeps := keeps_above (keeps_handleHolds base location) bytes
  have given : Given (Above bytes (HandleHolds base location)) bytes store.writer :=
    given_of_empty ⟨List.prefix_refl _, rest.held⟩ rest.empty
  obtain ⟨parts, contents, adds, held, whole, handed⟩ := exists_adds keeps given records
  -- Closing offers the rest of the buffer once more, and nothing is lost of what is there.
  have left : Given (Above contents (Above bytes (HandleHolds base location)))
      (bytes ++ parts.flatten) (TraceStore.offerAll records store).2.writer :=
    ⟨contents, ⟨List.prefix_refl _, held⟩, whole⟩
  obtain ⟨_, ⟨more, ⟨added, rfl⟩, last⟩, ends⟩ := left.flush (keeps_above keeps contents)
  refine ⟨added, ⟨parts, adds, ?_, fun place taken => ?_⟩, last.2⟩
  · rw [List.append_assoc, List.append_cancel_left_eq] at ends
    exact ends ▸ List.prefix_append _ _
  · exact (List.prefix_append_right_inj bytes).mp ((handed place taken).trans more)

/-- A disk fills up in the middle of a line, and has room again when the store is closed. The
record was told to be refused, and yet its line is in the file as a whole. -/
theorem AtRest.close_of_full_disk {base : FileTree} {location : Location} {bytes : List UInt8}
    {store : LineStore FileHandle} (rest : AtRest (HandleHolds base location) bytes store)
    (record : TraceRecord) {count : Nat}
    (takes : store.writer.device.disk 0 = .first (count + 1))
    (full : store.writer.device.disk 1 = .refused)
    (room : store.writer.device.disk.later.later.TakesSome)
    (long : count + 1 < record.line.length)
    (short : record.line.length ≤ BufferedWriter.capacity) :
    let result := TraceStore.offerAll [record] store
    result.1 = [false] ∧ base.Holds location (bytes ++ record.line) result.2.close := by
  obtain ⟨device, refused, again, held⟩ := put_of_full_disk rest record takes full long short
  have offered : TraceStore.offerAll [record] store =
      ([false], { store with writer := ⟨record.line.drop (count + 1), device⟩ }) := by
    rw [offerAll_eq_putEach, putEach, refused]
    rfl
  rw [offered]
  refine ⟨rfl, ?_⟩
  rw [LineStore.close]
  have given : Given (HandleTakes base location) (bytes ++ record.line)
      ⟨record.line.drop (count + 1), device⟩ := by
    refine ⟨_, ⟨held, again ▸ room⟩, ?_⟩
    rw [List.append_assoc, List.take_append_drop]
  obtain ⟨-, empty, last⟩ := given.flush_accepted (accepts_handleTakes base location)
  exact (last.held empty).1.2

end LineStore

end CallTrace
