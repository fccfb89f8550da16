/-
# A file of lines holds the records that were put

A record is put as one line: its JSON form, in which there is no line break, and a line
break. So the lines of a file are its records, whatever the texts in them, and reading is
the inverse of putting. A store that was opened writes to the file that its path leads to,
and leaves everything else in the tree as it found it, up to the directories it had to make.
-/

import CallTrace.Proofs.File.Tree
import CallTrace.Proofs.Store.BufferedWriter
import CallTrace.Proofs.Text.Split
import CallTrace.Proofs.Wire.Record
import CallTrace.Store.Lines

namespace CallTrace

namespace TraceRecord

/-- The JSON form of a record in bytes. -/
def encoded (record : TraceRecord) : List UInt8 :=
  Utf8.encode record.toJson.write

/-- The line of a record, with its line break. -/
def line (record : TraceRecord) : List UInt8 :=
  record.encoded ++ [10]

/-- The portions in which the JSON form of a record is handed to a writer. -/
def portions (record : TraceRecord) : List (List UInt8) :=
  record.pieces.map Utf8.encode

theorem flatten_portions (record : TraceRecord) : record.portions.flatten = record.encoded := by
  rw [portions, ← Utf8.encode_flatten, record.flatten_pieces]
  rfl

/-- The first portion and the last are the braces around the fields. -/
theorem exists_portions (record : TraceRecord) :
    ∃ fields, record.portions = [0x7b] :: (fields ++ [[0x7d]]) := by
  have braces : ∃ fields, record.pieces = ['\x7b'] :: (fields ++ [['\x7d']]) := ⟨_, rfl⟩
  obtain ⟨fields, pieces⟩ := braces
  have opening : Utf8.encode ['\x7b'] = [0x7b] := by decide
  have closing : Utf8.encode ['\x7d'] = [0x7d] := by decide
  rw [portions, pieces, List.map_cons, List.map_append, List.map_singleton, opening, closing]
  exact ⟨_, rfl⟩

theorem encoded_ne_nil (record : TraceRecord) : record.encoded ≠ [] := by
  obtain ⟨fields, portions⟩ := record.exists_portions
  rw [← record.flatten_portions, portions, List.flatten_cons]
  exact List.cons_ne_nil _ _

theorem line_ne_nil (record : TraceRecord) : record.line ≠ [] :=
  List.append_ne_nil_of_right_ne_nil _ (List.cons_ne_nil _ _)

/-- The JSON form of a record stands in braces. -/
theorem write_toJson (record : TraceRecord) :
    ∃ inside, record.toJson.write = '\x7b' :: (inside ++ ['\x7d']) := by
  rw [toJson, toFields, List.cons_append, Json.write_fields, ← List.append_assoc]
  exact ⟨_, rfl⟩

/-- There is no line break in the JSON form of a record. -/
theorem noBreak_encoded (record : TraceRecord) : ∀ byte ∈ record.encoded, (byte == 10) = false := by
  intro byte member
  rw [beq_eq_false_iff_ne]
  rintro rfl
  obtain ⟨c, inside, code⟩ := Utf8.exists_mem_of_mem_encode member (by decide)
  have visible := record.plain_toJson.visible_write c inside
  rw [code] at visible
  exact absurd visible (by decide)

/-- The JSON form of a record does not end in a carriage return. -/
theorem getLast?_encoded (record : TraceRecord) : record.encoded.getLast? ≠ some 13 := by
  obtain ⟨inside, written⟩ := record.write_toJson
  have closed : Utf8.encode ['\x7d'] = [0x7d] := by decide
  rw [encoded, written, ← List.cons_append, Utf8.encode_append, closed, List.getLast?_concat]
  decide

/-- A line is not taken for a blank one. -/
theorem all_isBlank_write (record : TraceRecord) :
    record.toJson.write.all Text.isBlank = false := by
  obtain ⟨inside, written⟩ := record.write_toJson
  have brace : Text.isBlank '\x7b' = false := by decide
  rw [written, List.all_cons, brace, Bool.false_and]

end TraceRecord

namespace WriteAnswer

/-- What is taken of bytes are the first of them. -/
theorem take_length_of_taken? {answer : WriteAnswer} {bytes taken : List UInt8}
    (takes : answer.taken? bytes = some taken) : bytes.take taken.length = taken := by
  cases answer with
  | all =>
      obtain rfl := Option.some.inj takes
      exact List.take_length
  | first count =>
      obtain rfl := Option.some.inj takes
      rw [List.length_take, List.take_eq_take_iff]
      omega
  | refused => cases takes

/-- Something is taken of whatever is offered. -/
def TakesSome (answer : WriteAnswer) : Prop :=
  answer ≠ .refused ∧ answer ≠ .first 0

theorem TakesSome.exists_taken? {answer : WriteAnswer} (takes : answer.TakesSome)
    {bytes : List UInt8} (something : bytes ≠ []) :
    ∃ taken, answer.taken? bytes = some taken ∧ taken ≠ [] := by
  cases answer with
  | all => exact ⟨bytes, rfl, something⟩
  | first count =>
      refine ⟨bytes.take count, rfl, ?_⟩
      rw [ne_eq, List.take_eq_nil_iff, not_or]
      exact ⟨fun none => takes.2 (congrArg first none), something⟩
  | refused => exact absurd rfl takes.1

theorem takesSome_all : all.TakesSome := ⟨nofun, nofun⟩

end WriteAnswer

/-- At every write a disk takes something of whatever it is offered. -/
def Disk.TakesSome (disk : Disk) : Prop :=
  ∀ place, (disk place).TakesSome

theorem Disk.takesSome_ample : ample.TakesSome :=
  fun _ => WriteAnswer.takesSome_all

namespace LineStore

section Reading

/-- A line up to its break, and the lines behind it. -/
theorem splitLines_append {body : List UInt8} (noBreak : ∀ byte ∈ body, (byte == 10) = false)
    (last : body.getLast? ≠ some 13) (rest : List UInt8) :
    splitLines (body ++ 10 :: rest) = body :: splitLines rest := by
  have cut : Text.splitAt (· == 10) (body ++ 10 :: rest) =
      body :: Text.splitAt (· == 10) rest :=
    Text.splitAt_append_cons noBreak rfl rest
  obtain ⟨next, others, split⟩ := List.exists_cons_of_ne_nil (Text.splitAt_ne_nil (· == 10) rest)
  rw [splitLines, splitLines, cut, split, trimLines, if_neg (by simpa using last)]
  exact List.cons_ne_nil next others

/-- The line of a record is read as the record. -/
theorem readLine_encoded (number : Nat) (record : TraceRecord) :
    readLine number record.encoded = .ok (some record) := by
  have value : (Json.ofText? record.toJson.write >>= TraceRecord.ofJson?) = some record := by
    rw [record.plain_toJson.ofText?_write]
    exact record.ofJson?_toJson
  rw [readLine, TraceRecord.encoded, Utf8.decode?_encode]
  simp only [record.all_isBlank_write, value]
  rfl

/-- Records in front of anything are read, and what follows them is read behind them. -/
theorem readLines_lines (records : List TraceRecord) (rest : List UInt8) (number : Nat) :
    readLines number (splitLines (records.flatMap (·.line) ++ rest)) =
      (readLines (number + records.length) (splitLines rest)).map (records ++ ·) := by
  induction records generalizing number with
  | nil =>
      change readLines number (splitLines rest) = (readLines number (splitLines rest)).map id
      cases readLines number (splitLines rest) <;> rfl
  | cons record records ih =>
      have text : (record :: records).flatMap (·.line) ++ rest =
          record.encoded ++ 10 :: (records.flatMap (·.line) ++ rest) := by
        rw [List.flatMap_cons, TraceRecord.line, List.append_assoc, List.append_assoc]
        rfl
      rw [text, splitLines_append record.noBreak_encoded record.getLast?_encoded, readLines,
        readLine_encoded, ih, List.length_cons, Nat.add_right_comm, Nat.add_assoc]
      cases readLines (number + (records.length + 1)) (splitLines rest) <;> rfl

/-- A file of records is read as the records. -/
theorem readBytes_lines (records : List TraceRecord) :
    readBytes (records.flatMap (·.line)) = .ok records := by
  have whole := readLines_lines records [] 1
  rw [List.append_nil] at whole
  exact whole.trans (congrArg Except.ok (List.append_nil records))

end Reading

section Writing

variable {δ : Type} [ByteSink δ] {holds : List UInt8 → δ → Prop} {bytes : List UInt8}
  {store : LineStore δ}

/-- A store between two records: all that it was given has been handed over. -/
structure AtRest (holds : List UInt8 → δ → Prop) (bytes : List UInt8) (store : LineStore δ) :
    Prop where
  empty : store.writer.buffer = []
  held : holds bytes store.writer.device

/-- Putting a record takes three steps, the portions of its JSON form, the line break and the
flush. The first that fails is told by the error. -/
theorem put_cases (record : TraceRecord) (store : LineStore δ) :
    (∃ writer, store.writer.putAll record.portions = (false, writer) ∧
      store.put record = (.error .serializationFailed, { store with writer := writer })) ∨
    ∃ body, store.writer.putAll record.portions = (true, body) ∧
      ((∃ writer, body.put [10] = (false, writer) ∧
        store.put record = (.error .writeFailed, { store with writer := writer })) ∨
      ∃ whole, body.put [10] = (true, whole) ∧
        ((∃ writer, whole.flush = (false, writer) ∧
          store.put record = (.error .writeFailed, { store with writer := writer })) ∨
        ∃ writer, whole.flush = (true, writer) ∧
          store.put record =
            (.ok (), { store with writer := writer, written := store.written + 1 }))) := by
  have lineBreak : Utf8.encode ['\n'] = [10] := by decide
  rw [LineStore.put, ← TraceRecord.portions, lineBreak]
  rcases store.writer.putAll record.portions with ⟨_ | _, body⟩
  · exact .inl ⟨body, rfl, rfl⟩
  refine .inr ⟨body, rfl, ?_⟩
  rcases ended : body.put [10] with ⟨_ | _, whole⟩
  · exact .inl ⟨whole, rfl, by simp only [ended]⟩
  refine .inr ⟨whole, rfl, ?_⟩
  rcases flushed : whole.flush with ⟨_ | _, writer⟩
  · exact .inl ⟨writer, rfl, by simp only [ended, flushed]⟩
  · exact .inr ⟨writer, rfl, by simp only [ended, flushed]⟩

/-- A record is taken, whatever was left in the buffer before. Its line is in the device then,
behind everything that was given before. -/
theorem put_accepted (accepts : ByteSink.Accepts holds)
    (given : BufferedWriter.Given holds bytes store.writer) (record : TraceRecord) :
    (store.put record).1 = .ok () ∧ AtRest holds (bytes ++ record.line) (store.put record).2 := by
  have form := given.putAll_accepted accepts record.portions
  rw [record.flatten_portions] at form
  -- None of the three steps fails.
  obtain ⟨_, cut, -⟩ | ⟨body, taken, next⟩ := store.put_cases record
  · rw [cut] at form
    exact absurd form.1 Bool.false_ne_true
  rw [taken] at form
  have line := form.2.put_accepted accepts [10]
  obtain ⟨_, refused, -⟩ | ⟨whole, ended, next⟩ := next
  · rw [refused] at line
    exact absurd line.1 Bool.false_ne_true
  rw [ended, List.append_assoc] at line
  obtain ⟨handed, empty, held⟩ := line.2.flush_accepted accepts
  obtain ⟨_, refused, -⟩ | ⟨writer, flushed, put⟩ := next
  · rw [refused] at handed
    exact absurd handed Bool.false_ne_true
  rw [flushed] at empty held
  rw [put]
  exact ⟨rfl, empty, held.held empty⟩

omit [ByteSink δ] in
theorem AtRest.given (rest : AtRest holds bytes store) :
    BufferedWriter.Given holds bytes store.writer :=
  BufferedWriter.given_of_empty rest.held rest.empty

end Writing

section Opening

/-- A handle on the file at a place holds what the file holds. Apart from the file, the tree
is the given one. -/
def HandleHolds (base : FileTree) (location : Location) (contents : List UInt8)
    (handle : FileHandle) : Prop :=
  handle.location = location ∧ base.Holds location contents handle.tree

/-- What the disk takes of a write is added to the file, and its length is told. -/
theorem write_eq {base : FileTree} {location : Location} {contents : List UInt8}
    {handle : FileHandle} (held : HandleHolds base location contents handle)
    (bytes : List UInt8) :
    ∃ later, ByteSink.write bytes handle =
        (((handle.disk 0).taken? bytes).map List.length, later) ∧
      later.disk = handle.disk.later ∧
      HandleHolds base location (contents ++ ((handle.disk 0).taken? bytes).getD []) later := by
  change ∃ later, FileHandle.write bytes handle = _ ∧ _
  obtain ⟨tree, _, disk⟩ := handle
  obtain ⟨rfl, holds⟩ := held
  rw [FileHandle.write]
  cases (disk 0).taken? bytes with
  | none => exact ⟨_, rfl, rfl, rfl, by rwa [Option.getD_none, List.append_nil]⟩
  | some taken =>
      have added := holds.append taken
      simp only at added ⊢
      generalize tree.append _ taken = result at added ⊢
      obtain ⟨_, after⟩ := result
      obtain ⟨rfl, more⟩ := added
      exact ⟨_, rfl, rfl, rfl, more⟩

/-- A file keeps what its disk takes, whatever the disk makes of the writes. -/
theorem keeps_handleHolds (base : FileTree) (location : Location) :
    ByteSink.Keeps (HandleHolds base location) := by
  intro contents handle held bytes
  obtain ⟨later, answer, -, more⟩ := write_eq held bytes
  rw [answer]
  cases taken : (handle.disk 0).taken? bytes with
  | none =>
      rw [taken, Option.getD_none] at more
      exact more
  | some front =>
      rw [taken, Option.getD_some] at more
      simp only [Option.map_some, Option.getD_some, WriteAnswer.take_length_of_taken? taken]
      exact more

/-- Such a handle, on a disk that takes something of whatever it is offered. -/
def HandleTakes (base : FileTree) (location : Location) (contents : List UInt8)
    (handle : FileHandle) : Prop :=
  HandleHolds base location contents handle ∧ handle.disk.TakesSome

/-- On such a disk a file takes everything in the end. -/
theorem accepts_handleTakes (base : FileTree) (location : Location) :
    ByteSink.Accepts (HandleTakes base location) where
  keeps := by
    intro contents handle held bytes
    obtain ⟨later, answer, disk, -⟩ := write_eq held.1 bytes
    refine ⟨keeps_handleHolds base location _ _ held.1 bytes, ?_⟩
    rw [answer]
    simp only [disk]
    exact fun place => held.2 (place + 1)
  takes := by
    intro contents handle held bytes something
    obtain ⟨later, answer, -⟩ := write_eq held.1 bytes
    obtain ⟨taken, takes, some⟩ := (held.2 0).exists_taken? something
    obtain ⟨byte, rest, rfl⟩ := List.exists_cons_of_ne_nil some
    rw [answer, takes]
    exact ⟨rest.length, rfl⟩

theorem AtRest.takes {base : FileTree} {location : Location} {bytes : List UInt8}
    {store : LineStore FileHandle} (rest : AtRest (HandleHolds base location) bytes store)
    (takes : store.writer.device.disk.TakesSome) :
    AtRest (HandleTakes base location) bytes store :=
  ⟨rest.empty, rest.held, takes⟩

/-- Putting a store on another disk moves nothing. -/
theorem AtRest.on {base : FileTree} {location : Location} {bytes : List UInt8}
    {store : LineStore FileHandle} (rest : AtRest (HandleHolds base location) bytes store)
    (disk : Disk) : AtRest (HandleHolds base location) bytes (store.on disk) :=
  ⟨rest.empty, rest.held⟩

/-- The directory that a path is in exists, unless the path does not name one. -/
def HasParent (tree : FileTree) (path : String) : Prop :=
  ∀ directory, Path.parent? path = some directory →
    directory.isEmpty = true ∨ tree.exists? directory = true

/-- What an opened store is. At most directories were added to the tree before its file was
opened, among them the one around the file, and it has written nothing yet. -/
structure OpenedAt (tree : FileTree) (path : String) (store : LineStore FileHandle)
    (base : FileTree) (location : Location) (after : FileTree) : Prop where
  named : path.isEmpty = false
  grown : tree.Grown base
  parent : HasParent base path
  opened : base.Opened path location after
  store_eq : store = ⟨path, .new ⟨after, location, .ample⟩, 0⟩

variable {tree base after : FileTree} {path : String} {location : Location}
  {store : LineStore FileHandle}

/-- Making the directory of a store only adds directories, also where it fails. -/
theorem grown_createParent (tree : FileTree) (path : String) :
    tree.Grown (createParent tree path).2 := by
  rw [createParent]
  cases Path.parent? path with
  | none => exact .refl tree
  | some directory =>
      simp only
      split_ifs with present
      · exact .refl tree
      · have grown := FileTree.Grown.createDirectories directory tree
        generalize tree.createDirectories directory = result at grown ⊢
        obtain ⟨done, later⟩ := result
        cases done <;> exact grown

/-- Once the directory of a store is made, it is there. -/
theorem hasParent_createParent (made : (createParent tree path).1 = .ok ()) :
    HasParent (createParent tree path).2 path := by
  intro directory around
  cases unnamed : directory.isEmpty with
  | true => exact .inl rfl
  | false =>
      refine .inr ?_
      rw [createParent, around] at made ⊢
      simp only [unnamed, Bool.false_or] at made ⊢
      split_ifs at made ⊢ with present
      · exact present
      · have there : (tree.createDirectories directory).1 = .ok () →
            (tree.createDirectories directory).2.exists? directory = true :=
          FileTree.exists?_createDirectories unnamed
        generalize tree.createDirectories directory = result at made there ⊢
        obtain ⟨done, later⟩ := result
        cases done with
        | error fault => exact absurd made (by simp)
        | ok done => exact there rfl

theorem openAt_ok (result : openAt tree path = (.ok store, after)) :
    ∃ base location, OpenedAt tree path store base location after := by
  have grown := grown_createParent tree path
  have parent : (createParent tree path).1 = .ok () → HasParent (createParent tree path).2 path :=
    hasParent_createParent
  rw [openAt, checkPath] at result
  cases named : path.isEmpty with
  | true => simp [named] at result
  | false =>
      rw [named, if_neg Bool.false_ne_true] at result
      split_ifs at result
      · exact absurd result (by simp)
      simp only at result
      generalize createParent tree path = made at grown parent result
      obtain ⟨done, base⟩ := made
      cases done with
      | error fault => simp at result
      | ok done =>
          simp only at result
          cases opened : base.openAppend path with
          | error fault => simp [opened] at result
          | ok found =>
              obtain ⟨location, tree⟩ := found
              simp only [opened] at result
              obtain ⟨same, rfl⟩ := Prod.mk.inj result
              exact ⟨base, location, named, grown, parent rfl, FileTree.openAppend_ok opened,
                (Except.ok.inj same).symm⟩

/-- Where no store could be opened, directories may have been added, and nothing else. -/
theorem grown_of_openAt_error {fault : StoreError}
    (result : openAt tree path = (.error fault, after)) : tree.Grown after := by
  have grown := grown_createParent tree path
  rw [openAt] at result
  cases checked : checkPath tree path with
  | error fault =>
      simp only [checked] at result
      obtain ⟨-, rfl⟩ := Prod.mk.inj result
      exact .refl tree
  | ok done =>
      simp only [checked] at result
      generalize createParent tree path = made at grown result
      obtain ⟨done, base⟩ := made
      cases done with
      | error fault =>
          obtain ⟨-, rfl⟩ := Prod.mk.inj result
          exact grown
      | ok done =>
          simp only at result
          cases opened : base.openAppend path with
          | error fault =>
              simp only [opened] at result
              obtain ⟨-, rfl⟩ := Prod.mk.inj result
              exact grown
          | ok found => simp [opened] at result

theorem OpenedAt.location_eq (opened : OpenedAt tree path store base location after) :
    store.writer.device.location = location := by
  rw [opened.store_eq]
  rfl

theorem OpenedAt.written_eq (opened : OpenedAt tree path store base location after) :
    store.written = 0 := by
  rw [opened.store_eq]

theorem OpenedAt.takesSome (opened : OpenedAt tree path store base location after) :
    store.writer.device.disk.TakesSome := by
  rw [opened.store_eq]
  exact Disk.takesSome_ample

/-- A store whose file was not there before holds nothing yet. -/
theorem OpenedAt.atRest (opened : OpenedAt tree path store base location after)
    (new : tree.node? location = none) : AtRest (HandleHolds base location) [] store := by
  -- At most a directory could have come to the place, and a directory cannot be opened.
  have free : base.node? location = none := by
    rcases opened.grown.node? location with same | ⟨-, directory⟩
    · rw [same, new]
    · exact absurd directory opened.opened.noDirectory
  have made : after = base.set location (.file []) := by
    rcases opened.opened.made with ⟨-, made⟩ | ⟨there, -⟩
    · exact made
    · exact absurd free there
  have proper : location ≠ [] := FileTree.ne_root_of_node? opened.opened.noDirectory
  rw [opened.store_eq, made]
  exact ⟨rfl, rfl, .set proper []⟩

/-- A store whose file was there before goes on behind what the file holds. -/
theorem OpenedAt.atRest_of_file (opened : OpenedAt tree path store base location after)
    {contents : List UInt8} (there : tree.node? location = some (.file contents)) :
    AtRest (HandleHolds base location) contents store := by
  have kept : base.node? location = some (.file contents) := by
    rcases opened.grown.node? location with same | ⟨free, -⟩
    · rw [same, there]
    · exact absurd (free.symm.trans there) (by simp)
  have unchanged : after = base := by
    rcases opened.opened.made with ⟨free, -⟩ | ⟨-, unchanged⟩
    · exact absurd (free.symm.trans kept) (by simp)
    · exact unchanged
  rw [opened.store_eq, unchanged]
  exact ⟨rfl, rfl, .refl kept⟩

/-- A store whose file was not there before, or was empty, holds nothing yet. -/
theorem OpenedAt.atRest_of_blank (opened : OpenedAt tree path store base location after)
    (blank : tree.node? store.writer.device.location = none ∨
      tree.node? store.writer.device.location = some (.file [])) :
    AtRest (HandleHolds base location) [] store := by
  rw [opened.location_eq] at blank
  exact blank.elim opened.atRest opened.atRest_of_file

/-- Among files and directories a store goes on behind what its file holds, or holds nothing
yet if there was no file. -/
theorem OpenedAt.atRest_of_noDevice (opened : OpenedAt tree path store base location after)
    (noDevice : tree.node? location ≠ some .fullDevice) :
    AtRest (HandleHolds base location) ((tree.file? location).getD []) store := by
  have noDirectory : tree.node? location ≠ some .directory := by
    intro directory
    rcases opened.grown.node? location with same | ⟨free, -⟩
    · exact opened.opened.noDirectory (same.trans directory)
    · exact absurd (free.symm.trans directory) (by simp)
  rw [FileTree.file?]
  cases there : tree.node? location with
  | none => exact opened.atRest there
  | some node =>
      cases node with
      | directory => exact absurd there noDirectory
      | file contents => exact opened.atRest_of_file there
      | fullDevice => exact absurd there noDevice

/-- A path at which a store was opened can be opened again, whatever its file holds by now.
The tree stays as it is, and the new store goes on behind what the file holds. -/
theorem OpenedAt.reopen (opened : OpenedAt tree path store base location after)
    {contents : List UInt8} {later : FileTree} (holds : base.Holds location contents later) :
    openAt later path = (.ok ⟨path, .new ⟨later, location, .ample⟩, 0⟩, later) := by
  have leads := opened.opened.resolve_of_holds holds
  have file : later.isDirectory path = false := by
    rw [FileTree.isDirectory, FileTree.find?, leads]
    rfl
  have checked : checkPath later path = .ok () := by
    rw [checkPath, opened.named, file]
    rfl
  have parent : createParent later path = (.ok (), later) := by
    rw [createParent]
    cases around : Path.parent? path with
    | none => rfl
    | some directory =>
        have present : (directory.isEmpty || later.exists? directory) = true := by
          rw [Bool.or_eq_true]
          exact (opened.parent directory around).imp_right
            (holds.exists? opened.opened.noDirectory)
        simp only [present, if_true]
  have found : later.openAppend path = .ok (location, later) := by
    rw [FileTree.openAppend, leads]
  rw [openAt, checked]
  simp only [parent, found]

/-- A file that holds the lines of records is read as the records. -/
theorem OpenedAt.readAt_of_holds (opened : OpenedAt tree path store base location after)
    {later : FileTree} {records : List TraceRecord}
    (holds : base.Holds location (records.flatMap (·.line)) later) :
    readAt later path = .ok records := by
  rw [LineStore.readAt, opened.opened.read_of_holds holds]
  exact readBytes_lines records

/-- The records in the file of a store are those whose lines it holds. -/
theorem OpenedAt.readAt (opened : OpenedAt tree path store base location after)
    {later : LineStore FileHandle} {records : List TraceRecord}
    (rest : AtRest (HandleHolds base location) (records.flatMap (·.line)) later) :
    readAt later.tree path = .ok records :=
  opened.readAt_of_holds rest.held.2

end Opening

end LineStore

end CallTrace
