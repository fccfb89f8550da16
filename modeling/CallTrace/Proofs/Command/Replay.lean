/-
# What a replay leaves behind

A replay that fails leaves all files as they were. A replay whose settings, recording and file
can be had ends with a summary, whatever the disk makes of its writes. Its store is offered the
records of the transactions in the order of the recording. The file gains the lines of those
that are stored, and may gain of the others as much as their lines begin with; where the disk
takes what is written, all of them are stored. All other files stay as they were.
-/

import CallTrace.Command.Replay
import CallTrace.Proofs.Replay.Accounts
import CallTrace.Proofs.Store.Additions
import CallTrace.Proofs.Wire.Recording

namespace CallTrace

/-- A new tracer offers the records of a recording to its store. -/
theorem Replay.offerAll_records {σ : Type} [TraceStore σ] (config : TraceConfig) (clock : Clock)
    (recording : Recording) (store : σ) :
    TraceStore.offerAll (records config clock recording.transactions) store =
      ((Replay.recording clock recording (.new config store)).1.outcomes.map (·.stored),
        (Replay.recording clock recording (.new config store)).2.store) := by
  have replayed : Replayed config clock recording.transactions (.new config store) {}
      (Replay.recording clock recording (.new config store)) :=
    Replay.replayed .new clock recording.transactions {}
  exact replayed.store

/-- A store that is open is offered the records of all transactions, and is closed. -/
theorem LineStore.AtRest.recording {base : FileTree} {location : Location} {bytes : List UInt8}
    {store : LineStore FileHandle} (rest : AtRest (HandleHolds base location) bytes store)
    (config : TraceConfig) (clock : Clock) (recording : Recording) :
    let result := Replay.recording clock recording (.new config store)
    Replay.Outcomes config recording.transactions result.1.outcomes ∧
      (store.writer.device.disk.TakesSome →
        ∀ outcome ∈ result.1.outcomes, outcome.stored = true) ∧
      ∃ added,
        Gained (Replay.records config clock recording.transactions)
          (result.1.outcomes.map (·.stored)) added ∧
        base.Holds location (bytes ++ added) result.2.store.close := by
  intro result
  let records := Replay.records config clock recording.transactions
  have offered : TraceStore.offerAll records store =
      (result.1.outcomes.map (·.stored), result.2.store) :=
    Replay.offerAll_records config clock recording store
  refine ⟨(Replay.replayed .new clock recording.transactions {}).outcomes,
    fun takes outcome member => ?_, ?_⟩
  · have taken := ((rest.takes takes).offerAll (accepts_handleTakes base location) records).1
    have flags : result.1.outcomes.map (·.stored) = records.map fun _ => true :=
      (congrArg Prod.fst offered).symm.trans taken
    have flag : outcome.stored ∈ result.1.outcomes.map (·.stored) := List.mem_map_of_mem member
    rw [flags] at flag
    obtain ⟨_, -, stored⟩ := List.mem_map.mp flag
    exact stored.symm
  · obtain ⟨added, gained, holds⟩ := rest.gained_close records
    rw [offered] at gained holds
    exact ⟨added, gained, holds⟩

namespace ReplayArgs

variable {args : ReplayArgs} {tree opened : FileTree} {config : TraceConfig}
  {recording : Recording} {store : LineStore FileHandle}

/-- With settings, a recording and an open store there is nothing left that could fail. -/
theorem run_eq (disk : Disk) (clock : Clock) (settings : args.resolveConfig tree = .ok config)
    (decoded : Recording.loadAt tree args.input = .ok recording)
    (opens : LineStore.openAt tree args.output = (.ok store, opened)) :
    args.run disk clock tree =
      (.ok (Replay.recording clock recording (.new config (store.on disk))).1,
        (Replay.recording clock recording (.new config (store.on disk))).2.store.close) := by
  have loaded : args.load tree = .ok (config, recording) := by
    rw [load, settings, decoded]
    rfl
  rw [run, loaded]
  simp only [opens]

/-- A replay into a new file comes to a summary. If all records of the transactions are stored,
they are in the file, in order. -/
theorem run_new (disk : Disk) (clock : Clock) (settings : args.resolveConfig tree = .ok config)
    (decoded : Recording.loadAt tree args.input = .ok recording)
    (opens : LineStore.openAt tree args.output = (.ok store, opened))
    (new : tree.node? store.writer.device.location = none) :
    ∃ summary, (args.run disk clock tree).1 = .ok summary ∧
      Replay.Outcomes config recording.transactions summary.outcomes ∧
      (disk.TakesSome → ∀ outcome ∈ summary.outcomes, outcome.stored = true) ∧
      ((∀ outcome ∈ summary.outcomes, outcome.stored = true) →
        LineStore.readAt (args.run disk clock tree).2 args.output =
          .ok (Replay.records config clock recording.transactions)) := by
  obtain ⟨base, location, openedAt⟩ := LineStore.openAt_ok opens
  rw [openedAt.location_eq] at new
  obtain ⟨outcomes, stored, added, gained, holds⟩ :=
    ((openedAt.atRest new).on disk).recording config clock recording
  rw [run_eq disk clock settings decoded opens]
  refine ⟨_, rfl, outcomes, stored, fun all => ?_⟩
  rw [gained.eq_lines (List.forall_mem_map.mpr all)] at holds
  exact openedAt.readAt_of_holds holds

/-- A replay that fails has written nothing: at most directories were added. -/
theorem grown_of_run_error {disk : Disk} {clock : Clock} {fault : ReplayError} {after : FileTree}
    (result : args.run disk clock tree = (.error fault, after)) : tree.Grown after := by
  rw [run] at result
  cases loaded : args.load tree with
  | error fault =>
      simp only [loaded] at result
      obtain ⟨-, rfl⟩ := Prod.mk.inj result
      exact .refl tree
  | ok found =>
      obtain ⟨config, recording⟩ := found
      simp only [loaded] at result
      cases opens : LineStore.openAt tree args.output with
      | mk opened later =>
          cases opened with
          | error cause =>
              simp only [opens] at result
              obtain ⟨-, rfl⟩ := Prod.mk.inj result
              exact LineStore.grown_of_openAt_error opens
          | ok store => simp [opens] at result

/-- A replay that comes to a summary had its settings, its recording and its store. -/
theorem exists_of_run_ok {disk : Disk} {clock : Clock} {summary : ReplaySummary}
    {after : FileTree} (result : args.run disk clock tree = (.ok summary, after)) :
    ∃ config recording store opened, args.load tree = .ok (config, recording) ∧
      LineStore.openAt tree args.output = (.ok store, opened) ∧
      summary = (Replay.recording clock recording (.new config (store.on disk))).1 ∧
      after = (Replay.recording clock recording (.new config (store.on disk))).2.store.close := by
  rw [run] at result
  cases loaded : args.load tree with
  | error fault => simp [loaded] at result
  | ok found =>
      obtain ⟨config, recording⟩ := found
      simp only [loaded] at result
      cases opens : LineStore.openAt tree args.output with
      | mk opened later =>
          cases opened with
          | error cause => simp [opens] at result
          | ok store =>
              simp only [opens] at result
              obtain ⟨same, rfl⟩ := Prod.mk.inj result
              exact ⟨config, recording, store, later, rfl, rfl, (Except.ok.inj same).symm, rfl⟩

/-- A replay among files and directories only ever appends, whatever the disk makes of its writes.
One that fails, for its settings, its recording or its store, leaves all files as they were and
adds none. One that comes to a summary changes no file but that of its store, and this one holds
behind what it has held before what it has gained from the records of the transactions, in the
order of the recording: a line for each record that was stored, the record in its JSON form
without a line break in it and a line break behind it, and of each record that was refused a
beginning of its line, which may be nothing and may be the whole line. If no record was refused,
as on a disk that takes something of whatever it is offered, these are the lines of all records
and nothing else. -/
theorem replay_only_appends (disk : Disk) (clock : Clock) (args : ReplayArgs) {tree : FileTree}
    (noDevice : ∀ location, tree.node? location ≠ some .fullDevice) :
    (∀ fault after, args.run disk clock tree = (.error fault, after) →
      tree.Grown after ∧ ∀ location, after.file? location = tree.file? location) ∧
    ∀ summary after, args.run disk clock tree = (.ok summary, after) →
      ∃ config recording store opened, args.load tree = .ok (config, recording) ∧
        LineStore.openAt tree args.output = (.ok store, opened) ∧
        Replay.Outcomes config recording.transactions summary.outcomes ∧
        (disk.TakesSome → ∀ outcome ∈ summary.outcomes, outcome.stored = true) ∧
        let location := store.writer.device.location
        let records := Replay.records config clock recording.transactions
        ∃ added, LineStore.Gained records (summary.outcomes.map (·.stored)) added ∧
          after.read args.output = .ok ((tree.file? location).getD [] ++ added) ∧
          after.file? location = some ((tree.file? location).getD [] ++ added) ∧
          (∀ other, other ≠ location → after.file? other = tree.file? other) ∧
          ((∀ outcome ∈ summary.outcomes, outcome.stored = true) →
            added = records.flatMap (·.line)) ∧
          ∀ record ∈ records, ∃ text, record.line = Utf8.encode text ++ [10] ∧
            10 ∉ Utf8.encode text ∧
            (Json.ofText? text >>= TraceRecord.ofJson?) = some record := by
  refine ⟨fun fault after failed => ?_, fun summary after done => ?_⟩
  · have grown := grown_of_run_error failed
    exact ⟨grown, grown.file?_eq⟩
  · obtain ⟨config, recording, store, opened, loaded, opens, rfl, rfl⟩ := exists_of_run_ok done
    obtain ⟨base, location, openedAt⟩ := LineStore.openAt_ok opens
    have rest := (openedAt.atRest_of_noDevice (noDevice location)).on disk
    obtain ⟨outcomes, stored, added, gained, holds⟩ := rest.recording config clock recording
    refine ⟨config, recording, store, opened, loaded, opens, outcomes, stored, ?_⟩
    rw [openedAt.location_eq]
    refine ⟨added, gained, openedAt.opened.read_of_holds holds, holds.file?_eq, ?_, ?_, ?_⟩
    · intro other different
      exact (holds.file?_of_ne different).trans (openedAt.grown.file?_eq other)
    · exact fun all => gained.eq_lines (List.forall_mem_map.mpr all)
    · intro record _
      have noBreak : 10 ∉ record.encoded := fun member =>
        absurd (record.noBreak_encoded 10 member) (by decide)
      exact ⟨record.toJson.write, rfl, noBreak,
        record.plain_toJson.read_write record.ofJson?_toJson⟩

/-- A disk fills up in the middle of the line of the only record, and has room again when the
store is closed. The record is not stored, and yet its line is in the file. -/
theorem run_of_full_disk {base : FileTree} {location : Location} {bytes : List UInt8}
    {transaction : RecordedTransaction} {count : Nat} (disk : Disk) (clock : Clock)
    (settings : args.resolveConfig tree = .ok config)
    (decoded : Recording.loadAt tree args.input = .ok ⟨[transaction]⟩)
    (opens : LineStore.openAt tree args.output = (.ok store, opened))
    (rest : LineStore.AtRest (LineStore.HandleHolds base location) bytes store)
    (takes : disk 0 = .first (count + 1)) (full : disk 1 = .refused)
    (room : disk.later.later.TakesSome)
    (long : count + 1 < (transaction.record config (clock 0)).line.length)
    (short : (transaction.record config (clock 0)).line.length ≤ BufferedWriter.capacity) :
    ∃ summary after, args.run disk clock tree = (.ok summary, after) ∧
      summary.outcomes.map (·.stored) = [false] ∧
      base.Holds location (bytes ++ (transaction.record config (clock 0)).line) after := by
  have only : Replay.records config clock [transaction] = [transaction.record config (clock 0)] :=
    Replay.records_cons _ _ _
  obtain ⟨told, holds⟩ := (rest.on disk).close_of_full_disk _ takes full room long short
  rw [← only, Replay.offerAll_records config clock ⟨[transaction]⟩] at told holds
  exact ⟨_, _, run_eq disk clock settings decoded opens, told, holds⟩

section Beside

/-- A recording in a file, and a file of records beside it. -/
def beside (recording : Recording) (contents : List UInt8) : FileTree :=
  ⟨[(["run.json"], .file (Utf8.encode recording.toJson.write)),
    (["traces.jsonl"], .file contents)], []⟩

theorem noDevice_beside (recording : Recording) (contents : List UInt8) (location : Location) :
    (beside recording contents).node? location ≠ some .fullDevice := by
  intro device
  have holds : ∀ entry ∈ (beside recording contents).entries, entry.2 ≠ .fullDevice := by
    simp [beside]
  exact FileTree.node?_of_entries (· ≠ .fullDevice) (by simp) holds device rfl

theorem loadAt_beside (recording : Recording) (contents : List UInt8) :
    Recording.loadAt (beside recording contents) "run.json" = .ok recording := by
  -- Finding the file does not look into what it holds.
  have found (bytes : List UInt8) :
      FileTree.read ⟨[(["run.json"], .file bytes), (["traces.jsonl"], .file contents)], []⟩
        "run.json" = .ok bytes := rfl
  rw [Recording.loadAt, beside, found]
  change Recording.ofBytes (Utf8.encode recording.toJson.write) = _
  rw [Recording.ofBytes_encode_write, recording.ofJson?_toJson]

theorem openAt_beside (recording : Recording) (contents : List UInt8) :
    LineStore.openAt (beside recording contents) "traces.jsonl" =
      (.ok ⟨"traces.jsonl", .new ⟨beside recording contents, ["traces.jsonl"], .ample⟩, 0⟩,
        beside recording contents) := by
  rw [beside]
  generalize Utf8.encode recording.toJson.write = bytes
  rfl

theorem node?_beside (recording : Recording) (contents : List UInt8) :
    (beside recording contents).node? ["traces.jsonl"] = some (.file contents) := by
  rw [beside]
  generalize Utf8.encode recording.toJson.write = bytes
  rfl

end Beside

/-- A replay goes on behind what its file held before, whatever that was, and a replay with a
bound on depth that is too large leaves the same file as it was. The times of two records are
those at which their transactions ended. -/
theorem appends_behind_earlier_bytes :
    let transaction : RecordedTransaction := ⟨default, [.call (.bare 0), .call (.bare 7)]⟩
    let tree := beside ⟨[transaction, transaction]⟩ [0x7b]
    let args : ReplayArgs :=
      { input := "run.json", output := "traces.jsonl", maxDepth := some 2 }
    let clock : Clock := fun place => ["sooner", "later"].getD place ""
    let line (now : String) := (transaction.record { maxDepth := 2 } now).line
    (∃ summary after, args.run .ample clock tree = (.ok summary, after) ∧
      after.file? ["traces.jsonl"] = some (0x7b :: (line "sooner" ++ line "later")) ∧
      after.file? ["run.json"] = tree.file? ["run.json"]) ∧
    ∃ after, { args with maxDepth := some 65537 }.run .ample clock tree =
        (.error (.invalidConfig .depthTooLarge), after) ∧
      after.file? ["traces.jsonl"] = some [0x7b] := by
  intro transaction tree args clock line
  have noDevice : ∀ location, tree.node? location ≠ some .fullDevice := noDevice_beside _ _
  have before : tree.file? ["traces.jsonl"] = some [0x7b] := by
    rw [FileTree.file?, node?_beside]
  constructor
  · have settings : args.resolveConfig tree = .ok { maxDepth := 2 } := rfl
    have decoded := loadAt_beside ⟨[transaction, transaction]⟩ [0x7b]
    have opens := openAt_beside ⟨[transaction, transaction]⟩ [0x7b]
    have done := run_eq .ample clock settings decoded opens
    obtain ⟨-, appended⟩ := replay_only_appends .ample clock args noDevice
    obtain ⟨config, again, store, later, loaded, openedAgain, -, stored, added, -, -, file, others,
      lines, -⟩ := appended _ _ done
    obtain ⟨rfl, rfl⟩ : config = { maxDepth := 2 } ∧ again = ⟨[transaction, transaction]⟩ := by
      rw [load, settings, decoded] at loaded
      obtain ⟨rfl, rfl⟩ := Prod.mk.inj (Except.ok.inj loaded)
      exact ⟨rfl, rfl⟩
    obtain ⟨same, -⟩ := Prod.mk.inj (opens.symm.trans openedAgain)
    obtain rfl := Except.ok.inj same
    have two :
        (Replay.records { maxDepth := 2 } clock [transaction, transaction]).flatMap (·.line) =
          line "sooner" ++ line "later" := by
      rw [Replay.records_cons, Replay.records_cons, List.flatMap_cons, List.flatMap_cons]
      exact congrArg (_ ++ ·) (List.append_nil _)
    refine ⟨_, _, done, ?_, others _ (by decide)⟩
    rw [lines (stored Disk.takesSome_ample), two] at file
    exact file.trans
      (congrArg (fun held => some (held.getD [] ++ (line "sooner" ++ line "later"))) before)
  · have failed : { args with maxDepth := some 65537 }.run .ample clock tree =
        (.error (.invalidConfig .depthTooLarge), tree) := rfl
    obtain ⟨kept, -⟩ :=
      replay_only_appends .ample clock { args with maxDepth := some 65537 } noDevice
    exact ⟨tree, failed, ((kept _ _ failed).2 _).trans before⟩

/-- A disk fills up in the middle of the only record of a replay, and has room again when the
store is closed. The record is told not to be stored, and yet its line is in the file. -/
theorem unstored_line_is_appended :
    let transaction : RecordedTransaction := ⟨default, []⟩
    let tree := beside ⟨[transaction]⟩ [0x7b]
    let args : ReplayArgs := { input := "run.json", output := "traces.jsonl" }
    let disk : Disk := fun place => [.first 10, .refused].getD place .all
    let line := (transaction.record {} "now").line
    (∀ location, tree.node? location ≠ some .fullDevice) ∧
      tree.file? ["traces.jsonl"] = some [0x7b] ∧
      ∃ summary after, args.run disk (fun _ => "now") tree = (.ok summary, after) ∧
        summary.outcomes.map (·.stored) = [false] ∧
        after.file? ["traces.jsonl"] = some (0x7b :: line) ∧ line ≠ [] := by
  intro transaction tree args disk line
  have sizes : 10 < (transaction.record {} "now").line.length ∧
      (transaction.record {} "now").line.length ≤ BufferedWriter.capacity := by
    simp only [TraceRecord.line, ← TraceRecord.flatten_portions]
    decide +kernel
  have settings : args.resolveConfig tree = .ok {} := rfl
  have rest : LineStore.AtRest (LineStore.HandleHolds tree ["traces.jsonl"]) [0x7b]
      ⟨"traces.jsonl", .new ⟨tree, ["traces.jsonl"], .ample⟩, 0⟩ :=
    ⟨rfl, rfl, .refl (node?_beside _ _)⟩
  obtain ⟨summary, after, done, told, holds⟩ := run_of_full_disk disk (fun _ => "now") settings
    (loadAt_beside _ _) (openAt_beside _ _) rest rfl rfl (fun _ => WriteAnswer.takesSome_all)
    sizes.1 sizes.2
  exact ⟨noDevice_beside _ _, by rw [FileTree.file?, node?_beside], summary, after, done, told,
    holds.file?_eq, TraceRecord.line_ne_nil _⟩

end ReplayArgs

end CallTrace
