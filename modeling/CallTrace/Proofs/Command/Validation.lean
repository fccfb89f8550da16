/-
# What a replay writes is valid

A validation reads every text of every record back and counts the rows. The rows of a
record that a replay has written are those of the accepted steps of its transaction, which
is also what the replay counted on its own way, so the report of the validation and the
summary of the replay agree. Only calls can differ: a record does not show them if the
function trace is off. A file that is not valid is told with the first record at fault.
-/

import CallTrace.Command.Validation
import CallTrace.Proofs.CallTree
import CallTrace.Proofs.Command.Replay
import CallTrace.Proofs.Wire.Recording

namespace CallTrace

/-- Every accepted log leaves one event. -/
theorem Step.length_gather_event? (steps : List Step) :
    (gather event? steps).length = (logs steps).length := by
  induction steps using List.reverseRecOn with
  | nil => rfl
  | append_singleton steps step ih =>
      rw [gather_concat, logs_concat, List.length_append, List.length_append, ih]
      cases step <;> rfl

namespace RecordedTransaction

/-- The rows that the record of a transaction is read as. -/
def rows (config : TraceConfig) (transaction : RecordedTransaction) : ParsedTrace where
  calls :=
    if config.output.functionTrace then
      Nesting.records (Step.frames (transaction.accepted config))
    else []
  events := (Step.gather Step.event? (transaction.accepted config)).map
    (EventRecord.row config.output.classificationTags)
  transfers := (Step.gather Step.transfer? (transaction.accepted config)).map
    (TransferRecord.row config.output.classificationTags)

/-- The texts of a record can be read, and are read as the rows of its transaction. -/
theorem ofRecord_record (config : TraceConfig) (now : String) (transaction : RecordedTransaction) :
    ParsedTrace.ofRecord (transaction.record config now) = .ok (transaction.rows config) := by
  have calls : FunctionTrace.read
      (if config.output.functionTrace then
        String.ofList (FunctionTrace.write
          (Nesting.records (Step.frames (transaction.accepted config))))
      else "").toList = .ok (transaction.rows config).calls := by
    rw [rows]
    split_ifs
    · rw [String.toList_ofList, FunctionTrace.read_write]
    · rfl
  have written := Query.written_gather (transaction.accepted config)
  simp only [ParsedTrace.ofRecord, ParsedTrace.ofTexts, record, TraceRecord.build,
    Session.writeTraces, journal, calls, String.toList_ofList, EventTrace.read_write,
    TransferTrace.read_write _ written]
  rfl

end RecordedTransaction

namespace StoreReport

/-- A report extended by the transactions with the given outcomes. Calls are counted only
where they are written. -/
def including (config : TraceConfig) (outcomes : List TxOutcome) (report : StoreReport) :
    StoreReport where
  records := report.records + outcomes.length
  incomplete := report.incomplete + outcomes.countP (!·.complete)
  calls := report.calls +
    if config.output.functionTrace then (outcomes.map (·.calls)).sum else 0
  events := report.events + (outcomes.map (·.events)).sum
  transfers := report.transfers + (outcomes.map (·.transfers)).sum

/-- What is printed of a valid file. -/
theorem transcript_of_valid {tree : FileTree} {path : String} {report : StoreReport}
    (valid : ofFile tree path = .ok report) :
    transcript tree path =
      (("Validating trace store: " ++ path ++ "\n") ++
        ("✓ Valid trace store\n" ++
          ("  Records: " ++ toString report.records ++ "\n") ++
          ("  Incomplete: " ++ toString report.incomplete ++ "\n") ++
          ("  Calls: " ++ toString report.calls ++ "\n") ++
          ("  Events: " ++ toString report.events ++ "\n") ++
          ("  Transfers: " ++ toString report.transfers ++ "\n")), .ok ()) := by
  rw [transcript, valid]
  rfl

/-- Counting stops at the first record with a text that cannot be read. -/
theorem of_countAll_error {records : List TraceRecord} {report : StoreReport}
    {fault : ValidationError} (failed : countAll records report = .error fault) :
    ∃ before record after cause, records = before ++ record :: after ∧
      (∀ earlier ∈ before, ∃ trace, ParsedTrace.ofRecord earlier = .ok trace) ∧
      ParsedTrace.ofRecord record = .error cause ∧ fault = .text record.key cause := by
  induction records generalizing report with
  | nil => cases failed
  | cons record records ih =>
      rw [countAll] at failed
      cases read : ParsedTrace.ofRecord record with
      | error cause =>
          rw [read] at failed
          exact ⟨[], record, records, cause, rfl, List.forall_mem_nil _, read,
            (Except.error.inj failed).symm⟩
      | ok trace =>
          rw [read] at failed
          obtain ⟨before, bad, after, cause, rfl, reads, refused, same⟩ := ih failed
          exact ⟨record :: before, bad, after, cause, rfl,
            List.forall_mem_cons.mpr ⟨⟨trace, read⟩, reads⟩, refused, same⟩

/-- Of a file that is not valid nothing is printed but its name. What is told is why its records
cannot be read, or which record is the first with a text that cannot be read. -/
theorem of_invalid {tree : FileTree} {path : String} {fault : ValidationError}
    (invalid : ofFile tree path = .error fault) :
    transcript tree path = ("Validating trace store: " ++ path ++ "\n", .error fault) ∧
      ((∃ cause, LineStore.readAt tree path = .error cause ∧ fault.message = cause.message) ∨
        ∃ before record after cause, LineStore.readAt tree path = .ok (before ++ record :: after) ∧
          (∀ earlier ∈ before, ∃ trace, ParsedTrace.ofRecord earlier = .ok trace) ∧
          ParsedTrace.ofRecord record = .error cause ∧
          fault.message = "Invalid trace text in record " ++ record.key) := by
  constructor
  · rw [transcript, invalid]
    rfl
  · rw [ofFile] at invalid
    cases read : LineStore.readAt tree path with
    | error cause =>
        rw [read] at invalid
        obtain rfl := Except.error.inj invalid
        exact .inl ⟨cause, rfl, rfl⟩
    | ok records =>
        rw [read] at invalid
        obtain ⟨before, record, after, cause, rfl, reads, refused, rfl⟩ :=
          of_countAll_error invalid
        exact .inr ⟨before, record, after, cause, rfl, reads, refused, rfl⟩

/-- One record: what the rows come to is what the replay has counted. -/
theorem count_record (config : TraceConfig) (now : String) (transaction : RecordedTransaction)
    (stored : Bool) (outcomes : List TxOutcome) (report : StoreReport) :
    (report.count (transaction.record config now) (transaction.rows config)).including config
        outcomes =
      report.including config (transaction.outcome config stored :: outcomes) := by
  let outcome := transaction.outcome config stored
  have calls : CallNode.sizeAll (CallTree.build (transaction.rows config).calls) =
      if config.output.functionTrace then outcome.calls else 0 := by
    rw [RecordedTransaction.rows]
    split_ifs
    · rw [CallTree.sizeAll_build, ← List.length_map (f := CallRecord.frame),
        Nesting.map_frame_records]
      rfl
    · rfl
  have events : (transaction.rows config).events.length = outcome.events :=
    (List.length_map _).trans (Step.length_gather_event? _)
  have transfers : (transaction.rows config).transfers.length = outcome.transfers :=
    List.length_map _
  have complete : (transaction.record config now).complete = outcome.complete := rfl
  change _ = report.including config (outcome :: outcomes)
  simp only [including, count, calls, events, transfers, complete, List.length_cons,
    List.countP_cons, List.map_cons, List.sum_cons, StoreReport.mk.injEq]
  refine ⟨by omega, ?_, ?_, by omega, by omega⟩
  · cases outcome.complete
    · simp only [Bool.not_false, Bool.false_eq_true, if_true, if_false]
      omega
    · simp only [Bool.not_true, Bool.false_eq_true, if_true, if_false]
      omega
  · split_ifs <;> omega

/-- A whole file: the report adds up what the outcomes say. -/
theorem countAll_records {config : TraceConfig} {transactions : List RecordedTransaction}
    {outcomes : List TxOutcome} (those : Replay.Outcomes config transactions outcomes)
    (clock : Clock) (report : StoreReport) :
    countAll (Replay.records config clock transactions) report =
      .ok (report.including config outcomes) := by
  induction those generalizing clock report with
  | nil =>
      rw [including]
      split_ifs <;> rfl
  | @cons transaction outcome transactions outcomes first _ ih =>
      rw [Replay.records_cons, countAll, transaction.ofRecord_record]
      simp only
      rw [ih, count_record _ _ _ outcome.stored, ← first]

end StoreReport

/-- What a replay writes is valid, and validation counts what the replay has counted. Let the
settings and the recording of a replay be in order, and let its file of records be opened
where there was none. Then the replay comes to a summary. If all records were stored, as on a
disk that takes something of whatever it is offered, the file is read back as one record for
each transaction, in the order of the recording, and a validation of the file succeeds. It
reports as many records as there are transactions, as many incomplete ones as the summary
does, and the sums of events and transfers over all outcomes; also the sum of calls if the
function trace is on, and no calls if it is off. These numbers are what it prints. -/
theorem ReplayArgs.replayed_file_validates (disk : Disk) (clock : Clock) {args : ReplayArgs}
    {tree opened : FileTree} {config : TraceConfig} {recording : Recording}
    {store : LineStore FileHandle} (settings : args.resolveConfig tree = .ok config)
    (decoded : Recording.loadAt tree args.input = .ok recording)
    (opens : LineStore.openAt tree args.output = (.ok store, opened))
    (new : tree.node? store.writer.device.location = none) :
    ∃ summary, (args.run disk clock tree).1 = .ok summary ∧
      (disk.TakesSome → ∀ outcome ∈ summary.outcomes, outcome.stored = true) ∧
      ((∀ outcome ∈ summary.outcomes, outcome.stored = true) →
        let after := (args.run disk clock tree).2
        let records := recording.transactions.length
        let calls :=
          if config.output.functionTrace then (summary.outcomes.map (·.calls)).sum else 0
        let events := (summary.outcomes.map (·.events)).sum
        let transfers := (summary.outcomes.map (·.transfers)).sum
        summary.stored = records ∧
          LineStore.readAt after args.output =
            .ok (Replay.records config clock recording.transactions) ∧
          StoreReport.ofFile after args.output =
            .ok ⟨records, summary.incomplete, calls, events, transfers⟩ ∧
          StoreReport.transcript after args.output =
            (("Validating trace store: " ++ args.output ++ "\n") ++
              ("✓ Valid trace store\n" ++
                ("  Records: " ++ toString records ++ "\n") ++
                ("  Incomplete: " ++ toString summary.incomplete ++ "\n") ++
                ("  Calls: " ++ toString calls ++ "\n") ++
                ("  Events: " ++ toString events ++ "\n") ++
                ("  Transfers: " ++ toString transfers ++ "\n")), .ok ())) := by
  obtain ⟨summary, done, those, taken, read⟩ := run_new disk clock settings decoded opens new
  refine ⟨summary, done, taken, fun all => ?_⟩
  intro after records calls events transfers
  have stored : summary.stored = records := by
    rw [ReplaySummary.stored, List.countP_eq_length.mpr all]
    exact those.length_eq.symm
  have file : StoreReport.ofFile after args.output =
      .ok ⟨records, summary.incomplete, calls, events, transfers⟩ := by
    rw [StoreReport.ofFile, read all]
    refine (StoreReport.countAll_records those clock {}).trans (congrArg Except.ok ?_)
    simp only [StoreReport.including, Nat.zero_add, StoreReport.mk.injEq]
    exact ⟨those.length_eq.symm, rfl, rfl, rfl, rfl⟩
  refine ⟨stored, read all, file, ?_⟩
  rw [StoreReport.transcript_of_valid file]

/-- A call that is too deep is dropped before it is written, so it makes its record incomplete
and is not counted as a call. -/
theorem ReplayArgs.validates_beside_dropped_call :
    let recording : Recording :=
      ⟨[⟨⟨1, .zero 32, .zero 20, none, "5\n", "0", 21000⟩,
        [.call ⟨0, .call, 0, .zero 20, .zero 20, .zero, 0, [], [0x0A]⟩,
          .log ⟨.zero 20, [], [], 0⟩,
          .transfer (.zero 20) (.zero 20) .zero 0,
          .call ⟨1, .staticCall, 7, .zero 20, .zero 20, .zero, 0, [], []⟩]⟩]⟩
    let input : Location × FileNode :=
      (["run.json"], .file (Utf8.encode recording.toJson.write))
    let tree : FileTree := ⟨[input], []⟩
    let opened : FileTree :=
      ⟨[input, (["out"], .directory), (["out", "traces.jsonl"], .file [])], []⟩
    let args : ReplayArgs :=
      { input := "run.json", output := "out/traces.jsonl", maxDepth := some 2 }
    let store : LineStore FileHandle :=
      ⟨args.output, .new ⟨opened, ["out", "traces.jsonl"], .ample⟩, 0⟩
    let clock : Clock := fun _ => "2024-01-01T00:00:00Z"
    args.resolveConfig tree = .ok { maxDepth := 2 } ∧
      Recording.loadAt tree args.input = .ok recording ∧
      LineStore.openAt tree args.output = (.ok store, opened) ∧
      tree.node? store.writer.device.location = none ∧
      StoreReport.transcript (args.run .ample clock tree).2 args.output =
        ("Validating trace store: out/traces.jsonl\n" ++ "✓ Valid trace store\n" ++
          "  Records: 1\n" ++ "  Incomplete: 1\n" ++ "  Calls: 1\n" ++ "  Events: 1\n" ++
          "  Transfers: 1\n", .ok ()) := by
  intro recording input tree opened args store clock
  -- Neither reading nor opening looks into what the file of the recording holds.
  have found (bytes : List UInt8) :
      FileTree.read ⟨[(["run.json"], .file bytes)], []⟩ "run.json" = .ok bytes := rfl
  have made (bytes : List UInt8) :
      let opened : FileTree :=
        ⟨[(["run.json"], .file bytes), (["out"], .directory), (["out", "traces.jsonl"], .file [])],
          []⟩
      LineStore.openAt ⟨[(["run.json"], .file bytes)], []⟩ "out/traces.jsonl" =
        (.ok ⟨"out/traces.jsonl", .new ⟨opened, ["out", "traces.jsonl"], .ample⟩, 0⟩,
          opened) := rfl
  have settings : args.resolveConfig tree = .ok { maxDepth := 2 } := rfl
  have decoded : Recording.loadAt tree args.input = .ok recording := by
    have read : Recording.ofJson? recording.toJson = some recording := by decide +kernel
    have file : tree.read args.input = .ok (Utf8.encode recording.toJson.write) := found _
    rw [Recording.loadAt, file]
    change Recording.ofBytes (Utf8.encode recording.toJson.write) = _
    rw [Recording.ofBytes_encode_write, read]
  have opens : LineStore.openAt tree args.output = (.ok store, opened) := made _
  have new : tree.node? store.writer.device.location = none := by rfl
  obtain ⟨summary, done, stored, printed⟩ :=
    ReplayArgs.replayed_file_validates .ample clock settings decoded opens new
  obtain ⟨-, -, -, transcript⟩ := printed (stored Disk.takesSome_ample)
  -- The only outcome is that of the transaction.
  obtain ⟨again, done', those, -⟩ := ReplayArgs.run_new .ample clock settings decoded opens new
  obtain rfl : again = summary := Except.ok.inj (done'.symm.trans done)
  obtain ⟨outcome, outcomes, first, others, only⟩ := List.forall₂_cons_left_iff.mp those
  rw [List.forall₂_nil_left_iff.mp others, first] at only
  refine ⟨settings, decoded, opens, new, transcript.trans ?_⟩
  rw [ReplaySummary.incomplete, only]
  cases outcome.stored <;> decide +kernel

end CallTrace
