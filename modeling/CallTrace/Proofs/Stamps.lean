/-
# What a transaction leaves in the journal

A session writes logs and movements of value down as they happen, with a number that it
counts up and a path that it takes from a table which every call changes. What ends up
in the journal can be said without either: it is what each accepted step leaves behind,
given the accepted steps before it.

The path of a transfer is taken when the transfer happens, that of a call when the call
is entered. They are one path as long as the call is still open, since the calls that
have come in between are then all deeper.
-/

import CallTrace.Proofs.Address
import CallTrace.Proofs.Classifier
import CallTrace.Proofs.Replies
import CallTrace.Proofs.Rows.Function
import Mathlib.Data.List.ReduceOption

namespace CallTrace

namespace Step

/-- Whether a step advances the count of calls and logs. -/
def counts : Step → Bool
  | .call _ => true
  | .log _ => true
  | .transfer _ _ _ _ => false

/-- The number of calls and logs among the steps so far. -/
def index (earlier : List Step) : UInt64 :=
  .ofNat (earlier.countP counts)

/-- The path of the call open at a depth after the steps so far. -/
def openPath (earlier : List Step) (depth : UInt64) : List UInt32 :=
  (Nesting.path ((frames earlier).map CallFrame.level) depth.toNat).map UInt32.ofNat

/-- The event that a step leaves behind. Only logs leave one. -/
def event? (earlier : List Step) : Step → Option EventRecord
  | .call _ => none
  | .log emitted =>
    some ⟨emitted.address, emitted.topics, emitted.data, emitted.depth, index earlier, emitted.tag⟩
  | .transfer _ _ _ _ => none

/-- The transfer that a log leaves behind if it means that a token changes hands. -/
def tokenTransfer (earlier : List Step) (emitted : LogEvent) : TransferRecord where
  sender := String.ofList (emitted.topic 1).toHex
  receiver := String.ofList (emitted.topic 2).toHex
  token := emitted.address
  value := String.ofList (Hex.encode emitted.moved)
  depth := emitted.depth
  path := openPath earlier emitted.depth
  tag := emitted.tag
  traceIndex := index earlier

/-- The transfer that a movement of native currency leaves behind. -/
def nativeTransfer (earlier : List Step) (sender receiver : Address) (value : Amount)
    (depth : UInt64) : TransferRecord where
  sender := String.ofList sender.toHex
  receiver := String.ofList receiver.toHex
  token := .zero 20
  value := String.ofList value.toHexadecimal
  depth := depth
  path := openPath earlier depth
  tag := .native
  traceIndex := index earlier

/-- The transfer that a step leaves behind, if it leaves one. -/
def transfer? (earlier : List Step) : Step → Option TransferRecord
  | .call _ => none
  | .log emitted => if emitted.announces then some (tokenTransfer earlier emitted) else none
  | .transfer sender receiver value depth =>
    some (nativeTransfer earlier sender receiver value depth)

/-- Where a transfer can come from. -/
theorem transfer?_cases {earlier : List Step} {step : Step} {transfer : TransferRecord}
    (leaves : step.transfer? earlier = some transfer) :
    (∃ emitted, step = .log emitted ∧ emitted.announces = true ∧
        transfer = tokenTransfer earlier emitted) ∨
      ∃ sender receiver value depth, step = .transfer sender receiver value depth ∧
        transfer = nativeTransfer earlier sender receiver value depth := by
  cases step with
  | call frame => cases leaves
  | log emitted =>
      rw [transfer?, Option.ite_none_right_eq_some] at leaves
      exact .inl ⟨emitted, rfl, leaves.1, (Option.some_inj.mp leaves.2).symm⟩
  | transfer sender receiver value depth =>
      exact .inr ⟨sender, receiver, value, depth, rfl, (Option.some_inj.mp leaves).symm⟩

/-- All that steps leave behind, each after the ones before it. -/
def gather {α : Type} (leave : List Step → Step → Option α) (steps : List Step) : List α :=
  (steps.mapIdx fun place step => leave (steps.take place) step).reduceOption

theorem gather_concat {α : Type} (leave : List Step → Step → Option α) (steps : List Step)
    (step : Step) :
    gather leave (steps ++ [step]) = gather leave steps ++ (leave steps step).toList := by
  have parts := Nesting.mapIdx_take_concat leave steps step (Nat.zero_le 1)
  simp only [Nat.add_zero, List.take_left] at parts
  rw [gather, parts, List.reduceOption_append, List.reduceOption_singleton, gather]

theorem mem_gather {α : Type} {leave : List Step → Step → Option α} {steps : List Step}
    {left : α} :
    left ∈ gather leave steps ↔
      ∃ place step, steps[place]? = some step ∧ leave (steps.take place) step = some left := by
  rw [gather, List.reduceOption_mem_iff, List.mem_iff_getElem?]
  simp only [List.getElem?_mapIdx, Option.map_eq_some_iff]

theorem index_concat (earlier : List Step) (step : Step) :
    index (earlier ++ [step]) = if step.counts then index earlier + 1 else index earlier := by
  rw [index, List.countP_append, List.countP_singleton]
  split
  · exact UInt64.ofNat_add _ _
  · rfl

/-- As long as a call is open, the path open at its depth is its own. -/
theorem openPath_eq {steps : List Step} {opener place : Nat} {frame : CallFrame}
    (before : opener < place) (here : steps[opener]? = some (.call frame))
    (deeper : ∀ inner ∈ frames ((steps.take place).drop (opener + 1)),
      frame.depth < inner.depth) :
    ∃ record, (Nesting.records (frames steps))[(frames (steps.take opener)).length]? =
        some record ∧
      record.frame = frame ∧ record.path = openPath (steps.take place) frame.depth := by
  have soFar : frames (steps.take place) = frames (steps.take opener) ++
      frame :: frames ((steps.take place).drop (opener + 1)) := by
    have inside : (steps.take place)[opener]? = some (.call frame) := by
      rw [List.getElem?_take_of_lt before, here]
    rw [frames_split inside, List.take_take, Nat.min_eq_left before.le]
  have upTo : (frames steps).take ((frames (steps.take opener)).length + 1) =
      frames (steps.take opener) ++ [frame] := by
    rw [frames_split here, List.append_cons]
    exact List.take_left' (by rw [List.length_append, List.length_singleton])
  have own : (frames steps)[(frames (steps.take opener)).length]? = some frame := by
    rw [frames_split here, List.getElem?_append_right (Nat.le_refl _), Nat.sub_self]
    rfl
  refine ⟨Nesting.record (frames (steps.take opener) ++ [frame]) frame, ?_, rfl, ?_⟩
  · rw [Nesting.getElem?_records, own, upTo, Option.map_some]
  · have inner : ∀ depth ∈ (frames ((steps.take place).drop (opener + 1))).map CallFrame.level,
        frame.level < depth := by
      rw [List.forall_mem_map]
      intro inner member
      exact UInt64.lt_iff_toNat_lt.mp (deeper inner member)
    -- The record was made when the call was entered, the path is read later: what came in
    -- between is deeper and cannot be told from the path.
    rw [openPath, soFar, List.map_append, List.map_cons]
    change _ = (Nesting.path _ frame.level).map UInt32.ofNat
    rw [Nesting.path_split inner, Nesting.record, List.map_append, List.map_singleton]

/-- Where a transfer gets its place from: depth from its step, number and path from the
steps before it. -/
theorem stamps_of_transfer? {earlier : List Step} {step : Step} {transfer : TransferRecord}
    (leaves : step.transfer? earlier = some transfer) :
    transfer.depth = step.depth ∧ transfer.traceIndex = index earlier ∧
      transfer.path = openPath earlier step.depth := by
  rcases transfer?_cases leaves with
    ⟨emitted, rfl, -, rfl⟩ | ⟨sender, receiver, value, depth, rfl, rfl⟩
  · exact ⟨rfl, rfl, rfl⟩
  · exact ⟨rfl, rfl, rfl⟩

theorem length_openPath (earlier : List Step) (depth : UInt64) :
    (openPath earlier depth).length = depth.toNat := by
  rw [openPath, List.length_map, Nesting.length_path]

end Step

namespace Session

/-- A session has written down what steps leave behind, and is ready to do so for the
next. -/
structure Stamped (session : Session) (steps : List Step) : Prop where
  events : session.journal.events.toList = Step.gather Step.event? steps
  transfers : session.journal.transfers.toList = Step.gather Step.transfer? steps
  traceIndex : session.traceIndex = Step.index steps
  table : session.merger.table.Records ((Step.frames steps).map CallFrame.level)

namespace Stamped

variable {session : Session} {steps : List Step}

/-- The path that a transfer gets. -/
theorem path_eq (stamped : session.Stamped steps) (depth : UInt64) :
    session.merger.table.path depth.toNat = Step.openPath steps depth :=
  stamped.table.path_eq depth.toNat

theorem placeTransfer_eq (stamped : session.Stamped steps) (log : LogEvent) :
    Journal.placeTransfer
        ⟨log.topic 1, log.topic 2, log.address, String.ofList (Hex.encode log.moved)⟩ log.tag
        log.depth session.merger.table session.traceIndex =
      Step.tokenTransfer steps log := by
  rw [Journal.placeTransfer, Step.tokenTransfer, stamped.path_eq, stamped.traceIndex]

theorem placeNative_eq (stamped : session.Stamped steps) (sender receiver : Address)
    (value : Amount) (depth : UInt64) :
    Journal.placeNative sender receiver value depth session.merger.table session.traceIndex =
      Step.nativeTransfer steps sender receiver value depth := by
  rw [Journal.placeNative, Step.nativeTransfer, stamped.path_eq, stamped.traceIndex]

/-- One step: what an accepted step adds is what it leaves behind. -/
theorem including (stamped : session.Stamped steps) (step : Step) :
    (session.including step).Stamped (steps ++ [step]) := by
  constructor
  case events =>
    rw [Step.gather_concat, ← stamped.events]
    cases step with
    | call frame => exact (List.append_nil _).symm
    | log log =>
        rw [Step.event?, ← stamped.traceIndex]
        exact Array.toList_push
    | transfer sender receiver value depth => exact (List.append_nil _).symm
  case transfers =>
    rw [Step.gather_concat, ← stamped.transfers]
    cases step with
    | call frame => exact (List.append_nil _).symm
    | log log =>
        rw [Step.transfer?, Session.including, Journal.recordLog, log.transfer?_eq]
        by_cases announced : log.announces = true
        · simp only [if_pos announced, stamped.placeTransfer_eq]
          exact Array.toList_push
        · simp only [if_neg announced]
          exact (List.append_nil _).symm
    | transfer sender receiver value depth =>
        rw [Step.transfer?, Session.including, Journal.recordNative, stamped.placeNative_eq]
        exact Array.toList_push
  case traceIndex =>
    rw [Step.index_concat, ← stamped.traceIndex]
    cases step <;> rfl
  case table =>
    rw [Step.frames_concat, List.map_append]
    cases step with
    | call frame => exact Merger.table_place .. ▸ stamped.table.enter frame.level
    | log log => exact (List.append_nil _).symm ▸ stamped.table
    | transfer sender receiver value depth => exact (List.append_nil _).symm ▸ stamped.table

/-- A whole run, whichever of the steps are refused on the way. -/
theorem takeAll {earlier : List Step} (stamped : session.Stamped earlier)
    (active : session.stage = .active) (steps : List Step) :
    (session.takeAll steps).Stamped (earlier ++ session.accepted steps) := by
  -- What is stamped grows on the way, so the induction is over every stage of the run.
  induction steps generalizing session earlier with
  | nil => rwa [accepted, List.append_nil]
  | cons step steps ih =>
      have stillActive : (session.takeIn step).stage = .active := stage_takeIn active step
      rw [accepted, accepts_eq active]
      by_cases within : step.depth < session.merger.maxDepth
      · have next : (session.takeIn step).Stamped (earlier ++ [step]) := by
          rw [takeIn_eq active, if_neg (UInt64.not_le.mpr within)]
          exact stamped.including step
        rw [if_pos (decide_eq_true within), List.append_cons]
        exact ih next stillActive
      · -- A refusal leaves its mark on the session, but on nothing that is stamped.
        have next : (session.takeIn step).Stamped earlier := by
          rw [takeIn_eq active, if_pos (UInt64.not_lt.mp within)]
          exact ⟨stamped.events, stamped.transfers, stamped.traceIndex, stamped.table⟩
        rw [if_neg (by simpa using within)]
        exact ih next stillActive

end Stamped

/-- A transaction begins with an empty journal. -/
theorem Reachable.stamped_reset {config : TraceConfig} {session : Session}
    (reachable : Reachable config session) : session.reset.Stamped [] where
  events := rfl
  transfers := rfl
  traceIndex := rfl
  table := reachable.fresh_reset.holds.table

/-- The steps accepted in a transaction are those that are not too deep. -/
theorem Reachable.accepted_reset {config : TraceConfig} {session : Session}
    (reachable : Reachable config session) (steps : List Step) :
    session.reset.accepted steps = steps.filter (·.depth < config.maxDepth) := by
  have active : session.reset.stage = .active := rfl
  have bound : session.reset.merger.maxDepth = config.maxDepth := reachable.fresh_reset.maxDepth_eq
  rw [accepted_eq_filter active, bound]

/-- What is written out at the end of a transaction, in whatever way: the records of the
calls accepted, and the journal. -/
theorem Reachable.finalizeBy_reset {config : TraceConfig} {session : Session}
    (reachable : Reachable config session) (steps : List Step)
    (write : List CallRecord → Journal → Bool → FinalizedTrace) :
    ((session.reset.takeAll steps).finalizeBy write).1 =
      .ok (write (Nesting.records (Step.frames (session.reset.accepted steps)))
        (session.reset.takeAll steps).journal (!(session.reset.takeAll steps).incomplete)) := by
  have follows : (session.reset.takeAll steps).Follows session.merger.reset steps :=
    (Follows.reset session).takeAll steps
  rw [follows.finalizeBy, ← Merger.finish_run_accepts, reachable.fresh_reset.finish_accepts,
    reachable.accepted_reset, Step.frames_filter]

/-- The journal of a transaction holds what the accepted steps leave behind and nothing
else, whatever the session was used for before and whatever steps are refused on the way.
An event is a log as it was, a transfer comes from a log that moves a token or from a
movement of value, and both are numbered by the calls and logs before them. The path of a
transfer is as long as it is deep; where a call at that depth is still open, it is the
path of this call in the function trace that is written at the end. -/
theorem journal_of_transaction (config : TraceConfig) (history : List Request)
    (steps : List Step) :
    let session := ((new config).after history).reset
    let accepted := session.accepted steps
    let traced := session.takeAll steps
    accepted = steps.filter (·.depth < config.maxDepth) ∧
      traced.journal.events.toList = Step.gather Step.event? accepted ∧
      traced.journal.transfers.toList = Step.gather Step.transfer? accepted ∧
      traced.traceIndex = Step.index accepted ∧
      (∀ transfer ∈ traced.journal.transfers, transfer.path.length = transfer.depth.toNat) ∧
      ∀ output : OutputSchema, output.functionTrace = true → ∃ trace calls,
        (traced.finalizeWith output).1 = .ok trace ∧
        FunctionTrace.read trace.functionTrace.toList = .ok calls ∧
        calls.map CallRecord.frame = Step.frames accepted ∧
        ∀ opener place frame step transfer,
          opener < place → accepted[opener]? = some (.call frame) →
          accepted[place]? = some step →
          step.transfer? (accepted.take place) = some transfer →
          step.depth = frame.depth →
          (∀ inner ∈ Step.frames ((accepted.take place).drop (opener + 1)),
            frame.depth < inner.depth) →
          ∃ record, calls[(Step.frames (accepted.take opener)).length]? = some record ∧
            record.frame = frame ∧ record.path = transfer.path := by
  intro session accepted traced
  have reachable : Reachable config ((new config).after history) := Reachable.new.after history
  have stamped : traced.Stamped accepted := reachable.stamped_reset.takeAll rfl steps
  refine ⟨reachable.accepted_reset steps, stamped.events, stamped.transfers,
    stamped.traceIndex, ?_, ?_⟩
  · intro transfer member
    rw [← Array.mem_toList_iff, stamped.transfers, Step.mem_gather] at member
    obtain ⟨place, step, -, leaves⟩ := member
    obtain ⟨depth, -, path⟩ := Step.stamps_of_transfer? leaves
    rw [path, depth, Step.length_openPath]
  · intro output enabled
    refine ⟨_, Nesting.records (Step.frames accepted),
      reachable.finalizeBy_reset steps (writeTraces output), ?_, ?_, ?_⟩
    · simp only [writeTraces, enabled, if_true, String.toList_ofList, FunctionTrace.read_write,
        accepted, session]
    · exact Nesting.map_frame_records _
    · intro opener place frame step transfer before isCall here leaves sameDepth deeper
      rw [(Step.stamps_of_transfer? leaves).2.2, sameDepth]
      exact Step.openPath_eq before isCall deeper

/-- A token and native currency move at depth 1 while a call at depth 2 is still open and
one at depth 5 was refused, in a session that was used before. -/
theorem transfers_beside_inner_call :
    let log : LogEvent := ⟨.zero 20, [Signature.transfer, .zero 32, .zero 32], [7], 1⟩
    let move : Step := .transfer (.zero 20) (.zero 20) .zero 1
    let front : List Step := [.call (.bare 0), .call (.bare 1), .call (.bare 2)]
    let steps := front ++ [.call (.bare 5), .log log, move]
    let session := ((new ⟨3, {}⟩).after [.reset, .step (.call (.bare 1)), .finalize]).reset
    let traced := session.takeAll steps
    ∃ token native trace calls record,
      traced.journal.transfers.toList = [token, native] ∧
        token.traceIndex = 3 ∧ native.traceIndex = 4 ∧
        (traced.finalizeWith {}).1 = .ok trace ∧
        FunctionTrace.read trace.functionTrace.toList = .ok calls ∧
        calls[1]? = some record ∧ record.path = token.path ∧ record.path = native.path := by
  intro log move front steps session traced
  obtain ⟨accepted, -, transfers, -, -, written⟩ :=
    journal_of_transaction ⟨3, {}⟩ [.reset, .step (.call (.bare 1)), .finalize] steps
  have within : session.accepted steps = front ++ [.log log] ++ [move] := accepted.trans rfl
  have announced : log.announces = true := log.announces_iff.mpr ⟨.inl rfl, rfl⟩
  obtain ⟨token, isToken⟩ : ∃ token, Step.transfer? front (.log log) = some token := by
    simp only [Step.transfer?, if_pos announced, Option.some_inj, exists_eq']
  obtain ⟨native, isNative⟩ : ∃ native, move.transfer? (front ++ [.log log]) = some native :=
    ⟨_, rfl⟩
  have gathered : traced.journal.transfers.toList = [token, native] := by
    have rest : Step.gather Step.transfer? front = [] := rfl
    rw [transfers, within, Step.gather_concat, Step.gather_concat, isToken, isNative, rest]
    rfl
  obtain ⟨trace, calls, finalized, read, -, paths⟩ := written {} rfl
  have opener : (session.accepted steps)[1]? = some (.call (.bare 1)) := by
    rw [within]
    rfl
  obtain ⟨record, here, -, path⟩ := paths 1 3 (.bare 1) (.log log) token (by decide) opener
    (by rw [within]; rfl) (by rw [within]; exact isToken) rfl (by rw [within]; decide)
  obtain ⟨again, there, -, samePath⟩ := paths 1 4 (.bare 1) move native (by decide) opener
    (by rw [within]; rfl) (by rw [within]; exact isNative) rfl (by rw [within]; decide)
  obtain rfl : record = again := Option.some_inj.mp (here.symm.trans there)
  refine ⟨token, native, trace, calls, record, gathered, ?_, ?_, finalized, read, ?_, path,
    samePath⟩
  · exact (Step.stamps_of_transfer? isToken).2.1
  · exact (Step.stamps_of_transfer? isNative).2.1
  · rw [within] at here
    exact here

end Session

end CallTrace
