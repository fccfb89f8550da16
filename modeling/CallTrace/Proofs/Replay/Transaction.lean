/-
# What becomes of a transaction

A transaction is played back step by step, and four counts are kept on the way in three
places. What they come to can be said from the recorded steps alone: those that are not
too deep are accepted, each is counted by its kind and its meaning, and the others are
counted as dropped. The record that the store is offered is made of the accepted steps,
and the answer of the store decides nothing but whether the transaction counts as stored.
-/

import CallTrace.Proofs.Tracer
import CallTrace.Replay

namespace CallTrace

/-- Whether a tag means that someone is allowed to move a token. -/
def EventTag.isApproval : EventTag → Bool
  | .erc20Approval => true
  | .erc721Approval => true
  | .erc721ApprovalForAll => true
  | _ => false

attribute [ext] Tally

namespace Tally

instance : Add Tally where
  add first second :=
    { erc20Transfers := first.erc20Transfers + second.erc20Transfers
      erc721Transfers := first.erc721Transfers + second.erc721Transfers
      approvals := first.approvals + second.approvals
      nativeTransfers := first.nativeTransfers + second.nativeTransfers
      unclassified := first.unclassified + second.unclassified }

/-- How often each meaning occurs among tags. -/
def ofTags (tags : List EventTag) : Tally where
  erc20Transfers := tags.count .erc20Transfer
  erc721Transfers := tags.count .erc721Transfer
  approvals := tags.countP EventTag.isApproval
  nativeTransfers := tags.count .native
  unclassified := tags.count .unclassified

theorem ofTags_append (first second : List EventTag) :
    ofTags (first ++ second) = ofTags first + ofTags second := by
  ext
  case approvals => exact List.countP_append
  all_goals exact List.count_append

theorem add_assoc (first second third : Tally) :
    first + second + third = first + (second + third) := by
  ext <;> exact Nat.add_assoc ..

theorem zero_add (tally : Tally) : {} + tally = tally := by
  ext <;> exact Nat.zero_add _

/-- Counting one occurrence adds the tally of it. -/
theorem count_eq_add (tag : EventTag) (tally : Tally) : tally.count tag = tally + ofTags [tag] := by
  cases tag <;> rfl

end Tally

namespace Step

/-- The log that is emitted in a step, if the step is one. -/
def log? : Step → Option LogEvent
  | .call _ => none
  | .log emitted => some emitted
  | .transfer _ _ _ _ => none

/-- The logs emitted in a sequence of steps. -/
def logs (steps : List Step) : List LogEvent :=
  steps.filterMap log?

/-- What a step means. Calls have no meaning of their own. -/
def tag? : Step → Option EventTag
  | .call _ => none
  | .log emitted => some emitted.tag
  | .transfer _ _ _ _ => some .native

/-- What steps mean, in order. -/
def tags (steps : List Step) : List EventTag :=
  steps.filterMap tag?

end Step

namespace RecordedTransaction

/-- The steps that are not too deep. -/
def accepted (config : TraceConfig) (transaction : RecordedTransaction) : List Step :=
  transaction.steps.filter (·.depth < config.maxDepth)

/-- The number of steps that are too deep. -/
def dropped (config : TraceConfig) (transaction : RecordedTransaction) : Nat :=
  transaction.steps.countP (config.maxDepth ≤ ·.depth)

/-- What the accepted steps leave behind. -/
def journal (config : TraceConfig) (transaction : RecordedTransaction) : Journal where
  events := (Step.gather Step.event? (transaction.accepted config)).toArray
  transfers := (Step.gather Step.transfer? (transaction.accepted config)).toArray

/-- The record that the transaction ends with at the time `now`. -/
def record (config : TraceConfig) (now : String) (transaction : RecordedTransaction) :
    TraceRecord :=
  .build transaction.metadata
    (Session.writeTraces config.output
      (Nesting.records (Step.frames (transaction.accepted config)))
      (transaction.journal config) (transaction.dropped config == 0))
    now

/-- What becomes of the transaction if its record is stored, or if it is not. -/
def outcome (config : TraceConfig) (transaction : RecordedTransaction) (stored : Bool) :
    TxOutcome where
  hash := String.ofList transaction.metadata.hash.toHex
  calls := (Step.frames (transaction.accepted config)).length
  events := (Step.logs (transaction.accepted config)).length
  transfers := (Step.gather Step.transfer? (transaction.accepted config)).length
  dropped := transaction.dropped config
  complete := transaction.dropped config == 0
  stored := stored

end RecordedTransaction

namespace Session

section Accept

variable {session : Session} (active : session.stage = .active)
include active

/-- A call in a transaction is refused if it is too deep, and included otherwise. -/
theorem acceptCall_eq (frame : CallFrame) :
    session.acceptCall frame =
      if session.merger.maxDepth ≤ frame.depth then session.refuseDepth frame.depth
      else (.ok (), session.including (.call frame)) := by
  rw [acceptCall, if_neg (not_not_intro active), Merger.accept]
  by_cases deep : session.merger.maxDepth ≤ frame.depth
  · rw [if_pos deep, if_pos deep]
    rfl
  · rw [if_neg deep, if_neg deep]
    rfl

theorem acceptLog_eq (log : LogEvent) :
    session.acceptLog log =
      if session.merger.maxDepth ≤ log.depth then session.refuseDepth log.depth
      else (.ok log.tag, session.including (.log log)) := by
  rw [acceptLog, if_neg (not_not_intro active)]
  rfl

theorem acceptTransfer_eq (sender receiver : Address) (value : Amount) (depth : UInt64) :
    session.acceptTransfer sender receiver value depth =
      if session.merger.maxDepth ≤ depth then session.refuseDepth depth
      else (.ok (), session.including (.transfer sender receiver value depth)) := by
  rw [acceptTransfer, if_neg (not_not_intro active)]
  rfl

end Accept

/-- The end of a transaction does not change whether it is marked as incomplete. -/
theorem incomplete_finalize (session : Session) :
    session.finalize.2.incomplete = session.incomplete := by
  rw [finalize, finalizeWith, finalizeBy]
  split <;> rfl

theorem Reachable.takeAll {config : TraceConfig} {session : Session}
    (reachable : Reachable config session) (steps : List Step) :
    Reachable config (session.takeAll steps) := by
  induction steps generalizing session with
  | nil => exact reachable
  | cons step steps ih => exact ih (.operate (.step step) reachable)

end Session

/-- Only the session of a tracer takes part while steps are taken in. -/
theorem Tracer.takeAll_eq {σ : Type} (steps : List Step) (tracer : Tracer σ) :
    tracer.takeAll steps = { tracer with session := tracer.session.takeAll steps } := by
  induction steps generalizing tracer with
  | nil => rfl
  | cons step steps ih =>
      have first : tracer.takeIn step = { tracer with session := tracer.session.takeIn step } := by
        cases step <;> rfl
      change (tracer.takeIn step).takeAll steps = _
      rw [ih, first]
      rfl

namespace Replay.Progress

variable {σ : Type}

/-- A transaction in the middle of being played back, with more steps behind it of which
some were accepted and some were dropped. -/
def advance (progress : Progress σ) (accepted : List Step) (dropped : Nat) (tracer : Tracer σ) :
    Progress σ where
  tracer := tracer
  tally := progress.tally + .ofTags (Step.tags accepted)
  calls := progress.calls + (Step.frames accepted).length
  events := progress.events + (Step.logs accepted).length
  dropped := progress.dropped + dropped

theorem advance_advance (progress : Progress σ) (first second : List Step)
    (firstDropped secondDropped : Nat) (tracer later : Tracer σ) :
    (progress.advance first firstDropped tracer).advance second secondDropped later =
      progress.advance (first ++ second) (firstDropped + secondDropped) later := by
  simp only [advance, Step.tags, Step.frames, Step.logs, List.filterMap_append, List.length_append,
    Tally.ofTags_append, Tally.add_assoc, Nat.add_assoc]

/-- One step: it is accepted and counted by its kind and meaning, or it is dropped. -/
theorem step_eq (progress : Progress σ) (active : progress.tracer.session.stage = .active)
    (step : Step) :
    progress.step step =
      if progress.tracer.session.merger.maxDepth ≤ step.depth then
        progress.advance [] 1 (progress.tracer.takeIn step)
      else progress.advance [step] 0 (progress.tracer.takeIn step) := by
  cases step with
  | call frame =>
      simp only [Progress.step, Tracer.takeIn, Tracer.call, Tracer.step,
        Session.acceptCall_eq active, Step.depth]
      by_cases deep : progress.tracer.session.merger.maxDepth ≤ frame.depth
      · simp only [if_pos deep]
        rfl
      · simp only [if_neg deep]
        rfl
  | log log =>
      simp only [Progress.step, Tracer.takeIn, Tracer.log, Tracer.step,
        Session.acceptLog_eq active, Step.depth, Tally.count_eq_add]
      by_cases deep : progress.tracer.session.merger.maxDepth ≤ log.depth
      · simp only [if_pos deep]
        rfl
      · simp only [if_neg deep]
        rfl
  | transfer sender receiver value depth =>
      simp only [Progress.step, Tracer.takeIn, Tracer.transfer, Tracer.step,
        Session.acceptTransfer_eq active, Step.depth, Tally.count_eq_add]
      by_cases deep : progress.tracer.session.merger.maxDepth ≤ depth
      · simp only [if_pos deep]
        rfl
      · simp only [if_neg deep]
        rfl

/-- A whole run: the steps that are not too deep are accepted, the others are dropped. -/
theorem foldl_step {bound : UInt64} (steps : List Step) (progress : Progress σ)
    (active : progress.tracer.session.stage = .active)
    (bounded : progress.tracer.session.merger.maxDepth = bound) :
    steps.foldl Progress.step progress =
      progress.advance (steps.filter (·.depth < bound)) (steps.countP (bound ≤ ·.depth))
        (progress.tracer.takeAll steps) := by
  induction steps generalizing progress with
  | nil => rfl
  | cons step steps ih =>
      have stillActive : (progress.tracer.takeIn step).session.stage = .active := by
        rw [Tracer.session_takeIn]
        exact Session.stage_takeIn active step
      have stillBounded : (progress.tracer.takeIn step).session.merger.maxDepth = bound := by
        rw [Tracer.session_takeIn, Session.merger_takeIn active, Merger.maxDepth_run, bounded]
      rw [List.foldl_cons, step_eq progress active step, bounded]
      by_cases deep : bound ≤ step.depth
      · rw [if_pos deep, ih _ stillActive stillBounded, advance_advance,
          List.filter_cons_of_neg (by simpa using deep),
          List.countP_cons_of_pos (by simpa using deep), Nat.add_comm 1]
        rfl
      · rw [if_neg deep, ih _ stillActive stillBounded, advance_advance,
          List.filter_cons_of_pos (by simpa using deep),
          List.countP_cons_of_neg (by simpa using deep), Nat.zero_add]
        rfl

end Replay.Progress

section Transaction

variable {σ : Type} [TraceStore σ] {config : TraceConfig}

/-- A session that has finished its transaction offers the store one record, and the
answer decides nothing but what is counted. -/
theorem Tracer.finish_eq {tracer : Tracer σ} {trace : FinalizedTrace} {session : Session}
    (finalized : tracer.session.finalize = (.ok trace, session)) (metadata : TxMetadata)
    (now : String) :
    tracer.finish metadata now =
      let record := TraceRecord.build metadata trace now
      let answer := TraceStore.put record tracer.store
      (match answer.1 with
        | .ok () => .ok record
        | .error cause => .error (.storeRejected record.key cause),
      ⟨session, answer.2, count trace.complete answer.1.isOk tracer.stats⟩) := by
  simp only [finish, finalized]
  cases answer : TraceStore.put (TraceRecord.build metadata trace now) tracer.store with
  | mk result store => cases result <;> rfl

namespace RecordedTransaction

/-- The session of a tracer that has played back the steps of a transaction. -/
def playedIn (transaction : RecordedTransaction) (session : Session) : Session :=
  session.reset.takeAll transaction.steps

variable {session : Session} (reachable : session.Reachable config)
  (transaction : RecordedTransaction)
include reachable

theorem accepted_eq : session.reset.accepted transaction.steps = transaction.accepted config :=
  reachable.accepted_reset transaction.steps

theorem journal_playedIn : (transaction.playedIn session).journal = transaction.journal config := by
  have stamped : (transaction.playedIn session).Stamped (transaction.accepted config) := by
    rw [← transaction.accepted_eq reachable]
    exact reachable.stamped_reset.takeAll rfl transaction.steps
  rw [journal, ← stamped.events, ← stamped.transfers]

theorem incomplete_playedIn :
    (transaction.playedIn session).incomplete = !(transaction.dropped config == 0) := by
  have follows : (transaction.playedIn session).Follows session.merger.reset transaction.steps :=
    (Session.Follows.reset session).takeAll transaction.steps
  rw [follows.incomplete, reachable.fresh_reset.maxDepth_eq, dropped, Bool.eq_iff_iff]
  simp

/-- What is written at the end of a transaction is said by its steps. -/
theorem finalize_playedIn :
    (transaction.playedIn session).finalize.1 =
      .ok (Session.writeTraces config.output
        (Nesting.records (Step.frames (transaction.accepted config)))
        (transaction.journal config) (transaction.dropped config == 0)) := by
  have output : (transaction.playedIn session).output = config.output :=
    (Session.output_takeAll transaction.steps _).trans reachable.output_eq
  rw [Session.finalize, Session.finalizeWith, output, playedIn, reachable.finalizeBy_reset,
    transaction.accepted_eq reachable]
  rw [← playedIn, transaction.journal_playedIn reachable, transaction.incomplete_playedIn reachable,
    Bool.not_not]

theorem reachable_playedIn : (transaction.playedIn session).finalize.2.Reachable config :=
  .operate .finalize (Session.Reachable.takeAll (.operate .reset reachable) transaction.steps)

end RecordedTransaction

/-- What becomes of a transaction, and of the tracer: the record of its accepted steps is
offered to the store, and everything is counted. -/
theorem Replay.transaction_eq {tracer : Tracer σ} (reachable : tracer.session.Reachable config)
    (now : String) (transaction : RecordedTransaction) (tally : Tally) :
    Replay.transaction now transaction tracer tally =
      let answer := TraceStore.put (transaction.record config now) tracer.store
      (transaction.outcome config answer.1.isOk,
        ⟨(transaction.playedIn tracer.session).finalize.2, answer.2,
          Tracer.count (transaction.dropped config == 0) answer.1.isOk tracer.stats⟩,
        tally + .ofTags (Step.tags (transaction.accepted config))) := by
  let begun : Progress σ := { tracer := tracer.start, tally := tally }
  let played : Tracer σ := { tracer with session := transaction.playedIn tracer.session }
  have steps : transaction.steps.foldl Progress.step begun =
      { tracer := played
        tally := tally + .ofTags (Step.tags (transaction.accepted config))
        calls := (Step.frames (transaction.accepted config)).length
        events := (Step.logs (transaction.accepted config)).length
        dropped := transaction.dropped config } := by
    have bounded : begun.tracer.session.merger.maxDepth = config.maxDepth :=
      reachable.fresh_reset.maxDepth_eq
    rw [Progress.foldl_step transaction.steps begun rfl bounded, Tracer.takeAll_eq]
    simp only [Progress.advance, begun, Nat.zero_add]
    rfl
  have finished : played.finish transaction.metadata now =
      let record := transaction.record config now
      let answer := TraceStore.put record tracer.store
      (match answer.1 with
        | .ok () => .ok record
        | .error cause => .error (.storeRejected record.key cause),
      ⟨played.session.finalize.2, answer.2,
        Tracer.count (transaction.dropped config == 0) answer.1.isOk tracer.stats⟩) :=
    Tracer.finish_eq (Prod.ext (transaction.finalize_playedIn reachable) rfl) _ now
  have transfers : played.session.journal.transfers.size =
      (Step.gather Step.transfer? (transaction.accepted config)).length := by
    rw [transaction.journal_playedIn reachable]
    exact List.size_toArray
  have complete : played.session.finalize.2.isComplete = (transaction.dropped config == 0) := by
    have unchanged : played.session.finalize.2.incomplete = played.session.incomplete :=
      Session.incomplete_finalize played.session
    rw [Session.isComplete, unchanged, transaction.incomplete_playedIn reachable, Bool.not_not]
  simp only [Replay.transaction]
  rw [steps, finished]
  simp only [transfers]
  cases TraceStore.put (transaction.record config now) tracer.store with
  | mk result store =>
      cases result with
      | ok taken => rfl
      | error cause =>
          simp only [complete]
          rfl

end Transaction

end CallTrace
