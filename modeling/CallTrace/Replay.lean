/-
# Replaying recordings

A recording is played back to a tracer as if an engine were reporting it. Every
transaction ends in an outcome; steps that are refused for their depth and records
that the store refuses are counted, and the replay goes on.
-/

import CallTrace.Recording
import CallTrace.Tracer

namespace CallTrace

/-- What a clock reads, one time after the other. -/
abbrev Clock := Nat → String

/-- What the clock reads after it has been read some times. -/
def Clock.after (count : Nat) (clock : Clock) : Clock :=
  fun place => clock (place + count)

/-- What became of one transaction. -/
structure TxOutcome where
  /-- The hash of the transaction, as written. -/
  hash : String
  calls : Nat
  events : Nat
  transfers : Nat
  /-- Steps refused for their depth. -/
  dropped : Nat
  complete : Bool
  stored : Bool
  deriving DecidableEq, Repr

/-- How often each meaning occurred. -/
structure Tally where
  erc20Transfers : Nat := 0
  erc721Transfers : Nat := 0
  approvals : Nat := 0
  nativeTransfers : Nat := 0
  unclassified : Nat := 0
  deriving DecidableEq, Repr, Inhabited

namespace Tally

/-- Counts one occurrence. -/
def count (tag : EventTag) (tally : Tally) : Tally :=
  match tag with
  | .erc20Transfer => { tally with erc20Transfers := tally.erc20Transfers + 1 }
  | .erc721Transfer => { tally with erc721Transfers := tally.erc721Transfers + 1 }
  | .erc20Approval | .erc721Approval | .erc721ApprovalForAll =>
    { tally with approvals := tally.approvals + 1 }
  | .native => { tally with nativeTransfers := tally.nativeTransfers + 1 }
  | .unclassified => { tally with unclassified := tally.unclassified + 1 }

end Tally

/-- What became of a recording. -/
structure ReplaySummary where
  /-- One outcome a transaction, in order. -/
  outcomes : List TxOutcome
  tally : Tally
  deriving DecidableEq, Repr

namespace ReplaySummary

def transactions (summary : ReplaySummary) : Nat :=
  summary.outcomes.length

def stored (summary : ReplaySummary) : Nat :=
  summary.outcomes.countP (·.stored)

def incomplete (summary : ReplaySummary) : Nat :=
  summary.outcomes.countP (!·.complete)

end ReplaySummary

namespace Replay

variable {σ : Type}

/-- A transaction in the middle of being played back. -/
structure Progress (σ : Type) where
  tracer : Tracer σ
  tally : Tally
  calls : Nat := 0
  events : Nat := 0
  dropped : Nat := 0

/-- Counts a refused step if it was refused for its depth. -/
def Progress.refuse (fault : TraceError) (progress : Progress σ) : Progress σ :=
  match fault with
  | .depthExceeded .. => { progress with dropped := progress.dropped + 1 }
  | _ => progress

/-- Plays back one step. -/
def Progress.step (progress : Progress σ) : Step → Progress σ
  | .call frame =>
    match progress.tracer.call frame with
    | (.ok (), tracer) => { progress with tracer := tracer, calls := progress.calls + 1 }
    | (.error fault, tracer) => { progress with tracer := tracer }.refuse fault
  | .log log =>
    match progress.tracer.log log with
    | (.ok tag, tracer) =>
      { progress with
        tracer := tracer
        events := progress.events + 1
        tally := progress.tally.count tag }
    | (.error fault, tracer) => { progress with tracer := tracer }.refuse fault
  | .transfer sender receiver value depth =>
    match progress.tracer.transfer sender receiver value depth with
    | (.ok (), tracer) =>
      { progress with tracer := tracer, tally := progress.tally.count .native }
    | (.error fault, tracer) => { progress with tracer := tracer }.refuse fault

/-- Plays back one transaction, which ends at the time `now`. -/
def transaction [TraceStore σ] (now : String) (transaction : RecordedTransaction)
    (tracer : Tracer σ) (tally : Tally) : TxOutcome × Tracer σ × Tally :=
  let progress : Progress σ := { tracer := tracer.start, tally := tally }
  let progress := transaction.steps.foldl Progress.step progress
  let transfers := progress.tracer.session.journal.transfers.size
  let (result, tracer) := progress.tracer.finish transaction.metadata now
  let (complete, stored) := match result with
    | .ok record => (record.complete, true)
    | .error (.storeRejected ..) => (tracer.session.isComplete, false)
    | .error _ => (false, false)
  (⟨String.ofList transaction.metadata.hash.toHex, progress.calls, progress.events, transfers,
    progress.dropped, complete, stored⟩, tracer, progress.tally)

/-- Plays back transactions in order. The clock is read at the end of each. -/
def transactions [TraceStore σ] (clock : Clock) :
    List RecordedTransaction → Tracer σ → Tally → ReplaySummary × Tracer σ
  | [], tracer, tally => (⟨[], tally⟩, tracer)
  | first :: rest, tracer, tally =>
    let (outcome, tracer, tally) := transaction (clock 0) first tracer tally
    let (summary, tracer) := transactions (clock.after 1) rest tracer tally
    ({ summary with outcomes := outcome :: summary.outcomes }, tracer)

/-- Plays back a recording. -/
def recording [TraceStore σ] (clock : Clock) (recording : Recording) (tracer : Tracer σ) :
    ReplaySummary × Tracer σ :=
  transactions clock recording.transactions tracer {}

end Replay

end CallTrace
