/-
# A tracing session

A session follows one transaction at a time. It has to be reset before the first,
takes in calls, logs and movements of value while it is active, and is finished
by writing out its traces; a reset makes it ready for the next transaction,
wherever it was before.

A step that is refused changes nothing, except that a step refused for its depth
marks the trace as incomplete.
-/

import CallTrace.Config
import CallTrace.Journal
import CallTrace.Merger
import CallTrace.Record
import CallTrace.Rows.Event
import CallTrace.Rows.Function
import CallTrace.Rows.Transfer

namespace CallTrace

/-- Where a session is in its life. -/
inductive Stage where
  | idle
  | active
  | finalized
  deriving DecidableEq, Repr, Inhabited

/-- The state of tracing one transaction. -/
structure Session where
  stage : Stage
  output : OutputSchema
  merger : Merger
  journal : Journal
  /-- The number of calls and logs accepted in this transaction. -/
  traceIndex : UInt64
  /-- Whether something was refused for its depth. -/
  incomplete : Bool

namespace Session

def new (config : TraceConfig) : Session where
  stage := .idle
  output := config.output
  merger := .new config.maxDepth
  journal := .empty
  traceIndex := 0
  incomplete := false

instance : BEq Session where
  beq a b := a.stage == b.stage && a.output == b.output && a.merger == b.merger &&
    a.journal == b.journal && a.traceIndex == b.traceIndex && a.incomplete == b.incomplete

/-- Starts a transaction, forgetting the one before. -/
def reset (session : Session) : Session where
  stage := .active
  output := session.output
  merger := session.merger.reset
  journal := .empty
  traceIndex := 0
  incomplete := false

/-- What a step comes to: a result or a refusal, and in both cases the session after
it. -/
abbrev Outcome (α : Type) := Except TraceError α × Session

/-- Refuses a step at a depth that is out of bounds. -/
def refuseDepth {α : Type} (depth : UInt64) (session : Session) : Outcome α :=
  (.error (.depthExceeded depth session.merger.maxDepth), { session with incomplete := true })

/-- Takes in a call. -/
def acceptCall (frame : CallFrame) (session : Session) : Outcome Unit :=
  if session.stage ≠ .active then (.error .sessionClosed, session)
  else
    match session.merger.accept frame with
    | .ok merger =>
      (.ok (), { session with merger := merger, traceIndex := session.traceIndex + 1 })
    | .error fault => (.error fault, { session with incomplete := true })

/-- Takes in a log and tells what it means. -/
def acceptLog (log : LogEvent) (session : Session) : Outcome EventTag :=
  if session.stage ≠ .active then (.error .sessionClosed, session)
  else if session.merger.maxDepth ≤ log.depth then session.refuseDepth log.depth
  else
    (.ok log.tag,
      { session with
        journal := session.journal.recordLog log session.merger.table session.traceIndex
        traceIndex := session.traceIndex + 1 })

/-- Takes in a movement of native currency made by the call open at `depth`. It does
not advance the count of calls and logs. -/
def acceptTransfer (sender receiver : Address) (value : Amount) (depth : UInt64)
    (session : Session) : Outcome Unit :=
  if session.stage ≠ .active then (.error .sessionClosed, session)
  else if session.merger.maxDepth ≤ depth then session.refuseDepth depth
  else
    (.ok (),
      { session with
        journal := session.journal.recordNative sender receiver value depth session.merger.table
          session.traceIndex })

/-- The three traces of the given calls and journal under a schema. -/
def writeTraces (output : OutputSchema) (calls : List CallRecord) (journal : Journal)
    (complete : Bool) : FinalizedTrace where
  functionTrace :=
    if output.functionTrace then String.ofList (FunctionTrace.write calls) else ""
  eventTrace :=
    String.ofList (EventTrace.write output.classificationTags journal.events.toList)
  transferTrace :=
    String.ofList (TransferTrace.write output.classificationTags journal.transfers.toList)
  complete := complete

/-- Ends the transaction and has its traces written out by `write`, which is given the
calls, the journal, and whether nothing was dropped. -/
def finalizeBy (write : List CallRecord → Journal → Bool → FinalizedTrace) (session : Session) :
    Outcome FinalizedTrace :=
  if session.stage ≠ .active then (.error .sessionClosed, session)
  else
    let (calls, merger) := session.merger.finish
    (.ok (write calls.toList session.journal !session.incomplete),
      { session with stage := .finalized, merger := merger })

/-- Ends the transaction and writes out its traces under the given schema. -/
def finalizeWith (output : OutputSchema) (session : Session) : Outcome FinalizedTrace :=
  session.finalizeBy (writeTraces output)

/-- Ends the transaction and writes out its traces under the schema of the session. -/
def finalize (session : Session) : Outcome FinalizedTrace :=
  session.finalizeWith session.output

/-- The depth of the call accepted last. -/
def currentDepth (session : Session) : Nat :=
  session.merger.currentDepth

/-- The greatest depth of a call in this transaction. -/
def deepest (session : Session) : Option Nat :=
  session.merger.table.deepest

def isComplete (session : Session) : Bool :=
  !session.incomplete

end Session

end CallTrace
