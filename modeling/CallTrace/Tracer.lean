/-
# Following an execution

A tracer is what an engine talks to: it passes the steps of a transaction to a
session, and at the end of the transaction hands the finished record to a store.
A record that the store refuses is counted and given up.
-/

import CallTrace.Session
import CallTrace.Store

namespace CallTrace

/-- Counts over the life of a tracer. -/
structure TracerStats where
  /-- Transactions finished. -/
  transactions : Nat := 0
  /-- Records that the store took. -/
  stored : Nat := 0
  /-- Records that the store refused. -/
  storeFailures : Nat := 0
  /-- Transactions finished with something dropped. -/
  incomplete : Nat := 0
  deriving DecidableEq, Repr, Inhabited

/-- A session with the store for its records. -/
structure Tracer (σ : Type) where
  session : Session
  store : σ
  stats : TracerStats

namespace Tracer

variable {σ : Type}

def new (config : TraceConfig) (store : σ) : Tracer σ :=
  ⟨.new config, store, {}⟩

/-- Begins a transaction. -/
def start (tracer : Tracer σ) : Tracer σ :=
  { tracer with session := tracer.session.reset }

/-- Applies a step to the session. -/
def step {α : Type} (take : Session → Session.Outcome α) (tracer : Tracer σ) :
    Except TraceError α × Tracer σ :=
  let (result, session) := take tracer.session
  (result, { tracer with session := session })

/-- A call was entered. -/
def call (frame : CallFrame) : Tracer σ → Except TraceError Unit × Tracer σ :=
  step (·.acceptCall frame)

/-- A log was emitted. -/
def log (log : LogEvent) : Tracer σ → Except TraceError EventTag × Tracer σ :=
  step (·.acceptLog log)

/-- Native currency was moved. -/
def transfer (sender receiver : Address) (value : Amount) (depth : UInt64) :
    Tracer σ → Except TraceError Unit × Tracer σ :=
  step (·.acceptTransfer sender receiver value depth)

/-- The counts after a transaction has been finished and its record offered. -/
def count (complete stored : Bool) (stats : TracerStats) : TracerStats where
  transactions := stats.transactions + 1
  stored := if stored then stats.stored + 1 else stats.stored
  storeFailures := if stored then stats.storeFailures else stats.storeFailures + 1
  incomplete := if complete then stats.incomplete else stats.incomplete + 1

/-- The transaction has ended at the time `now`: finishes its record and offers it
to the store. -/
def finish [TraceStore σ] (metadata : TxMetadata) (now : String) (tracer : Tracer σ) :
    Except TraceError TraceRecord × Tracer σ :=
  match tracer.session.finalize with
  | (.error fault, session) => (.error fault, { tracer with session := session })
  | (.ok trace, session) =>
    let record := TraceRecord.build metadata trace now
    match TraceStore.put record tracer.store with
    | (.ok (), store) => (.ok record, ⟨session, store, count trace.complete true tracer.stats⟩)
    | (.error cause, store) =>
      (.error (.storeRejected record.key cause),
        ⟨session, store, count trace.complete false tracer.stats⟩)

end Tracer

end CallTrace
