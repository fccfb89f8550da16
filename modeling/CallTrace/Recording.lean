/-
# Recordings

A recording is what an engine reported while it executed a batch of transactions:
for each transaction the steps in order, and the metadata known at its end.
-/

import CallTrace.Event
import CallTrace.Frame
import CallTrace.Record

namespace CallTrace

/-- One thing an engine reports during a transaction. -/
inductive Step where
  | call (frame : CallFrame)
  | log (log : LogEvent)
  | transfer (sender receiver : Address) (value : Amount) (depth : UInt64)
  deriving DecidableEq

/-- A transaction: its steps in order, and what is known at its end. -/
structure RecordedTransaction where
  metadata : TxMetadata
  steps : List Step
  deriving DecidableEq

/-- Transactions in the order of their execution. -/
structure Recording where
  transactions : List RecordedTransaction
  deriving DecidableEq

/-- Why no recording could be had. -/
inductive RecordingError where
  /-- The file cannot be opened. -/
  | unreadable
  /-- What the file holds is no recording. -/
  | notRecording
  deriving DecidableEq, Repr

namespace RecordingError

def message : RecordingError → String
  | .unreadable => "Failed to read recording"
  | .notRecording => "Invalid recording JSON"

end RecordingError

end CallTrace
