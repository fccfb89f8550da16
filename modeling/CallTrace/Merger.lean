/-
# Merging frames into the trace of calls

The engine reports every call on entry, so all calls inside a frame arrive after
it and before its next sibling. A frame at depth `d` therefore shows that every
open frame at `d` or deeper has ended. The merger then folds the buffers deeper
than `d` upward, one level into the next, and lets the frame wait at its own
level; a top-level frame also releases the top-level call before it, which is
complete by then.

No step reorders records: at any time the records handed out, those released,
and those waiting at levels 0, 1, 2, … are together the frames accepted, in order.
-/

import CallTrace.DepthBuffers
import CallTrace.Frame
import CallTrace.SiteTable
import CallTrace.TraceError

namespace CallTrace

/-- The frames of a transaction so far, each with its place among them. -/
structure Merger where
  buffers : DepthBuffers CallRecord
  table : SiteTable
  /-- The depth of the frame accepted last. -/
  currentDepth : Nat
  maxDepth : UInt64
  /-- Records of top-level calls that have ended. -/
  committed : Array CallRecord

namespace Merger

def new (maxDepth : UInt64) : Merger :=
  ⟨.empty, .empty, 0, maxDepth, #[]⟩

instance : BEq Merger where
  beq a b := a.buffers == b.buffers && a.table == b.table && a.currentDepth == b.currentDepth &&
    a.maxDepth == b.maxDepth && a.committed == b.committed

/-- Folds the given level, and after it every level above it that is still deeper
than `target`, into the level above. -/
def unwind (target : Nat) : Nat → DepthBuffers CallRecord → DepthBuffers CallRecord
  | 0, buffers => buffers
  | level + 1, buffers =>
    if target ≤ level then unwind target level (buffers.fold level (level + 1)) else buffers

/-- Releases everything that waits at level 0. -/
def commit (merger : Merger) : Merger :=
  let (released, buffers) := merger.buffers.drain 0
  { merger with buffers := buffers, committed := merger.committed ++ released }

/-- Ends every open frame deeper than `depth`. -/
def unwindTo (depth : Nat) (merger : Merger) : Merger :=
  { merger with
    buffers := unwind depth merger.currentDepth merger.buffers
    currentDepth := min merger.currentDepth depth }

/-- Accepts a frame within the bound on depth. -/
def place (frame : CallFrame) (merger : Merger) : Merger :=
  let depth := frame.depth.toNat
  let merger := merger.unwindTo depth
  let merger := if depth = 0 then merger.commit else merger
  let table := (merger.table.enter depth).2
  let record : CallRecord := ⟨frame, table.links depth, table.path depth⟩
  { merger with
    buffers := merger.buffers.push depth record
    table := table
    currentDepth := depth }

/-- Accepts a frame. A frame at the bound or deeper is refused, and the merger stays
as it is. -/
def accept (frame : CallFrame) (merger : Merger) : Except TraceError Merger :=
  if merger.maxDepth ≤ frame.depth then
    .error (.depthExceeded frame.depth merger.maxDepth)
  else
    .ok (merger.place frame)

/-- Ends every open frame and hands out all records released so far. -/
def finish (merger : Merger) : Array CallRecord × Merger :=
  let merger := (merger.unwindTo 0).commit
  (merger.committed, { merger with committed := #[] })

/-- The records that wait at a level. -/
def pending (merger : Merger) (depth : Nat) : Array CallRecord :=
  merger.buffers.slot depth

/-- Whether nothing waits deeper than the frame accepted last. -/
def isFlushedBelowCurrent (merger : Merger) : Bool :=
  merger.buffers.isEmptyBelow merger.currentDepth

/-- Forgets the transaction so far. -/
def reset (merger : Merger) : Merger where
  buffers := merger.buffers.reset
  table := merger.table.reset
  currentDepth := 0
  maxDepth := merger.maxDepth
  committed := #[]

end Merger

end CallTrace
