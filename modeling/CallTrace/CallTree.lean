/-
# The tree of calls

A function trace lists calls in the order in which they were entered. Together
with their depths this determines which call was made inside which: a call
belongs to the nearest earlier call that is less deep. Depths may be skipped; the
rule does not ask them to be consecutive.

The tree is built in one pass over the list, keeping the chain of calls that are
still open. A call closes every open call that is at least as deep as itself.
-/

import CallTrace.Frame

namespace CallTrace

/-- A call with the calls made inside it, in order. -/
inductive CallNode where
  | node (record : CallRecord) (children : List CallNode)
  deriving Inhabited

namespace CallNode

def record : CallNode → CallRecord
  | .node record _ => record

def children : CallNode → List CallNode
  | .node _ children => children

mutual

/-- The number of calls in a tree. -/
def size : CallNode → Nat
  | .node _ children => 1 + sizeAll children

/-- The number of calls in a forest. -/
def sizeAll : List CallNode → Nat
  | [] => 0
  | tree :: rest => size tree + sizeAll rest

end

mutual

/-- The calls of a tree, each before the calls made inside it. -/
def flatten : CallNode → List CallRecord
  | .node record children => record :: flattenAll children

/-- The calls of a forest, tree by tree. -/
def flattenAll : List CallNode → List CallRecord
  | [] => []
  | tree :: rest => flatten tree ++ flattenAll rest

end

end CallNode

namespace CallTree

/-- A call that is still open, with the complete calls made inside it so far. -/
structure OpenCall where
  record : CallRecord
  done : List CallNode

/-- A call no longer open. -/
def OpenCall.close (call : OpenCall) : CallNode :=
  .node call.record call.done

/-- Gives a call further complete calls made inside it. -/
def OpenCall.extend (call : OpenCall) (more : List CallNode) : OpenCall :=
  { call with done := call.done ++ more }

/-- Closes the open calls at `depth` or deeper, innermost first. What was closed
last is handed to the call around it, and to the roots if there is none. -/
def closeTo (depth : UInt64) (closed : List CallNode) :
    List OpenCall → List OpenCall × List CallNode
  | [] => ([], closed)
  | inner :: outer =>
    let inner := inner.extend closed
    if depth ≤ inner.record.frame.depth then closeTo depth [inner.close] outer
    else (inner :: outer, [])

/-- Closes all open calls. -/
def closeAll (closed : List CallNode) : List OpenCall → List CallNode
  | [] => closed
  | inner :: outer => closeAll [(inner.extend closed).close] outer

/-- The roots that a list of calls adds while the calls in `open` are open. -/
def grow (opened : List OpenCall) : List CallRecord → List CallNode
  | [] => closeAll [] opened
  | record :: rest =>
    let (outer, roots) := closeTo record.frame.depth [] opened
    roots ++ grow (⟨record, []⟩ :: outer) rest

/-- The forest of calls in a function trace, one tree for each call that no earlier
call contains. -/
def build (records : List CallRecord) : List CallNode :=
  grow [] records

end CallTree

end CallTrace
