/-
# Call frames

When the execution engine enters a call it reports a frame: what kind of call it
is, how deep it nests, who calls whom, and with what. A frame that has been given
its place among the calls of its transaction is a call record.
-/

import CallTrace.Amount
import CallTrace.Bytes.Fixed
import CallTrace.Text.LowerCase

namespace CallTrace

/-- The kinds of call an engine enters. -/
inductive CallType where
  | call
  | callCode
  | delegateCall
  | staticCall
  | create
  | create2
  | selfDestruct
  deriving DecidableEq, Repr, Inhabited

/-- A text that names no kind of call, in small letters. -/
structure UnknownCallType where
  name : String
  deriving DecidableEq, Repr

namespace UnknownCallType

def message (fault : UnknownCallType) : String :=
  "unknown call type '" ++ fault.name ++ "'"

end UnknownCallType

namespace CallType

/-- All kinds of call. -/
def all : List CallType :=
  [.call, .callCode, .delegateCall, .staticCall, .create, .create2, .selfDestruct]

/-- The name under which a kind of call is written. -/
def label : CallType → String
  | .call => "call"
  | .callCode => "callcode"
  | .delegateCall => "delegatecall"
  | .staticCall => "staticcall"
  | .create => "create"
  | .create2 => "create2"
  | .selfDestruct => "selfdestruct"

/-- The kind of call with exactly this label. -/
def ofLabel? (name : String) : Option CallType :=
  all.find? fun callType => callType.label == name

/-- Reads a label in any case. The former name of `selfdestruct` is still read. -/
def ofText (text : List Char) : Except UnknownCallType CallType :=
  let name := String.ofList (Text.LowerCase.text text)
  if name == "suicide" then .ok .selfDestruct
  else
    match ofLabel? name with
    | some callType => .ok callType
    | none => .error ⟨name⟩

end CallType

/-- A call as the engine reports it on entry. `index` counts the calls of the
transaction from its beginning, `depth` is zero for a top-level call. -/
structure CallFrame where
  index : UInt64
  callType : CallType
  depth : UInt64
  sender : Address
  target : Address
  value : Amount
  gas : UInt64
  input : List UInt8
  output : List UInt8
  deriving DecidableEq, Inhabited

/-- A frame in its place. `path` holds, for every level from 1 down to the frame's
own, the site of the call open there; `links` holds for the same levels the site
of the call that was open one level above when that call was entered. -/
structure CallRecord where
  frame : CallFrame
  links : List UInt32
  path : List UInt32
  deriving DecidableEq, Inhabited

end CallTrace
