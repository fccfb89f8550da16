/-
# The function trace

One row a call, in the order in which the calls were entered. A trace may also be
left out as a whole; the empty text then stands for it and holds no rows.
-/

import CallTrace.Rows.Basic

namespace CallTrace.FunctionTrace

open Rows

def header : String :=
  "index,calltype,depth,from,to,value,gas,input,output,callstack,tracepath"

/-- The columns of a call. -/
def columns (record : CallRecord) : Columns :=
  let frame := record.frame
  [Numeral.decimal frame.index.toNat, frame.callType.label.toList,
    Numeral.decimal frame.depth.toNat, frame.sender.toHex, frame.target.toHex,
    frame.value.toDecimal, Numeral.decimal frame.gas.toNat, Hex.encodeMarked frame.input,
    Hex.encodeMarked frame.output, writePath record.links, writePath record.path]

/-- The call in the columns of a row, checked from the first to the last. -/
def readRow : Columns → Except RowFault CallRecord
  | [index, callType, depth, sender, target, value, gas, input, output, links, path] => do
    let index ← readUInt64 "index" index
    let callType ← (CallType.ofText callType).mapError .callType
    let depth ← readUInt64 "depth" depth
    let sender ← readFixedBytes "from" sender
    let target ← readFixedBytes "to" target
    let value ← (Amount.ofDecimal value).mapError .value
    let gas ← readUInt64 "gas" gas
    let input ← readBytes "input" input
    let output ← readBytes "output" output
    let links ← readPath "callstack" links
    let path ← readPath "tracepath" path
    return ⟨⟨index, callType, depth, sender, target, value, gas, input, output⟩, links, path⟩
  | columns => .error (.columnCount 11 columns.length)

/-- The function trace of a list of calls. -/
def write (records : List CallRecord) : List Char :=
  sheet header (records.map columns)

/-- The calls in a function trace. -/
def read (text : List Char) : Except ReaderError (List CallRecord) :=
  if text.isEmpty then .ok []
  else do
    let (_, lines) ← body [header] text
    readAll readRow lines

end CallTrace.FunctionTrace
