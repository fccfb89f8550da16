/-
# The transfer trace

One row a movement of value, in the order of emission. Parties and value are kept
as they stand in the text, since tokens and native currency write them
differently. The last column names the standard only, which is enough because no
other kind of event is a transfer; it is left out of traces without
classification.
-/

import CallTrace.Rows.Basic

namespace CallTrace

/-- A transfer as its row shows it. -/
structure TransferRow where
  sender : String
  receiver : String
  token : Address
  /-- The digits of the value, without a mark. -/
  value : String
  depth : UInt64
  traceIndex : UInt64
  path : List UInt32
  /-- Missing in traces without classification. -/
  tag : Option EventTag
  deriving DecidableEq

namespace TransferTrace

open Rows

/-- The header, with the column of the classification or without. -/
def header (tagged : Bool) : String :=
  if tagged then "from,to,tokenAddr,value,calldepth,traceindex,tracepath,type"
  else "from,to,tokenAddr,value,calldepth,traceindex,tracepath"

/-- The columns of a transfer. -/
def columns (tagged : Bool) (transfer : TransferRecord) : Columns :=
  [transfer.sender.toList, transfer.receiver.toList, transfer.token.toHex,
    '0' :: 'x' :: transfer.value.toList, Numeral.decimal transfer.depth.toNat,
    Numeral.decimal transfer.traceIndex.toNat, writePath transfer.path] ++
    if tagged then [transfer.tag.standard.toList] else []

/-- What every row holds. -/
def readCommon (sender receiver token value depth index path : List Char)
    (tag : Unit → Except RowFault (Option EventTag)) : Except RowFault TransferRow := do
  let token ← readFixedBytes "tokenAddr" token
  let depth ← readUInt64 "calldepth" depth
  let index ← readUInt64 "traceindex" index
  let path ← readPath "tracepath" path
  let tag ← tag ()
  let value := Text.dropOpening ['0', 'x'] value
  return ⟨String.ofList sender, String.ofList receiver, token, String.ofList value, depth, index,
    path, tag⟩

/-- The transfer in the columns of a row. -/
def readRow (tagged : Bool) (columns : Columns) : Except RowFault TransferRow :=
  match tagged, columns with
  | true, [sender, receiver, token, value, depth, index, path, standard] =>
    readCommon sender receiver token value depth index path fun _ =>
      (readTag standard EventTag.native.function.toList).map some
  | false, [sender, receiver, token, value, depth, index, path] =>
    readCommon sender receiver token value depth index path fun _ => .ok none
  | true, columns => .error (.columnCount 8 columns.length)
  | false, columns => .error (.columnCount 7 columns.length)

/-- The transfer trace of a list of transfers. -/
def write (tagged : Bool) (transfers : List TransferRecord) : List Char :=
  sheet (header tagged) (transfers.map (columns tagged))

/-- The transfers in a transfer trace. -/
def read (text : List Char) : Except ReaderError (List TransferRow) := do
  let (found, lines) ← body [header true, header false] text
  readAll (readRow (found == header true)) lines

end TransferTrace

end CallTrace
