/-
# The event trace

One row a log, in the order of emission. The last two columns hold what the log
means and are left out of traces without classification; the header tells which
kind of trace it is.
-/

import CallTrace.Rows.Basic

namespace CallTrace

/-- An event as its row shows it. -/
structure EventRow where
  address : Address
  topics : List Hash
  data : List UInt8
  /-- Missing in traces without classification. -/
  tag : Option EventTag
  deriving DecidableEq

namespace EventTrace

open Rows

/-- The header, with the columns of the classification or without. -/
def header (tagged : Bool) : String :=
  if tagged then "address,topics,data,type,function" else "address,topics,data"

/-- The columns of an event. -/
def columns (tagged : Bool) (event : EventRecord) : Columns :=
  [event.address.toHex, writeTopics event.topics, Hex.encodeMarked event.data] ++
    if tagged then [event.tag.standard.toList, event.tag.function.toList] else []

/-- What every row holds. The topics are looked at before the address. -/
def readCommon (address topics data : List Char) (tag : Unit → Except RowFault (Option EventTag)) :
    Except RowFault EventRow := do
  let topics ← readList "topics" (readFixedBytes "topics") topics
  let address ← readFixedBytes "address" address
  let data ← readBytes "data" data
  let tag ← tag ()
  return ⟨address, topics, data, tag⟩

/-- The event in the columns of a row. -/
def readRow (tagged : Bool) (columns : Columns) : Except RowFault EventRow :=
  match tagged, columns with
  | true, [address, topics, data, standard, function] =>
    readCommon address topics data fun _ => (readTag standard function).map some
  | false, [address, topics, data] =>
    readCommon address topics data fun _ => .ok none
  | true, columns => .error (.columnCount 5 columns.length)
  | false, columns => .error (.columnCount 3 columns.length)

/-- The event trace of a list of events. -/
def write (tagged : Bool) (events : List EventRecord) : List Char :=
  sheet (header tagged) (events.map (columns tagged))

/-- The events in an event trace. -/
def read (text : List Char) : Except ReaderError (List EventRow) := do
  let (found, lines) ← body [header true, header false] text
  readAll (readRow (found == header true)) lines

end EventTrace

end CallTrace
