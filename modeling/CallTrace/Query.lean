/-
# Questions about a stored trace

The texts of a record are read back into rows, and two questions are answered
from the rows: whether a function of a contract was called, and whether a token
moved between two parties for at most some amount.
-/

import CallTrace.Record
import CallTrace.Rows.Event
import CallTrace.Rows.Function
import CallTrace.Rows.Transfer

namespace CallTrace

/-- The rows of the three traces of a record. -/
structure ParsedTrace where
  calls : List CallRecord
  events : List EventRow
  transfers : List TransferRow
  deriving DecidableEq

namespace Query

/-- Whether a call went to `address` with input that begins with `selector`. Input
shorter than the four bytes of a selector names no function. -/
def callsFunction (calls : List CallRecord) (address : Address) (selector : FixedBytes 4) : Bool :=
  calls.any fun call =>
    call.frame.target = address && selector.toList.isPrefixOf call.frame.input

/-- The address that a party column holds: the end of a topic, or an address. -/
def party? (column : String) : Option Address :=
  match (FixedBytes.ofHex column.toList : Except HexFault Hash) with
  | .ok topic => some (Hash.toAddress topic)
  | .error _ => (FixedBytes.ofHex column.toList).toOption

/-- The amount that hexadecimal digits denote, if it is one. Leading zeros do not
count, and no digits at all denote zero. -/
def amount? (digits : String) : Option Nat :=
  match digits.toList.dropWhile (· == '0') with
  | [] => some 0
  | significant => (Numeral.read 16 Amount.count significant).toOption

/-- Whether a row moves `token` from `sender` to `receiver` for at most `limit`. -/
def rowMoves (sender receiver token : Address) (limit : Amount) (row : TransferRow) : Bool :=
  row.token = token && party? row.sender = some sender && party? row.receiver = some receiver &&
    (amount? row.value).any (· ≤ limit.toNat)

/-- Whether some row moves `token` from `sender` to `receiver` for at most `limit`. -/
def movesToken (transfers : List TransferRow) (sender receiver token : Address)
    (limit : Amount) : Bool :=
  transfers.any (rowMoves sender receiver token limit)

end Query

namespace ParsedTrace

/-- Reads three texts, the function trace first. -/
def ofTexts (functionTrace eventTrace transferTrace : String) :
    Except ReaderError ParsedTrace := do
  let calls ← FunctionTrace.read functionTrace.toList
  let events ← EventTrace.read eventTrace.toList
  let transfers ← TransferTrace.read transferTrace.toList
  return ⟨calls, events, transfers⟩

/-- Reads the texts of a record. -/
def ofRecord (record : TraceRecord) : Except ReaderError ParsedTrace :=
  ofTexts record.functionTrace record.eventTrace record.transferTrace

def callsFunction (trace : ParsedTrace) (address : Address) (selector : FixedBytes 4) : Bool :=
  Query.callsFunction trace.calls address selector

def movesToken (trace : ParsedTrace) (sender receiver token : Address) (limit : Amount) : Bool :=
  Query.movesToken trace.transfers sender receiver token limit

end ParsedTrace

end CallTrace
