/-
# The journal of a transaction

Logs and movements of value are written down as they happen, each with the number
of calls and logs before it. A transfer also gets the path of the call open at
its depth, as the table of sites has it at that moment.
-/

import CallTrace.Classifier
import CallTrace.SiteTable

namespace CallTrace

/-- The logs and the movements of value of a transaction, each in order. -/
structure Journal where
  events : Array EventRecord
  transfers : Array TransferRecord
  deriving DecidableEq

namespace Journal

def empty : Journal := ⟨#[], #[]⟩

instance : Inhabited Journal := ⟨empty⟩

/-- A token's movement in its place. -/
def placeTransfer (transfer : TokenTransfer) (tag : EventTag) (depth : UInt64) (table : SiteTable)
    (traceIndex : UInt64) : TransferRecord where
  sender := String.ofList transfer.sender.toHex
  receiver := String.ofList transfer.receiver.toHex
  token := transfer.token
  value := transfer.value
  depth := depth
  path := table.path depth.toNat
  tag := tag
  traceIndex := traceIndex

/-- Writes down a log, and the transfer that it describes if it describes one. -/
def recordLog (log : LogEvent) (table : SiteTable) (traceIndex : UInt64) (journal : Journal) :
    Journal where
  events := journal.events.push
    ⟨log.address, log.topics, log.data, log.depth, traceIndex, log.tag⟩
  transfers :=
    match log.transfer? with
    | some transfer =>
      journal.transfers.push (placeTransfer transfer log.tag log.depth table traceIndex)
    | none => journal.transfers

/-- A movement of native currency in its place. It has no token, and the zero
address stands in for one. -/
def placeNative (sender receiver : Address) (value : Amount) (depth : UInt64) (table : SiteTable)
    (traceIndex : UInt64) : TransferRecord where
  sender := String.ofList sender.toHex
  receiver := String.ofList receiver.toHex
  token := .zero 20
  value := String.ofList value.toHexadecimal
  depth := depth
  path := table.path depth.toNat
  tag := .native
  traceIndex := traceIndex

/-- Writes down a movement of native currency. -/
def recordNative (sender receiver : Address) (value : Amount) (depth : UInt64)
    (table : SiteTable) (traceIndex : UInt64) (journal : Journal) : Journal :=
  { journal with
    transfers := journal.transfers.push
      (placeNative sender receiver value depth table traceIndex) }

end Journal

end CallTrace
