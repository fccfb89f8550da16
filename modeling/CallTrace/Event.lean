/-
# Logs, events and transfers

A log is what a contract emits during a call. Once it has been classified and
stamped with its position in the execution it is an event. Some events move
tokens; each of those, and every plain movement of the native currency, is also
recorded as a transfer.
-/

import CallTrace.Amount
import CallTrace.Bytes.Fixed

namespace CallTrace

/-- A log as the engine reports it. -/
structure LogEvent where
  address : Address
  topics : List Hash
  data : List UInt8
  depth : UInt64
  deriving DecidableEq, Inhabited

/-- What a log, or a movement of native currency, means. -/
inductive EventTag where
  | erc20Transfer
  | erc20Approval
  | erc721Transfer
  | erc721Approval
  | erc721ApprovalForAll
  | native
  | unclassified
  deriving DecidableEq, Repr, Inhabited

namespace EventTag

/-- All tags. -/
def all : List EventTag :=
  [.erc20Transfer, .erc20Approval, .erc721Transfer, .erc721Approval, .erc721ApprovalForAll,
    .native, .unclassified]

/-- The token standard, as a column of a trace shows it. -/
def standard : EventTag → String
  | .erc20Transfer => "ERC20"
  | .erc20Approval => "ERC20"
  | .erc721Transfer => "ERC721"
  | .erc721Approval => "ERC721"
  | .erc721ApprovalForAll => "ERC721"
  | .native => "NATIVE"
  | .unclassified => ""

/-- The name of the event, as a column of a trace shows it. -/
def function : EventTag → String
  | .erc20Transfer => "Transfer"
  | .erc20Approval => "Approval"
  | .erc721Transfer => "Transfer"
  | .erc721Approval => "Approval"
  | .erc721ApprovalForAll => "ApprovalForAll"
  | .native => "Transfer"
  | .unclassified => ""

/-- Whether something of value changes hands. -/
def isTransfer : EventTag → Bool
  | .erc20Transfer => true
  | .erc721Transfer => true
  | .native => true
  | _ => false

/-- The tag that two columns show. Native movements are recognized by the first
column alone; all other tags need both columns as they are written. -/
def ofColumns? (standard function : String) : Option EventTag :=
  if standard == "NATIVE" then some .native
  else all.find? fun tag => tag.standard == standard && tag.function == function

/-- The name of a tag in running text. -/
def display (tag : EventTag) : String :=
  match tag with
  | .unclassified => "unclassified"
  | _ => tag.standard ++ " " ++ tag.function

/-- The name of a tag in structured data. -/
def label : EventTag → String
  | .erc20Transfer => "erc20_transfer"
  | .erc20Approval => "erc20_approval"
  | .erc721Transfer => "erc721_transfer"
  | .erc721Approval => "erc721_approval"
  | .erc721ApprovalForAll => "erc721_approval_for_all"
  | .native => "native"
  | .unclassified => "unclassified"

/-- The tag with exactly this label. -/
def ofLabel? (name : String) : Option EventTag :=
  all.find? fun tag => tag.label == name

end EventTag

/-- A classified log. `traceIndex` is the number of calls and logs before it. -/
structure EventRecord where
  address : Address
  topics : List Hash
  data : List UInt8
  depth : UInt64
  traceIndex : UInt64
  tag : EventTag
  deriving DecidableEq, Inhabited

/-- The movement of a token that a log describes, before it has a place in the
execution. The parties are whole topics; the value is in hexadecimal digits. -/
structure TokenTransfer where
  sender : Hash
  receiver : Hash
  token : Address
  value : String
  deriving DecidableEq, Inhabited

/-- A movement of value in its place. A party is a topic for tokens and an address
for native currency, in both cases in hexadecimal text; the value is in
hexadecimal digits without a mark. -/
structure TransferRecord where
  sender : String
  receiver : String
  token : Address
  value : String
  depth : UInt64
  path : List UInt32
  tag : EventTag
  traceIndex : UInt64
  deriving DecidableEq, Inhabited

end CallTrace
