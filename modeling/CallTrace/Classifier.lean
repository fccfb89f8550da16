/-
# What a log means

Token contracts announce transfers and approvals by logs whose first topic is the
hash of the event's signature. How many topics follow tells the two token
standards apart: the third argument of a transfer or approval is a topic of its
own for unique tokens and part of the data otherwise.
-/

import CallTrace.Bytes.Keccak
import CallTrace.Event

namespace CallTrace

namespace Signature

/-- The topic that announces an event with the given signature. -/
def topic (signature : String) : Hash :=
  Keccak.hash (Utf8.encode signature.toList)

def transfer : Hash := topic "Transfer(address,address,uint256)"

def approval : Hash := topic "Approval(address,address,uint256)"

def approvalForAll : Hash := topic "ApprovalForAll(address,address,bool)"

end Signature

namespace LogEvent

/-- What a log means by its topics alone: their number and the first of them. -/
def tagOfTopics : List Hash → EventTag
  | [signature, _, _] =>
    if signature = Signature.transfer then .erc20Transfer
    else if signature = Signature.approval then .erc20Approval
    else .unclassified
  | [signature, _, _, _] =>
    if signature = Signature.transfer then .erc721Transfer
    else if signature = Signature.approval then .erc721Approval
    else if signature = Signature.approvalForAll then .erc721ApprovalForAll
    else .unclassified
  | _ => .unclassified

/-- What a log means. -/
def tag (log : LogEvent) : EventTag :=
  tagOfTopics log.topics

/-- The movement of a token that topics and data describe. A unique token is named
by the fourth topic unless there is data, which then names it. -/
def transferOf? (address : Address) (topics : List Hash) (data : List UInt8) :
    Option TokenTransfer :=
  match tagOfTopics topics, topics with
  | .erc20Transfer, _ :: sender :: receiver :: _ =>
    some ⟨sender, receiver, address, String.ofList (Hex.encode data)⟩
  | .erc721Transfer, [_, sender, receiver, token] =>
    let value := if data.isEmpty then token.toList else data
    some ⟨sender, receiver, address, String.ofList (Hex.encode value)⟩
  | _, _ => none

/-- The movement of a token that a log describes, if it describes one. -/
def transfer? (log : LogEvent) : Option TokenTransfer :=
  transferOf? log.address log.topics log.data

end LogEvent

end CallTrace
