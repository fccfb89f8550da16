/-
# Which logs announce a movement of a token

What a log means is decided by its topics, and what it says to have moved is read off
its topics and its data, case by case. Here both are said in one breath each: a log
announces a movement if it has three or four topics of which the first is the one
for transfers; the parties are then the second and the third topic, and what is
moved stands in the data, or in the fourth topic if there is one and no data. The topics for
transfers, approvals and approvals for all are the published ones, and no two of them agree.
-/

import CallTrace.Classifier
import Mathlib.Tactic.SplitIfs

namespace CallTrace

namespace Signature

theorem toHex_transfer : transfer.toHex =
    "0xddf252ad1be2c89b69c2b068fc378daa952ba7f163c4a11628f55a4df523b3ef".toList := by
  decide +kernel

theorem toHex_approval : approval.toHex =
    "0x8c5be1e5ebec7d5bd14f71427d1e84f3dd0314c0f7b2291e5b200ac8c7c3b925".toList := by
  decide +kernel

theorem toHex_approvalForAll : approvalForAll.toHex =
    "0x17307eab39ab6107e8899845ad3d59bd9653f200f220920489ca2b5937696c31".toList := by
  decide +kernel

/-- A topic means one kind of event at most, so it does not matter in which order the kinds are
tried. -/
theorem nodup : [transfer, approval, approvalForAll].Nodup := by
  have written : ([transfer, approval, approvalForAll].map FixedBytes.toHex).Nodup := by
    rw [List.map_cons, List.map_cons, List.map_singleton, toHex_transfer, toHex_approval,
      toHex_approvalForAll]
    decide
  exact List.Pairwise.of_map FixedBytes.toHex
    (fun _ _ differ same => differ (congrArg _ same)) written

end Signature

namespace LogEvent

/-- Whether a log means that a token changes hands. -/
def announces (log : LogEvent) : Bool :=
  log.tag = .erc20Transfer ∨ log.tag = .erc721Transfer

/-- The topic at a place. A log with fewer topics has zeros there. -/
def topic (log : LogEvent) (place : Nat) : Hash :=
  log.topics.getD place (.zero 32)

/-- The bytes that say how much, or which token, a log moves. -/
def moved (log : LogEvent) : List UInt8 :=
  if log.topics.length = 4 ∧ log.data = [] then (log.topic 3).toList else log.data

/-- Only the movement of native currency itself has its tag. -/
theorem tagOfTopics_ne_native (topics : List Hash) : tagOfTopics topics ≠ .native := by
  unfold tagOfTopics
  split
  · split_ifs <;> decide
  · split_ifs <;> decide
  · decide

theorem tag_ne_native (log : LogEvent) : log.tag ≠ .native :=
  tagOfTopics_ne_native log.topics

/-- Of the topics behind the first it matters only how many there are. -/
theorem tagOfTopics_eq_replicate (topics : List Hash) :
    tagOfTopics topics = tagOfTopics (List.replicate topics.length (topics.headD (.zero 32))) := by
  match topics with
  | [] => rfl
  | [_] => rfl
  | [_, _] => rfl
  | [_, _, _] => rfl
  | [_, _, _, _] => rfl
  | _ :: _ :: _ :: _ :: _ :: _ => rfl

theorem tagOfTopics_congr {first second : List Hash} (count : first.length = second.length)
    (signature : first.head? = second.head?) : tagOfTopics first = tagOfTopics second := by
  rw [tagOfTopics_eq_replicate, tagOfTopics_eq_replicate second, count,
    List.headD_eq_head?_getD, signature, ← List.headD_eq_head?_getD]

theorem tagOfTopics_three (signature second third : Hash) :
    tagOfTopics [signature, second, third] ≠ .erc721Transfer ∧
      (tagOfTopics [signature, second, third] = .erc20Transfer ↔
        signature = Signature.transfer) := by
  rw [tagOfTopics]
  split
  next transfer => simp [transfer]
  next other => split <;> simp [other]

theorem tagOfTopics_four (signature second third fourth : Hash) :
    tagOfTopics [signature, second, third, fourth] ≠ .erc20Transfer ∧
      (tagOfTopics [signature, second, third, fourth] = .erc721Transfer ↔
        signature = Signature.transfer) := by
  rw [tagOfTopics]
  split
  next transfer => simp [transfer]
  next other =>
      split
      · simp [other]
      · split <;> simp [other]

theorem announces_iff (log : LogEvent) :
    log.announces = true ↔
      (log.topics.length = 3 ∨ log.topics.length = 4) ∧ log.topic 0 = Signature.transfer := by
  obtain ⟨address, topics, data, depth⟩ := log
  rw [announces, decide_eq_true_iff, tag, topic]
  match topics with
  | [] => simp [tagOfTopics]
  | [_] => simp [tagOfTopics]
  | [_, _] => simp [tagOfTopics]
  | [signature, second, third] =>
      obtain ⟨not, transfer⟩ := tagOfTopics_three signature second third
      simp [not, transfer]
  | [signature, second, third, fourth] =>
      obtain ⟨not, transfer⟩ := tagOfTopics_four signature second third fourth
      simp [not, transfer]
  | _ :: _ :: _ :: _ :: _ :: _ => simp [tagOfTopics]

theorem isTransfer_of_announces (log : LogEvent) (announced : log.announces = true) :
    log.tag.isTransfer = true := by
  rw [announces, decide_eq_true_iff] at announced
  rcases announced with tag | tag
  · rw [tag]
    rfl
  · rw [tag]
    rfl

/-- A log describes a movement if and only if it announces one. -/
theorem transfer?_eq (log : LogEvent) :
    log.transfer? =
      if log.announces then
        some ⟨log.topic 1, log.topic 2, log.address, String.ofList (Hex.encode log.moved)⟩
      else none := by
  obtain ⟨address, topics, data, depth⟩ := log
  rw [announces, moved, tag, transfer?]
  match topics with
  | [] => simp [transferOf?, tagOfTopics]
  | [_] => simp [transferOf?, tagOfTopics]
  | [_, _] => simp [transferOf?, tagOfTopics]
  | [signature, second, third] =>
      obtain ⟨other, -⟩ := tagOfTopics_three signature second third
      by_cases isTransfer : tagOfTopics [signature, second, third] = .erc20Transfer
      · simp [transferOf?, isTransfer, topic]
      · simp [transferOf?, isTransfer, other]
  | [signature, second, third, fourth] =>
      obtain ⟨other, -⟩ := tagOfTopics_four signature second third fourth
      by_cases isTransfer : tagOfTopics [signature, second, third, fourth] = .erc721Transfer
      · simp [transferOf?, isTransfer, topic]
      · simp [transferOf?, isTransfer, other]
  | _ :: _ :: _ :: _ :: _ :: _ => simp [transferOf?, tagOfTopics]

end LogEvent

end CallTrace
