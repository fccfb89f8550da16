/-
# What can be requested of tables, buffers and mergers

Everything that a table of call sites, a row of buffers or a merger offers is a request:
those that change it, and those that only ask for something. With their replies they are
machines, and the states that these machines come to are the reachable ones.
-/

import CallTrace.Proofs.Machine
import CallTrace.Proofs.Merger

namespace CallTrace

namespace SiteTable

/-- What can be asked of a table. -/
inductive Question where
  | nextSite (depth : Nat)
  | path (depth : Nat)
  | links (depth : Nat)
  | deepest

/-- What a table replies. -/
inductive Reply where
  | done
  | site (site : UInt32)
  | sites (sites : List UInt32)
  | level (level : Option Nat)
  deriving DecidableEq

/-- The reply to a question. -/
def reply (table : SiteTable) : Question → Reply
  | .nextSite depth => .site (table.nextSite depth)
  | .path depth => .sites (table.path depth)
  | .links depth => .sites (table.links depth)
  | .deepest => .level table.deepest

/-- What can be requested of a table. -/
inductive Request where
  | enter (depth : Nat)
  | reset
  | ask (question : Question)

/-- Replies to a request. -/
def answer (table : SiteTable) : Request → Reply × SiteTable
  | .enter depth => (.site (table.enter depth).1, (table.enter depth).2)
  | .reset => (.done, table.reset)
  | .ask question => (table.reply question, table)

def machine : Machine SiteTable Request Reply := ⟨.empty, answer⟩

theorem Reachable.answer {table : SiteTable} (reachable : table.Reachable) (request : Request) :
    (table.answer request).2.Reachable := by
  cases request with
  | enter depth => exact .enter depth reachable
  | reset => exact .reset reachable
  | ask question => exact reachable

theorem reachable_reached (history : List Request) : (machine.reached history).Reachable :=
  machine.after_induction (fun _ request reachable => reachable.answer request) .empty history

end SiteTable

namespace DepthBuffers

/-- What can be requested of a row of buffers. -/
inductive Request (α : Type) where
  /-- The buffer of a level, for use. -/
  | touch (depth : Nat)
  /-- The buffer of a level, with a record added to it. -/
  | push (depth : Nat) (record : α)
  | fold (parent child : Nat) (above : parent < child)
  | drain (depth : Nat)
  | reset
  | slot (depth : Nat)
  | isEmptyBelow (depth : Nat)

/-- What a row of buffers replies. -/
inductive Reply (α : Type) where
  | done
  | records (records : Array α)
  | flag (flag : Bool)
  deriving DecidableEq

variable {α : Type}

/-- Replies to a request. -/
def answer (buffers : DepthBuffers α) : Request α → Reply α × DepthBuffers α
  | .touch depth => (.records (buffers.slot depth), buffers.touch depth)
  | .push depth record => (.done, buffers.push depth record)
  | .fold parent child _ => (.done, buffers.fold parent child)
  | .drain depth => (.records (buffers.drain depth).1, (buffers.drain depth).2)
  | .reset => (.done, buffers.reset)
  | .slot depth => (.records (buffers.slot depth), buffers)
  | .isEmptyBelow depth => (.flag (buffers.isEmptyBelow depth), buffers)

def machine (α : Type) : Machine (DepthBuffers α) (Request α) (Reply α) := ⟨.empty, answer⟩

theorem Reachable.answer {buffers : DepthBuffers α} (reachable : buffers.Reachable)
    (request : Request α) : (buffers.answer request).2.Reachable := by
  cases request with
  | touch depth => exact .touch depth reachable
  | push depth record => exact .push depth record reachable
  | fold parent child above => exact .fold above reachable
  | drain depth => exact .drain depth reachable
  | reset => exact .reset reachable
  | slot depth => exact reachable
  | isEmptyBelow depth => exact reachable

theorem reachable_reached (history : List (Request α)) :
    ((machine α).reached history).Reachable :=
  (machine α).after_induction (fun _ request reachable => reachable.answer request) .empty history

end DepthBuffers

namespace Merger

/-- What can be requested of a merger. Its table is there to be asked as well. -/
inductive Request where
  | accept (frame : CallFrame)
  | finish
  | reset
  | pending (depth : Nat)
  | currentDepth
  | maxDepth
  | isFlushedBelowCurrent
  | ask (question : SiteTable.Question)

/-- What a merger replies. -/
inductive Reply where
  | done
  | refused (fault : TraceError)
  | records (records : Array CallRecord)
  | depth (depth : Nat)
  | bound (maxDepth : UInt64)
  | flag (flag : Bool)
  | table (reply : SiteTable.Reply)
  deriving DecidableEq

/-- Replies to a request. -/
def answer (merger : Merger) : Request → Reply × Merger
  | .accept frame =>
    match merger.accept frame with
    | .ok next => (.done, next)
    | .error fault => (.refused fault, merger)
  | .finish => (.records merger.finish.1, merger.finish.2)
  | .reset => (.done, merger.reset)
  | .pending depth => (.records (merger.pending depth), merger)
  | .currentDepth => (.depth merger.currentDepth, merger)
  | .maxDepth => (.bound merger.maxDepth, merger)
  | .isFlushedBelowCurrent => (.flag merger.isFlushedBelowCurrent, merger)
  | .ask question => (.table (merger.table.reply question), merger)

def machine (maxDepth : UInt64) : Machine Merger Request Reply := ⟨.new maxDepth, answer⟩

/-- A frame is refused by its depth alone, and placed otherwise. -/
theorem answer_accept (merger : Merger) (frame : CallFrame) :
    merger.answer (.accept frame) =
      if merger.maxDepth ≤ frame.depth then
        (.refused (.depthExceeded frame.depth merger.maxDepth), merger)
      else (.done, merger.place frame) := by
  rw [answer, accept]
  by_cases deep : merger.maxDepth ≤ frame.depth
  · rw [if_pos deep, if_pos deep]
  · rw [if_neg deep, if_neg deep]

theorem Reachable.answer {bound : UInt64} {merger : Merger} (reachable : Reachable bound merger)
    (request : Request) : Reachable bound (merger.answer request).2 := by
  cases request with
  | accept frame =>
      have performed : Reachable bound (merger.perform (.accept frame)).2 :=
        .perform (.accept frame) reachable
      rw [perform_accept] at performed
      rw [answer_accept]
      by_cases deep : merger.maxDepth ≤ frame.depth
      · rw [if_pos deep]
        exact reachable
      · rw [if_neg deep]
        rwa [if_pos (UInt64.not_le.mp deep)] at performed
  | finish => exact .perform .finish reachable
  | reset => exact .reset reachable
  | pending depth => exact reachable
  | currentDepth => exact reachable
  | maxDepth => exact reachable
  | isFlushedBelowCurrent => exact reachable
  | ask question => exact reachable

theorem reachable_reached (bound : UInt64) (history : List Request) :
    Reachable bound ((machine bound).reached history) :=
  (machine bound).after_induction (fun _ request reachable => reachable.answer request) .new
    history

end Merger

end CallTrace
