/-
# Transactions do not see each other

A session is used for one transaction after the other, and a reset writes to no more of
its tables and buffers than the transaction before has used. What else they hold must
therefore not matter. It does not: a session that was reset is alike to a new one, and
sessions that are alike give the same replies, show the same, and stay alike, whatever
they are asked.
-/

import CallTrace.Proofs.Allocation
import CallTrace.Proofs.Replies

namespace CallTrace

/-- What is written down of a log depends on the paths that a table gives, and on nothing
else in it. -/
theorem Journal.recordLog_congr {first second : SiteTable}
    (same : ∀ depth, first.path depth = second.path depth) (log : LogEvent) (traceIndex : UInt64)
    (journal : Journal) :
    journal.recordLog log first traceIndex = journal.recordLog log second traceIndex := by
  simp only [recordLog, placeTransfer, same]

theorem Journal.recordNative_congr {first second : SiteTable}
    (same : ∀ depth, first.path depth = second.path depth) (sender receiver : Address)
    (value : Amount) (depth traceIndex : UInt64) (journal : Journal) :
    journal.recordNative sender receiver value depth first traceIndex =
      journal.recordNative sender receiver value depth second traceIndex := by
  simp only [recordNative, placeNative, same]

namespace Session

/-- What a session shows without being asked for anything. -/
structure View where
  stage : Stage
  traceIndex : UInt64
  currentDepth : Nat
  deepest : Option Nat
  complete : Bool
  events : List EventRecord
  transfers : List TransferRecord
  deriving DecidableEq

def view (session : Session) : View where
  stage := session.stage
  traceIndex := session.traceIndex
  currentDepth := session.currentDepth
  deepest := session.deepest
  complete := session.isComplete
  events := session.journal.events.toList
  transfers := session.journal.transfers.toList

/-- The replies to requests made one after the other, each with what the session shows
after it. -/
def replies : List Request → Session → List (Reply × View)
  | [], _ => []
  | request :: requests, session =>
    ((session.answer request).1, (session.answer request).2.view) ::
      replies requests (session.answer request).2

/-- Two sessions that differ at most in how many levels they have allocated. -/
structure Alike (first second : Session) : Prop where
  stage : first.stage = second.stage
  output : first.output = second.output
  merger : first.merger.Alike second.merger
  journal : first.journal = second.journal
  traceIndex : first.traceIndex = second.traceIndex
  incomplete : first.incomplete = second.incomplete

namespace Alike

variable {first second : Session}

/-- Sessions that are alike compare equal. -/
theorem beq (alike : first.Alike second) {config : TraceConfig}
    (firstReachable : Reachable config first) (secondReachable : Reachable config second) :
    (first == second) = true := by
  have merger : (first.merger == second.merger) = true :=
    alike.merger.beq firstReachable.merger secondReachable.merger
  have unfolded : (first == second) = (first.stage == second.stage &&
      first.output == second.output && first.merger == second.merger &&
      first.journal == second.journal && first.traceIndex == second.traceIndex &&
      first.incomplete == second.incomplete) := rfl
  rw [unfolded, merger, alike.stage, alike.output, alike.journal, alike.traceIndex,
    alike.incomplete]
  simp

/-- Sessions that are alike show the same. -/
theorem view (alike : first.Alike second) : first.view = second.view := by
  simp only [Session.view, currentDepth, deepest, isComplete, alike.stage, alike.traceIndex,
    alike.merger.currentDepth, alike.merger.table.deepest, alike.incomplete, alike.journal]

theorem reset (alike : first.Alike second) : first.reset.Alike second.reset where
  stage := rfl
  output := alike.output
  merger := alike.merger.reset
  journal := rfl
  traceIndex := rfl
  incomplete := rfl

theorem including (alike : first.Alike second) (step : Step) :
    (first.including step).Alike (second.including step) where
  stage := by rw [stage_including, stage_including, alike.stage]
  output := by rw [output_including, output_including, alike.output]
  merger := by
    cases step with
    | call frame => exact alike.merger.place frame
    | log log => exact alike.merger
    | transfer sender receiver value depth => exact alike.merger
  journal := by
    have paths : ∀ depth, first.merger.table.path depth = second.merger.table.path depth :=
      alike.merger.table.path
    cases step with
    | call frame => exact alike.journal
    | log log =>
        simp only [Session.including, alike.journal, alike.traceIndex,
          Journal.recordLog_congr paths]
    | transfer sender receiver value depth =>
        simp only [Session.including, alike.journal, alike.traceIndex,
          Journal.recordNative_congr paths]
  traceIndex := by
    cases step with
    | call frame => exact congrArg (· + 1) alike.traceIndex
    | log log => exact congrArg (· + 1) alike.traceIndex
    | transfer sender receiver value depth => exact alike.traceIndex
  incomplete := by rw [incomplete_including, incomplete_including, alike.incomplete]

/-- Both traces are written out from the same calls and the same journal. -/
theorem finalizeBy (alike : first.Alike second)
    (write : List CallRecord → Journal → Bool → FinalizedTrace) :
    (first.finalizeBy write).1 = (second.finalizeBy write).1 ∧
      (first.finalizeBy write).2.Alike (second.finalizeBy write).2 := by
  obtain ⟨calls, merger⟩ := alike.merger.finish
  rw [Session.finalizeBy, Session.finalizeBy, alike.stage]
  by_cases inactive : second.stage ≠ .active
  · rw [if_pos inactive, if_pos inactive]
    exact ⟨rfl, alike⟩
  · rw [if_neg inactive, if_neg inactive]
    refine ⟨?_, rfl, alike.output, merger, alike.journal, alike.traceIndex, alike.incomplete⟩
    simp only [calls, alike.journal, alike.incomplete]

theorem replyTo {α : Type} (reply : α → Reply) {one other : Outcome α} (same : one.1 = other.1)
    (alike : one.2.Alike other.2) :
    (Session.replyTo reply one).1 = (Session.replyTo reply other).1 ∧
      (Session.replyTo reply one).2.Alike (Session.replyTo reply other).2 := by
  obtain ⟨result, one⟩ := one
  obtain ⟨_, other⟩ := other
  obtain rfl : result = _ := same
  cases result with
  | ok result => exact ⟨rfl, alike⟩
  | error fault => exact ⟨rfl, alike⟩

/-- One request: sessions that are alike reply the same and stay alike. -/
theorem answer (alike : first.Alike second) (request : Request) :
    (first.answer request).1 = (second.answer request).1 ∧
      (first.answer request).2.Alike (second.answer request).2 := by
  cases request with
  | reset => exact ⟨rfl, alike.reset⟩
  | step step =>
      rw [answer_step, answer_step, alike.stage, alike.merger.maxDepth]
      split
      · exact ⟨rfl, alike⟩
      · split
        · exact ⟨rfl, rfl, alike.output, alike.merger, alike.journal, alike.traceIndex, rfl⟩
        · exact ⟨rfl, alike.including step⟩
  | finalize =>
      have written := alike.finalizeBy (writeTraces second.output)
      rw [Session.answer, Session.answer, finalize, finalize, finalizeWith, finalizeWith,
        alike.output]
      exact replyTo .traces written.1 written.2
  | finalizeBy write =>
      have written := alike.finalizeBy write
      exact replyTo .traces written.1 written.2

/-- A whole run of requests. -/
theorem replies (alike : first.Alike second) (requests : List Request) :
    Session.replies requests first = Session.replies requests second ∧
      (first.after requests).Alike (second.after requests) := by
  induction requests generalizing first second with
  | nil => exact ⟨rfl, alike⟩
  | cons request requests ih =>
      obtain ⟨reply, next⟩ := alike.answer request
      obtain ⟨later, last⟩ := ih next
      rw [Session.replies, Session.replies, reply, next.view, later]
      exact ⟨rfl, last⟩

end Alike

/-- Whatever two sessions were used for, a reset leaves them alike. -/
theorem Reachable.alike_reset {config : TraceConfig} {first second : Session}
    (firstReachable : Reachable config first) (secondReachable : Reachable config second) :
    first.reset.Alike second.reset where
  stage := rfl
  output := firstReachable.output_eq.trans secondReachable.output_eq.symm
  merger := firstReachable.merger.alike_reset secondReachable.merger
  journal := rfl
  traceIndex := rfl
  incomplete := rfl

/-- A reset makes a session as good as new, whatever was asked of it before. It compares
equal to a new session that was reset once; from there on both reply the same and show
the same after every request, and they still compare equal when the requests are over.
A second reset in a row changes nothing at all. -/
theorem reset_isolates_transactions (config : TraceConfig) (history further : List Request) :
    let used := ((new config).after history).reset
    let fresh := (new config).reset
    (used == fresh) = true ∧ replies further used = replies further fresh ∧
      (used.after further == fresh.after further) = true ∧ used.reset = used := by
  intro used fresh
  have old : Reachable config ((new config).after history) := Reachable.new.after history
  have usedReachable : Reachable config used := .operate .reset old
  have freshReachable : Reachable config fresh := .operate .reset .new
  have alike : used.Alike fresh := old.alike_reset .new
  obtain ⟨same, still⟩ := alike.replies further
  refine ⟨alike.beq usedReachable freshReachable, same,
    still.beq (usedReachable.after further) (freshReachable.after further), ?_⟩
  simp only [used, reset, Merger.reset_reset]

end Session

end CallTrace
