/-
# Equality ignores only what cannot be observed

Equality of tables, rows of buffers and mergers looks at the levels in use, and so ignores
how many levels were allocated beyond them. What is asked and what is done reads all levels
that are allocated. The two agree: of states that come about, those that compare equal are
those that are alike, and being alike is a relation that no request breaks.
-/

import CallTrace.Proofs.Allocation
import CallTrace.Proofs.Requests

namespace CallTrace

namespace SiteTable

/-- Tables that are alike answer questions alike. -/
theorem Alike.reply {first second : SiteTable} (alike : first.Alike second)
    (question : Question) : first.reply question = second.reply question := by
  cases question with
  | nextSite depth => exact congrArg Reply.site (alike.nextSite depth)
  | path depth => exact congrArg Reply.sites (alike.path depth)
  | links depth => exact congrArg Reply.sites (alike.links depth)
  | deepest => exact congrArg Reply.level alike.deepest

theorem isBisimulation_alike : machine.IsBisimulation Alike where
  reply alike request := by
    cases request with
    | enter depth => exact congrArg Reply.site (alike.nextSite depth)
    | reset => rfl
    | ask question => exact alike.reply question
  next alike request := by
    cases request with
    | enter depth => exact alike.enter depth
    | reset => exact alike.reset
    | ask question => exact alike

end SiteTable

namespace DepthBuffers

variable {α : Type}

theorem isBisimulation_alike : (machine α).IsBisimulation Alike where
  reply alike request := by
    cases request with
    | touch depth => exact congrArg Reply.records (alike.slot depth)
    | push depth record => rfl
    | fold parent child above => rfl
    | drain depth => exact congrArg Reply.records (alike.drain depth).1
    | reset => rfl
    | slot depth => exact congrArg Reply.records (alike.slot depth)
    | isEmptyBelow depth => exact congrArg Reply.flag (alike.isEmptyBelow depth)
  next alike request := by
    cases request with
    | touch depth => exact alike.touch depth
    | push depth record => exact alike.push depth record
    | fold parent child above => exact alike.fold above.ne
    | drain depth => exact (alike.drain depth).2
    | reset => exact alike.reset
    | slot depth => exact alike
    | isEmptyBelow depth => exact alike

end DepthBuffers

namespace Merger

/-- Mergers that are alike refuse the same frames, and stay alike whether they refuse or not. -/
theorem Alike.answer_accept {first second : Merger} (alike : first.Alike second)
    (frame : CallFrame) :
    (first.answer (.accept frame)).1 = (second.answer (.accept frame)).1 ∧
      (first.answer (.accept frame)).2.Alike (second.answer (.accept frame)).2 := by
  rw [Merger.answer_accept, Merger.answer_accept, alike.maxDepth]
  split
  · exact ⟨rfl, alike⟩
  · exact ⟨rfl, alike.place frame⟩

theorem isBisimulation_alike (bound : UInt64) : (machine bound).IsBisimulation Alike where
  reply {first second} alike request := by
    cases request with
    | accept frame => exact (alike.answer_accept frame).1
    | finish => exact congrArg Reply.records alike.finish.1
    | reset => rfl
    | pending depth => exact congrArg Reply.records (alike.buffers.slot depth)
    | currentDepth => exact congrArg Reply.depth alike.currentDepth
    | maxDepth => exact congrArg Reply.bound alike.maxDepth
    | isFlushedBelowCurrent =>
        have flushed : first.isFlushedBelowCurrent = second.isFlushedBelowCurrent := by
          rw [isFlushedBelowCurrent, isFlushedBelowCurrent, alike.currentDepth,
            alike.buffers.isEmptyBelow]
        exact congrArg Reply.flag flushed
    | ask question => exact congrArg Reply.table (alike.table.reply question)
  next alike request := by
    cases request with
    | accept frame => exact (alike.answer_accept frame).2
    | finish => exact alike.finish.2
    | reset => exact alike.reset
    | pending depth => exact alike
    | currentDepth => exact alike
    | maxDepth => exact alike
    | isFlushedBelowCurrent => exact alike
    | ask question => exact alike

end Merger

/-- Tables, rows of buffers and mergers that compare equal cannot be told apart, whatever they
were used for and however much they have allocated: every request, be it a question or an
operation, gets the same reply from both, and they compare equal after it. Records in rows must
be the same if they compare equal, or else equal rows could show different ones. -/
theorem equal_states_cannot_be_told_apart :
    SiteTable.machine.EqualStatesAgree ∧
      (∀ (α : Type) [BEq α] [LawfulBEq α], (DepthBuffers.machine α).EqualStatesAgree) ∧
      ∀ bound : UInt64, (Merger.machine bound).EqualStatesAgree := by
  refine ⟨?_, fun α _ _ => ?_, fun bound => ?_⟩
  · refine SiteTable.isBisimulation_alike.equalStatesAgree fun history other => ?_
    have formed := (SiteTable.reachable_reached history).wellFormed
    exact formed.beq_iff_alike (SiteTable.reachable_reached other).wellFormed
  · refine DepthBuffers.isBisimulation_alike.equalStatesAgree fun history other => ?_
    have formed := (DepthBuffers.reachable_reached history).wellFormed
    exact formed.beq_iff_alike (DepthBuffers.reachable_reached other).wellFormed
  · refine (Merger.isBisimulation_alike bound).equalStatesAgree fun history other => ?_
    have reachable := Merger.reachable_reached bound history
    exact reachable.beq_iff_alike (Merger.reachable_reached bound other)

/-- A table, a row and a merger that were once used at deeper levels, next to others that were
not. They compare equal, although fewer levels are allocated in the others. -/
theorem agree_beside_deeper_levels :
    (let used := SiteTable.machine.reached [.enter 3, .reset, .enter 0]
      let other := SiteTable.machine.reached [.enter 0]
      used.levels.size = 4 ∧ other.levels.size = 1 ∧ (used == other) = true ∧
        SiteTable.machine.replies [.enter 2, .enter 2, .ask (.path 3)] used =
          SiteTable.machine.replies [.enter 2, .enter 2, .ask (.path 3)] other) ∧
      (let used := (DepthBuffers.machine Nat).reached
          [.push 2 7, .fold 0 2 (by decide), .reset, .push 0 5]
        let other := (DepthBuffers.machine Nat).reached [.push 0 5]
        used.slots.size = 3 ∧ other.slots.size = 1 ∧ (used == other) = true ∧
          (DepthBuffers.machine Nat).replies [.push 1 6, .isEmptyBelow 0, .drain 1] used =
            (DepthBuffers.machine Nat).replies [.push 1 6, .isEmptyBelow 0, .drain 1] other) ∧
      (let used := (Merger.machine 9).reached [.accept (.bare 0), .accept (.bare 2), .finish,
          .reset, .accept (.bare 0)]
        let other := (Merger.machine 9).reached [.accept (.bare 0)]
        used.table.levels.size = 3 ∧ other.table.levels.size = 1 ∧ (used == other) = true ∧
          (Merger.machine 9).replies [.accept (.bare 1), .pending 1, .finish] used =
            (Merger.machine 9).replies [.accept (.bare 1), .pending 1, .finish] other) := by
  obtain ⟨tables, rows, mergers⟩ := equal_states_cannot_be_told_apart
  exact ⟨⟨by decide, by decide, by decide, (tables _ _ _ (by decide)).1⟩,
    ⟨by decide, by decide, by decide, (rows Nat _ _ _ (by decide)).1⟩,
    ⟨by decide, by decide, by decide, (mergers 9 _ _ _ (by decide)).1⟩⟩

end CallTrace
