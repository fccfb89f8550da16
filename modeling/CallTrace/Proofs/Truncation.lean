/-
# Deep calls leave no mark on shallow ones

Everything that a record holds is decided by the calls at its own level and above it.
Calls at some bound or deeper can therefore be put in or left out anywhere without a
difference to the records of the others. The reason is that a sequence of depths is
cut in the same place whether or not deeper calls stand in it.

Two mergers with different bounds on depth differ in just this: one leaves out calls
that the other one takes in.
-/

import CallTrace.Proofs.Merger

namespace CallTrace

namespace Nesting

section Cut

variable {α : Type} {depth : α → Nat} {level : Nat}

/-- A cut that leaves anything ends with a call at the level or above it. -/
theorem through_eq_nil_or_concat (calls : List α) :
    through depth level calls = [] ∨
      ∃ front last, depth last ≤ level ∧ through depth level calls = front ++ [last] := by
  induction calls using List.reverseRecOn with
  | nil => exact .inl rfl
  | append_singleton calls call ih =>
      by_cases shallow : depth call ≤ level
      · exact .inr ⟨calls, call, shallow, through_concat_of_le calls shallow⟩
      · rw [through_concat_of_lt calls (Nat.lt_of_not_le shallow)]
        exact ih

/-- Leaving out calls that are all deeper than the level commutes with the cut. -/
theorem through_filter {keep : α → Bool} (deep : ∀ call, keep call = false → level < depth call)
    (calls : List α) :
    through depth level (calls.filter keep) = (through depth level calls).filter keep := by
  induction calls using List.reverseRecOn with
  | nil => rfl
  | append_singleton calls call ih =>
      cases kept : keep call with
      | false =>
          rw [List.filter_append, List.filter_singleton, kept,
            through_concat_of_lt _ (deep call kept)]
          simpa using ih
      | true =>
          rw [List.filter_append, List.filter_singleton, kept]
          by_cases shallow : depth call ≤ level
          · simp only [cond_true]
            rw [through_concat_of_le _ shallow, through_concat_of_le _ shallow,
              List.filter_append, List.filter_singleton, kept, cond_true]
          · have below : level < depth call := Nat.lt_of_not_le shallow
            simp only [cond_true]
            rw [through_concat_of_lt _ below, through_concat_of_lt _ below, ih]

end Cut

section Shallow

variable {bound level depth : Nat} (depths : List Nat)

/-- Above a bound the cut keeps its last call when the calls at the bound or deeper are
left out, and before this call it loses just those. -/
theorem through_shallow (above : level < bound) :
    (through id level depths = [] ∧ through id level (depths.filter (· < bound)) = []) ∨
      ∃ front last, through id level depths = front ++ [last] ∧
        through id level (depths.filter (· < bound)) = front.filter (· < bound) ++ [last] := by
  have commutes : through id level (depths.filter (· < bound)) =
      (through id level depths).filter (· < bound) := by
    refine through_filter (fun depth left => ?_) depths
    have deep : bound ≤ depth := by simpa using left
    exact above.trans_le deep
  have ends : through id level depths = [] ∨
      ∃ front last, id last ≤ level ∧ through id level depths = front ++ [last] :=
    through_eq_nil_or_concat depths
  rcases ends with none | ⟨front, last, shallow, cut⟩
  · left
    rw [commutes, none]
    exact ⟨rfl, rfl⟩
  · have kept : last < bound := Nat.lt_of_le_of_lt shallow above
    refine .inr ⟨front, last, cut, ?_⟩
    rw [commutes, cut, List.filter_append, List.filter_singleton, decide_eq_true kept, cond_true]

theorem isOpen_shallow (above : level < bound) :
    IsOpen level (depths.filter (· < bound)) ↔ IsOpen level depths := by
  rw [IsOpen, IsOpen]
  rcases through_shallow depths above with ⟨none, alsoNone⟩ | ⟨front, last, cut, shallowCut⟩
  · rw [none, alsoNone]
  · rw [cut, shallowCut, List.getLast?_concat, List.getLast?_concat]

/-- The site open at a level does not count deeper calls. -/
theorem openSite_shallow (above : level < bound) :
    openSite level (depths.filter (· < bound)) = openSite level depths := by
  simp only [openSite, isOpen_shallow depths above]
  rcases through_shallow depths above with ⟨none, alsoNone⟩ | ⟨front, last, cut, shallowCut⟩
  · rw [none, alsoNone]
  · rw [cut, shallowCut, List.dropLast_concat, List.dropLast_concat,
      List.count_filter (by simpa using above)]

theorem path_shallow (above : depth < bound) :
    path (depths.filter (· < bound)) depth = path depths depth := by
  apply List.map_congr_left
  intro level member
  have higher : level < depth := List.mem_range.mp member
  exact openSite_shallow depths (by omega)

theorem links_shallow (above : depth < bound) :
    links (depths.filter (· < bound)) depth = links depths depth := by
  apply List.map_congr_left
  intro level member
  have higher : level < depth := List.mem_range.mp member
  have isOpen : IsOpen (level + 1) (depths.filter (· < bound)) ↔ IsOpen (level + 1) depths :=
    isOpen_shallow depths (by omega)
  have site : openSite level (depths.filter (· < bound)) = openSite level depths :=
    openSite_shallow depths (by omega)
  simp only [openLink, isOpen, site]

end Shallow

section Records

variable {bound : UInt64} (frames : List CallFrame)

/-- The levels of the frames above a bound are the levels above it. -/
theorem map_level_shallow :
    (frames.filter (·.depth < bound)).map CallFrame.level =
      (frames.map CallFrame.level).filter (· < bound.toNat) := by
  rw [List.filter_map]
  congr 1

/-- The record of a frame above a bound is made from frames above the bound alone. -/
theorem record_shallow {frame : CallFrame} (above : frame.depth < bound) :
    record (frames.filter (·.depth < bound)) frame = record frames frame := by
  have level : frame.level < bound.toNat := UInt64.lt_iff_toNat_lt.mp above
  rw [record, record, map_level_shallow, path_shallow _ level, links_shallow _ level]

/-- Making records and leaving out what is too deep can change places. -/
theorem records_shallow :
    records (frames.filter (·.depth < bound)) =
      (records frames).filter (·.frame.depth < bound) := by
  -- By the last frame: it takes its record with it, or its record needs no deeper frames.
  induction frames using List.reverseRecOn with
  | nil => rfl
  | append_singleton frames frame ih =>
      rw [records_concat, List.filter_append, List.filter_append, ← ih]
      by_cases above : frame.depth < bound
      · have both : (frames ++ [frame]).filter (·.depth < bound) =
            frames.filter (·.depth < bound) ++ [frame] := by
          simp [above]
        have kept : [record (frames ++ [frame]) frame].filter (·.frame.depth < bound) =
            [record (frames ++ [frame]) frame] := by
          simp [record, above]
        rw [List.filter_singleton, decide_eq_true above, cond_true, records_concat, kept, ← both,
          record_shallow _ above]
      · have dropped : [record (frames ++ [frame]) frame].filter (·.frame.depth < bound) = [] := by
          simpa [record] using above
        rw [List.filter_singleton, decide_eq_false above, cond_false, dropped]
        simp only [List.append_nil]

end Records

end Nesting

namespace Merger

open Nesting

/-- What a merger hands out once it was given frames and finished. -/
def handedOut (merger : Merger) (frames : List CallFrame) : List CallRecord :=
  (run (frames.map .accept) merger).2.finish.1.toList

theorem Fresh.handedOut_eq {maxDepth : UInt64} {start : Merger} (fresh : Fresh maxDepth start)
    (frames : List CallFrame) :
    start.handedOut frames = records (frames.filter (·.depth < maxDepth)) :=
  fresh.finish_accepts frames

/-- Under two bounds on depth the same frames leave the same records above the lower
bound, and nothing else is left under the lower bound itself. Frames at the lower bound
or deeper may be put in or left out anywhere: sequences that differ by such frames only
leave the same records above it. -/
theorem shallow_records_ignore_deep_frames {low high : UInt64} (le : low ≤ high)
    {shallow deep : Merger} (freshShallow : shallow.Fresh low) (freshDeep : deep.Fresh high)
    (frames : List CallFrame) :
    shallow.handedOut frames = (deep.handedOut frames).filter (·.frame.depth < low) ∧
      ∀ others : List CallFrame,
        others.filter (·.depth < low) = frames.filter (·.depth < low) →
          (deep.handedOut others).filter (·.frame.depth < low) =
            (deep.handedOut frames).filter (·.frame.depth < low) := by
  have truncated : ∀ frames : List CallFrame,
      (deep.handedOut frames).filter (·.frame.depth < low) =
        records (frames.filter (·.depth < low)) := by
    intro frames
    have within : (frames.filter (·.depth < high)).filter (·.depth < low) =
        frames.filter (·.depth < low) := by
      rw [List.filter_filter]
      apply List.filter_congr
      intro frame _
      have weaker : frame.depth < low → frame.depth < high := fun below =>
        UInt64.lt_of_lt_of_le below le
      simpa using weaker
    calc
      (deep.handedOut frames).filter (·.frame.depth < low) =
          (records (frames.filter (·.depth < high))).filter (·.frame.depth < low) := by
        rw [freshDeep.handedOut_eq]
      _ = records ((frames.filter (·.depth < high)).filter (·.depth < low)) :=
        (records_shallow _).symm
      _ = records (frames.filter (·.depth < low)) := by rw [within]
  constructor
  · rw [truncated, freshShallow.handedOut_eq]
  · intro others same
    rw [truncated, truncated, same]

/-- Under the bounds 2 and 4, with a merger that was used before, a call skips a level,
two calls are too deep for the lower bound, and one of them is too deep for both. A
sequence without the three deep calls has the same shallow records. -/
theorem shallow_records_beside_skipped_level :
    let frames : List CallFrame :=
      [.bare 0, .bare 1, .bare 3, .bare 1, .bare 2, .bare 5, .bare 0, .bare 1]
    let others : List CallFrame := [.bare 0, .bare 1, .bare 1, .bare 0, .bare 1]
    let used := (run [.accept (.bare 3), .finish] (new 4)).2.reset
    let paths (records : List CallRecord) : List (List UInt32) := records.map CallRecord.path
    (2 : UInt64) ≤ 4 ∧ (new 2).Fresh 2 ∧ used.Fresh 4 ∧
      others.filter (·.depth < 2) = frames.filter (·.depth < 2) ∧
      paths ((used.handedOut frames).filter (·.frame.depth < 2)) =
        [[], [0], [1], [], [2]] ∧
      paths ((used.handedOut others).filter (·.frame.depth < 2)) =
        [[], [0], [1], [], [2]] := by
  intro frames others used paths
  have le : (2 : UInt64) ≤ 4 := by decide
  have fresh : used.Fresh 4 := .reset (Reachable.new.run _)
  have same : others.filter (·.depth < 2) = frames.filter (·.depth < 2) := by decide
  obtain ⟨truncated, ignored⟩ := shallow_records_ignore_deep_frames le .new fresh frames
  have kept : paths ((used.handedOut frames).filter (·.frame.depth < 2)) =
      [[], [0], [1], [], [2]] := by
    rw [← truncated]
    decide
  exact ⟨le, .new, fresh, same, kept, (congrArg paths (ignored others same)).trans kept⟩

end Merger

end CallTrace
