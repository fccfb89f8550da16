/-
# Allocated levels cannot be seen

Tables and buffers keep every level that they ever allocated. Two of them are alike if
they use the same number of levels and read the same at every level, allocated or not.
On those that come about, this is what equality looks at. Whatever can be asked is
answered alike by alike ones, and every operation keeps them alike, so how much was
allocated earlier makes no difference to anything that follows.

After a reset nothing but the allocation is left, and all are alike.
-/

import CallTrace.Proofs.Merger

namespace CallTrace

namespace SiteTable

/-- Two tables that differ at most in how many levels they have allocated. -/
structure Alike (first second : SiteTable) : Prop where
  touched : first.touched = second.touched
  levelAt : ∀ level, first.levelAt level = second.levelAt level

/-- Equality compares the levels in use, and beyond them there is nothing to compare. -/
theorem WellFormed.beq_iff_alike {first second : SiteTable} (firstFormed : first.WellFormed)
    (secondFormed : second.WellFormed) : (first == second) = true ↔ first.Alike second := by
  have unfolded : (first == second) = (first.touched == second.touched &&
      first.live == second.live) := rfl
  rw [unfolded, Bool.and_eq_true, beq_iff_eq, beq_iff_eq]
  have used := GrownArray.used_eq_iff firstFormed.touched_le secondFormed.touched_le
    firstFormed.unused secondFormed.unused
  exact used.trans ⟨fun ⟨touched, same⟩ => ⟨touched, same⟩,
    fun alike => ⟨alike.touched, alike.levelAt⟩⟩

/-- After a reset every level reads as unused. -/
theorem WellFormed.alike_reset {first second : SiteTable} (firstFormed : first.WellFormed)
    (secondFormed : second.WellFormed) : first.reset.Alike second.reset where
  touched := rfl
  levelAt level := by rw [firstFormed.levelAt_reset, secondFormed.levelAt_reset]

/-- A second reset finds no level in use. -/
theorem reset_reset (table : SiteTable) : table.reset.reset = table.reset := by
  have levels : table.reset.reset.levels = table.reset.levels :=
    GrownArray.mapIdx_eq_self (fun level site => if_neg (Nat.not_lt_zero level)) _
  exact congrArg (SiteTable.mk · 0) levels

namespace Alike

variable {first second : SiteTable}

theorem nextSite (alike : first.Alike second) (depth : Nat) :
    first.nextSite depth = second.nextSite depth := by
  rw [SiteTable.nextSite, SiteTable.nextSite, alike.levelAt]

theorem path (alike : first.Alike second) (depth : Nat) : first.path depth = second.path depth := by
  apply List.map_congr_left
  intro above _
  rw [alike.levelAt]

theorem links (alike : first.Alike second) (depth : Nat) :
    first.links depth = second.links depth := by
  apply List.map_congr_left
  intro above _
  rw [alike.levelAt]

theorem deepest (alike : first.Alike second) : first.deepest = second.deepest := by
  rw [SiteTable.deepest, SiteTable.deepest, alike.touched]

theorem enter (alike : first.Alike second) (depth : Nat) :
    (first.enter depth).2.Alike (second.enter depth).2 where
  touched := by rw [touched_enter, touched_enter, alike.touched]
  levelAt level := by
    rw [levelAt_enter, levelAt_enter, alike.nextSite, alike.levelAt, alike.levelAt,
      alike.touched]

theorem reset (alike : first.Alike second) : first.reset.Alike second.reset where
  touched := rfl
  levelAt level := by rw [levelAt_reset, levelAt_reset, alike.touched, alike.levelAt]

end Alike

end SiteTable

namespace DepthBuffers

variable {α : Type}

/-- Two rows of buffers that differ at most in how many levels they have allocated. -/
structure Alike (first second : DepthBuffers α) : Prop where
  touched : first.touched = second.touched
  slot : ∀ level, first.slot level = second.slot level

/-- Equality compares the levels in use, and beyond them there is nothing to compare. -/
theorem WellFormed.beq_iff_alike [BEq α] [LawfulBEq α] {first second : DepthBuffers α}
    (firstFormed : first.WellFormed) (secondFormed : second.WellFormed) :
    (first == second) = true ↔ first.Alike second := by
  have unfolded : (first == second) = (first.touched == second.touched &&
      first.live == second.live) := rfl
  rw [unfolded, Bool.and_eq_true, beq_iff_eq, beq_iff_eq]
  have used := GrownArray.used_eq_iff firstFormed.touched_le secondFormed.touched_le
    firstFormed.unused secondFormed.unused
  exact used.trans ⟨fun ⟨touched, same⟩ => ⟨touched, same⟩,
    fun alike => ⟨alike.touched, alike.slot⟩⟩

/-- After a reset nothing waits anywhere. -/
theorem WellFormed.alike_reset {first second : DepthBuffers α} (firstFormed : first.WellFormed)
    (secondFormed : second.WellFormed) : first.reset.Alike second.reset where
  touched := rfl
  slot level := by rw [firstFormed.slot_reset, secondFormed.slot_reset]

/-- A second reset finds no level in use. -/
theorem reset_reset (buffers : DepthBuffers α) : buffers.reset.reset = buffers.reset := by
  have slots : buffers.reset.reset.slots = buffers.reset.slots :=
    GrownArray.mapIdx_eq_self (fun level contents => if_neg (Nat.not_lt_zero level)) _
  exact congrArg (DepthBuffers.mk · 0) slots

theorem touched_fold (buffers : DepthBuffers α) (parent child : Nat) :
    (buffers.fold parent child).touched =
      if (buffers.slot child).isEmpty then buffers.touched
      else max buffers.touched (parent + 1) := by
  rw [fold]
  split <;> rfl

namespace Alike

variable {first second : DepthBuffers α}

theorem isEmptyBelow (alike : first.Alike second) (depth : Nat) :
    first.isEmptyBelow depth = second.isEmptyBelow depth := by
  rw [Bool.eq_iff_iff, isEmptyBelow_iff, isEmptyBelow_iff]
  simp only [alike.slot]

theorem touch (alike : first.Alike second) (depth : Nat) :
    (first.touch depth).Alike (second.touch depth) where
  touched := congrArg (max · (depth + 1)) alike.touched
  slot level := by rw [slot_touch, slot_touch, alike.slot]

theorem push (alike : first.Alike second) (depth : Nat) (record : α) :
    (first.push depth record).Alike (second.push depth record) where
  touched := congrArg (max · (depth + 1)) alike.touched
  slot level := by
    by_cases same : level = depth
    · rw [same, slot_push_self, slot_push_self, alike.slot]
    · rw [slot_push_of_ne record same, slot_push_of_ne record same, alike.slot]

theorem fold (alike : first.Alike second) {parent child : Nat} (apart : parent ≠ child) :
    (first.fold parent child).Alike (second.fold parent child) where
  touched := by rw [touched_fold, touched_fold, alike.slot, alike.touched]
  slot level := by
    by_cases isParent : level = parent
    · rw [isParent, slot_fold_parent apart, slot_fold_parent apart, alike.slot, alike.slot]
    · by_cases isChild : level = child
      · rw [isChild, slot_fold_child, slot_fold_child]
      · rw [slot_fold_of_ne isParent isChild, slot_fold_of_ne isParent isChild, alike.slot]

theorem drain (alike : first.Alike second) (depth : Nat) :
    (first.drain depth).1 = (second.drain depth).1 ∧
      (first.drain depth).2.Alike (second.drain depth).2 := by
  refine ⟨alike.slot depth, alike.touched, fun level => ?_⟩
  by_cases same : level = depth
  · rw [same, slot_drain_self, slot_drain_self]
  · rw [slot_drain_of_ne same, slot_drain_of_ne same, alike.slot]

theorem reset (alike : first.Alike second) : first.reset.Alike second.reset where
  touched := rfl
  slot level := by rw [slot_reset, slot_reset, alike.touched, alike.slot]

end Alike

end DepthBuffers

namespace Merger

/-- Two mergers that differ at most in how many levels they have allocated. -/
structure Alike (first second : Merger) : Prop where
  buffers : first.buffers.Alike second.buffers
  table : first.table.Alike second.table
  currentDepth : first.currentDepth = second.currentDepth
  maxDepth : first.maxDepth = second.maxDepth
  committed : first.committed = second.committed

/-- Whatever two mergers were used for, a reset leaves them alike. -/
theorem Reachable.alike_reset {maxDepth : UInt64} {first second : Merger}
    (firstReachable : first.Reachable maxDepth) (secondReachable : second.Reachable maxDepth) :
    first.reset.Alike second.reset where
  buffers := firstReachable.buffers.wellFormed.alike_reset secondReachable.buffers.wellFormed
  table := firstReachable.table.wellFormed.alike_reset secondReachable.table.wellFormed
  currentDepth := rfl
  maxDepth := firstReachable.maxDepth_eq.trans secondReachable.maxDepth_eq.symm
  committed := rfl

theorem reset_reset (merger : Merger) : merger.reset.reset = merger.reset := by
  simp only [reset, DepthBuffers.reset_reset, SiteTable.reset_reset]

/-- Equality of mergers compares their parts, and of the levels only those in use. -/
theorem Reachable.beq_iff_alike {first second : Merger} {firstBound secondBound : UInt64}
    (firstReachable : first.Reachable firstBound)
    (secondReachable : second.Reachable secondBound) :
    (first == second) = true ↔ first.Alike second := by
  have unfolded : (first == second) = (first.buffers == second.buffers &&
      first.table == second.table && first.currentDepth == second.currentDepth &&
      first.maxDepth == second.maxDepth && first.committed == second.committed) := rfl
  rw [unfolded, Bool.and_eq_true, Bool.and_eq_true, Bool.and_eq_true, Bool.and_eq_true,
    firstReachable.buffers.wellFormed.beq_iff_alike secondReachable.buffers.wellFormed,
    firstReachable.table.wellFormed.beq_iff_alike secondReachable.table.wellFormed,
    beq_iff_eq, beq_iff_eq, beq_iff_eq]
  constructor
  · rintro ⟨⟨⟨⟨buffers, table⟩, currentDepth⟩, maxDepth⟩, committed⟩
    exact ⟨buffers, table, currentDepth, maxDepth, committed⟩
  · intro alike
    exact ⟨⟨⟨⟨alike.buffers, alike.table⟩, alike.currentDepth⟩, alike.maxDepth⟩, alike.committed⟩

namespace Alike

variable {first second : Merger}

/-- Mergers that are alike compare equal. -/
theorem beq (alike : first.Alike second) {firstBound secondBound : UInt64}
    (firstReachable : first.Reachable firstBound)
    (secondReachable : second.Reachable secondBound) : (first == second) = true :=
  (firstReachable.beq_iff_alike secondReachable).mpr alike

theorem unwind {first second : DepthBuffers CallRecord} (alike : first.Alike second)
    (target current : Nat) :
    (Merger.unwind target current first).Alike (Merger.unwind target current second) := by
  induction current generalizing first second with
  | zero => exact alike
  | succ level ih =>
      rw [Merger.unwind, Merger.unwind]
      split
      · exact ih (alike.fold level.lt_succ_self.ne)
      · exact alike

theorem commit (alike : first.Alike second) : first.commit.Alike second.commit where
  buffers := (alike.buffers.drain 0).2
  table := alike.table
  currentDepth := alike.currentDepth
  maxDepth := alike.maxDepth
  committed := congrArg₂ (· ++ ·) alike.committed (alike.buffers.drain 0).1

theorem unwindTo (alike : first.Alike second) (depth : Nat) :
    (first.unwindTo depth).Alike (second.unwindTo depth) where
  buffers := by
    rw [Merger.unwindTo, Merger.unwindTo, alike.currentDepth]
    exact unwind alike.buffers depth second.currentDepth
  table := alike.table
  currentDepth := congrArg (min · depth) alike.currentDepth
  maxDepth := alike.maxDepth
  committed := alike.committed

theorem settled (alike : first.Alike second) (depth : Nat) :
    (first.settled depth).Alike (second.settled depth) := by
  rw [Merger.settled, Merger.settled]
  split
  · exact (alike.unwindTo depth).commit
  · exact alike.unwindTo depth

/-- A frame gets the same record in both. -/
theorem place (alike : first.Alike second) (frame : CallFrame) :
    (first.place frame).Alike (second.place frame) := by
  have settled := alike.settled frame.level
  have table := alike.table.enter frame.level
  rw [place_eq, place_eq, table.links, table.path]
  exact ⟨settled.buffers.push _ _, table, rfl, settled.maxDepth, settled.committed⟩

/-- The same records are handed out by both. -/
theorem finish (alike : first.Alike second) :
    first.finish.1 = second.finish.1 ∧ first.finish.2.Alike second.finish.2 := by
  have settled := (alike.unwindTo 0).commit
  exact ⟨settled.committed, settled.buffers, settled.table, settled.currentDepth,
    settled.maxDepth, rfl⟩

theorem reset (alike : first.Alike second) : first.reset.Alike second.reset where
  buffers := alike.buffers.reset
  table := alike.table.reset
  currentDepth := rfl
  maxDepth := alike.maxDepth
  committed := rfl

end Alike

end Merger

end CallTrace
