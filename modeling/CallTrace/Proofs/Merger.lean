/-
# The merger keeps the order of the calls

A merger spreads the records of a transaction over one buffer a level and a list of
released records, and moves them from level to level as calls end. Read in the one
right order (released first, then level by level) they are always the frames
accepted, in the order in which they were accepted: the levels are cuts of one
list, and the invariant says where each cut is.

The invariant also says what every record holds. Nothing in it depends on how often
records were moved or handed out.
-/

import CallTrace.Merger
import CallTrace.Proofs.DepthBuffers
import CallTrace.Proofs.SiteTable

namespace CallTrace.Merger

open Nesting

/-- What can be asked of a merger within a transaction. -/
inductive Operation where
  | accept (frame : CallFrame)
  | finish

/-- Carries out an operation, and gives the records that it hands out. A frame that
is refused leaves the merger as it was. -/
def perform (merger : Merger) : Operation → List CallRecord × Merger
  | .accept frame =>
    match merger.accept frame with
    | .ok next => ([], next)
    | .error _ => ([], merger)
  | .finish => (merger.finish.1.toList, merger.finish.2)

/-- Carries out operations in order, and gives all records that they hand out. -/
def run : List Operation → Merger → List CallRecord × Merger
  | [], merger => ([], merger)
  | operation :: rest, merger =>
    let later := run rest (merger.perform operation).2
    ((merger.perform operation).1 ++ later.1, later.2)

/-- The frames that operations get accepted under a bound on depth. -/
def accepted (maxDepth : UInt64) (operations : List Operation) : List CallFrame :=
  operations.filterMap fun operation =>
    match operation with
    | .accept frame => if frame.depth < maxDepth then some frame else none
    | .finish => none

/-- The frames accepted and not handed out after one more operation. -/
def remembered (maxDepth : UInt64) (frames : List CallFrame) : Operation → List CallFrame
  | .accept frame => if frame.depth < maxDepth then frames ++ [frame] else frames
  | .finish => []

/-- The frames accepted since records were last handed out. -/
def recent (maxDepth : UInt64) (operations : List Operation) : List CallFrame :=
  operations.foldl (remembered maxDepth) []

/-- Which of the frames accepted since records were last handed out wait at a level.
At level 0 it is the last top-level frame. At any other level it is the run of frames
that begins after the last frame above the level, and ends with the last frame at the
level or above it. -/
def waiting (frames : List CallFrame) : Nat → List CallFrame
  | 0 => (through CallFrame.level 0 frames).getLast?.toList
  | above + 1 => beyond CallFrame.level above (through CallFrame.level (above + 1) frames)

/-- Everything still inside: the records released, and after them what waits at the
levels from 0 down to that of the frame accepted last. -/
def inside (merger : Merger) : List CallRecord :=
  merger.committed.toList ++
    (List.range (merger.currentDepth + 1)).flatMap fun level => (merger.pending level).toList

/-- The mergers that come about under a bound on depth. -/
inductive Reachable (maxDepth : UInt64) : Merger → Prop
  | new : Reachable maxDepth (.new maxDepth)
  | perform {merger : Merger} (operation : Operation) (reachable : Reachable maxDepth merger) :
      Reachable maxDepth (merger.perform operation).2
  | reset {merger : Merger} (reachable : Reachable maxDepth merger) :
      Reachable maxDepth merger.reset

/-- The mergers with which a transaction can begin: a new one, or one that was
reset, whatever it had been used for before. -/
inductive Fresh (maxDepth : UInt64) : Merger → Prop
  | new : Fresh maxDepth (.new maxDepth)
  | reset {merger : Merger} (reachable : Reachable maxDepth merger) :
      Fresh maxDepth merger.reset

/-- The merger once every open frame at `depth` or deeper has ended. -/
def settled (depth : Nat) (merger : Merger) : Merger :=
  if depth = 0 then (merger.unwindTo depth).commit else merger.unwindTo depth

theorem place_eq (frame : CallFrame) (merger : Merger) :
    merger.place frame =
      { merger.settled frame.level with
        buffers := (merger.settled frame.level).buffers.push frame.level
          ⟨frame, (merger.table.enter frame.level).2.links frame.level,
            (merger.table.enter frame.level).2.path frame.level⟩
        table := (merger.table.enter frame.level).2
        currentDepth := frame.level } := by
  have kept : (merger.settled frame.level).table = merger.table := by
    rw [settled]
    split <;> rfl
  rw [← kept]
  rfl

/-- The table of sites sees every frame that is placed. -/
theorem table_place (frame : CallFrame) (merger : Merger) :
    (merger.place frame).table = (merger.table.enter frame.level).2 := by
  rw [place_eq]

/-- Releasing what waits at level 0 moves it from the front of what waits to the end
of what was released. -/
theorem content_commit (merger : Merger) (level : Nat) :
    merger.commit.committed.toList ++ merger.commit.buffers.held (level + 1) =
      merger.committed.toList ++ merger.buffers.held (level + 1) := by
  rw [commit, DepthBuffers.drain, Array.toList_append, List.append_assoc]
  exact congrArg _ (DepthBuffers.slot_append_held_drain level.succ_pos)

/-- Unwinding matters only to the cuts between the levels that it folds. -/
theorem held_unwind (target current count : Nat) (buffers : DepthBuffers CallRecord) :
    (unwind target current buffers).held count =
      if target < count ∧ count ≤ current + 1 then buffers.held (current + 1)
      else buffers.held count := by
  induction current generalizing buffers with
  | zero =>
      rw [unwind]
      split
      · rename_i range
        rw [show count = 0 + 1 by omega]
      · rfl
  | succ level ih =>
      rw [unwind]
      split
      · rename_i deeper
        rw [ih, DepthBuffers.held_fold, DepthBuffers.held_fold, if_pos rfl]
        -- The level just folded is the only new cut; further up the induction applies.
        obtain inside | last | outside :
            (target < count ∧ count ≤ level + 1) ∨ count = level + 2 ∨
              ¬ (target < count ∧ count ≤ level + 2) := by omega
        · rw [if_pos inside, if_pos (by omega)]
        · rw [if_neg (by omega), if_neg (by omega), if_pos (by omega), last]
        · rw [if_neg (by omega), if_neg (by omega), if_neg outside]
      · rename_i reached
        split
        · rename_i range
          rw [show count = level + 1 + 1 by omega]
        · rfl

/-- What a merger holds, once `handed` was handed out and `recent` was not, the
records of one transaction in the order of their frames. -/
structure Holds (merger : Merger) (handed recent : List CallRecord) : Prop where
  placed : handed ++ recent = records ((handed ++ recent).map CallRecord.frame)
  table : merger.table.Records ((handed ++ recent).map CallRecord.level)
  content : ∀ level, merger.committed.toList ++ merger.buffers.held (level + 1) =
    through CallRecord.level level recent
  committed : merger.committed.toList = (through CallRecord.level 0 recent).dropLast
  currentDepth : merger.currentDepth = (recent.getLast?.map CallRecord.level).getD 0

namespace Holds

variable {merger : Merger} {handed recent : List CallRecord}

/-- Nothing is deeper than the frame accepted last. -/
theorem through_eq (holds : merger.Holds handed recent) {level : Nat}
    (deep : merger.currentDepth ≤ level) : through CallRecord.level level recent = recent := by
  apply through_eq_self
  intro last isLast
  rw [holds.currentDepth, isLast] at deep
  exact deep

/-- All records that were not handed out are inside. -/
theorem inside_eq (holds : merger.Holds handed recent) : merger.inside = recent :=
  (holds.content merger.currentDepth).trans (holds.through_eq (Nat.le_refl _))

/-- At level 0 waits the record after those that were released. -/
theorem pending_zero (holds : merger.Holds handed recent) :
    (merger.pending 0).toList = (through CallRecord.level 0 recent).getLast?.toList := by
  have top := holds.content 0
  rw [DepthBuffers.held_succ, DepthBuffers.held_zero, List.nil_append, holds.committed] at top
  rcases List.eq_nil_or_concat' (through CallRecord.level 0 recent) with
    none | ⟨released, last, split⟩
  · rw [none] at top ⊢
    exact top
  · rw [split, List.dropLast_concat] at top
    rw [split, List.getLast?_concat]
    exact List.append_cancel_left top

/-- At a deeper level waits what lies between the cut above it and its own. -/
theorem pending_succ (holds : merger.Holds handed recent) (above : Nat) :
    (merger.pending (above + 1)).toList =
      beyond CallRecord.level above (through CallRecord.level (above + 1) recent) := by
  have cut := holds.content (above + 1)
  rw [DepthBuffers.held_succ, ← List.append_assoc, holds.content above] at cut
  have parts : through CallRecord.level above (through CallRecord.level (above + 1) recent) ++
      beyond CallRecord.level above (through CallRecord.level (above + 1) recent) =
        through CallRecord.level (above + 1) recent := through_append_beyond _
  rw [through_through above.le_succ] at parts
  exact List.append_cancel_left (cut.trans parts.symm)

/-- Beyond the level of the frame accepted last nothing waits. -/
theorem pending_of_gt (holds : merger.Holds handed recent) {level : Nat}
    (deeper : merger.currentDepth < level) : merger.pending level = #[] := by
  obtain ⟨above, rfl⟩ := Nat.exists_eq_add_one_of_ne_zero (Nat.ne_zero_of_lt deeper)
  have all : ∀ place, above ≤ place →
      merger.committed.toList ++ merger.buffers.held (place + 1) = recent := fun place le => by
    rw [holds.content, holds.through_eq (by omega)]
  exact DepthBuffers.slot_eq_empty_of_held (all above (Nat.le_refl above))
    (all (above + 1) above.le_succ)

/-- After unwinding to `depth` everything is at this level or above it. -/
theorem content_unwindTo (holds : merger.Holds handed recent) {depth level : Nat}
    (le : depth ≤ level) :
    merger.committed.toList ++ (merger.unwindTo depth).buffers.held (level + 1) = recent := by
  rw [unwindTo, held_unwind]
  split
  · rw [holds.content, holds.through_eq (Nat.le_refl _)]
  · rw [holds.content, holds.through_eq (by omega)]

/-- Unwinding to `depth` changes nothing above it. -/
theorem held_unwindTo (merger : Merger) {depth level : Nat} (lt : level < depth) :
    (merger.unwindTo depth).buffers.held (level + 1) = merger.buffers.held (level + 1) := by
  rw [unwindTo, held_unwind, if_neg (by omega)]

theorem content_settled (holds : merger.Holds handed recent) {depth level : Nat}
    (le : depth ≤ level) :
    (merger.settled depth).committed.toList ++ (merger.settled depth).buffers.held (level + 1) =
      recent := by
  rw [settled]
  split
  · rw [content_commit]
    exact holds.content_unwindTo le
  · exact holds.content_unwindTo le

/-- With everything at level 0 or above it, a commit releases everything. -/
theorem committed_settled_zero (holds : merger.Holds handed recent) :
    (merger.settled 0).committed.toList = recent := by
  have all := holds.content_unwindTo (Nat.le_refl 0)
  rw [DepthBuffers.held_succ, DepthBuffers.held_zero, List.nil_append,
    ← Array.toList_append] at all
  exact all

/-- Ending the frames at `depth` or deeper leaves nothing waiting below it. -/
theorem slot_settled (holds : merger.Holds handed recent) {depth level : Nat}
    (lt : depth < level) : (merger.settled depth).buffers.slot level = #[] := by
  obtain ⟨above, rfl⟩ := Nat.exists_eq_add_one_of_ne_zero (Nat.ne_zero_of_lt lt)
  exact DepthBuffers.slot_eq_empty_of_held (holds.content_settled (by omega))
    (holds.content_settled (by omega))

/-- Above a frame nothing changes when the frames below it end. -/
theorem content_settled_of_lt (merger : Merger) {depth level : Nat} (lt : level < depth) :
    (merger.settled depth).committed.toList ++ (merger.settled depth).buffers.held (level + 1) =
      merger.committed.toList ++ merger.buffers.held (level + 1) := by
  rw [settled, if_neg (by omega), held_unwindTo merger lt]
  rfl

/-- The record that `place` makes is the one that belongs to the frames so far. -/
theorem record_eq (holds : merger.Holds handed recent) (frame : CallFrame) :
    record ((handed ++ recent).map CallRecord.frame ++ [frame]) frame =
      ⟨frame, (merger.table.enter frame.level).2.links frame.level,
        (merger.table.enter frame.level).2.path frame.level⟩ := by
  have table := holds.table.enter frame.level
  have depths : ((handed ++ recent).map CallRecord.frame ++ [frame]).map CallFrame.level =
      (handed ++ recent).map CallRecord.level ++ [frame.level] := by
    rw [List.map_append, map_level_map_frame, List.map_singleton]
  rw [record, depths, table.links_eq, table.path_eq]

/-- One step: a frame that is placed comes last, and its record is made from all
frames up to its own. -/
theorem place (holds : merger.Holds handed recent) (frame : CallFrame) :
    (merger.place frame).Holds handed
      (recent ++ [record ((handed ++ recent).map CallRecord.frame ++ [frame]) frame]) := by
  rw [place_eq, ← holds.record_eq]
  generalize isRecord : record ((handed ++ recent).map CallRecord.frame ++ [frame]) frame = placed
  have own : placed.frame = frame := by rw [← isRecord, record]
  have ownLevel : placed.level = frame.level := by rw [CallRecord.level, own]
  constructor
  case placed =>
    rw [← List.append_assoc, List.map_append, List.map_singleton, own, records_concat,
      ← holds.placed, isRecord]
  case table =>
    rw [← List.append_assoc, List.map_append, List.map_singleton, ownLevel]
    exact holds.table.enter frame.level
  case content =>
    intro level
    -- Cuts above the frame stay where they were, all others now end with its record.
    by_cases above : level < frame.level
    · rw [through_concat_of_lt recent (ownLevel ▸ above), ← holds.content level,
        DepthBuffers.held_push_of_le placed above, content_settled_of_lt merger above]
    · have below : frame.level ≤ level := Nat.le_of_not_lt above
      rw [through_concat_of_le recent (ownLevel ▸ below),
        DepthBuffers.held_push_of_lt placed (fun _ => holds.slot_settled)
          (Nat.lt_succ_of_le below),
        ← List.append_assoc, holds.content_settled below]
  case committed =>
    by_cases top : frame.level = 0
    · rw [through_concat_of_le recent (ownLevel ▸ top.le), List.dropLast_concat]
      simp only [top]
      exact holds.committed_settled_zero
    · rw [through_concat_of_lt recent (ownLevel ▸ Nat.pos_of_ne_zero top), ← holds.committed,
        settled, if_neg top]
      rfl
  case currentDepth =>
    rw [List.getLast?_concat, Option.map_some, Option.getD_some, ownLevel]

/-- One step: finishing hands out all that was not handed out, and leaves nothing. -/
theorem finish (holds : merger.Holds handed recent) :
    merger.finish.1.toList = recent ∧ merger.finish.2.Holds (handed ++ recent) [] := by
  have released : merger.finish.1.toList = recent := holds.committed_settled_zero
  refine ⟨released, ?_⟩
  constructor
  case placed =>
    rw [List.append_nil]
    exact holds.placed
  case table =>
    rw [List.append_nil]
    exact holds.table
  case content =>
    intro level
    have all := holds.content_settled (Nat.zero_le level)
    have same : (merger.settled 0).committed.toList = recent := released
    rw [same] at all
    exact List.append_right_eq_self.mp all
  case committed => rfl
  case currentDepth => exact Nat.min_zero _

end Holds

/-- A frame is placed if it is within the bound and changes nothing otherwise. -/
theorem perform_accept (merger : Merger) (frame : CallFrame) :
    merger.perform (.accept frame) =
      ([], if frame.depth < merger.maxDepth then merger.place frame else merger) := by
  rw [perform, accept]
  by_cases within : frame.depth < merger.maxDepth
  · rw [if_neg (UInt64.not_le.mpr within), if_pos within]
  · rw [if_pos (UInt64.not_lt.mp within), if_neg within]

theorem maxDepth_settled (merger : Merger) (depth : Nat) :
    (merger.settled depth).maxDepth = merger.maxDepth := by
  rw [settled]
  split <;> rfl

theorem maxDepth_perform (merger : Merger) (operation : Operation) :
    (merger.perform operation).2.maxDepth = merger.maxDepth := by
  cases operation with
  | accept frame =>
      rw [perform_accept]
      split
      · rw [place_eq]
        exact maxDepth_settled merger frame.level
      · rfl
  | finish => rfl

/-- Unwinding is nothing but folding levels into those above them. -/
theorem reachable_unwind {buffers : DepthBuffers CallRecord} (reachable : buffers.Reachable)
    (target current : Nat) : (unwind target current buffers).Reachable := by
  induction current generalizing buffers with
  | zero => exact reachable
  | succ level ih =>
      rw [unwind]
      split
      · exact ih (.fold level.lt_succ_self reachable)
      · exact reachable

theorem reachable_buffers_settled {merger : Merger} (reachable : merger.buffers.Reachable)
    (depth : Nat) : (merger.settled depth).buffers.Reachable := by
  have unwound := reachable_unwind reachable depth merger.currentDepth
  rw [settled]
  split
  · exact .drain 0 unwound
  · exact unwound

namespace Reachable

variable {maxDepth : UInt64} {merger : Merger}

theorem maxDepth_eq (reachable : Reachable maxDepth merger) : merger.maxDepth = maxDepth := by
  induction reachable with
  | new => rfl
  | perform operation _ ih => rw [maxDepth_perform, ih]
  | reset _ ih => exact ih

theorem buffers (reachable : Reachable maxDepth merger) : merger.buffers.Reachable := by
  induction reachable with
  | new => exact .empty
  | @perform merger operation _ ih =>
      cases operation with
      | accept frame =>
          rw [perform_accept]
          split
          · rw [place_eq]
            exact .push _ _ (reachable_buffers_settled ih _)
          · exact ih
      | finish => exact reachable_buffers_settled ih 0
  | reset _ ih => exact .reset ih

theorem table (reachable : Reachable maxDepth merger) : merger.table.Reachable := by
  induction reachable with
  | new => exact .empty
  | @perform merger operation _ ih =>
      cases operation with
      | accept frame =>
          rw [perform_accept]
          split
          · rw [place_eq]
            exact .enter _ ih
          · exact ih
      | finish => exact ih
  | reset _ ih => exact .reset ih

end Reachable

namespace Fresh

variable {maxDepth : UInt64} {start : Merger}

theorem maxDepth_eq (fresh : Fresh maxDepth start) : start.maxDepth = maxDepth := by
  cases fresh with
  | new => rfl
  | reset reachable => exact reachable.maxDepth_eq

/-- A merger with which a transaction can begin holds nothing. -/
theorem holds (fresh : Fresh maxDepth start) : start.Holds [] [] := by
  have table : start.table.Fresh := by
    cases fresh with
    | new => exact .empty
    | reset reachable => exact .reset reachable.table
  have nothing : ∀ level, start.buffers.slot level = #[] := by
    cases fresh with
    | new => exact DepthBuffers.slot_empty
    | reset reachable => exact reachable.buffers.wellFormed.slot_reset
  have released : start.committed = #[] := by
    cases fresh <;> rfl
  have current : start.currentDepth = 0 := by
    cases fresh <;> rfl
  constructor
  case placed => rfl
  case table => exact table.records
  case content =>
    intro level
    rw [released, DepthBuffers.held_eq_nil nothing]
    rfl
  case committed =>
    rw [released]
    rfl
  case currentDepth => exact current

end Fresh

theorem run_append (first second : List Operation) (merger : Merger) :
    run (first ++ second) merger =
      ((run first merger).1 ++ (run second (run first merger).2).1,
        (run second (run first merger).2).2) := by
  induction first generalizing merger with
  | nil => rfl
  | cons operation first ih =>
      rw [List.cons_append, run, run, ih]
      simp only [List.append_assoc]

theorem run_singleton (operation : Operation) (merger : Merger) :
    run [operation] merger = merger.perform operation := by
  simp only [run, List.append_nil]

theorem accepted_concat (maxDepth : UInt64) (operations : List Operation)
    (operation : Operation) :
    accepted maxDepth (operations ++ [operation]) =
      accepted maxDepth operations ++ accepted maxDepth [operation] :=
  List.filterMap_append

/-- Nothing is handed out before a finish. -/
theorem run_accepts (frames : List CallFrame) (merger : Merger) :
    (run (frames.map .accept) merger).1 = [] := by
  induction frames generalizing merger with
  | nil => rfl
  | cons frame frames ih =>
      have nothing : (merger.perform (.accept frame)).1 = [] := by
        rw [perform_accept]
      simp only [List.map_cons, run, ih, nothing, List.append_nil]

theorem Reachable.run {maxDepth : UInt64} {merger : Merger} (reachable : Reachable maxDepth merger)
    (operations : List Operation) : Reachable maxDepth (Merger.run operations merger).2 := by
  induction operations generalizing merger with
  | nil => exact reachable
  | cons operation operations ih => exact ih (.perform operation reachable)

theorem maxDepth_run (operations : List Operation) (merger : Merger) :
    (run operations merger).2.maxDepth = merger.maxDepth := by
  induction operations generalizing merger with
  | nil => rfl
  | cons operation operations ih => rw [run, ih, maxDepth_perform]

/-- What a finish hands out after frames and nothing else were accepted. -/
theorem finish_run_accepts (frames : List CallFrame) (merger : Merger) :
    (run (frames.map .accept) merger).2.finish.1.toList =
      (run (frames.map .accept ++ [.finish]) merger).1 := by
  rw [run_append, run_singleton, run_accepts, List.nil_append]
  rfl

/-- Of frames that come without a finish, those within the bound are accepted. -/
theorem accepted_map_accept (maxDepth : UInt64) (frames : List CallFrame) :
    accepted maxDepth (frames.map .accept) = frames.filter fun frame => frame.depth < maxDepth := by
  induction frames with
  | nil => rfl
  | cons frame frames ih =>
      rw [List.map_cons, accepted, List.filterMap_cons, ← accepted, ih]
      by_cases within : frame.depth < maxDepth
      · simp [within]
      · simp [within]

/-- One step: an operation hands out the records of the oldest frames held, and keeps
those of the others, a frame that it accepts among them. -/
theorem Holds.perform {merger : Merger} {handed recent : List CallRecord}
    (holds : merger.Holds handed recent) (operation : Operation) :
    ∃ still, (merger.perform operation).2.Holds (handed ++ (merger.perform operation).1) still ∧
      (handed ++ (merger.perform operation).1 ++ still).map CallRecord.frame =
        (handed ++ recent).map CallRecord.frame ++ accepted merger.maxDepth [operation] ∧
      still.map CallRecord.frame =
        remembered merger.maxDepth (recent.map CallRecord.frame) operation := by
  cases operation with
  | accept frame =>
      rw [perform_accept]
      by_cases within : frame.depth < merger.maxDepth
      · simp only [if_pos within, List.append_nil, remembered, accepted, List.filterMap_cons,
          List.filterMap_nil]
        refine ⟨_, holds.place frame, ?_, ?_⟩
        · rw [← List.append_assoc, List.map_append, List.map_singleton, record]
        · rw [List.map_append, List.map_singleton, record]
      · simp only [if_neg within, List.append_nil, remembered, accepted, List.filterMap_cons,
          List.filterMap_nil]
        exact ⟨recent, holds, rfl, rfl⟩
  | finish =>
      obtain ⟨out, after⟩ := holds.finish
      rw [Merger.perform, out]
      exact ⟨[], after, by simp [accepted], rfl⟩

/-- A whole run: what was handed out and what is still inside are the records of the
frames accepted, and what is inside belongs to those accepted since the last finish. -/
theorem Fresh.run_holds {maxDepth : UInt64} {start : Merger} (fresh : Fresh maxDepth start)
    (operations : List Operation) :
    ∃ still, (run operations start).2.Holds (run operations start).1 still ∧
      ((run operations start).1 ++ still).map CallRecord.frame = accepted maxDepth operations ∧
      still.map CallRecord.frame = recent maxDepth operations ∧
      (run operations start).2.maxDepth = maxDepth := by
  induction operations using List.reverseRecOn with
  | nil => exact ⟨[], fresh.holds, rfl, rfl, fresh.maxDepth_eq⟩
  | append_singleton operations operation ih =>
      obtain ⟨still, holds, all, since, bound⟩ := ih
      obtain ⟨now, after, allAfter, sinceAfter⟩ := holds.perform operation
      rw [bound, all, ← accepted_concat] at allAfter
      rw [bound, since] at sinceAfter
      rw [run_append, run_singleton]
      refine ⟨now, after, allAfter, ?_, (maxDepth_perform _ operation).trans bound⟩
      rw [sinceAfter, recent, recent, List.foldl_concat]

/-- A run that ends with a finish has handed out the records of all frames accepted. -/
theorem Fresh.finish_holds {maxDepth : UInt64} {start : Merger} (fresh : Fresh maxDepth start)
    (operations : List Operation) :
    (run (operations ++ [.finish]) start).2.Holds
        (run (operations ++ [.finish]) start).1 [] ∧
      (run (operations ++ [.finish]) start).1.map CallRecord.frame =
        accepted maxDepth operations := by
  obtain ⟨still, holds, all, since, -⟩ := fresh.run_holds (operations ++ [.finish])
  have nothing : recent maxDepth (operations ++ [.finish]) = [] := by
    rw [recent, List.foldl_concat]
    rfl
  obtain rfl : still = [] := List.map_eq_nil_iff.mp (since.trans nothing)
  have finishes : accepted maxDepth [.finish] = [] := rfl
  rw [List.append_nil, accepted_concat, finishes, List.append_nil] at all
  exact ⟨holds, all⟩

/-- Frames that come without a finish in between are handed out as the records of those
within the bound. -/
theorem Fresh.finish_accepts {maxDepth : UInt64} {start : Merger} (fresh : Fresh maxDepth start)
    (frames : List CallFrame) :
    (run (frames.map .accept) start).2.finish.1.toList =
      records (frames.filter (·.depth < maxDepth)) := by
  obtain ⟨holds, all⟩ := fresh.finish_holds (frames.map .accept)
  have placed := holds.placed
  rw [List.append_nil, all, accepted_map_accept] at placed
  rw [finish_run_accepts, placed]

/-- No operation loses, doubles or reorders a frame, and every frame waits exactly
where it should. What was handed out, followed by what is inside, is what was
accepted. What waits at a level is decided by the frames accepted since the last
finish; beyond the level of the last of them nothing waits. -/
theorem run_conserves_and_places {maxDepth : UInt64} {start : Merger}
    (fresh : Fresh maxDepth start) (operations : List Operation) :
    let out := (run operations start).1
    let merger := (run operations start).2
    let since := recent maxDepth operations
    (out ++ merger.inside).map CallRecord.frame = accepted maxDepth operations ∧
      (∀ level, (merger.pending level).toList.map CallRecord.frame = waiting since level) ∧
      (∀ level, merger.currentDepth < level → merger.pending level = #[]) ∧
      merger.currentDepth = (since.getLast?.map CallFrame.level).getD 0 ∧
      ∀ frame, (∃ next, merger.accept frame = .ok next) ↔ frame.depth < maxDepth := by
  obtain ⟨still, holds, all, since, bound⟩ := fresh.run_holds operations
  have depths : ∀ record : CallRecord, record.frame.level = record.level := fun _ => rfl
  refine ⟨?_, ?_, ?_, ?_, ?_⟩
  · rw [holds.inside_eq, all]
  · intro level
    rw [← since]
    cases level with
    | zero =>
        rw [holds.pending_zero, waiting, ← map_through depths, List.getLast?_map]
        cases (through CallRecord.level 0 still).getLast? <;> rfl
    | succ above =>
        rw [holds.pending_succ, waiting, map_beyond depths, map_through depths]
  · exact fun level => holds.pending_of_gt
  · rw [holds.currentDepth, ← since, List.getLast?_map, Option.map_map]
    rfl
  · intro frame
    rw [accept, bound]
    by_cases within : frame.depth < maxDepth
    · rw [if_neg (UInt64.not_le.mpr within)]
      simp [within]
    · rw [if_pos (UInt64.not_lt.mp within)]
      simp [within]

/-- A frame that skips a level, one that is refused and one that unwinds, after an
earlier trace was handed out by the same merger. -/
theorem pending_after_skipped_level :
    Fresh 3 (new 3).reset ∧
      ((run [.accept (.bare 0), .accept (.bare 1), .finish, .accept (.bare 0),
          .accept (.bare 2), .accept (.bare 5), .accept (.bare 1)]
        (new 3).reset).2.pending 1).toList.map CallRecord.frame = [.bare 2, .bare 1] :=
  ⟨.reset .new, ((run_conserves_and_places (.reset .new) _).2.1 1).trans (by decide)⟩

end CallTrace.Merger
