/-
# Nested calls survive tracing

The calls of a transaction form a forest; an engine reports it from the roots down
and from left to right, with logs and movements of value anywhere in between. The
trace that is written out at the end is a text, and the tree of the calls read from
it is the forest again, cut at the bound on depth. So a trace loses nothing of the
nesting but what it says it loses.
-/

import CallTrace.Proofs.CallTree
import CallTrace.Proofs.Rows.Function
import CallTrace.Proofs.Session

namespace CallTrace

/-- A call of which nothing is known but its frame, with the calls made inside it. -/
inductive FrameTree where
  | node (frame : CallFrame) (calls : List FrameTree)

namespace FrameTree

mutual

/-- The frames of a tree, each before those inside it. -/
def flatten : FrameTree → List CallFrame
  | .node frame calls => frame :: flattenAll calls

/-- The frames of a forest, tree by tree. -/
def flattenAll : List FrameTree → List CallFrame
  | [] => []
  | tree :: rest => flatten tree ++ flattenAll rest

end

mutual

/-- Whether the depth of every frame is its level in the tree, whose root stands at
`level`. -/
def NestedAt (level : Nat) : FrameTree → Prop
  | .node frame calls => frame.level = level ∧ AllNestedAt (level + 1) calls

/-- Whether all trees of a forest are nested at one level. -/
def AllNestedAt (level : Nat) : List FrameTree → Prop
  | [] => True
  | tree :: rest => NestedAt level tree ∧ AllNestedAt level rest

end

mutual

/-- What is left of a tree when it is cut at a bound on depth: the root with what is
left inside it, or nothing if the root is too deep itself. -/
def prune (bound : UInt64) : FrameTree → List FrameTree
  | .node frame calls => if frame.depth < bound then [.node frame (pruneAll bound calls)] else []

/-- What is left of a forest when it is cut at a bound on depth. -/
def pruneAll (bound : UInt64) : List FrameTree → List FrameTree
  | [] => []
  | tree :: rest => prune bound tree ++ pruneAll bound rest

end

mutual

/-- The frames of a tree of records, nested as the records are. -/
def ofNode : CallNode → FrameTree
  | .node record children => .node record.frame (ofNodes children)

/-- The frames of a forest of records, tree by tree. -/
def ofNodes : List CallNode → List FrameTree
  | [] => []
  | tree :: rest => ofNode tree :: ofNodes rest

end

/-- What holds of no trees, and of a root before a forest if it holds of the forest and
of the one inside the root, holds of every forest. -/
@[elab_as_elim]
theorem forest_induction {motive : List FrameTree → Prop} (nil : motive [])
    (cons : ∀ frame calls rest, motive calls → motive rest → motive (.node frame calls :: rest)) :
    ∀ forest, motive forest
  | [] => nil
  | .node frame calls :: rest =>
    cons frame calls rest (forest_induction nil cons calls) (forest_induction nil cons rest)

@[simp]
theorem flattenAll_cons (frame : CallFrame) (calls rest : List FrameTree) :
    flattenAll (.node frame calls :: rest) = frame :: (flattenAll calls ++ flattenAll rest) := rfl

theorem pruneAll_cons_of_lt {frame : CallFrame} {bound : UInt64} (within : frame.depth < bound)
    (calls rest : List FrameTree) :
    pruneAll bound (.node frame calls :: rest) =
      .node frame (pruneAll bound calls) :: pruneAll bound rest := by
  rw [pruneAll, prune, if_pos within, List.singleton_append]

theorem pruneAll_cons_of_not_lt {frame : CallFrame} {bound : UInt64}
    (deep : ¬ frame.depth < bound) (calls rest : List FrameTree) :
    pruneAll bound (.node frame calls :: rest) = pruneAll bound rest := by
  rw [pruneAll, prune, if_neg deep, List.nil_append]

variable {forest : List FrameTree} {level : Nat} {bound : UInt64}

/-- No frame of a nested forest stands above its roots. -/
theorem AllNestedAt.le_level (nested : AllNestedAt level forest) :
    ∀ frame ∈ flattenAll forest, level ≤ frame.level := by
  induction forest using forest_induction generalizing level with
  | nil => exact List.forall_mem_nil _
  | cons frame calls rest inner after =>
      obtain ⟨⟨here, inside⟩, beside⟩ := nested
      intro other member
      rcases List.mem_cons.mp member with rfl | member
      · exact here.ge
      · rcases List.mem_append.mp member with below | later
        · exact (Nat.le_succ level).trans (inner inside other below)
        · exact after beside other later

/-- A nested forest begins with a root. -/
theorem AllNestedAt.level_of_head? (nested : AllNestedAt level forest) {frame : CallFrame}
    (first : (flattenAll forest).head? = some frame) : frame.level = level := by
  cases forest with
  | nil => cases first
  | cons tree rest =>
      obtain ⟨root, calls⟩ := tree
      rw [flattenAll_cons, List.head?_cons, Option.some_inj] at first
      exact first ▸ nested.1.1

/-- Whatever is inside a call that is cut off is too deep itself. -/
theorem flattenAll_pruneAll (nested : AllNestedAt level forest) :
    flattenAll (pruneAll bound forest) =
      (flattenAll forest).filter fun frame => frame.depth < bound := by
  induction forest using forest_induction generalizing level with
  | nil => rfl
  | cons frame calls rest inner after =>
      obtain ⟨⟨here, inside⟩, beside⟩ := nested
      rw [flattenAll_cons]
      by_cases within : frame.depth < bound
      · rw [pruneAll_cons_of_lt within, flattenAll_cons, inner inside, after beside,
          List.filter_cons_of_pos (by simpa using within), List.filter_append]
      -- The calls inside go with the root, and the filter drops them one by one.
      · have deep : ∀ other ∈ flattenAll calls, ¬ (decide (other.depth < bound)) = true := by
          intro other member shallow
          have below : frame.level + 1 ≤ other.level := here ▸ inside.le_level other member
          have above : other.level < bound.toNat :=
            UInt64.lt_iff_toNat_lt.mp (of_decide_eq_true shallow)
          exact within (UInt64.lt_iff_toNat_lt.mpr ((Nat.lt_of_succ_le below).trans above))
        rw [pruneAll_cons_of_not_lt within, after beside,
          List.filter_cons_of_neg (by simpa using within), List.filter_append,
          List.filter_eq_nil_iff.mpr deep, List.nil_append]

theorem AllNestedAt.pruneAll (nested : AllNestedAt level forest) :
    AllNestedAt level (pruneAll bound forest) := by
  induction forest using forest_induction generalizing level with
  | nil => trivial
  | cons frame calls rest inner after =>
      obtain ⟨⟨here, inside⟩, beside⟩ := nested
      by_cases within : frame.depth < bound
      · rw [pruneAll_cons_of_lt within]
        exact ⟨⟨here, inner inside⟩, after beside⟩
      · rw [pruneAll_cons_of_not_lt within]
        exact after beside

/-- Nothing is cut off if and only if nothing is too deep. -/
theorem pruneAll_eq_self_iff (nested : AllNestedAt level forest) :
    pruneAll bound forest = forest ↔ ∀ frame ∈ flattenAll forest, frame.depth < bound := by
  constructor
  · intro whole
    have kept : flattenAll (pruneAll bound forest) =
        (flattenAll forest).filter fun frame => frame.depth < bound :=
      flattenAll_pruneAll nested
    rw [whole] at kept
    simpa using List.filter_eq_self.mp kept.symm
  · intro within
    clear nested
    induction forest using forest_induction with
    | nil => rfl
    | cons frame calls rest inner after =>
        rw [flattenAll_cons, List.forall_mem_cons] at within
        have inside := inner fun other member => within.2 other (by simp [member])
        have beside := after fun other member => within.2 other (by simp [member])
        rw [pruneAll_cons_of_lt within.1, inside, beside]

/-- The tree of records is the forest whose frames the records have, provided that the
forest is nested as its depths say. -/
theorem ofNodes_build (nested : AllNestedAt level forest) {records : List CallRecord}
    (frames : records.map CallRecord.frame = flattenAll forest) :
    ofNodes (CallTree.build records) = forest := by
  induction forest using forest_induction generalizing level records with
  | nil =>
      obtain rfl := List.map_eq_nil_iff.mp frames
      rfl
  | cons frame calls rest inner after =>
      obtain ⟨⟨here, inside⟩, beside⟩ := nested
      rw [flattenAll_cons, List.map_eq_cons_iff] at frames
      obtain ⟨record, others, rfl, rfl, frames⟩ := frames
      obtain ⟨below, later, rfl, belowFrames, laterFrames⟩ := List.map_eq_append_iff.mp frames
      have deep : ∀ call ∈ below, CallTree.deeper record call := by
        intro call member
        have among : call.frame ∈ flattenAll calls := belowFrames ▸ List.mem_map_of_mem member
        rw [CallTree.deeper_iff, CallRecord.level, here]
        exact inside.le_level call.frame among
      have stops : ∀ call, later.head? = some call → ¬ CallTree.deeper record call := by
        intro call first
        have root : (flattenAll rest).head? = some call.frame := by
          rw [← laterFrames, List.head?_map, first, Option.map_some]
        rw [CallTree.deeper_iff, CallRecord.level, here, CallRecord.level,
          beside.level_of_head? root]
        exact Nat.lt_irrefl level
      rw [CallTree.build_append deep stops, ofNodes, ofNode, inner inside belowFrames,
        after beside laterFrames]

end FrameTree

namespace Session

open FrameTree

/-- A trace is complete if and only if no step of its transaction was too deep, be it a
call or not. -/
theorem Follows.not_incomplete_iff {session : Session} {start : Merger} {steps : List Step}
    (follows : session.Follows start steps) :
    session.incomplete = false ↔
      (∀ frame ∈ Step.frames steps, frame.depth < start.maxDepth) ∧
        ∀ step ∈ steps, step.frame? = none → step.depth < start.maxDepth := by
  rw [follows.incomplete, List.any_eq_false]
  simp only [decide_eq_true_eq, UInt64.not_le]
  constructor
  · intro within
    constructor
    · intro frame member
      obtain ⟨step, among, isCall⟩ := List.mem_filterMap.mp member
      exact Step.depth_of_frame? isCall ▸ within step among
    · intro step member _
      exact within step member
  · rintro ⟨calls, others⟩ step member
    cases isCall : step.frame? with
    | none => exact others step member isCall
    | some frame =>
        rw [Step.depth_of_frame? isCall]
        exact calls frame (List.mem_filterMap.mpr ⟨step, member, isCall⟩)

/-- Calls that are nested as their depths say are traced with all that they are, and
the tree read from the trace is the forest that they form, cut at the bound on depth.
The trace is complete if and only if nothing was cut off, and no log and no movement
of value was too deep. -/
theorem traced_forest_is_read_back {config : TraceConfig} {session : Session}
    (reachable : Reachable config session) (enabled : config.output.functionTrace = true)
    {forest : List FrameTree} (nested : AllNestedAt 0 forest) {steps : List Step}
    (reported : Step.frames steps = flattenAll forest) :
    ∃ trace calls,
      (session.reset.takeAll steps).finalize.1 = .ok trace ∧
        FunctionTrace.read trace.functionTrace.toList = .ok calls ∧
        ofNodes (CallTree.build calls) = pruneAll config.maxDepth forest ∧
        (trace.complete = true ↔
          pruneAll config.maxDepth forest = forest ∧
            ∀ step ∈ steps, step.frame? = none → step.depth < config.maxDepth) := by
  have fresh : session.merger.reset.Fresh config.maxDepth := reachable.fresh_reset
  have follows : (session.reset.takeAll steps).Follows session.merger.reset steps :=
    (Follows.reset session).takeAll steps
  have output : (session.reset.takeAll steps).output = config.output :=
    (output_takeAll steps session.reset).trans reachable.output_eq
  have frames : (Merger.run ((Step.frames steps).map .accept ++ [.finish])
      session.merger.reset).1.map CallRecord.frame =
        flattenAll (pruneAll config.maxDepth forest) := by
    rw [(fresh.finish_holds _).2, Merger.accepted_map_accept, reported,
      flattenAll_pruneAll nested]
  refine ⟨_, _, follows.finalize, ?_, ofNodes_build nested.pruneAll frames, ?_⟩
  · simp only [writeTraces, output, enabled, if_true, String.toList_ofList,
      FunctionTrace.read_write]
  · simp only [writeTraces, Bool.not_eq_true', follows.not_incomplete_iff, fresh.maxDepth_eq,
      reported, pruneAll_eq_self_iff nested]

/-- A session that was used before traces two top-level calls, with a call too deep
inside the first, and a log and a movement of value on the way. -/
theorem traced_forest_cut_at_two :
    let config : TraceConfig := ⟨2, ⟨true, false⟩⟩
    let session := ((new config).operate .reset).operate .finalize
    let forest : List FrameTree :=
      [.node (.bare 0) [.node (.bare 1) [.node (.bare 2) []], .node (.bare 1) []],
        .node (.bare 0) []]
    let steps : List Step := [.call (.bare 0), .call (.bare 1), .log default,
      .call (.bare 2), .transfer default default default 1, .call (.bare 1), .call (.bare 0)]
    Reachable config session ∧ config.output.functionTrace = true ∧ AllNestedAt 0 forest ∧
      Step.frames steps = flattenAll forest ∧
        ∃ trace calls,
          (session.reset.takeAll steps).finalize.1 = .ok trace ∧
            FunctionTrace.read trace.functionTrace.toList = .ok calls ∧
            ofNodes (CallTree.build calls) =
              [.node (.bare 0) [.node (.bare 1) [], .node (.bare 1) []], .node (.bare 0) []] ∧
            ¬ trace.complete = true := by
  intro config session forest steps
  have reachable : Reachable config session := .operate .finalize (.operate .reset .new)
  have nested : AllNestedAt 0 forest := by
    simp [forest, AllNestedAt, NestedAt, CallFrame.bare, CallFrame.level]
  have left : pruneAll 2 forest =
      [.node (.bare 0) [.node (.bare 1) [], .node (.bare 1) []], .node (.bare 0) []] := rfl
  obtain ⟨trace, calls, finalized, read, tree, complete⟩ :=
    traced_forest_is_read_back reachable rfl nested (rfl : Step.frames steps = flattenAll forest)
  refine ⟨reachable, rfl, nested, rfl, trace, calls, finalized, read, tree.trans left, ?_⟩
  rw [complete]
  rintro ⟨whole, -⟩
  exact absurd (left.symm.trans whole) (by simp [forest])

end Session

end CallTrace
