/-
# A session follows its transaction

While a session is active it passes every call on to its merger, and its mark of
incompleteness tells whether any step so far was too deep. So the state of a session
after some steps can be said without the session: the merger has carried out the
calls among the steps, and the mark is a question about their depths.
-/

import CallTrace.Proofs.Merger
import CallTrace.Recording
import CallTrace.Session

namespace CallTrace

namespace Step

/-- The depth at which a step happens. -/
def depth : Step → UInt64
  | .call frame => frame.depth
  | .log event => event.depth
  | .transfer _ _ _ depth => depth

/-- The frame that is entered in a step, if the step is a call. -/
def frame? : Step → Option CallFrame
  | .call frame => some frame
  | .log _ => none
  | .transfer _ _ _ _ => none

/-- The frames entered in a sequence of steps. -/
def frames (steps : List Step) : List CallFrame :=
  steps.filterMap frame?

theorem depth_of_frame? {step : Step} {frame : CallFrame} (isCall : step.frame? = some frame) :
    step.depth = frame.depth := by
  cases step with
  | call other =>
      obtain rfl : other = frame := Option.some_inj.mp isCall
      rfl
  | log log => cases isCall
  | transfer sender receiver value depth => cases isCall

theorem frames_concat (steps : List Step) (step : Step) :
    frames (steps ++ [step]) = frames steps ++ step.frame?.toList := by
  rw [frames, List.filterMap_append, frames]
  cases step <;> rfl

/-- The calls that are not too deep are those among the steps that are not. -/
theorem frames_filter (maxDepth : UInt64) (steps : List Step) :
    frames (steps.filter (·.depth < maxDepth)) =
      (frames steps).filter (·.depth < maxDepth) := by
  rw [frames, frames, List.filterMap_filter, List.filter_filterMap]
  apply List.filterMap_congr
  intro step _
  cases step with
  | call frame => rfl
  | log log => simp [frame?]
  | transfer sender receiver value depth => simp [frame?]

/-- The calls among steps, around one that is known. -/
theorem frames_split {steps : List Step} {opener : Nat} {frame : CallFrame}
    (here : steps[opener]? = some (.call frame)) :
    frames steps =
      frames (steps.take opener) ++ frame :: frames (steps.drop (opener + 1)) := by
  obtain ⟨inside, isCall⟩ := List.getElem?_eq_some_iff.mp here
  calc
    frames steps = frames (steps.take opener ++ steps.drop opener) := by
      rw [List.take_append_drop]
    _ = frames (steps.take opener) ++ frames (.call frame :: steps.drop (opener + 1)) := by
      rw [List.drop_eq_getElem_cons inside, isCall, frames, List.filterMap_append, frames, frames]
    _ = _ := rfl

end Step

namespace Session

/-- Takes in a step, whatever it comes to. -/
def takeIn (session : Session) : Step → Session
  | .call frame => (session.acceptCall frame).2
  | .log log => (session.acceptLog log).2
  | .transfer sender receiver value depth => (session.acceptTransfer sender receiver value depth).2

/-- Takes in steps one after the other. -/
def takeAll (steps : List Step) (session : Session) : Session :=
  steps.foldl takeIn session

/-- The session after a step that is not too deep. -/
def including (session : Session) : Step → Session
  | .call frame =>
    { session with
      merger := session.merger.place frame
      traceIndex := session.traceIndex + 1 }
  | .log log =>
    { session with
      journal := session.journal.recordLog log session.merger.table session.traceIndex
      traceIndex := session.traceIndex + 1 }
  | .transfer sender receiver value depth =>
    { session with
      journal := session.journal.recordNative sender receiver value depth session.merger.table
        session.traceIndex }

@[simp]
theorem stage_including (session : Session) (step : Step) :
    (session.including step).stage = session.stage := by
  cases step <;> rfl

@[simp]
theorem output_including (session : Session) (step : Step) :
    (session.including step).output = session.output := by
  cases step <;> rfl

@[simp]
theorem incomplete_including (session : Session) (step : Step) :
    (session.including step).incomplete = session.incomplete := by
  cases step <;> rfl

/-- What can be done with a session. -/
inductive Operation where
  | reset
  | step (step : Step)
  | finalize
  | finalizeWith (output : OutputSchema)

/-- The session after an operation, whatever the operation comes to. -/
def operate (session : Session) : Operation → Session
  | .reset => session.reset
  | .step step => session.takeIn step
  | .finalize => session.finalize.2
  | .finalizeWith output => (session.finalizeWith output).2

/-- The sessions that come about under a configuration. -/
inductive Reachable (config : TraceConfig) : Session → Prop
  | new : Reachable config (.new config)
  | operate {session : Session} (operation : Operation) (reachable : Reachable config session) :
      Reachable config (session.operate operation)

/-- A session has taken in steps, and nothing else, since its transaction began with
the given merger. -/
structure Follows (session : Session) (start : Merger) (steps : List Step) : Prop where
  stage : session.stage = .active
  merger : session.merger = (Merger.run ((Step.frames steps).map .accept) start).2
  incomplete : session.incomplete = steps.any fun step => start.maxDepth ≤ step.depth

section TakeIn

variable {session : Session}

/-- Outside a transaction nothing is taken in. -/
theorem takeIn_of_not_active (idle : session.stage ≠ .active) (step : Step) :
    session.takeIn step = session := by
  cases step with
  | call frame => rw [takeIn, acceptCall, if_pos idle]
  | log log => rw [takeIn, acceptLog, if_pos idle]
  | transfer sender receiver value depth => rw [takeIn, acceptTransfer, if_pos idle]

variable (active : session.stage = .active)
include active

/-- The one rule of taking in: a step that is too deep is refused, and leaves no more
than the mark of incompleteness. -/
theorem takeIn_eq (step : Step) :
    session.takeIn step =
      if session.merger.maxDepth ≤ step.depth then { session with incomplete := true }
      else session.including step := by
  have isActive : ¬ session.stage ≠ .active := not_not_intro active
  cases step with
  | call frame =>
      rw [takeIn, acceptCall, if_neg isActive, Merger.accept, Step.depth]
      by_cases deep : session.merger.maxDepth ≤ frame.depth
      · simp only [if_pos deep]
      · simp only [if_neg deep, including]
  | log log =>
      rw [takeIn, acceptLog, if_neg isActive, Step.depth]
      split <;> rfl
  | transfer sender receiver value depth =>
      rw [takeIn, acceptTransfer, if_neg isActive, Step.depth]
      split <;> rfl

theorem stage_takeIn (step : Step) : (session.takeIn step).stage = .active := by
  rw [takeIn_eq active]
  split
  · exact active
  · rw [stage_including, active]

/-- A call goes on to the merger, any other step leaves it alone. -/
theorem merger_takeIn (step : Step) :
    (session.takeIn step).merger =
      (Merger.run ((Step.frames [step]).map .accept) session.merger).2 := by
  rw [takeIn_eq active]
  cases step with
  | call frame =>
      change _ = (Merger.run [.accept frame] session.merger).2
      rw [Merger.run_singleton, Merger.perform_accept, Step.depth]
      by_cases deep : session.merger.maxDepth ≤ frame.depth
      · rw [if_pos deep, if_neg (UInt64.not_lt.mpr deep)]
      · rw [if_neg deep, if_pos (UInt64.not_le.mp deep)]
        rfl
  | log log => split <;> rfl
  | transfer sender receiver value depth => split <;> rfl

theorem incomplete_takeIn (step : Step) :
    (session.takeIn step).incomplete =
      (session.incomplete || decide (session.merger.maxDepth ≤ step.depth)) := by
  rw [takeIn_eq active]
  split
  next deep => rw [decide_eq_true deep, Bool.or_true]
  next within => rw [decide_eq_false within, Bool.or_false, incomplete_including]

end TakeIn

theorem output_takeIn (session : Session) (step : Step) :
    (session.takeIn step).output = session.output := by
  by_cases active : session.stage = .active
  · rw [takeIn_eq active]
    split
    · rfl
    · exact output_including session step
  · rw [takeIn_of_not_active active]

theorem output_takeAll (steps : List Step) (session : Session) :
    (session.takeAll steps).output = session.output := by
  induction steps generalizing session with
  | nil => rfl
  | cons step steps ih => exact (ih _).trans (output_takeIn session step)

theorem output_finalizeWith (output : OutputSchema) (session : Session) :
    (session.finalizeWith output).2.output = session.output := by
  rw [finalizeWith, finalizeBy]
  split <;> rfl

theorem reachable_finalizeWith {session : Session} {maxDepth : UInt64}
    (reachable : session.merger.Reachable maxDepth) (output : OutputSchema) :
    (session.finalizeWith output).2.merger.Reachable maxDepth := by
  rw [finalizeWith, finalizeBy]
  split
  · exact reachable
  · exact .perform .finish reachable

namespace Follows

variable {session : Session} {start : Merger} {steps : List Step}

/-- A transaction begins without steps. -/
theorem reset (session : Session) : session.reset.Follows session.merger.reset [] where
  stage := rfl
  merger := rfl
  incomplete := rfl

theorem maxDepth_eq (follows : session.Follows start steps) :
    session.merger.maxDepth = start.maxDepth := by
  rw [follows.merger, Merger.maxDepth_run]

theorem takeIn (follows : session.Follows start steps) (step : Step) :
    (session.takeIn step).Follows start (steps ++ [step]) where
  stage := stage_takeIn follows.stage step
  merger := by
    rw [merger_takeIn follows.stage, follows.merger, Step.frames, Step.frames, Step.frames,
      List.filterMap_append, List.map_append, Merger.run_append]
  incomplete := by
    rw [incomplete_takeIn follows.stage, follows.incomplete, follows.maxDepth_eq,
      List.any_append, List.any_cons, List.any_nil, Bool.or_false]

theorem takeAll (follows : session.Follows start steps) (more : List Step) :
    (session.takeAll more).Follows start (steps ++ more) := by
  induction more generalizing session steps with
  | nil => rwa [List.append_nil]
  | cons step more ih =>
      rw [List.append_cons]
      exact ih (follows.takeIn step)

/-- What is written out at the end, in whatever way: the records of all frames accepted,
under the mark of completeness. -/
theorem finalizeBy (follows : session.Follows start steps)
    (write : List CallRecord → Journal → Bool → FinalizedTrace) :
    (session.finalizeBy write).1 =
      .ok (write (Merger.run ((Step.frames steps).map .accept ++ [.finish]) start).1
        session.journal (!session.incomplete)) := by
  rw [Session.finalizeBy, if_neg (not_not_intro follows.stage), follows.merger,
    ← Merger.finish_run_accepts]

theorem finalize (follows : session.Follows start steps) :
    session.finalize.1 =
      .ok (writeTraces session.output
        (Merger.run ((Step.frames steps).map .accept ++ [.finish]) start).1 session.journal
        (!session.incomplete)) :=
  follows.finalizeBy (writeTraces session.output)

end Follows

namespace Reachable

variable {config : TraceConfig} {session : Session}

theorem output_eq (reachable : Reachable config session) : session.output = config.output := by
  induction reachable with
  | new => rfl
  | @operate session operation _ ih =>
      cases operation with
      | reset => exact ih
      | step step => exact (output_takeIn session step).trans ih
      | finalize => exact (output_finalizeWith _ session).trans ih
      | finalizeWith output => exact (output_finalizeWith output session).trans ih

/-- The merger of a session has gone through nothing that a merger alone could not. -/
theorem merger (reachable : Reachable config session) :
    session.merger.Reachable config.maxDepth := by
  induction reachable with
  | new => exact .new
  | @operate session operation _ ih =>
      cases operation with
      | reset => exact .reset ih
      | step step =>
          by_cases active : session.stage = .active
          · rw [Session.operate, merger_takeIn active]
            exact ih.run _
          · rwa [Session.operate, takeIn_of_not_active active]
      | finalize => exact reachable_finalizeWith ih _
      | finalizeWith output => exact reachable_finalizeWith ih output

/-- A transaction begins with a merger that holds nothing. -/
theorem fresh_reset (reachable : Reachable config session) :
    session.merger.reset.Fresh config.maxDepth :=
  .reset reachable.merger

end Reachable

end Session

end CallTrace
