/-
# What a session replies

Seen from outside, a session is asked for something, replies, and is then asked for the
next thing. This module says what can be asked and what the replies are, so that two
sessions can be compared by what they reply, and the steps of a transaction that were
accepted can be told from those that were refused by the replies alone.
-/

import CallTrace.Proofs.Session

namespace CallTrace.Session

/-- What can be asked of a session. The traces may be written out in any way; under a
schema they are written by `writeTraces`. -/
inductive Request where
  | reset
  | step (step : Step)
  | finalize
  | finalizeBy (write : List CallRecord → Journal → Bool → FinalizedTrace)

/-- What a session replies. -/
inductive Reply where
  | done
  | classified (tag : EventTag)
  | traces (trace : FinalizedTrace)
  | refused (fault : TraceError)
  deriving DecidableEq

/-- The outcome of an operation as a reply, with the session after it. -/
def replyTo {α : Type} (reply : α → Reply) : Outcome α → Reply × Session
  | (.ok result, session) => (reply result, session)
  | (.error fault, session) => (.refused fault, session)

/-- Replies to a request. -/
def answer (session : Session) : Request → Reply × Session
  | .reset => (.done, session.reset)
  | .step (.call frame) => replyTo (fun _ => .done) (session.acceptCall frame)
  | .step (.log log) => replyTo .classified (session.acceptLog log)
  | .step (.transfer sender receiver value depth) =>
    replyTo (fun _ => .done) (session.acceptTransfer sender receiver value depth)
  | .finalize => replyTo .traces session.finalize
  | .finalizeBy write => replyTo .traces (session.finalizeBy write)

/-- The session after requests, whatever it replied to them. -/
def after (requests : List Request) (session : Session) : Session :=
  requests.foldl (fun session request => (session.answer request).2) session

theorem snd_replyTo {α : Type} (reply : α → Reply) (outcome : Outcome α) :
    (replyTo reply outcome).2 = outcome.2 := by
  obtain ⟨result, session⟩ := outcome
  cases result <;> rfl

@[simp]
theorem snd_answer_step (session : Session) (step : Step) :
    (session.answer (.step step)).2 = session.takeIn step := by
  cases step <;> exact snd_replyTo _ _

/-- The reply to a step that is taken in. -/
def welcome : Step → Reply
  | .call _ => .done
  | .log log => .classified log.tag
  | .transfer _ _ _ _ => .done

/-- The one rule of replying to steps. -/
theorem answer_step (session : Session) (step : Step) :
    session.answer (.step step) =
      if session.stage ≠ .active then (.refused .sessionClosed, session)
      else if session.merger.maxDepth ≤ step.depth then
        (.refused (.depthExceeded step.depth session.merger.maxDepth),
          { session with incomplete := true })
      else (welcome step, session.including step) := by
  by_cases inactive : session.stage ≠ .active
  · rw [if_pos inactive]
    cases step with
    | call frame => rw [answer, acceptCall, if_pos inactive, replyTo]
    | log log => rw [answer, acceptLog, if_pos inactive, replyTo]
    | transfer sender receiver value depth =>
        rw [answer, acceptTransfer, if_pos inactive, replyTo]
  · rw [if_neg inactive]
    cases step with
    | call frame =>
        rw [answer, acceptCall, if_neg inactive, Merger.accept, Step.depth]
        by_cases deep : session.merger.maxDepth ≤ frame.depth
        · rw [if_pos deep, if_pos deep]
          rfl
        · rw [if_neg deep, if_neg deep]
          rfl
    | log log =>
        rw [answer, acceptLog, if_neg inactive, Step.depth]
        split <;> rfl
    | transfer sender receiver value depth =>
        rw [answer, acceptTransfer, if_neg inactive, Step.depth]
        split <;> rfl

/-- Whether a step is accepted, as the reply tells. -/
def accepts (session : Session) (step : Step) : Bool :=
  match (session.answer (.step step)).1 with
  | .refused _ => false
  | _ => true

/-- Those of the steps that are accepted when they are taken in one after the other. -/
def accepted : List Step → Session → List Step
  | [], _ => []
  | step :: steps, session =>
    if session.accepts step then step :: accepted steps (session.takeIn step)
    else accepted steps (session.takeIn step)

/-- Within a transaction a step is accepted if and only if it is not too deep. -/
theorem accepts_eq {session : Session} (active : session.stage = .active) (step : Step) :
    session.accepts step = decide (step.depth < session.merger.maxDepth) := by
  rw [accepts, answer_step, if_neg (not_not_intro active)]
  by_cases within : step.depth < session.merger.maxDepth
  · rw [if_neg (UInt64.not_le.mpr within), decide_eq_true within]
    cases step <;> rfl
  · rw [if_pos (UInt64.not_lt.mp within), decide_eq_false within]

/-- What is accepted is decided by the depths alone. -/
theorem accepted_eq_filter {session : Session} (active : session.stage = .active)
    (steps : List Step) :
    session.accepted steps = steps.filter (·.depth < session.merger.maxDepth) := by
  induction steps generalizing session with
  | nil => rfl
  | cons step steps ih =>
      have later : (session.takeIn step).accepted steps =
          steps.filter (·.depth < session.merger.maxDepth) := by
        rw [ih (stage_takeIn active step), merger_takeIn active, Merger.maxDepth_run]
      rw [accepted, accepts_eq active, later, List.filter_cons]

/-- How traces are written out makes no difference to the session afterwards. -/
theorem snd_finalizeBy (write : List CallRecord → Journal → Bool → FinalizedTrace)
    (session : Session) : (session.finalizeBy write).2 = session.finalize.2 := by
  rw [finalize, finalizeWith, finalizeBy, finalizeBy]
  split <;> rfl

theorem Reachable.answer {config : TraceConfig} {session : Session}
    (reachable : Reachable config session) (request : Request) :
    Reachable config (session.answer request).2 := by
  cases request with
  | reset => exact .operate .reset reachable
  | step step =>
      rw [snd_answer_step]
      exact .operate (.step step) reachable
  | finalize =>
      rw [Session.answer, snd_replyTo]
      exact .operate .finalize reachable
  | finalizeBy write =>
      rw [Session.answer, snd_replyTo, snd_finalizeBy]
      exact .operate .finalize reachable

theorem Reachable.after {config : TraceConfig} {session : Session}
    (reachable : Reachable config session) (requests : List Request) :
    Reachable config (session.after requests) := by
  induction requests generalizing session with
  | nil => exact reachable
  | cons request requests ih => exact ih (reachable.answer request)

end CallTrace.Session
