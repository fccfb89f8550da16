/-
# Refusals leave no trace but one mark

A session refuses what comes outside a transaction and what lies too deep. The first
kind of refusal leaves the session as it was, the second marks the trace as incomplete.
The mark is written out at the end and nothing else is decided by it: two sessions that
differ in it alone reply the same until one of them says that its trace is incomplete. So
the refused requests can be struck from a run, and nothing else is lost than the mark.
-/

import CallTrace.Proofs.Isolation

namespace CallTrace.Session

/-- A way of writing traces out: one text of the calls, one of the events and one of the
transfers. -/
structure Renderer where
  calls : List CallRecord → String
  events : List EventRecord → String
  transfers : List TransferRecord → String

namespace Renderer

/-- What a renderer makes of a transaction. The mark of completeness is no part of the
texts and is passed on as it is. -/
def write (renderer : Renderer) (calls : List CallRecord) (journal : Journal) (complete : Bool) :
    FinalizedTrace where
  functionTrace := renderer.calls calls
  eventTrace := renderer.events journal.events.toList
  transferTrace := renderer.transfers journal.transfers.toList
  complete := complete

/-- The renderer that writes traces under a schema. -/
def ofSchema (output : OutputSchema) : Renderer where
  calls calls := if output.functionTrace then String.ofList (FunctionTrace.write calls) else ""
  events events := String.ofList (EventTrace.write output.classificationTags events)
  transfers transfers := String.ofList (TransferTrace.write output.classificationTags transfers)

theorem write_ofSchema (output : OutputSchema) : (ofSchema output).write = writeTraces output :=
  rfl

end Renderer

/-- A request is rendered if it does not ask for traces to be written in another way than
renderers do. -/
def Request.Rendered : Request → Prop
  | .finalizeBy write => ∃ renderer : Renderer, write = renderer.write
  | _ => True

/-- How a session with the given bound on depth can refuse a request, and the session
afterwards. -/
inductive Refusal (bound : UInt64) (session : Session) : Request → TraceError → Session → Prop
  | closed {request : Request} (notReset : request ≠ .reset) (inactive : session.stage ≠ .active) :
      Refusal bound session request .sessionClosed session
  | tooDeep {step : Step} (active : session.stage = .active) (deep : bound ≤ step.depth) :
      Refusal bound session (.step step) (.depthExceeded step.depth bound)
        { session with incomplete := true }

namespace Reply

def isRefusal : Reply → Bool
  | .refused _ => true
  | _ => false

/-- Whether a reply refuses a step for its depth. -/
def isTooDeep : Reply → Bool
  | .refused (.depthExceeded ..) => true
  | _ => false

theorem isTooDeep_iff {reply : Reply} :
    reply.isTooDeep = true ↔ ∃ depth bound, reply = .refused (.depthExceeded depth bound) := by
  constructor
  · intro tooDeep
    match reply, tooDeep with
    | .refused (.depthExceeded depth bound), _ => exact ⟨depth, bound, rfl⟩
  · rintro ⟨depth, bound, rfl⟩
    rfl

/-- A reply without the mark of completeness. -/
def unmarked : Reply → Reply
  | .traces trace => .traces { trace with complete := true }
  | reply => reply

end Reply

/-- A view without the mark of completeness. -/
def View.unmarked (view : View) : View :=
  { view with complete := true }

/-- A reply and a view without the mark of completeness. -/
def unmark (entry : Reply × View) : Reply × View :=
  (entry.1.unmarked, entry.2.unmarked)

/-- A session with the mark of incompleteness set or taken away. -/
def marked (incomplete : Bool) (session : Session) : Session :=
  { session with incomplete := incomplete }

/-- Those of the requests that are not refused when they are made one after the other. -/
def granted : List Request → Session → List Request
  | [], _ => []
  | request :: requests, session =>
    if (session.answer request).1.isRefusal then granted requests (session.answer request).2
    else request :: granted requests (session.answer request).2

section Answer

variable {session : Session}

/-- Outside a transaction every request but a reset is refused. -/
theorem answer_of_not_active (inactive : session.stage ≠ .active) {request : Request}
    (notReset : request ≠ .reset) :
    session.answer request = (.refused .sessionClosed, session) := by
  cases request with
  | reset => exact absurd rfl notReset
  | step step => rw [answer_step, if_pos inactive]
  | finalize => rw [answer, finalize, finalizeWith, finalizeBy, if_pos inactive, replyTo]
  | finalizeBy write => rw [answer, finalizeBy, if_pos inactive, replyTo]

/-- Within a transaction the traces can be written out. -/
theorem answer_finalizeBy (active : session.stage = .active)
    (write : List CallRecord → Journal → Bool → FinalizedTrace) :
    session.answer (.finalizeBy write) =
      (.traces (write session.merger.finish.1.toList session.journal !session.incomplete),
        { session with stage := .finalized, merger := session.merger.finish.2 }) := by
  rw [answer, finalizeBy, if_neg (not_not_intro active), replyTo]

theorem answer_finalize (session : Session) :
    session.answer .finalize =
      session.answer (.finalizeBy (Renderer.ofSchema session.output).write) := by
  rw [answer, answer, Renderer.write_ofSchema, finalize, finalizeWith]

/-- A session refuses what `Refusal` says and nothing else. -/
theorem answer_eq_refused_iff {request : Request} {fault : TraceError} {next : Session} :
    session.answer request = (.refused fault, next) ↔
      session.Refusal session.merger.maxDepth request fault next := by
  constructor
  · intro refused
    by_cases active : session.stage = .active
    · cases request with
      | reset => cases refused
      | step step =>
          rw [answer_step, if_neg (not_not_intro active)] at refused
          by_cases deep : session.merger.maxDepth ≤ step.depth
          · rw [if_pos deep] at refused
            cases refused
            exact .tooDeep active deep
          · rw [if_neg deep] at refused
            cases step <;> cases refused
      | finalize =>
          rw [answer_finalize, answer_finalizeBy active] at refused
          cases refused
      | finalizeBy write =>
          rw [answer_finalizeBy active] at refused
          cases refused
    · have notReset : request ≠ .reset := by
        rintro rfl
        cases refused
      rw [answer_of_not_active active notReset] at refused
      cases refused
      exact .closed notReset active
  · intro refusal
    cases refusal with
    | closed notReset inactive => exact answer_of_not_active inactive notReset
    | tooDeep active deep => rw [answer_step, if_neg (not_not_intro active), if_pos deep]

/-- A refusal leaves no more than a mark on the session. -/
theorem exists_marked_of_isRefusal {request : Request}
    (refused : (session.answer request).1.isRefusal = true) :
    ∃ mark, (session.answer request).2 = session.marked mark := by
  cases answered : session.answer request with
  | mk reply next =>
      rw [answered] at refused
      cases reply with
      | refused fault =>
          cases answer_eq_refused_iff.mp answered with
          | closed notReset inactive => exact ⟨session.incomplete, rfl⟩
          | tooDeep active deep => exact ⟨true, rfl⟩
      | done => cases refused
      | classified tag => cases refused
      | traces trace => cases refused

theorem including_marked (mark : Bool) (step : Step) :
    (session.marked mark).including step = (session.including step).marked mark := by
  cases step <;> rfl

/-- What is written out differs in the mark at most. -/
theorem answer_marked_finalizeBy (renderer : Renderer) (mark : Bool) :
    ((session.marked mark).answer (.finalizeBy renderer.write)).1.unmarked =
        (session.answer (.finalizeBy renderer.write)).1.unmarked ∧
      ∃ later, ((session.marked mark).answer (.finalizeBy renderer.write)).2 =
        (session.answer (.finalizeBy renderer.write)).2.marked later := by
  by_cases active : session.stage = .active
  · have stillActive : (session.marked mark).stage = .active := active
    rw [answer_finalizeBy active, answer_finalizeBy stillActive]
    exact ⟨rfl, mark, rfl⟩
  · have stillInactive : (session.marked mark).stage ≠ .active := active
    have notReset : Request.finalizeBy renderer.write ≠ .reset := nofun
    rw [answer_of_not_active active notReset, answer_of_not_active stillInactive notReset]
    exact ⟨rfl, mark, rfl⟩

/-- A mark makes no difference but to itself: whatever a session is asked, the reply and
the session afterwards are the same with it and without. -/
theorem answer_marked {request : Request} (rendered : request.Rendered) (mark : Bool)
    (session : Session) :
    ((session.marked mark).answer request).1.unmarked = (session.answer request).1.unmarked ∧
      ∃ later, ((session.marked mark).answer request).2 =
        (session.answer request).2.marked later := by
  cases request with
  | reset => exact ⟨rfl, false, rfl⟩
  | step step =>
      have stage : (session.marked mark).stage = session.stage := rfl
      have bound : (session.marked mark).merger.maxDepth = session.merger.maxDepth := rfl
      rw [answer_step, answer_step, stage, bound]
      split
      · exact ⟨rfl, mark, rfl⟩
      · split
        · exact ⟨rfl, true, rfl⟩
        · exact ⟨rfl, mark, including_marked mark step⟩
  | finalize => exact answer_marked_finalizeBy (.ofSchema session.output) mark
  | finalizeBy write =>
      obtain ⟨renderer, rfl⟩ := rendered
      exact answer_marked_finalizeBy renderer mark

end Answer

section Runs

theorem view_marked (mark : Bool) (session : Session) :
    (session.marked mark).view.unmarked = session.view.unmarked :=
  rfl

/-- A run from which the refused requests are struck: the replies that are left, and what
the session shows after each of them, are those of the whole run up to the mark. -/
theorem replies_granted {requests : List Request}
    (rendered : ∀ request ∈ requests, request.Rendered) (session : Session) (mark : Bool) :
    (replies (granted requests session) (session.marked mark)).map unmark =
        ((replies requests session).filter fun entry => !entry.1.isRefusal).map unmark ∧
      ∃ later, (session.marked mark).after (granted requests session) =
        (session.after requests).marked later := by
  -- Struck requests may have left their mark on one of the runs, so the induction is over
  -- sessions that differ in it.
  induction requests generalizing session mark with
  | nil => exact ⟨rfl, mark, rfl⟩
  | cons request requests ih =>
      have others : ∀ other ∈ requests, other.Rendered := fun other member =>
        rendered other (List.mem_cons_of_mem request member)
      rw [granted, replies]
      by_cases refused : (session.answer request).1.isRefusal = true
      · obtain ⟨left, next⟩ := exists_marked_of_isRefusal refused
        have same : session.marked mark = (session.answer request).2.marked mark := by
          rw [next]
          rfl
        rw [if_pos refused, List.filter_cons_of_neg (by simpa using refused), same]
        exact ih others _ mark
      · obtain ⟨reply, later, next⟩ :=
          answer_marked (rendered request List.mem_cons_self) mark session
        obtain ⟨rest, last⟩ := ih others (session.answer request).2 later
        rw [if_neg refused, List.filter_cons_of_pos (by simpa using refused), replies,
          List.map_cons, List.map_cons, next, rest]
        refine ⟨?_, ?_⟩
        · rw [unmark, unmark, reply, view_marked]
        · obtain ⟨final, same⟩ := last
          refine ⟨final, ?_⟩
          rw [after, List.foldl_cons, next]
          exact same

/-- Only a reset makes a session active. -/
theorem active_of_answer {session : Session} {request : Request} (notReset : request ≠ .reset)
    (active : (session.answer request).2.stage = .active) : session.stage = .active := by
  by_contra inactive
  rw [answer_of_not_active inactive notReset] at active
  exact inactive active

/-- A transaction has begun with the last reset. -/
theorem exists_last_reset {config : TraceConfig} {history : List Request}
    (active : ((new config).after history).stage = .active) :
    ∃ before during, history = before ++ .reset :: during ∧ .reset ∉ during := by
  induction history using List.reverseRecOn with
  | nil => cases active
  | append_singleton history request ih =>
      by_cases isReset : request = .reset
      · subst isReset
        exact ⟨history, [], rfl, List.not_mem_nil⟩
      · rw [after, List.foldl_concat] at active
        obtain ⟨before, during, rfl, none⟩ := ih (active_of_answer isReset active)
        refine ⟨before, during ++ [request], List.append_assoc .., ?_⟩
        rw [List.mem_append, List.mem_singleton]
        rintro (among | isLast)
        · exact none among
        · exact isReset isLast.symm

/-- A request sets the mark if and only if it is a step that is refused for its depth. -/
theorem incomplete_answer {session : Session} {request : Request} (notReset : request ≠ .reset) :
    (session.answer request).2.incomplete =
      (session.incomplete || (session.answer request).1.isTooDeep) := by
  by_cases active : session.stage = .active
  · cases request with
    | reset => exact absurd rfl notReset
    | step step =>
        rw [answer_step, if_neg (not_not_intro active)]
        split
        · exact (Bool.or_true _).symm
        · rw [incomplete_including]
          cases step <;> exact (Bool.or_false _).symm
    | finalize =>
        rw [answer_finalize, answer_finalizeBy active]
        exact (Bool.or_false _).symm
    | finalizeBy write =>
        rw [answer_finalizeBy active]
        exact (Bool.or_false _).symm
  · rw [answer_of_not_active active notReset]
    exact (Bool.or_false _).symm

/-- The mark after a run tells whether any of its replies refused a step for its depth. -/
theorem incomplete_after {requests : List Request} (noReset : .reset ∉ requests)
    (session : Session) :
    (session.after requests).incomplete =
      (session.incomplete || (replies requests session).any (·.1.isTooDeep)) := by
  induction requests generalizing session with
  | nil => exact (Bool.or_false _).symm
  | cons request requests ih =>
      rw [List.mem_cons, not_or] at noReset
      have first : session.after (request :: requests) =
          (session.answer request).2.after requests := rfl
      rw [first, ih noReset.2, incomplete_answer (Ne.symm noReset.1), replies, List.any_cons,
        Bool.or_assoc]

/-- Traces are written within a transaction only, and say whether it is marked. -/
theorem complete_of_answer {session : Session} {request : Request} {trace : FinalizedTrace}
    (rendered : request.Rendered) (written : (session.answer request).1 = .traces trace) :
    session.stage = .active ∧ trace.complete = !session.incomplete := by
  have ofRenderer : ∀ renderer : Renderer,
      (session.answer (.finalizeBy renderer.write)).1 = .traces trace →
        session.stage = .active ∧ trace.complete = !session.incomplete := by
    intro renderer written
    by_cases active : session.stage = .active
    · rw [answer_finalizeBy active] at written
      obtain rfl := Reply.traces.inj written
      exact ⟨active, rfl⟩
    · have notReset : Request.finalizeBy renderer.write ≠ .reset := nofun
      rw [answer_of_not_active active notReset] at written
      cases written
  cases request with
  | reset => cases written
  | step step =>
      rw [answer_step] at written
      split at written
      · cases written
      · split at written
        · cases written
        · cases step <;> cases written
  | finalize => exact ofRenderer (.ofSchema session.output) written
  | finalizeBy write =>
      obtain ⟨renderer, rfl⟩ := rendered
      exact ofRenderer renderer written

end Runs

/-- A refused request leaves no trace but the mark of incompleteness. A session refuses
whatever comes outside a transaction, and is then as it was, and whatever lies too deep,
and is then marked. If the refused requests are struck from a run, all other requests get
the same replies and leave the session with the same to show, up to the mark; and the
traces of a transaction are marked if and only if a step since its beginning was refused
for its depth. -/
theorem refusals_leave_only_a_mark (config : TraceConfig) (history requests : List Request)
    (rendered : ∀ request ∈ requests, request.Rendered) :
    let session := (new config).after history
    (∀ request fault next, session.answer request = (.refused fault, next) ↔
        session.Refusal config.maxDepth request fault next) ∧
      (replies (granted requests session) session).map unmark =
        ((replies requests session).filter fun entry => !entry.1.isRefusal).map unmark ∧
      (session.after (granted requests session)).marked false =
        (session.after requests).marked false ∧
      ∀ request trace, request.Rendered → (session.answer request).1 = .traces trace →
        ∃ before during, history = before ++ .reset :: during ∧ .reset ∉ during ∧
          (trace.complete = false ↔
            ∃ entry ∈ replies during ((new config).after before).reset, ∃ depth bound,
              entry.1 = .refused (.depthExceeded depth bound)) := by
  intro session
  have reachable : Reachable config session := Reachable.new.after history
  refine ⟨?_, ?_, ?_, ?_⟩
  · intro request fault next
    rw [← reachable.merger.maxDepth_eq]
    exact answer_eq_refused_iff
  · exact (replies_granted rendered session session.incomplete).1
  · obtain ⟨later, same⟩ := (replies_granted rendered session session.incomplete).2
    have unchanged : session.marked session.incomplete = session := rfl
    rw [unchanged] at same
    rw [same]
    rfl
  · intro request trace isRendered written
    obtain ⟨active, complete⟩ := complete_of_answer isRendered written
    obtain ⟨before, during, split, noReset⟩ := exists_last_reset active
    refine ⟨before, during, split, noReset, ?_⟩
    have marked : session.incomplete =
        (replies during ((new config).after before).reset).any (·.1.isTooDeep) := by
      have begun : session = ((new config).after before).reset.after during := by
        rw [show session = (new config).after history from rfl, split, after, List.foldl_append]
        rfl
      rw [begun, incomplete_after noReset]
      exact Bool.false_or _
    rw [complete, marked, Bool.not_eq_false', List.any_eq_true]
    simp only [Reply.isTooDeep_iff]

/-- A session that was used before refuses a call in its transaction, which is too deep,
and a movement after it. Without the two the same call and the same traces are left. -/
theorem traces_beside_refused_call :
    let plain : Renderer := ⟨fun calls => String.ofList (FunctionTrace.write calls), fun _ => "",
      fun transfers => String.ofList (TransferTrace.write false transfers)⟩
    let move : Step := .transfer (.zero 20) (.zero 20) .zero 0
    let history : List Request := [.step move, .reset, .step (.call (.bare 9)), .finalize]
    let front : List Request := [.reset, .step (.call (.bare 0)), .step (.call (.bare 5))]
    let requests := front ++ [.finalizeBy plain.write, .step move]
    let session := (new ⟨3, {}⟩).after history
    granted requests session =
        [.reset, .step (.call (.bare 0)), .finalizeBy plain.write] ∧
      (replies (granted requests session) session).map unmark =
        ((replies requests session).filter fun entry => !entry.1.isRefusal).map unmark ∧
      ((replies requests session).map fun entry => entry.1.isRefusal) =
        [false, false, true, false, true] := by
  intro plain move history front requests session
  have rendered : ∀ request ∈ requests, request.Rendered := by
    simp only [requests, front, List.cons_append, List.nil_append, List.forall_mem_cons]
    exact ⟨trivial, trivial, trivial, ⟨plain, rfl⟩, trivial, List.forall_mem_nil _⟩
  obtain ⟨-, struck, -, -⟩ := refusals_leave_only_a_mark ⟨3, {}⟩ history requests rendered
  exact ⟨rfl, struck, rfl⟩

end CallTrace.Session
