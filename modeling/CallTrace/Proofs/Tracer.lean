/-
# A stored trace answers for the execution

A tracer passes what an engine tells it on to its session, so its sessions are those that
a session can come to by itself. The record that it hands to its store is made of texts;
read back, they are the rows of exactly the steps accepted, and the questions that are
answered from the rows are answered as the steps say.
-/

import CallTrace.Proofs.Query
import CallTrace.Proofs.Rows.Event
import CallTrace.Store.Memory
import CallTrace.Tracer

namespace CallTrace

namespace Tracer

variable {σ : Type}

/-- What an engine tells a tracer. -/
inductive Notice where
  | start
  | step (step : Step)
  | finish (metadata : TxMetadata) (now : String)

/-- Takes in a step, whatever it comes to. -/
def takeIn (tracer : Tracer σ) : Step → Tracer σ
  | .call frame => (tracer.call frame).2
  | .log log => (tracer.log log).2
  | .transfer sender receiver value depth => (tracer.transfer sender receiver value depth).2

/-- Takes in steps one after the other. -/
def takeAll (steps : List Step) (tracer : Tracer σ) : Tracer σ :=
  steps.foldl takeIn tracer

/-- The tracer after it was told something, whatever that comes to. -/
def notice [TraceStore σ] (tracer : Tracer σ) : Notice → Tracer σ
  | .start => tracer.start
  | .step step => tracer.takeIn step
  | .finish metadata now => (tracer.finish metadata now).2

/-- The tracer after it was told one thing after the other. -/
def noticeAll [TraceStore σ] (notices : List Notice) (tracer : Tracer σ) : Tracer σ :=
  notices.foldl notice tracer

@[simp]
theorem session_takeIn (tracer : Tracer σ) (step : Step) :
    (tracer.takeIn step).session = tracer.session.takeIn step := by
  cases step <;> rfl

@[simp]
theorem session_takeAll (steps : List Step) (tracer : Tracer σ) :
    (tracer.takeAll steps).session = tracer.session.takeAll steps := by
  induction steps generalizing tracer with
  | nil => rfl
  | cons step steps ih =>
      have first : tracer.takeAll (step :: steps) = (tracer.takeIn step).takeAll steps := rfl
      rw [first, ih, session_takeIn]
      rfl

section Finish

variable [TraceStore σ] (tracer : Tracer σ) (metadata : TxMetadata) (now : String)

/-- Whatever the store says, the session has finished its transaction. -/
theorem session_finish :
    (tracer.finish metadata now).2.session = tracer.session.finalize.2 := by
  rw [finish]
  generalize tracer.session.finalize = outcome
  obtain ⟨result, session⟩ := outcome
  cases result with
  | error fault => rfl
  | ok trace =>
      dsimp only
      split <;> rfl

/-- A transaction ends with a record if and only if the session has written its traces and
the store has taken the record made of them. -/
theorem finish_eq_ok_iff (record : TraceRecord) :
    (tracer.finish metadata now).1 = .ok record ↔
      ∃ trace, tracer.session.finalize.1 = .ok trace ∧
        TraceRecord.build metadata trace now = record ∧
        (TraceStore.put record tracer.store).1 = .ok () := by
  rw [finish]
  generalize tracer.session.finalize = outcome
  obtain ⟨result, session⟩ := outcome
  cases result with
  | error fault => simp
  | ok trace =>
      simp only [Except.ok.injEq, exists_eq_left']
      split
      next store taken =>
          rw [Except.ok.injEq]
          constructor
          · rintro rfl
            exact ⟨rfl, by rw [taken]⟩
          · rintro ⟨same, -⟩
            exact same
      next cause store refused =>
          constructor
          · intro impossible
            cases impossible
          · rintro ⟨rfl, taken⟩
            rw [refused] at taken
            cases taken

end Finish

/-- A tracer brings its session into no state that it could not come to by itself. -/
theorem reachable_noticeAll [TraceStore σ] {config : TraceConfig} {tracer : Tracer σ}
    (reachable : tracer.session.Reachable config) (notices : List Notice) :
    (tracer.noticeAll notices).session.Reachable config := by
  induction notices generalizing tracer with
  | nil => exact reachable
  | cons notice notices ih =>
      apply ih
      cases notice with
      | start => exact .operate .reset reachable
      | step step =>
          rw [Tracer.notice, session_takeIn]
          exact .operate (.step step) reachable
      | finish metadata now =>
          rw [Tracer.notice, session_finish]
          exact .operate .finalize reachable

/-- A record that a tracer makes of a transaction, whatever it has been through before, and
the steps of the transaction that were accepted. -/
def Recorded (config : TraceConfig) (steps accepted : List Step) (record : TraceRecord) : Prop :=
  ∃ (σ : Type) (_ : TraceStore σ) (store : σ) (history : List Notice) (metadata : TxMetadata)
    (now : String),
    let started := ((new config store).noticeAll history).start
    started.session.accepted steps = accepted ∧
      ((started.takeAll steps).finish metadata now).1 = .ok record

namespace Recorded

variable {config : TraceConfig} {steps accepted : List Step} {record : TraceRecord}

theorem accepted_eq (recorded : Recorded config steps accepted record) :
    accepted = steps.filter (·.depth < config.maxDepth) := by
  obtain ⟨σ, _, store, history, metadata, now, isAccepted, -⟩ := recorded
  have reachable : ((new config store).noticeAll history).session.Reachable config :=
    reachable_noticeAll .new history
  rw [← isAccepted]
  exact reachable.accepted_reset steps

/-- A record is read back as the rows of the steps accepted. -/
theorem ofRecord_eq (recorded : Recorded config steps accepted record)
    (enabled : config.output.functionTrace = true) :
    ParsedTrace.ofRecord record = .ok
      ⟨Nesting.records (Step.frames accepted),
        (Step.gather Step.event? accepted).map
          (EventRecord.row config.output.classificationTags),
        (Step.gather Step.transfer? accepted).map
          (TransferRecord.row config.output.classificationTags)⟩ := by
  obtain ⟨σ, _, store, history, metadata, now, rfl, stored⟩ := recorded
  obtain ⟨trace, finalized, rfl, -⟩ := (finish_eq_ok_iff _ metadata now record).mp stored
  -- Of the past of the tracer it matters only that the session could have come to it.
  generalize isBefore : (new config store).noticeAll history = before at finalized ⊢
  have reachable : before.session.Reachable config := by
    rw [← isBefore]
    exact reachable_noticeAll .new history
  have stamped : (before.session.reset.takeAll steps).Stamped
      (before.session.reset.accepted steps) := reachable.stamped_reset.takeAll rfl steps
  have output : (before.session.reset.takeAll steps).output = config.output :=
    (Session.output_takeAll steps _).trans reachable.output_eq
  have written := Query.written_gather (before.session.reset.accepted steps)
  rw [session_takeAll, Session.finalize, Session.finalizeWith, start, reachable.finalizeBy_reset,
    output] at finalized
  obtain rfl := Except.ok.inj finalized
  simp only [ParsedTrace.ofRecord, ParsedTrace.ofTexts, TraceRecord.build, Session.writeTraces,
    enabled, if_true, String.toList_ofList, stamped.events, stamped.transfers,
    FunctionTrace.read_write, EventTrace.read_write, TransferTrace.read_write _ written, start]
  rfl

end Recorded

/-- With a store that refuses nothing every transaction ends with a record, whatever the
tracer was told before. -/
theorem exists_recorded {σ : Type} [TraceStore σ]
    (takes : ∀ record (store : σ), (TraceStore.put record store).1 = .ok ())
    (config : TraceConfig) (store : σ) (history : List Notice) (steps : List Step)
    (metadata : TxMetadata) (now : String) :
    ∃ record, Recorded config steps (steps.filter (·.depth < config.maxDepth)) record := by
  let before := (new config store).noticeAll history
  have reachable : before.session.Reachable config := reachable_noticeAll .new history
  obtain ⟨trace, finalized⟩ : ∃ trace,
      (before.start.takeAll steps).session.finalize.1 = .ok trace := by
    rw [session_takeAll]
    exact ⟨_, reachable.finalizeBy_reset steps (Session.writeTraces _)⟩
  have stored : ((before.start.takeAll steps).finish metadata now).1 =
      .ok (TraceRecord.build metadata trace now) :=
    (finish_eq_ok_iff _ metadata now _).mpr ⟨trace, finalized, rfl, takes _ _⟩
  exact ⟨_, σ, inferInstance, store, history, metadata, now, reachable.accepted_reset steps,
    stored⟩

/-- The questions that a stored trace answers are about the steps that were accepted. The
record of a transaction is read back; it tells of a call of a function, or of a movement
of a token, if and only if one of the accepted steps is one. A record made with
classification says the same as one made without. -/
theorem stored_trace_answers {config : TraceConfig} {steps accepted : List Step}
    {record : TraceRecord} (recorded : Recorded config steps accepted record)
    (enabled : config.output.functionTrace = true) :
    ∃ trace, ParsedTrace.ofRecord record = .ok trace ∧
      (∀ address selector, trace.callsFunction address selector = true ↔
        ∃ step ∈ accepted, step.Calls address selector) ∧
      (∀ sender receiver token limit, trace.movesToken sender receiver token limit = true ↔
        ∃ step ∈ accepted, step.Moves sender receiver token limit) ∧
      ∀ tagged acceptedToo twin,
        Recorded ⟨config.maxDepth, ⟨true, tagged⟩⟩ steps acceptedToo twin →
        ∃ other, ParsedTrace.ofRecord twin = .ok other ∧
          (∀ address selector,
            other.callsFunction address selector = trace.callsFunction address selector) ∧
          ∀ sender receiver token limit, other.movesToken sender receiver token limit =
            trace.movesToken sender receiver token limit := by
  refine ⟨_, recorded.ofRecord_eq enabled, ?_, ?_, ?_⟩
  · intro address selector
    exact Query.callsFunction_iff accepted address selector
  · intro sender receiver token limit
    exact Query.movesToken_iff _ accepted sender receiver token limit
  · intro tagged acceptedToo twin recordedToo
    have same : acceptedToo = accepted := by
      rw [recorded.accepted_eq, recordedToo.accepted_eq]
    subst same
    refine ⟨_, recordedToo.ofRecord_eq rfl, fun address selector => rfl, ?_⟩
    intro sender receiver token limit
    exact Bool.eq_iff_iff.mpr ((Query.movesToken_iff ..).trans (Query.movesToken_iff ..).symm)

/-- A unique token, the fifth, and native currency move in a transaction in which a call
was refused, and which the tracer was told of after it had been told of steps outside any
transaction and of another transaction. -/
theorem answers_about_fifth_token :
    let contract : Address := ⟨List.replicate 19 0 ++ [1], rfl⟩
    let fifth : Hash := ⟨List.replicate 31 0 ++ [5], rfl⟩
    let log : LogEvent := ⟨contract, [Signature.transfer, .zero 32, .zero 32, fifth], [], 1⟩
    let frame : CallFrame := { CallFrame.bare 0 with input := [1, 2, 3, 4, 5] }
    let deep : CallFrame := { CallFrame.bare 7 with input := [6, 7, 8, 9] }
    let move : Step := .transfer (.zero 20) (.zero 20) (.ofUInt64 3) 0
    let steps : List Step := [.call frame, .call deep, .log log, move]
    ∃ record trace, Recorded ⟨3, {}⟩ steps [.call frame, .log log, move] record ∧
      ParsedTrace.ofRecord record = .ok trace ∧
      trace.callsFunction (.zero 20) ⟨[1, 2, 3, 4], rfl⟩ = true ∧
      trace.callsFunction (.zero 20) ⟨[6, 7, 8, 9], rfl⟩ = false ∧
      trace.movesToken (.zero 20) (.zero 20) contract (.ofUInt64 5) = true ∧
      trace.movesToken (.zero 20) (.zero 20) contract (.ofUInt64 4) = false ∧
      trace.movesToken (.zero 20) (.zero 20) (.zero 20) (.ofUInt64 4) = true := by
  intro contract fifth log frame deep move steps
  have takes : ∀ record (store : MemoryStore), (TraceStore.put record store).1 = .ok () :=
    fun _ _ => rfl
  obtain ⟨record, recorded⟩ : ∃ record,
      Recorded ⟨3, {}⟩ steps [.call frame, .log log, move] record :=
    exists_recorded takes ⟨3, {}⟩ .empty [.step (.call deep), .start, .step move,
      .finish default ""] steps default ""
  obtain ⟨trace, read, calls, moves, -⟩ := stored_trace_answers recorded rfl
  refine ⟨record, trace, recorded, read, ?_, ?_, ?_, ?_, ?_⟩
  · exact (calls _ _).mpr ⟨.call frame, by simp, rfl, by decide⟩
  · rw [Bool.eq_false_iff, ne_eq, calls]
    rintro ⟨step, member, isCall⟩
    rcases List.mem_cons.mp member with rfl | others
    · exact absurd isCall.2 (by decide)
    · rcases List.mem_pair.mp others with rfl | rfl
      · exact isCall
      · exact isCall
  · exact (moves ..).mpr ⟨.log log, by simp, rfl, .inr rfl, rfl, by decide, by decide, by decide⟩
  · rw [Bool.eq_false_iff, ne_eq, moves]
    rintro ⟨step, member, moved⟩
    rcases List.mem_cons.mp member with rfl | others
    · exact moved
    · rcases List.mem_pair.mp others with rfl | rfl
      · obtain ⟨-, -, -, -, -, within⟩ := moved
        exact absurd within (by decide)
      · exact absurd moved.1 (by decide)
  · exact (moves ..).mpr ⟨move, by simp, rfl, rfl, rfl, by decide⟩

end Tracer

end CallTrace
