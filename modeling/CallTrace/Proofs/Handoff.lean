/-
# Every finished transaction is handed over once

An engine may tell a tracer of starts, steps and ends in any order, twice, or not at all. Of
this order it only matters which transaction is open, and which steps it has seen. An end in
an open transaction hands its record to the store, whatever the store says, and closes the
transaction, so that a second end hands over nothing. What the tracer counts is what the
store was handed and has answered.
-/

import CallTrace.Proofs.Replay.Independence
import CallTrace.Proofs.Store.Memory
import Mathlib.Data.Bool.Count

namespace CallTrace

/-- The counts after further records were offered and answered. -/
def TracerStats.offered (records : List TraceRecord) (answers : List Bool) (stats : TracerStats) :
    TracerStats where
  transactions := stats.transactions + records.length
  stored := stats.stored + answers.count true
  storeFailures := stats.storeFailures + answers.count false
  incomplete := stats.incomplete + records.countP (!·.complete)

/-- One record that is offered is counted by what it says of itself and by the answer. -/
theorem TracerStats.offered_singleton (record : TraceRecord) (answer : Bool)
    (stats : TracerStats) :
    stats.offered [record] [answer] = Tracer.count record.complete answer stats := by
  rw [offered, Tracer.count, List.countP_singleton]
  cases record.complete <;> cases answer <;> rfl

theorem TracerStats.offered_append (first second : List TraceRecord)
    (firstAnswers secondAnswers : List Bool) (stats : TracerStats) :
    (stats.offered first firstAnswers).offered second secondAnswers =
      stats.offered (first ++ second) (firstAnswers ++ secondAnswers) := by
  simp only [offered, List.length_append, List.count_append, List.countP_append, Nat.add_assoc]

namespace Tracer

variable {σ : Type} {config : TraceConfig}

/-- The steps of the open transaction after something more was told, if one is open. -/
def follow : Option (List Step) → Notice → Option (List Step)
  | _, .start => some []
  | opened, .step step => opened.map (· ++ [step])
  | _, .finish _ _ => none

/-- The record with which the open transaction ends, if it does. -/
def ending? (config : TraceConfig) : Option (List Step) → Notice → Option TraceRecord
  | some steps, .finish metadata now =>
    some (RecordedTransaction.record config now ⟨metadata, steps⟩)
  | _, _ => none

/-- The records with which transactions end while one thing is told after the other. -/
def endings (config : TraceConfig) : Option (List Step) → List Notice → List TraceRecord
  | _, [] => []
  | opened, notice :: later =>
    (ending? config opened notice).toList ++ endings config (follow opened notice) later

/-- Where a session is, seen from outside: it has taken in the steps of the open transaction
since the transaction began, or takes in nothing because none is open. -/
def StandsAt (config : TraceConfig) (session : Session) : Option (List Step) → Prop
  | none => session.Reachable config ∧ session.stage ≠ .active
  | some steps => ∃ before : Session,
    before.Reachable config ∧ session = before.reset.takeAll steps

theorem standsAt_new (config : TraceConfig) (store : σ) :
    StandsAt config (new config store).session none :=
  ⟨.new, by simp [new, Session.new]⟩

variable [TraceStore σ]

namespace StandsAt

variable {tracer : Tracer σ} {opened : Option (List Step)}

theorem reachable {session : Session} (stands : StandsAt config session opened) :
    session.Reachable config := by
  cases opened with
  | none => exact stands.1
  | some steps =>
      obtain ⟨before, reachable, rfl⟩ := stands
      exact Session.Reachable.takeAll (.operate .reset reachable) steps

theorem active_iff {session : Session} (stands : StandsAt config session opened) :
    session.stage = .active ↔ opened.isSome := by
  cases opened with
  | none => simpa using stands.2
  | some steps =>
      obtain ⟨before, reachable, rfl⟩ := stands
      have follows := (Session.Follows.reset before).takeAll steps
      simpa using follows.stage

/-- Outside a transaction an end is refused, and changes nothing. -/
theorem finish_of_none (stands : StandsAt config tracer.session none) (metadata : TxMetadata)
    (now : String) : tracer.finish metadata now = (.error .sessionClosed, tracer) := by
  have closed : tracer.session.finalize = (.error .sessionClosed, tracer.session) := by
    rw [Session.finalize, Session.finalizeWith, Session.finalizeBy, if_pos stands.2]
  rw [finish, closed]

/-- In a transaction an end offers the store the record of its steps. The answer decides the
reply, and nothing else but what is counted. -/
theorem finish_of_some {steps : List Step} (stands : StandsAt config tracer.session (some steps))
    (metadata : TxMetadata) (now : String) :
    tracer.finish metadata now =
      let record := RecordedTransaction.record config now ⟨metadata, steps⟩
      let answer := TraceStore.put record tracer.store
      (match answer.1 with
        | .ok () => .ok record
        | .error cause => .error (.storeRejected record.key cause),
      ⟨tracer.session.finalize.2, answer.2,
        count record.complete answer.1.isOk tracer.stats⟩) := by
  obtain ⟨before, reachable, played⟩ := stands
  have finalized := RecordedTransaction.finalize_playedIn reachable ⟨metadata, steps⟩
  rw [RecordedTransaction.playedIn, ← played] at finalized
  exact finish_eq (Prod.ext finalized rfl) metadata now

/-- In a transaction an end is answered with a record if and only if it is the one that the
store was handed, and the store has taken it. -/
theorem finish_ok_iff_of_some {steps : List Step}
    (stands : StandsAt config tracer.session (some steps)) (metadata : TxMetadata) (now : String)
    (result : TraceRecord) :
    let record := RecordedTransaction.record config now ⟨metadata, steps⟩
    (tracer.finish metadata now).1 = .ok result ↔
      result = record ∧ (TraceStore.put record tracer.store).1 = .ok () := by
  intro record
  rw [stands.finish_of_some]
  dsimp only
  cases (TraceStore.put record tracer.store).1 with
  | ok done => simp [record, eq_comm]
  | error cause => simp

/-- In a transaction an end that the store refuses is answered with the key and the cause. -/
theorem finish_error_of_some {steps : List Step}
    (stands : StandsAt config tracer.session (some steps)) {metadata : TxMetadata} {now : String}
    {cause : StoreError}
    (refused : (TraceStore.put (RecordedTransaction.record config now ⟨metadata, steps⟩)
      tracer.store).1 = .error cause) :
    (tracer.finish metadata now).1 =
      .error (.storeRejected (String.ofList metadata.hash.toHex) cause) := by
  rw [stands.finish_of_some]
  dsimp only
  rw [refused]
  rfl

/-- One notice: where the session is afterwards is said by where it was. -/
theorem notice (stands : StandsAt config tracer.session opened) (notice : Notice) :
    StandsAt config (tracer.notice notice).session (follow opened notice) := by
  cases notice with
  | start => exact ⟨tracer.session, stands.reachable, rfl⟩
  | step step =>
      rw [Tracer.notice, session_takeIn]
      cases opened with
      | none =>
          rw [Session.takeIn_of_not_active stands.2]
          exact stands
      | some steps =>
          obtain ⟨before, reachable, played⟩ := stands
          refine ⟨before, reachable, ?_⟩
          rw [played, Session.takeAll, Session.takeAll, List.foldl_concat]
  | finish metadata now =>
      rw [Tracer.notice, session_finish]
      refine ⟨.operate .finalize stands.reachable, ?_⟩
      rw [Session.finalize, Session.finalizeWith, Session.finalizeBy]
      split
      next inactive => exact inactive
      next => simp

/-- One notice: the store is offered the record with which the transaction ends, and nothing
if none ends, and the tracer counts that. -/
theorem notice_eq (stands : StandsAt config tracer.session opened) (notice : Notice) :
    let offered := TraceStore.offerAll (ending? config opened notice).toList tracer.store
    (tracer.notice notice).store = offered.2 ∧
      (tracer.notice notice).stats =
        tracer.stats.offered (ending? config opened notice).toList offered.1 := by
  cases notice with
  | start => cases opened <;> exact ⟨rfl, rfl⟩
  | step step => cases opened <;> cases step <;> exact ⟨rfl, rfl⟩
  | finish metadata now =>
      cases opened with
      | none =>
          rw [Tracer.notice, stands.finish_of_none]
          exact ⟨rfl, rfl⟩
      | some steps =>
          rw [Tracer.notice, stands.finish_of_some]
          exact ⟨rfl, (TracerStats.offered_singleton ..).symm⟩

/-- A whole run: the store is offered the records with which transactions end, each once and
in order, and the tracer counts what is offered and answered. -/
theorem noticeAll (stands : StandsAt config tracer.session opened) (notices : List Notice) :
    let run := tracer.noticeAll notices
    let records := endings config opened notices
    let offered := TraceStore.offerAll records tracer.store
    StandsAt config run.session (notices.foldl follow opened) ∧ run.store = offered.2 ∧
      run.stats = tracer.stats.offered records offered.1 := by
  induction notices generalizing tracer opened with
  | nil => exact ⟨stands, rfl, rfl⟩
  | cons notice notices ih =>
      obtain ⟨store, stats⟩ := stands.notice_eq notice
      obtain ⟨last, laterStore, laterStats⟩ := ih (stands.notice notice)
      refine ⟨last, ?_, ?_⟩
      · rw [endings, TraceStore.offerAll_append, ← store]
        exact laterStore
      · rw [endings, TraceStore.offerAll_append, ← TracerStats.offered_append, ← stats, ← store]
        exact laterStats

end StandsAt

/-- Whatever a tracer is told and whatever its store does, every end in an open transaction
hands one record to the store, and nothing else does. The counts of the tracer are those of
the records handed over, of the answers, and of the records that lack something. The next end
is answered with the record that the store is handed if the store takes it, with the key of
the transaction and the cause if the store refuses it, and outside a transaction it is refused
and changes nothing. A store that keeps in memory what it takes holds in the end the last
record taken of every transaction. -/
theorem every_end_is_handed_over_once (config : TraceConfig) (store : σ)
    (notices : List Notice) :
    let tracer := (new config store).noticeAll notices
    let opened := notices.foldl follow none
    let records := endings config none notices
    let offered := TraceStore.offerAll records store
    tracer.store = offered.2 ∧
      ((new config (WatchedStore.watch store)).noticeAll notices).store.offers = records ∧
      tracer.stats =
        { transactions := records.length
          stored := offered.1.count true
          storeFailures := offered.1.count false
          incomplete := records.countP (!·.complete) } ∧
      tracer.stats.transactions = tracer.stats.stored + tracer.stats.storeFailures ∧
      (tracer.session.stage = .active ↔ opened.isSome) ∧
      (∀ metadata now, opened = none →
        tracer.finish metadata now = (.error .sessionClosed, tracer)) ∧
      (∀ metadata now steps, opened = some steps →
        let record := RecordedTransaction.record config now ⟨metadata, steps⟩
        let answer := TraceStore.put record tracer.store
        let ended := tracer.finish metadata now
        ended.2.store = answer.2 ∧ ended.2.session.stage ≠ .active ∧
          (∀ result, ended.1 = .ok result ↔ result = record ∧ answer.1 = .ok ()) ∧
          ∀ cause, answer.1 = .error cause →
            ended.1 = .error (.storeRejected (String.ofList metadata.hash.toHex) cause)) ∧
      ∀ memory : σ → MemoryStore, TraceStore.KeepsIn memory → memory store = .empty →
        (memory tracer.store).records =
          TraceRecord.inOrder (TraceRecord.latest (TraceStore.taken records store)) := by
  intro tracer opened records offered
  obtain ⟨stands, handed, counted⟩ : StandsAt config tracer.session opened ∧
      tracer.store = offered.2 ∧ tracer.stats = TracerStats.offered records offered.1 {} :=
    (standsAt_new config store).noticeAll notices
  have watched : ((new config (WatchedStore.watch store)).noticeAll notices).store.offers =
      records := by
    obtain ⟨-, seen, -⟩ := (standsAt_new config (WatchedStore.watch store)).noticeAll notices
    rw [seen, WatchedStore.offerAll_eq]
    rfl
  have stats : tracer.stats = ⟨records.length, offered.1.count true, offered.1.count false,
      records.countP (!·.complete)⟩ := by
    rw [counted, TracerStats.offered]
    simp only [Nat.zero_add]
  refine ⟨handed, watched, stats, ?_, stands.active_iff, ?_, ?_, ?_⟩
  · rw [stats, ← TraceStore.length_offerAll records store]
    exact (List.count_true_add_count_false offered.1).symm
  · intro metadata now closed
    rw [closed] at stands
    exact stands.finish_of_none metadata now
  · intro metadata now steps inside
    rw [inside] at stands
    have closes := (stands.notice (.finish metadata now)).2
    have ended := stands.finish_of_some metadata now
    exact ⟨congrArg (·.2.store) ended, closes, stands.finish_ok_iff_of_some metadata now,
      fun cause refused => stands.finish_error_of_some refused⟩
  · intro memory keeps new
    rw [handed]
    exact keeps.records_eq new records

/-- The second record of a transaction is refused, and the first one stays. Ends before the
first transaction and behind one that has ended already are not counted, and neither is a step
that comes too late. -/
theorem refused_record_replaces_nothing :
    let config : TraceConfig := ⟨3, {}⟩
    let call : Step := .call (.bare 0)
    let deep : Step := .call (.bare 7)
    let notices : List Notice := [.finish default "0", .start, .step call, .finish default "1",
      .finish default "2", .start, .step call, .step deep, .finish default "3", .step call]
    let tracer := (new config (GuardedStore.new [1])).noticeAll notices
    let former : RecordedTransaction := ⟨default, [call]⟩
    let latter : RecordedTransaction := ⟨default, [call, deep]⟩
    endings config none notices = [former.record config "1", latter.record config "3"] ∧
      tracer.stats = ⟨2, 1, 1, 1⟩ ∧
      tracer.store.store.records = [former.record config "1"] ∧
      tracer.finish default "4" = (.error .sessionClosed, tracer) := by
  intro config call deep notices tracer former latter
  obtain ⟨-, -, stats, -, -, closed, -, held⟩ :=
    every_end_is_handed_over_once config (GuardedStore.new [1]) notices
  have dropped : latter.dropped config = 1 := by decide
  have nothingDropped : former.dropped config = 0 := by decide
  have records : endings config none notices =
      [former.record config "1", latter.record config "3"] := rfl
  have incomplete : (endings config none notices).countP (!·.complete) = 1 := by
    rw [records]
    simp [RecordedTransaction.record, TraceRecord.build, Session.writeTraces, dropped,
      nothingDropped]
  have taken (one other : TraceRecord) :
      TraceStore.taken [one, other] (GuardedStore.new [1]) = [one] := rfl
  have answers (one other : TraceRecord) :
      (TraceStore.offerAll [one, other] (GuardedStore.new [1])).1 = [true, false] := rfl
  refine ⟨records, ?_, ?_, closed default "4" rfl⟩
  · rw [stats, incomplete, records, answers]
    rfl
  · rw [held GuardedStore.store GuardedStore.keepsIn rfl, records, taken]
    exact List.mergeSort_singleton _

end Tracer

end CallTrace
