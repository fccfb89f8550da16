/-
# The accounts of a replay

A replay counts in four places: every transaction has an outcome, the replay has a tally
of meanings, the tracer has counts of its own, and the session keeps what it was told.
The counts are made on different branches, for each kind of step, for each meaning, for a
refusal and for a store that fails. Since each of them is a count over the recorded steps
or over the answers of the store, they balance.
-/

import CallTrace.Proofs.Replay.Transaction
import Mathlib.Algebra.BigOperators.Group.List.Basic
import Mathlib.Algebra.Ring.Nat

namespace CallTrace

/-- Offers records to a store one after the other. Tells for each whether it was taken,
and the store after the last. -/
def TraceStore.offerAll {σ : Type} [TraceStore σ] : List TraceRecord → σ → List Bool × σ
  | [], store => ([], store)
  | record :: records, store =>
    let answer := TraceStore.put record store
    let rest := offerAll records answer.2
    (answer.1.isOk :: rest.1, rest.2)

namespace Tally

/-- The number of occurrences that are logs. -/
def logged (tally : Tally) : Nat :=
  tally.erc20Transfers + tally.erc721Transfers + tally.approvals + tally.unclassified

/-- The number of occurrences that are transfers. -/
def moved (tally : Tally) : Nat :=
  tally.erc20Transfers + tally.erc721Transfers + tally.nativeTransfers

theorem nativeTransfers_add (first second : Tally) :
    (first + second).nativeTransfers = first.nativeTransfers + second.nativeTransfers :=
  rfl

theorem logged_add (first second : Tally) :
    (first + second).logged = first.logged + second.logged := by
  change (_ + _) + (_ + _) + (_ + _) + (_ + _) = _
  rw [logged, logged]
  omega

theorem moved_add (first second : Tally) :
    (first + second).moved = first.moved + second.moved := by
  change (_ + _) + (_ + _) + (_ + _) = _
  rw [moved, moved]
  omega

end Tally

namespace Step

theorem tags_append (first second : List Step) :
    tags (first ++ second) = tags first ++ tags second :=
  List.filterMap_append

theorem tags_concat (steps : List Step) (step : Step) :
    tags (steps ++ [step]) = tags steps ++ step.tag?.toList := by
  rw [tags_append]
  cases step <;> rfl

theorem logs_concat (steps : List Step) (step : Step) :
    logs (steps ++ [step]) = logs steps ++ step.log?.toList := by
  rw [logs, List.filterMap_append, logs]
  cases step <;> rfl

/-- The counts of accepted steps agree: every step is a call, a log or a movement of native
currency, every log is counted by what it means, and so is every transfer. -/
structure Balanced (steps : List Step) : Prop where
  kinds :
    (frames steps).length + (logs steps).length + (Tally.ofTags (tags steps)).nativeTransfers =
      steps.length
  logged : (Tally.ofTags (tags steps)).logged = (logs steps).length
  moved : (Tally.ofTags (tags steps)).moved = (gather transfer? steps).length

/-- What one log is counted as. -/
theorem tally_log (log : LogEvent) :
    (Tally.ofTags [log.tag]).nativeTransfers = 0 ∧ (Tally.ofTags [log.tag]).logged = 1 ∧
      (Tally.ofTags [log.tag]).moved = if log.announces then 1 else 0 := by
  have notNative := log.tag_ne_native
  rw [LogEvent.announces]
  cases tag : log.tag with
  | native => exact absurd tag notNative
  | erc20Transfer => decide
  | erc20Approval => decide
  | erc721Transfer => decide
  | erc721Approval => decide
  | erc721ApprovalForAll => decide
  | unclassified => decide

/-- What one step is counted as. -/
theorem tally_step (earlier : List Step) (step : Step) :
    step.frame?.toList.length + step.log?.toList.length +
          (Tally.ofTags step.tag?.toList).nativeTransfers = 1 ∧
      (Tally.ofTags step.tag?.toList).logged = step.log?.toList.length ∧
      (Tally.ofTags step.tag?.toList).moved = (step.transfer? earlier).toList.length := by
  cases step with
  | call frame => exact ⟨rfl, rfl, rfl⟩
  | log log =>
      obtain ⟨native, logged, moved⟩ := tally_log log
      refine ⟨?_, logged, moved.trans ?_⟩
      · exact congrArg (1 + ·) native
      · rw [transfer?]
        split <;> rfl
  | transfer sender receiver value depth => exact ⟨rfl, rfl, rfl⟩

theorem Balanced.concat {steps : List Step} (balanced : Balanced steps) (step : Step) :
    Balanced (steps ++ [step]) := by
  obtain ⟨kinds, logged, moved⟩ := tally_step steps step
  constructor
  · have before := balanced.kinds
    rw [frames_concat, logs_concat, tags_concat, Tally.ofTags_append, Tally.nativeTransfers_add]
    simp only [List.length_append, List.length_singleton]
    omega
  · rw [logs_concat, tags_concat, Tally.ofTags_append, Tally.logged_add, List.length_append,
      balanced.logged, logged]
  · rw [gather_concat, tags_concat, Tally.ofTags_append, Tally.moved_add, List.length_append,
      balanced.moved, moved]

theorem balanced (steps : List Step) : Balanced steps := by
  induction steps using List.reverseRecOn with
  | nil => exact ⟨rfl, rfl, rfl⟩
  | append_singleton steps step ih => exact ih.concat step

end Step

namespace RecordedTransaction

/-- Every step of a transaction is accepted or dropped. -/
theorem length_accepted_add_dropped (config : TraceConfig) (transaction : RecordedTransaction) :
    (transaction.accepted config).length + transaction.dropped config =
      transaction.steps.length := by
  have others : transaction.dropped config =
      transaction.steps.countP fun step => ¬decide (step.depth < config.maxDepth) = true := by
    apply List.countP_congr
    intro step _
    simp
  rw [others, accepted, ← List.countP_eq_length_filter]
  exact (List.length_eq_countP_add_countP _).symm

/-- What is counted by meaning over all transactions is the sum over them. -/
theorem sum_tally (config : TraceConfig) {count : Tally → Nat} (zero : count {} = 0)
    (add : ∀ first second, count (first + second) = count first + count second)
    (transactions : List RecordedTransaction) :
    count (.ofTags (Step.tags (transactions.flatMap (·.accepted config)))) =
      (transactions.map fun transaction =>
        count (.ofTags (Step.tags (transaction.accepted config)))).sum := by
  induction transactions with
  | nil => exact zero
  | cons transaction transactions ih =>
      rw [List.flatMap_cons, Step.tags_append, Tally.ofTags_append, add, ih, List.map_cons,
        List.sum_cons]

/-- Over all transactions, every step is counted once. -/
theorem sum_kinds (config : TraceConfig) (transactions : List RecordedTransaction) :
    (transactions.map fun transaction => (Step.frames (transaction.accepted config)).length +
          (Step.logs (transaction.accepted config)).length + transaction.dropped config).sum +
        (Tally.ofTags (Step.tags (transactions.flatMap (·.accepted config)))).nativeTransfers =
      (transactions.map (·.steps.length)).sum := by
  rw [sum_tally config rfl Tally.nativeTransfers_add, ← List.sum_map_add]
  congr 1
  refine List.map_congr_left fun transaction _ => ?_
  have kinds := (Step.balanced (transaction.accepted config)).kinds
  have all := transaction.length_accepted_add_dropped config
  omega

/-- Over all transactions, every log is counted once by what it means. -/
theorem sum_logged (config : TraceConfig) (transactions : List RecordedTransaction) :
    (Tally.ofTags (Step.tags (transactions.flatMap (·.accepted config)))).logged =
      (transactions.map fun transaction =>
        (Step.logs (transaction.accepted config)).length).sum := by
  rw [sum_tally config rfl Tally.logged_add]
  congr 1
  exact List.map_congr_left fun transaction _ =>
    (Step.balanced (transaction.accepted config)).logged

/-- Over all transactions, every transfer is counted once by what it means. -/
theorem sum_moved (config : TraceConfig) (transactions : List RecordedTransaction) :
    (Tally.ofTags (Step.tags (transactions.flatMap (·.accepted config)))).moved =
      (transactions.map fun transaction =>
        (Step.gather Step.transfer? (transaction.accepted config)).length).sum := by
  rw [sum_tally config rfl Tally.moved_add]
  congr 1
  exact List.map_congr_left fun transaction _ =>
    (Step.balanced (transaction.accepted config)).moved

end RecordedTransaction

/-- The counts of a tracer after further transactions with the given outcomes. -/
def TracerStats.including (outcomes : List TxOutcome) (stats : TracerStats) : TracerStats where
  transactions := stats.transactions + outcomes.length
  stored := stats.stored + outcomes.countP (·.stored)
  storeFailures := stats.storeFailures + outcomes.countP (!·.stored)
  incomplete := stats.incomplete + outcomes.countP (!·.complete)

theorem TracerStats.including_cons (outcome : TxOutcome) (outcomes : List TxOutcome)
    (stats : TracerStats) :
    (Tracer.count outcome.complete outcome.stored stats).including outcomes =
      stats.including (outcome :: outcomes) := by
  simp only [including, Tracer.count, List.length_cons, List.countP_cons]
  cases outcome.complete <;> cases outcome.stored <;> simp <;> omega

namespace Replay

variable {σ : Type} [TraceStore σ] {config : TraceConfig}

/-- The outcomes are those of the transactions, in order, whatever a store made of their
records. -/
def Outcomes (config : TraceConfig) (transactions : List RecordedTransaction)
    (outcomes : List TxOutcome) : Prop :=
  List.Forall₂ (fun transaction outcome => outcome = transaction.outcome config outcome.stored)
    transactions outcomes

namespace Outcomes

variable {transactions : List RecordedTransaction} {outcomes : List TxOutcome}

/-- What an outcome does not owe to the store can be read off its transaction. -/
theorem map_eq (those : Outcomes config transactions outcomes) {α : Type} {field : TxOutcome → α}
    {value : RecordedTransaction → α}
    (same : ∀ transaction stored, field (transaction.outcome config stored) = value transaction) :
    outcomes.map field = transactions.map value := by
  induction those with
  | nil => rfl
  | cons first _ ih => rw [List.map_cons, List.map_cons, ih, first, same]

/-- What holds of all outcomes that there can be holds of these. -/
theorem forall_mem (those : Outcomes config transactions outcomes) {holds : TxOutcome → Prop}
    (each : ∀ (transaction : RecordedTransaction) stored,
      holds (transaction.outcome config stored)) :
    ∀ outcome ∈ outcomes, holds outcome := by
  induction those with
  | nil => exact List.forall_mem_nil _
  | cons first _ ih =>
      rw [List.forall_mem_cons, first]
      exact ⟨each _ _, ih⟩

end Outcomes

/-- The records that transactions end with, each at the time that the clock shows then. -/
def records (config : TraceConfig) (clock : Clock) (transactions : List RecordedTransaction) :
    List TraceRecord :=
  transactions.mapIdx fun place transaction => transaction.record config (clock place)

theorem records_cons (clock : Clock) (transaction : RecordedTransaction)
    (transactions : List RecordedTransaction) :
    records config clock (transaction :: transactions) =
      transaction.record config (clock 0) :: records config (clock.after 1) transactions :=
  List.mapIdx_cons

/-- What a replay of transactions comes to. Every transaction has its outcome, in order,
and the store is offered their records and nothing else. -/
structure Replayed (config : TraceConfig) (clock : Clock)
    (transactions : List RecordedTransaction) (tracer : Tracer σ) (tally : Tally)
    (result : ReplaySummary × Tracer σ) : Prop where
  outcomes : Outcomes config transactions result.1.outcomes
  tally : result.1.tally =
    tally + .ofTags (Step.tags (transactions.flatMap (·.accepted config)))
  store : TraceStore.offerAll (records config clock transactions) tracer.store =
    (result.1.outcomes.map (·.stored), result.2.store)
  stats : result.2.stats = tracer.stats.including result.1.outcomes
  reachable : result.2.session.Reachable config

/-- A whole replay, transaction by transaction. -/
theorem replayed {tracer : Tracer σ} (reachable : tracer.session.Reachable config) (clock : Clock)
    (transactions : List RecordedTransaction) (tally : Tally) :
    Replayed config clock transactions tracer tally
      (Replay.transactions clock transactions tracer tally) := by
  induction transactions generalizing clock tracer tally with
  | nil => exact ⟨.nil, rfl, rfl, rfl, reachable⟩
  | cons transaction transactions ih =>
      rw [Replay.transactions, transaction_eq reachable]
      generalize put : TraceStore.put (transaction.record config (clock 0)) tracer.store = answer
      let next : Tracer σ := ⟨(transaction.playedIn tracer.session).finalize.2, answer.2,
        Tracer.count (transaction.dropped config == 0) answer.1.isOk tracer.stats⟩
      have later : next.session.Reachable config := transaction.reachable_playedIn reachable
      have rest :=
        ih later (clock.after 1) (tally + .ofTags (Step.tags (transaction.accepted config)))
      constructor
      case outcomes => exact .cons rfl rest.outcomes
      case tally =>
        rw [List.flatMap_cons, Step.tags_append, Tally.ofTags_append, ← Tally.add_assoc]
        exact rest.tally
      case store =>
        rw [records_cons, TraceStore.offerAll, put, rest.store]
        rfl
      case stats =>
        exact rest.stats.trans
          (TracerStats.including_cons (transaction.outcome config answer.1.isOk) _ _)
      case reachable => exact rest.reachable

/-- The accounts of a replay balance, whatever the tracer was used for before and whatever
its store takes and refuses. Every transaction has its outcome, in order. Every step is
counted once, as a call, as a log, as a movement of native currency, or as dropped; every
log is counted once by its meaning, and so is every transfer. A transaction is complete if
and only if nothing was dropped from it, and stored if and only if the store has taken its
record. The counts of the tracer grow by those of the replay. -/
theorem accounts_balance (config : TraceConfig) (store : σ) (history : List Tracer.Notice)
    (clock : Clock) (recording : Recording) :
    let tracer := (Tracer.new config store).noticeAll history
    let result := Replay.recording clock recording tracer
    let summary := result.1
    summary.outcomes.map (·.hash) = recording.transactions.map
        (fun transaction => String.ofList transaction.metadata.hash.toHex) ∧
      (summary.outcomes.map fun outcome => outcome.calls + outcome.events + outcome.dropped).sum +
          summary.tally.nativeTransfers =
        (recording.transactions.map (·.steps.length)).sum ∧
      summary.tally.erc20Transfers + summary.tally.erc721Transfers + summary.tally.approvals +
          summary.tally.unclassified =
        (summary.outcomes.map (·.events)).sum ∧
      summary.tally.erc20Transfers + summary.tally.erc721Transfers +
          summary.tally.nativeTransfers =
        (summary.outcomes.map (·.transfers)).sum ∧
      (∀ outcome ∈ summary.outcomes, outcome.complete = true ↔ outcome.dropped = 0) ∧
      TraceStore.offerAll (records config clock recording.transactions) tracer.store =
        (summary.outcomes.map (·.stored), result.2.store) ∧
      result.2.stats =
        { transactions := tracer.stats.transactions + summary.transactions
          stored := tracer.stats.stored + summary.stored
          storeFailures := tracer.stats.storeFailures + (summary.transactions - summary.stored)
          incomplete := tracer.stats.incomplete + summary.incomplete } := by
  intro tracer result summary
  have reachable : tracer.session.Reachable config := Tracer.reachable_noticeAll .new history
  have replayed : Replayed config clock recording.transactions tracer {} result :=
    Replay.replayed reachable clock recording.transactions {}
  have tally : summary.tally =
      .ofTags (Step.tags (recording.transactions.flatMap (·.accepted config))) :=
    replayed.tally.trans (Tally.zero_add _)
  refine ⟨?_, ?_, ?_, ?_, ?_, replayed.store, ?_⟩
  · exact replayed.outcomes.map_eq fun _ _ => rfl
  · rw [← RecordedTransaction.sum_kinds config, tally]
    congr 2
    exact replayed.outcomes.map_eq fun _ _ => rfl
  · change summary.tally.logged = _
    rw [tally, RecordedTransaction.sum_logged]
    congr 1
    exact (replayed.outcomes.map_eq fun _ _ => rfl).symm
  · change summary.tally.moved = _
    rw [tally, RecordedTransaction.sum_moved]
    congr 1
    exact (replayed.outcomes.map_eq fun _ _ => rfl).symm
  · exact replayed.outcomes.forall_mem fun transaction stored => beq_iff_eq
  · have answers : summary.outcomes.length =
        summary.outcomes.countP (·.stored) + summary.outcomes.countP (!·.stored) := by
      simpa using List.length_eq_countP_add_countP (·.stored) (l := summary.outcomes)
    have failures : summary.outcomes.countP (!·.stored) =
        summary.transactions - summary.stored := by
      rw [ReplaySummary.transactions, ReplaySummary.stored, answers, Nat.add_sub_cancel_left]
    rw [replayed.stats, TracerStats.including, failures]
    rfl

end Replay

end CallTrace
