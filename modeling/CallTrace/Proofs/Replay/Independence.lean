/-
# Transactions of a batch do not influence each other

One tracer with one session, one set of counts and one store goes through all transactions
of a batch. Of what it has been through nothing is left in the record and the outcome of a
later transaction, apart from the answer of its store. To see which records the store is
handed, it is watched: a watched store keeps every record that it is offered, and answers
as it would have answered without.
-/

import CallTrace.Proofs.Replay.Accounts

namespace CallTrace

/-- A store that keeps what it is offered, whether it takes it or not. -/
structure WatchedStore (σ : Type) where
  offers : List TraceRecord
  store : σ

namespace WatchedStore

variable {σ : Type}

/-- Begins to watch a store. -/
def watch (store : σ) : WatchedStore σ :=
  ⟨[], store⟩

variable [TraceStore σ]

instance : TraceStore (WatchedStore σ) where
  put record watched :=
    let answer := TraceStore.put record watched.store
    (answer.1, ⟨watched.offers ++ [record], answer.2⟩)

/-- A store answers the same whether it is watched or not. -/
theorem offerAll_eq (records : List TraceRecord) (watched : WatchedStore σ) :
    TraceStore.offerAll records watched =
      ((TraceStore.offerAll records watched.store).1,
        ⟨watched.offers ++ records, (TraceStore.offerAll records watched.store).2⟩) := by
  induction records generalizing watched with
  | nil => rw [List.append_nil]; rfl
  | cons record records ih =>
      rw [TraceStore.offerAll, ih]
      simp only [TraceStore.offerAll, TraceStore.put, List.append_assoc, List.singleton_append]

end WatchedStore

namespace Replay

variable {σ : Type} [TraceStore σ] {config : TraceConfig}

/-- The outcome of a transaction of a batch is the transaction's own. -/
theorem Outcomes.getElem? {transactions : List RecordedTransaction} {outcomes : List TxOutcome}
    (those : Outcomes config transactions outcomes) {place : Nat}
    {transaction : RecordedTransaction} (here : transactions[place]? = some transaction) :
    ∃ stored, outcomes[place]? = some (transaction.outcome config stored) := by
  induction those generalizing place with
  | nil => cases here
  | @cons _ outcome _ _ first _ ih =>
      cases place with
      | zero =>
          obtain rfl := Option.some_inj.mp here
          exact ⟨outcome.stored, congrArg some first⟩
      | succ place => exact ih here

/-- The records that a watched store is handed. -/
theorem Replayed.offers {clock : Clock} {transactions : List RecordedTransaction}
    {tracer : Tracer (WatchedStore σ)} {tally : Tally}
    {result : ReplaySummary × Tracer (WatchedStore σ)}
    (replayed : Replayed config clock transactions tracer tally result) :
    result.2.store.offers =
      tracer.store.offers ++ records config clock transactions := by
  have handed := replayed.store
  rw [WatchedStore.offerAll_eq] at handed
  rw [← (Prod.mk.inj handed).2]

/-- What was tallied before decides nothing in a replay. -/
theorem transactions_congr {tracer : Tracer σ} (reachable : tracer.session.Reachable config)
    (clock : Clock) (transactions : List RecordedTransaction) (first second : Tally) :
    (Replay.transactions clock transactions tracer first).1.outcomes =
        (Replay.transactions clock transactions tracer second).1.outcomes ∧
      (Replay.transactions clock transactions tracer first).2 =
        (Replay.transactions clock transactions tracer second).2 := by
  induction transactions generalizing clock tracer first second with
  | nil => exact ⟨rfl, rfl⟩
  | cons transaction transactions ih =>
      rw [Replay.transactions, Replay.transactions, transaction_eq reachable,
        transaction_eq reachable]
      generalize TraceStore.put (transaction.record config (clock 0)) tracer.store = answer
      let next : Tracer σ := ⟨(transaction.playedIn tracer.session).finalize.2, answer.2,
        Tracer.count (transaction.dropped config == 0) answer.1.isOk tracer.stats⟩
      have later : next.session.Reachable config := transaction.reachable_playedIn reachable
      obtain ⟨outcomes, last⟩ := ih later (clock.after 1)
        (first + .ofTags (Step.tags (transaction.accepted config)))
        (second + .ofTags (Step.tags (transaction.accepted config)))
      exact ⟨congrArg (_ :: ·) outcomes, last⟩

/-- A batch may be replayed in two parts, the second on the tracer that the first has left. -/
theorem transactions_append (clock : Clock) (first second : List RecordedTransaction)
    (tracer : Tracer σ) (tally : Tally) :
    Replay.transactions clock (first ++ second) tracer tally =
      let left := Replay.transactions clock first tracer tally
      let right := Replay.transactions (clock.after first.length) second left.2 left.1.tally
      (⟨left.1.outcomes ++ right.1.outcomes, right.1.tally⟩, right.2) := by
  induction first generalizing clock tracer tally with
  | nil => rfl
  | cons transaction first ih =>
      rw [List.cons_append, Replay.transactions, Replay.transactions]
      obtain ⟨outcome, next, counted⟩ := Replay.transaction (clock 0) transaction tracer tally
      simp only [ih, List.cons_append]
      rfl

/-- The parts of a recording share no more than the tracer. -/
theorem recording_append {tracer : Tracer σ} (reachable : tracer.session.Reachable config)
    (clock : Clock) (first second : List RecordedTransaction) :
    Replay.recording clock ⟨first ++ second⟩ tracer =
      let left := Replay.recording clock ⟨first⟩ tracer
      let right := Replay.recording (clock.after first.length) ⟨second⟩ left.2
      (⟨left.1.outcomes ++ right.1.outcomes, left.1.tally + right.1.tally⟩, right.2) := by
  have left := replayed reachable clock first {}
  have continued := replayed left.reachable (clock.after first.length) second
    (Replay.transactions clock first tracer {}).1.tally
  have afresh := replayed left.reachable (clock.after first.length) second {}
  obtain ⟨outcomes, last⟩ := transactions_congr left.reachable (clock.after first.length) second
    (Replay.transactions clock first tracer {}).1.tally {}
  simp only [Replay.recording, transactions_append]
  rw [outcomes, last, continued.tally, afresh.tally, Tally.zero_add]

/-- An outcome apart from what the store has to say. -/
def unstored (outcome : TxOutcome) : TxOutcome :=
  { outcome with stored := false }

theorem Replayed.map_unstored {clock : Clock} {transactions : List RecordedTransaction}
    {tracer : Tracer σ} {tally : Tally} {result : ReplaySummary × Tracer σ}
    (replayed : Replayed config clock transactions tracer tally result) :
    result.1.outcomes.map unstored = transactions.map (·.outcome config false) :=
  replayed.outcomes.map_eq fun _ _ => rfl

/-- A transaction that is replayed alone, on a new tracer with whatever store, comes to
this record but for its time, and to this outcome but for the answer of the store. -/
def ComesAlone (config : TraceConfig) (transaction : RecordedTransaction) (record : TraceRecord)
    (outcome : TxOutcome) : Prop :=
  ∀ (τ : Type) [TraceStore τ] (other : τ) (later : Clock),
    let alone := Replay.recording later ⟨[transaction]⟩
      (Tracer.new config (WatchedStore.watch other))
    alone.2.store.offers = [{ record with recordedAt := later 0 }] ∧
      alone.1.outcomes.map unstored = [unstored outcome]

theorem comesAlone (transaction : RecordedTransaction) (now : String) (stored : Bool) :
    ComesAlone config transaction (transaction.record config now)
      (transaction.outcome config stored) := by
  intro τ _ other later alone
  have played : Replayed config later [transaction] _ {} alone :=
    replayed .new later [transaction] {}
  exact ⟨played.offers, played.map_unstored⟩

/-- Transactions of a batch do not influence each other, whatever the tracer was used for
before and whatever its store takes and refuses. The store is handed one record for each
transaction, in order; record and outcome are those that the transaction comes to alone.
Two recordings one after the other come to the outcomes of both and to the sum of both
tallies, whether the second is replayed on the tracer that the first has left or each on
a tracer of its own. -/
theorem transactions_are_independent (config : TraceConfig) (store : σ)
    (history : List Tracer.Notice) (clock : Clock) (first second : List RecordedTransaction) :
    let tracer := (Tracer.new config (WatchedStore.watch store)).noticeAll history
    let batch := Replay.recording clock ⟨first⟩ tracer
    let continued := Replay.recording (clock.after first.length) ⟨second⟩ batch.2
    let whole := Replay.recording clock ⟨first ++ second⟩ tracer
    (∃ records, batch.2.store.offers = tracer.store.offers ++ records ∧
      records.length = first.length ∧ batch.1.outcomes.length = first.length ∧
      ∀ (place : Nat) transaction, first[place]? = some transaction →
        ∃ record outcome, records[place]? = some record ∧
          batch.1.outcomes[place]? = some outcome ∧
          ComesAlone config transaction record outcome) ∧
      whole = (⟨batch.1.outcomes ++ continued.1.outcomes, batch.1.tally + continued.1.tally⟩,
        continued.2) ∧
      ∀ (τ υ : Type) [TraceStore τ] [TraceStore υ] (one : τ) (other : υ) (sooner later : Clock),
        let left := Replay.recording sooner ⟨first⟩ (Tracer.new config one)
        let right := Replay.recording later ⟨second⟩ (Tracer.new config other)
        whole.1.tally = left.1.tally + right.1.tally ∧
          whole.1.outcomes.map unstored =
            (left.1.outcomes ++ right.1.outcomes).map unstored := by
  intro tracer batch continued whole
  have reachable : tracer.session.Reachable config := Tracer.reachable_noticeAll .new history
  have batched : Replayed config clock first tracer {} batch := replayed reachable clock first {}
  have went : Replayed config (clock.after first.length) second batch.2 {} continued :=
    replayed batched.reachable (clock.after first.length) second {}
  have joined : whole = (⟨batch.1.outcomes ++ continued.1.outcomes,
      batch.1.tally + continued.1.tally⟩, continued.2) :=
    recording_append reachable clock first second
  refine ⟨⟨records config clock first, batched.offers, List.length_mapIdx,
    batched.outcomes.length_eq.symm, ?_⟩, joined, ?_⟩
  · intro place transaction here
    obtain ⟨stored, outcome⟩ := batched.outcomes.getElem? here
    have record : (records config clock first)[place]? =
        some (transaction.record config (clock place)) := by
      rw [records, List.getElem?_mapIdx, here, Option.map_some]
    exact ⟨_, _, record, outcome, comesAlone transaction (clock place) stored⟩
  · intro τ υ _ _ one other sooner later left right
    have leftPlayed : Replayed config sooner first _ {} left := replayed .new sooner first {}
    have rightPlayed : Replayed config later second _ {} right := replayed .new later second {}
    rw [joined]
    constructor
    · rw [batched.tally, went.tally, leftPlayed.tally, rightPlayed.tally]
    · rw [List.map_append, List.map_append, batched.map_unstored, went.map_unstored,
        leftPlayed.map_unstored, rightPlayed.map_unstored]

end Replay

end CallTrace
