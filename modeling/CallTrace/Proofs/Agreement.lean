/-
# Two traces tell one story

A log that moves a token is written down twice, as an event and as a transfer, and each
goes its own way into a text. Movements of native currency stand among the transfers
wherever they happened, and have no events. Still one trace can be told from the other:
what an event row means is decided by its topics, and the movements of tokens in the
transfer trace are those that the rows of the event trace describe, in the same order.
-/

import CallTrace.Proofs.FinalizedTrace

namespace CallTrace

/-- A movement as a row shows it, without its place in the execution. -/
structure Movement where
  sender : String
  receiver : String
  token : Address
  value : String
  tag : Option EventTag
  deriving DecidableEq

namespace TransferRow

/-- What a row says to have moved. -/
def movement (row : TransferRow) : Movement :=
  ⟨row.sender, row.receiver, row.token, row.value, row.tag⟩

/-- The rows of tokens, without those of native currency. -/
def ofTokens (rows : List TransferRow) : List TransferRow :=
  rows.filter (·.tag ≠ some .native)

end TransferRow

/-- What a row says to have moved when it is classified as if it were a log. -/
def EventRow.movement? (row : EventRow) : Option Movement :=
  (LogEvent.transferOf? row.address row.topics row.data).map fun transfer =>
    ⟨String.ofList transfer.sender.toHex, String.ofList transfer.receiver.toHex, transfer.token,
      transfer.value, some (LogEvent.tagOfTopics row.topics)⟩

namespace Step

/-- What the steps of a transaction are to have left in the event trace. -/
def eventRows (steps : List Step) : List EventRow :=
  (gather event? steps).map (EventRecord.row true)

/-- What the steps of a transaction are to have left in the transfer trace. -/
def transferRows (steps : List Step) : List TransferRow :=
  (gather transfer? steps).map (TransferRecord.row true)

/-- The row of a log describes the movement that the log leaves behind as a transfer. -/
theorem movement?_row_log (earlier : List Step) (log : LogEvent) (traceIndex : UInt64) :
    EventRow.movement?
        (EventRecord.row true ⟨log.address, log.topics, log.data, log.depth, traceIndex, log.tag⟩) =
      if log.announces then some ((tokenTransfer earlier log).row true).movement else none := by
  change log.transfer?.map _ = _
  rw [log.transfer?_eq]
  split <;> rfl

/-- One step: what its event describes is what its transfer says, unless that is a movement
of native currency. -/
theorem movements_of_step (earlier : List Step) (step : Step) :
    (TransferRow.ofTokens ((step.transfer? earlier).toList.map (TransferRecord.row true))).map
        TransferRow.movement =
      ((step.event? earlier).toList.map (EventRecord.row true)).filterMap EventRow.movement? := by
  cases step with
  | call frame => rfl
  | transfer sender receiver value depth => rfl
  | log log =>
      have notNative : some log.tag ≠ some .native := by
        rw [ne_eq, Option.some_inj]
        exact log.tag_ne_native
      have described := movement?_row_log earlier log (index earlier)
      rw [event?, Option.toList_some, List.map_singleton, List.filterMap_cons, described, transfer?]
      by_cases announced : log.announces = true
      · have kept : TransferRow.ofTokens [(tokenTransfer earlier log).row true] =
            [(tokenTransfer earlier log).row true] :=
          List.filter_cons_of_pos (decide_eq_true notNative)
        simp only [if_pos announced, Option.toList_some, List.map_singleton, kept,
          List.filterMap_nil]
      · simp only [if_neg announced]
        rfl

/-- A whole run, whatever native currency moves in between. -/
theorem movements_of_steps (steps : List Step) :
    (TransferRow.ofTokens (transferRows steps)).map TransferRow.movement =
      (eventRows steps).filterMap EventRow.movement? := by
  induction steps using List.reverseRecOn with
  | nil => rfl
  | append_singleton steps step ih =>
      have last := movements_of_step steps step
      rw [TransferRow.ofTokens] at ih last ⊢
      rw [transferRows, eventRows, gather_concat, gather_concat, List.map_append, List.map_append,
        List.filter_append, List.map_append, List.filterMap_append]
      exact congrArg₂ (· ++ ·) ih last

/-- An event row is tagged by its topics. -/
theorem tag_of_mem_eventRows {steps : List Step} {row : EventRow} (member : row ∈ eventRows steps) :
    row.tag = some (LogEvent.tagOfTopics row.topics) := by
  obtain ⟨event, among, rfl⟩ := List.mem_map.mp member
  obtain ⟨place, step, -, leaves⟩ := mem_gather.mp among
  cases step with
  | call frame => cases leaves
  | transfer sender receiver value depth => cases leaves
  | log log =>
      obtain rfl := Option.some_inj.mp leaves
      rfl

end Step

namespace Session

/-- The texts of a transaction with classification are read as the rows of its steps. -/
theorem Reachable.read_traces {config : TraceConfig} {session : Session}
    (reachable : Reachable config session) (steps : List Step) {output : OutputSchema}
    (tagged : output.classificationTags = true) :
    ∃ trace, ((session.reset.takeAll steps).finalizeWith output).1 = .ok trace ∧
      EventTrace.read trace.eventTrace.toList =
        .ok (Step.eventRows (session.reset.accepted steps)) ∧
      TransferTrace.read trace.transferTrace.toList =
        .ok (Step.transferRows (session.reset.accepted steps)) := by
  have stamped := reachable.stamped_reset.takeAll rfl steps
  refine ⟨_, reachable.finalizeBy_reset steps (writeTraces output), ?_, ?_⟩
  · rw [read_eventTrace, stamped.events, tagged]
    rfl
  · rw [read_transferTrace output _ _ (reachable.written steps), stamped.transfers, tagged]
    rfl

/-- The two traces of a transaction agree on the tokens that have moved. Whatever a session
was used for before and whatever steps it is told of, its traces can be written out; if they
are written with classification, both are read back. Every event row then has the tag of its
topics, which is never that of native currency and would be the same for any other topics
of the same number with the same first one. The rows of tokens in the transfer trace show,
in order, the movements that a classification of the event rows finds, and no others. This
holds of the schema of the session as of any other. -/
theorem event_and_transfer_traces_agree (config : TraceConfig) (history : List Request)
    (steps : List Step) :
    let traced := ((new config).after history).reset.takeAll steps
    traced.finalize = traced.finalizeWith config.output ∧
      ∀ output : OutputSchema, output.classificationTags = true → ∃ trace events transfers,
        (traced.finalizeWith output).1 = .ok trace ∧
        EventTrace.read trace.eventTrace.toList = .ok events ∧
        TransferTrace.read trace.transferTrace.toList = .ok transfers ∧
        (∀ row ∈ events, row.tag = some (LogEvent.tagOfTopics row.topics) ∧
          row.tag ≠ some .native ∧
          ∀ topics : List Hash, topics.length = row.topics.length →
            topics.head? = row.topics.head? → row.tag = some (LogEvent.tagOfTopics topics)) ∧
        (TransferRow.ofTokens transfers).map TransferRow.movement =
          events.filterMap EventRow.movement? := by
  intro traced
  have reachable : Reachable config ((new config).after history) := Reachable.new.after history
  refine ⟨?_, fun output tagged => ?_⟩
  · have own : traced.output = config.output :=
      (output_takeAll steps _).trans reachable.output_eq
    rw [finalize, own]
  obtain ⟨trace, finalized, events, transfers⟩ := reachable.read_traces steps tagged
  refine ⟨trace, _, _, finalized, events, transfers, ?_, Step.movements_of_steps _⟩
  intro row member
  have tag := Step.tag_of_mem_eventRows member
  refine ⟨tag, ?_, fun topics count signature => ?_⟩
  · rw [tag, ne_eq, Option.some_inj]
    exact LogEvent.tagOfTopics_ne_native row.topics
  · rw [tag, LogEvent.tagOfTopics_congr count signature]

/-- Two tokens move, with a movement of native currency and a log without meaning in between,
after a log that was refused. -/
theorem traces_agree_beside_native_currency :
    let log : List Hash → UInt64 → Step := fun topics depth => .log ⟨.zero 20, topics, [7], depth⟩
    let zero : Hash := .zero 32
    let move : Step := .transfer (.zero 20) (.zero 20) .zero 0
    let steps : List Step :=
      [log [Signature.transfer, zero, zero] 5, log [Signature.transfer, zero, zero] 0, move,
        log [Signature.transfer, zero] 1, log [Signature.transfer, zero, zero, zero] 2]
    let traced := ((new ⟨3, ⟨true, false⟩⟩).after [.reset, .step move]).reset.takeAll steps
    ∃ trace events transfers,
      (traced.finalizeWith ⟨false, true⟩).1 = .ok trace ∧
        EventTrace.read trace.eventTrace.toList = .ok events ∧
        TransferTrace.read trace.transferTrace.toList = .ok transfers ∧
        events.map (·.tag) = [some .erc20Transfer, some .unclassified, some .erc721Transfer] ∧
        (TransferRow.ofTokens transfers).map (·.tag) =
          [some .erc20Transfer, some .erc721Transfer] ∧
        (TransferRow.ofTokens transfers).map TransferRow.movement =
          events.filterMap EventRow.movement? := by
  intro log zero move steps traced
  obtain ⟨-, agree⟩ :=
    event_and_transfer_traces_agree ⟨3, ⟨true, false⟩⟩ [.reset, .step move] steps
  have tagged : OutputSchema.classificationTags ⟨false, true⟩ = true := rfl
  obtain ⟨trace, events, transfers, finalized, readEvents, readTransfers, -, same⟩ :=
    agree ⟨false, true⟩ tagged
  have erc20 : LogEvent.tagOfTopics [Signature.transfer, zero, zero] = .erc20Transfer :=
    (LogEvent.tagOfTopics_three _ _ _).2.mpr rfl
  have erc721 : LogEvent.tagOfTopics [Signature.transfer, zero, zero, zero] = .erc721Transfer :=
    (LogEvent.tagOfTopics_four _ _ _ _).2.mpr rfl
  have neither : LogEvent.tagOfTopics [Signature.transfer, zero] = .unclassified := rfl
  -- What the signature is the hash of does not matter to what a row describes.
  have described (signature topic : Hash)
      (three : LogEvent.tagOfTopics [signature, topic, topic] = .erc20Transfer)
      (four : LogEvent.tagOfTopics [signature, topic, topic, topic] = .erc721Transfer) :
      (List.filterMap EventRow.movement?
          [⟨.zero 20, [signature, topic, topic], [7], some .erc20Transfer⟩,
            ⟨.zero 20, [signature, topic], [7], some .unclassified⟩,
            ⟨.zero 20, [signature, topic, topic, topic], [7], some .erc721Transfer⟩]).map (·.tag) =
        [some .erc20Transfer, some .erc721Transfer] := by
    have other : LogEvent.tagOfTopics [signature, topic] = .unclassified := rfl
    simp only [List.filterMap_cons, List.filterMap_nil, EventRow.movement?, LogEvent.transferOf?,
      three, four, other, Option.map_some, Option.map_none, List.map_cons, List.map_nil]
  have shown (first second third : List Hash) :
      Step.eventRows [log first 0, move, log second 1, log third 2] =
        [⟨.zero 20, first, [7], some (LogEvent.tagOfTopics first)⟩,
          ⟨.zero 20, second, [7], some (LogEvent.tagOfTopics second)⟩,
          ⟨.zero 20, third, [7], some (LogEvent.tagOfTopics third)⟩] := rfl
  have rows : events =
      [⟨.zero 20, [Signature.transfer, zero, zero], [7], some .erc20Transfer⟩,
        ⟨.zero 20, [Signature.transfer, zero], [7], some .unclassified⟩,
        ⟨.zero 20, [Signature.transfer, zero, zero, zero], [7], some .erc721Transfer⟩] := by
    have reachable : Reachable ⟨3, ⟨true, false⟩⟩ _ := Reachable.new.after [.reset, .step move]
    obtain ⟨again, finalized', readEvents', -⟩ := reachable.read_traces steps tagged
    obtain rfl := Except.ok.inj (finalized'.symm.trans finalized)
    have accepted := (reachable.accepted_reset steps).trans
      (rfl : _ = [log [Signature.transfer, zero, zero] 0, move, log [Signature.transfer, zero] 1,
        log [Signature.transfer, zero, zero, zero] 2])
    rw [← Except.ok.inj (readEvents'.symm.trans readEvents), accepted, shown, erc20, neither,
      erc721]
  refine ⟨trace, events, transfers, finalized, readEvents, readTransfers, ?_, ?_, same⟩
  · rw [rows]
    rfl
  · have tags := congrArg (List.map (·.tag)) same
    rw [List.map_map, rows, described _ _ erc20 erc721] at tags
    exact tags

end Session

end CallTrace
