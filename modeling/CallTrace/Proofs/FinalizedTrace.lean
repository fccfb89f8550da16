/-
# The texts of a transaction hold what was written into them

At the end of a transaction its calls, events and transfers are written out as three
texts. Each text is a sheet, so nothing that stands in a column can be taken for a
separator, and it is read back as exactly what was written, row for row. A schema may
leave out the function trace, of which the empty text is then the reading, or the
classification, which is then missing from every row.

Calls and events are read back whatever they are. Of a transfer the parties and the value
are texts that nobody checks when it is written, so here it matters that they cannot end a
column or a line; what a session writes down never does.
-/

import CallTrace.Proofs.Query
import CallTrace.Proofs.Rows.Event

namespace CallTrace.Session

/-- The calls of a transaction are read back as they were, also those that no session could
have placed. If the function trace is on, it has one line for each call, which tells the
call even alone under the header, and no line break at its end. If it is off, its text is
empty and is read as no calls. -/
theorem written_calls_are_read_back (tagged : Bool) (calls : List CallRecord) (journal : Journal)
    (complete : Bool) :
    let shown := (writeTraces ⟨true, tagged⟩ calls journal complete).functionTrace.toList
    let hidden := (writeTraces ⟨false, tagged⟩ calls journal complete).functionTrace
    FunctionTrace.read shown = .ok calls ∧
      (∃ lines, Text.lines shown = FunctionTrace.header.toList :: lines ∧
        List.Forall₂ (fun line call =>
          line ≠ [] ∧ FunctionTrace.read (FunctionTrace.header.toList ++ '\n' :: line) = .ok [call])
          lines calls) ∧
      shown.getLast? ≠ some '\n' ∧
      hidden = "" ∧ FunctionTrace.read hidden.toList = .ok [] := by
  intro shown hidden
  have isShown : shown = FunctionTrace.write calls := String.toList_ofList
  rw [isShown]
  refine ⟨FunctionTrace.read_write calls, ⟨calls.map FunctionTrace.line, ?_, ?_⟩, ?_, rfl, rfl⟩
  · exact FunctionTrace.lines_write calls
  · rw [List.forall₂_map_left_iff, List.forall₂_same]
    intro call _
    exact ⟨(FunctionTrace.proper_columns call).line_ne_nil, FunctionTrace.read_line call⟩
  · exact FunctionTrace.getLast?_write calls

/-- Events are read back as what their rows show of them, whatever they are. -/
theorem read_eventTrace (output : OutputSchema) (calls : List CallRecord) (journal : Journal)
    (complete : Bool) :
    EventTrace.read (writeTraces output calls journal complete).eventTrace.toList =
      .ok (journal.events.toList.map (EventRecord.row output.classificationTags)) := by
  change EventTrace.read (String.ofList _).toList = _
  rw [String.toList_ofList, EventTrace.read_write]

/-- Transfers that can be written into rows are read back as what their rows show of them. -/
theorem read_transferTrace (output : OutputSchema) (calls : List CallRecord) {journal : Journal}
    (complete : Bool) (written : ∀ transfer ∈ journal.transfers, transfer.Written) :
    TransferTrace.read (writeTraces output calls journal complete).transferTrace.toList =
      .ok (journal.transfers.toList.map (TransferRecord.row output.classificationTags)) := by
  change TransferTrace.read (String.ofList _).toList = _
  rw [String.toList_ofList]
  apply TransferTrace.read_write
  intro transfer member
  exact written transfer (Array.mem_toList_iff.mp member)

/-- What a session writes down can be written into rows. -/
theorem Reachable.written {config : TraceConfig} {session : Session}
    (reachable : Reachable config session) (steps : List Step) :
    ∀ transfer ∈ (session.reset.takeAll steps).journal.transfers, transfer.Written := by
  have stamped := reachable.stamped_reset.takeAll rfl steps
  intro transfer member
  rw [← Array.mem_toList_iff, stamped.transfers] at member
  exact Query.written_gather _ transfer member

/-- Under every schema events and transfers are read back as what their rows show of them,
one row for each, in their order. Of a transfer it is asked that its tag is that of a
transfer and that there is no comma and no line break in its texts. This holds of every
transfer that a session writes down, whatever it was used for before and whatever steps it
is told of. -/
theorem written_events_and_transfers_are_read_back (output : OutputSchema)
    (calls : List CallRecord) (journal : Journal) (complete : Bool) :
    let trace := writeTraces output calls journal complete
    EventTrace.read trace.eventTrace.toList =
        .ok (journal.events.toList.map (EventRecord.row output.classificationTags)) ∧
      ((∀ transfer ∈ journal.transfers, transfer.Written) →
        TransferTrace.read trace.transferTrace.toList =
          .ok (journal.transfers.toList.map (TransferRecord.row output.classificationTags))) ∧
      ∀ (config : TraceConfig) (history : List Request) (steps : List Step),
        let session := ((new config).after history).reset
        ∀ transfer ∈ (session.takeAll steps).journal.transfers, transfer.Written := by
  intro trace
  refine ⟨read_eventTrace output calls journal complete,
    read_transferTrace output calls complete, ?_⟩
  intro config history steps session
  exact (Reachable.new.after history).written steps

/-- A transfer between a party that ends its name in a carriage return and one without a
name, of a value that looks marked. -/
theorem reads_back_beside_carriage_return :
    let transfer : TransferRecord := ⟨"0x1\r", "", .zero 20, "0x\r", 1, [4294967295], .native, 0⟩
    let journal : Journal := ⟨#[], #[transfer]⟩
    transfer.Written ∧ ∀ tagged : Bool,
      TransferTrace.read (writeTraces ⟨true, tagged⟩ [] journal true).transferTrace.toList =
        .ok [transfer.row tagged] := by
  intro transfer journal
  have written : transfer.Written := ⟨by decide, by decide, by decide, rfl⟩
  refine ⟨written, fun tagged => ?_⟩
  apply (written_events_and_transfers_are_read_back ⟨true, tagged⟩ [] journal true).2.1
  intro other member
  obtain rfl : other = transfer := by simpa [journal] using member
  exact written

end CallTrace.Session
