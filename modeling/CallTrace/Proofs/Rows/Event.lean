/-
# The event trace is read as the events it was written for

A row shows less of an event than is recorded: depth and number are left out, and the
classification as well unless the trace is tagged. What is shown is read as it was.
-/

import CallTrace.Proofs.Rows.Basic
import CallTrace.Rows.Event

namespace CallTrace

/-- What a row shows of an event. -/
def EventRecord.row (tagged : Bool) (event : EventRecord) : EventRow where
  address := event.address
  topics := event.topics
  data := event.data
  tag := if tagged then some event.tag else none

namespace EventTrace

open Rows

theorem oneLine_header (tagged : Bool) : OneLine (header tagged) := by
  cases tagged <;> decide

theorem proper_columns (tagged : Bool) (event : EventRecord) :
    Proper (columns tagged event) := by
  apply Proper.of_plain (by simp [columns])
  obtain ⟨standard, function⟩ := plain_tag event.tag
  have common : ∀ column ∈ [event.address.toHex, writeTopics event.topics,
      Hex.encodeMarked event.data], Plain column := by
    simp only [List.forall_mem_cons, FixedBytes.toHex]
    exact ⟨plain_encodeMarked _, plain_writeTopics _, plain_encodeMarked _,
      List.forall_mem_nil _⟩
  rw [columns, List.forall_mem_append]
  refine ⟨common, ?_⟩
  cases tagged with
  | false => exact List.forall_mem_nil _
  | true => exact List.forall_mem_cons.mpr ⟨standard, List.forall_mem_singleton.mpr function⟩

/-- A row is read as what it shows. -/
@[simp]
theorem readRow_columns (tagged : Bool) (event : EventRecord) :
    readRow tagged (columns tagged event) = .ok (event.row tagged) := by
  cases tagged with
  | false =>
      simp only [columns, Bool.false_eq_true, if_false, List.append_nil, readRow, readCommon,
        readTopics_writeTopics, readFixedBytes_toHex, readBytes_encodeMarked]
      rfl
  | true =>
      simp only [columns, if_true, List.cons_append, List.nil_append, readRow, readCommon,
        readTopics_writeTopics, readFixedBytes_toHex, readBytes_encodeMarked, readTag_columns]
      rfl

/-- An event trace is read as what it shows of its events, in their order. -/
@[simp]
theorem read_write (tagged : Bool) (events : List EventRecord) :
    read (write tagged events) = .ok (events.map (EventRecord.row tagged)) := by
  have known : header tagged ∈ [header true, header false] := by
    cases tagged <;> decide
  have kind : (header tagged == header true) = tagged := by
    cases tagged <;> decide
  apply readAll_sheet (fun found => readRow (found == header true)) known (oneLine_header tagged)
  · intro event _
    rw [kind, readRow_columns]
  · intro event _
    exact proper_columns tagged event

end EventTrace

end CallTrace
