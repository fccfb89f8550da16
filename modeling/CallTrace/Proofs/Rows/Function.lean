/-
# The function trace is read as the calls it was written for

Every column of a row is read as what was written there, whatever the call and its
place; the sheet holds the rows together. An empty list of calls has a sheet as well,
of which only the header is left.
-/

import CallTrace.Proofs.Rows.Basic
import CallTrace.Rows.Function

namespace CallTrace

/-- Kinds of call are read as what was written. -/
@[simp]
theorem CallType.ofText_label (callType : CallType) :
    CallType.ofText callType.label.toList = .ok callType := by
  cases callType <;> decide

theorem CallType.plain_label (callType : CallType) : Rows.Plain callType.label.toList := by
  cases callType <;> decide

namespace FunctionTrace

open Rows

theorem oneLine_header : OneLine header := by decide

theorem proper_columns (record : CallRecord) : Proper (columns record) := by
  apply Proper.of_plain (by simp [columns])
  simp only [columns, List.forall_mem_cons, FixedBytes.toHex, Amount.toDecimal]
  exact ⟨plain_decimal _, CallType.plain_label _, plain_decimal _, plain_encodeMarked _,
    plain_encodeMarked _, plain_decimal _, plain_decimal _, plain_encodeMarked _,
    plain_encodeMarked _, plain_writePath _, plain_writePath _, List.forall_mem_nil _⟩

/-- A row is read as the call it was written for. -/
@[simp]
theorem readRow_columns (record : CallRecord) : readRow (columns record) = .ok record := by
  simp only [columns, readRow, readUInt64_decimal, CallType.ofText_label, readFixedBytes_toHex,
    Amount.ofDecimal_toDecimal, readBytes_encodeMarked, readPath_writePath]
  rfl

/-- A function trace is read as the calls it was written for, in their order. -/
@[simp]
theorem read_write (records : List CallRecord) : read (write records) = .ok records := by
  have something : (write records).isEmpty = false := rfl
  rw [read, something]
  refine (readAll_sheet (fun _ => readRow) (List.mem_singleton_self header) oneLine_header
    ?_ ?_).trans (congrArg Except.ok (List.map_id records))
  · intro record _
    exact readRow_columns record
  · intro record _
    exact proper_columns record

/-- The line of a call. -/
def line (record : CallRecord) : List Char :=
  Text.joinWith ',' (columns record)

theorem proper_of_mem (records : List CallRecord) : ∀ row ∈ records.map columns, Proper row :=
  List.forall_mem_map.mpr fun record _ => proper_columns record

/-- Under the header stands one line for each call. -/
theorem lines_write (records : List CallRecord) :
    Text.lines (write records) = header.toList :: records.map line := by
  rw [write, lines_sheet oneLine_header (proper_of_mem records), List.map_map]
  rfl

/-- A line tells its call alone, whatever stands in the lines around it. -/
theorem read_line (record : CallRecord) :
    read (header.toList ++ '\n' :: line record) = .ok [record] := by
  have alone : header.toList ++ '\n' :: line record = write [record] := by
    rw [write, sheet, List.map_singleton, List.flatMap_singleton, line]
  rw [alone, read_write]

/-- The last line of a trace ends without a line break. -/
theorem getLast?_write (records : List CallRecord) : (write records).getLast? ≠ some '\n' :=
  getLast?_sheet oneLine_header (proper_of_mem records)

end FunctionTrace

end CallTrace
