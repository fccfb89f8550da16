/-
# The transfer trace is read as the transfers it was written for

Parties and value stand in a row as texts and are not looked into, so a row is read as it
was written as long as the texts can stand in a column. The one column for the
classification is enough to tell which transfer it is, as long as it is one.
-/

import CallTrace.Proofs.Rows.Basic
import CallTrace.Rows.Transfer

namespace CallTrace

namespace TransferRecord

/-- What a row shows of a transfer. -/
def row (tagged : Bool) (transfer : TransferRecord) : TransferRow where
  sender := transfer.sender
  receiver := transfer.receiver
  token := transfer.token
  value := transfer.value
  depth := transfer.depth
  traceIndex := transfer.traceIndex
  path := transfer.path
  tag := if tagged then some transfer.tag else none

/-- The texts of a transfer can stand in columns, and its tag is one of a transfer. -/
structure Written (transfer : TransferRecord) : Prop where
  sender : Rows.Fits transfer.sender.toList
  receiver : Rows.Fits transfer.receiver.toList
  value : Rows.Fits transfer.value.toList
  tag : transfer.tag.isTransfer = true

end TransferRecord

namespace TransferTrace

open Rows

theorem oneLine_header (tagged : Bool) : OneLine (header tagged) := by
  cases tagged <;> decide

variable {transfer : TransferRecord}

theorem proper_columns (tagged : Bool) (written : transfer.Written) :
    Proper (columns tagged transfer) := by
  have marked : Fits ('0' :: 'x' :: transfer.value.toList) := by
    simp only [Fits, List.forall_mem_cons]
    exact ⟨by decide, by decide, written.value⟩
  have common : ∀ column ∈ [transfer.sender.toList, transfer.receiver.toList,
      transfer.token.toHex, '0' :: 'x' :: transfer.value.toList,
      Numeral.decimal transfer.depth.toNat, Numeral.decimal transfer.traceIndex.toNat,
      writePath transfer.path], Fits column := by
    simp only [List.forall_mem_cons, FixedBytes.toHex]
    exact ⟨written.sender, written.receiver, (plain_encodeMarked _).fits, marked,
      (plain_decimal _).fits, (plain_decimal _).fits, (plain_writePath _).fits,
      List.forall_mem_nil _⟩
  have standard : Plain transfer.tag.standard.toList := (plain_tag transfer.tag).1
  constructor
  case wide => simp [columns]
  case fits =>
    rw [columns, List.forall_mem_append]
    refine ⟨common, ?_⟩
    cases tagged with
    | false => exact List.forall_mem_nil _
    | true => exact List.forall_mem_singleton.mpr standard.fits
  case last =>
    -- A row ends with the path or with the standard, never with one of the texts.
    intro column last
    cases tagged with
    | false =>
        obtain rfl : writePath transfer.path = column := Option.some_inj.mp last
        exact plain_writePath _
    | true =>
        obtain rfl : transfer.tag.standard.toList = column := Option.some_inj.mp last
        exact standard

/-- Of the tags of transfers the first column tells which it is. -/
theorem readTag_standard {tag : EventTag} (isTransfer : tag.isTransfer = true) :
    readTag tag.standard.toList EventTag.native.function.toList = .ok tag := by
  have function : tag.function = EventTag.native.function := by
    cases tag <;> first | rfl | cases isTransfer
  rw [← function, readTag_columns]

/-- A row is read as what it shows. -/
theorem readRow_columns (tagged : Bool) (written : transfer.Written) :
    readRow tagged (columns tagged transfer) = .ok (transfer.row tagged) := by
  have value : Text.dropOpening ['0', 'x'] ('0' :: 'x' :: transfer.value.toList) =
      transfer.value.toList := rfl
  cases tagged with
  | false =>
      simp only [columns, Bool.false_eq_true, if_false, List.append_nil, readRow, readCommon,
        readFixedBytes_toHex, readUInt64_decimal, readPath_writePath, value, String.ofList_toList]
      rfl
  | true =>
      simp only [columns, if_true, List.cons_append, List.nil_append, readRow, readCommon,
        readFixedBytes_toHex, readUInt64_decimal, readPath_writePath, value, String.ofList_toList,
        readTag_standard written.tag]
      rfl

/-- A transfer trace is read as what it shows of its transfers, in their order. -/
theorem read_write (tagged : Bool) {transfers : List TransferRecord}
    (written : ∀ transfer ∈ transfers, transfer.Written) :
    read (write tagged transfers) = .ok (transfers.map (TransferRecord.row tagged)) := by
  have known : header tagged ∈ [header true, header false] := by
    cases tagged <;> decide
  have kind : (header tagged == header true) = tagged := by
    cases tagged <;> decide
  apply readAll_sheet (fun found => readRow (found == header true)) known (oneLine_header tagged)
  · intro transfer member
    rw [kind, readRow_columns tagged (written transfer member)]
  · intro transfer member
    exact proper_columns tagged (written transfer member)

end TransferTrace

end CallTrace
