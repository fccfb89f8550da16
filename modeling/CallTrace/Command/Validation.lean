/-
# Validating a file of records

A file of records is valid if every line holds a record and every text in every
record can be read as the rows it should be made of. A valid file is reported by
what it holds.
-/

import CallTrace.CallTree
import CallTrace.Query
import CallTrace.Store.Lines

namespace CallTrace

/-- Why a file of records is not valid. -/
inductive ValidationError where
  | store (cause : StoreError)
  /-- The record of the transaction `key` holds a text that cannot be read. -/
  | text (key : String) (cause : ReaderError)
  deriving DecidableEq, Repr

namespace ValidationError

/-- What was found. -/
def message : ValidationError → String
  | .store cause => cause.message
  | .text key _ => "Invalid trace text in record " ++ key

end ValidationError

/-- What a file of records holds. -/
structure StoreReport where
  records : Nat := 0
  incomplete : Nat := 0
  calls : Nat := 0
  events : Nat := 0
  transfers : Nat := 0
  deriving DecidableEq, Repr, Inhabited

namespace StoreReport

/-- Counts one more record. -/
def count (record : TraceRecord) (trace : ParsedTrace) (report : StoreReport) : StoreReport where
  records := report.records + 1
  incomplete := if record.complete then report.incomplete else report.incomplete + 1
  calls := report.calls + CallNode.sizeAll (CallTree.build trace.calls)
  events := report.events + trace.events.length
  transfers := report.transfers + trace.transfers.length

/-- Counts records in order, up to the first with a text that cannot be read. -/
def countAll : List TraceRecord → StoreReport → Except ValidationError StoreReport
  | [], report => .ok report
  | record :: rest, report =>
    match ParsedTrace.ofRecord record with
    | .error cause => .error (.text record.key cause)
    | .ok trace => countAll rest (report.count record trace)

/-- Reports on the file at a path. -/
def ofFile (tree : FileTree) (path : String) : Except ValidationError StoreReport := do
  let records ← (LineStore.readAt tree path).mapError .store
  countAll records {}

/-- What is printed before a file is looked at. -/
def announcement (path : String) : String :=
  "Validating trace store: " ++ path ++ "\n"

/-- One count of a report. -/
def line (title : String) (n : Nat) : String :=
  "  " ++ title ++ ": " ++ String.ofList (Numeral.decimal n) ++ "\n"

/-- What is printed of a valid file. -/
def render (report : StoreReport) : String :=
  "✓ Valid trace store\n" ++ line "Records" report.records ++
    line "Incomplete" report.incomplete ++ line "Calls" report.calls ++
    line "Events" report.events ++ line "Transfers" report.transfers

/-- Everything that is printed when the file at a path is validated, and what came
of it. -/
def transcript (tree : FileTree) (path : String) : String × Except ValidationError Unit :=
  match ofFile tree path with
  | .ok report => (announcement path ++ report.render, .ok ())
  | .error fault => (announcement path, .error fault)

end StoreReport

end CallTrace
