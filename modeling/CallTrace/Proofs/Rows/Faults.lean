/-
# Faults name their places

What is told of a trace that cannot be read leads to the fault: to a line by its number below
the header, and in the line to a column by its name in the header. Two faults concern more than
one column. A row with too few columns or too many is told by their number, and a classification
that is not known is told as it stands there.
-/

import CallTrace.Proofs.Rows.Lines

namespace CallTrace

/-- What the text of a fault in a row tells. -/
inductive RowFault.Tells (names : List String) (row : Rows.Columns) (fault : RowFault) : Prop
  /-- The name of a column, and what is wrong with it. -/
  | column (name : String) (among : name ∈ names) (cause : String)
      (text : fault.message = "bad " ++ name ++ cause)
  /-- The classification that is not known. -/
  | classification (standard : List Char) (among : standard ∈ row) (function : String)
      (text : fault.message =
        "unknown classification '" ++ String.ofList standard ++ "','" ++ function ++ "'")
  /-- How many columns there should be and how many there are. -/
  | count (other : row.length ≠ names.length)
      (text : fault.message =
        "expected " ++ toString names.length ++ " columns, found " ++ toString row.length)

namespace Rows

/-- The names of the columns below a header. -/
def columnNames (header : List Char) : List String :=
  (Text.splitAt (· == ',') header).map String.ofList

section Columns

variable {α β : Type} {names : List String} {row : Columns}

/-- Whatever is wrong with a part of a row, the text of the fault tells its place. -/
def Telling (names : List String) (row : Columns) (result : Except RowFault α) : Prop :=
  ∀ fault, result = .error fault → fault.Tells names row

theorem telling_ok (value : α) : Telling names row (.ok value) := nofun

theorem Telling.bind {result : Except RowFault α} {next : α → Except RowFault β}
    (telling : Telling names row result) (tellingNext : ∀ value, Telling names row (next value)) :
    Telling names row (result >>= next) := by
  intro fault failed
  cases result with
  | error cause =>
      obtain rfl := Except.error.inj failed
      exact telling _ rfl
  | ok value => exact tellingNext value fault failed

theorem Telling.map {result : Except RowFault α} (telling : Telling names row result)
    (f : α → β) : Telling names row (result.map f) := by
  intro fault failed
  cases result with
  | error cause =>
      obtain rfl := Except.error.inj failed
      exact telling _ rfl
  | ok value => cases failed

theorem Telling.mapM {read : α → Except RowFault β}
    (telling : ∀ item, Telling names row (read item)) (items : List α) :
    Telling names row (items.mapM read) := by
  induction items with
  | nil => exact telling_ok []
  | cons item items ih =>
      rw [List.mapM_cons]
      exact (telling item).bind fun _ => ih.bind fun _ => telling_ok _

/-- A column that is read by itself is named. -/
theorem telling_mapError {ε : Type} (name : String) (among : name ∈ names)
    (result : Except ε α) (fault : ε → RowFault) (cause : ε → String)
    (text : ∀ error, (fault error).message = "bad " ++ name ++ cause error) :
    Telling names row (result.mapError fault) := by
  intro failure failed
  cases result with
  | error error =>
      obtain rfl := Except.error.inj failed
      exact .column name among _ (text error)
  | ok value => cases failed

theorem telling_number {name : String} (among : name ∈ names) (raw : String)
    (result : Except NumeralFault α) :
    Telling names row (result.mapError (.number name raw)) :=
  telling_mapError name among result _ (fun error => " '" ++ raw ++ "': " ++ error.message)
    fun error => by
      change "bad " ++ name ++ " '" ++ raw ++ "': " ++ error.message = _
      simp only [String.append_assoc]

theorem telling_readFixedBytes {n : Nat} {name : String} (among : name ∈ names)
    (raw : List Char) :
    Telling names row (readFixedBytes name raw : Except RowFault (FixedBytes n)) :=
  telling_mapError name among _ _ (fun error => " '" ++ String.ofList raw ++ "': " ++ error.message)
    fun error => by
      change "bad " ++ name ++ " '" ++ String.ofList raw ++ "': " ++ error.message = _
      simp only [String.append_assoc]

theorem telling_readBytes {name : String} (among : name ∈ names) (raw : List Char) :
    Telling names row (readBytes name raw) :=
  telling_mapError name among _ _ (fun error => ": " ++ error.message) fun _ =>
    String.append_assoc

/-- A list is named, and so is the list of an element that cannot be read. -/
theorem telling_readList {name : String} (among : name ∈ names)
    {read : List Char → Except RowFault α} (telling : ∀ item, Telling names row (read item))
    (raw : List Char) : Telling names row (readList name read raw) := by
  rw [readList]
  cases brackets? raw with
  | none =>
      intro fault failed
      obtain rfl := Except.error.inj failed
      refine .column name among (" '" ++ String.ofList raw ++ "': not a [..] list") ?_
      change "bad " ++ name ++ " '" ++ String.ofList raw ++ "': not a [..] list" = _
      simp only [String.append_assoc]
  | some items => exact Telling.mapM telling _

theorem telling_readPath {name : String} (among : name ∈ names) (raw : List Char) :
    Telling names row (readPath name raw) :=
  telling_readList among (fun _ => telling_number among _ _) raw

theorem telling_readTag {standard : List Char} (among : standard ∈ row) (function : List Char) :
    Telling names row (readTag standard function) := by
  rw [readTag]
  cases EventTag.ofColumns? (String.ofList standard) (String.ofList function) with
  | none =>
      intro fault failed
      obtain rfl := Except.error.inj failed
      exact .classification standard among (String.ofList function) rfl
  | some tag => exact telling_ok tag

theorem telling_columnCount {count : Nat} (same : names.length = count)
    (other : row.length ≠ count) :
    Telling names row (.error (.columnCount count row.length) : Except RowFault α) := by
  intro fault failed
  obtain rfl := Except.error.inj failed
  obtain rfl := same
  exact .count other rfl

end Columns

/-- The readers that tell where the fault of a text is. -/
def NamesPlaces {α : Type} (accepted : List String)
    (read : List Char → Except ReaderError (List α)) : Prop :=
  ∀ text error, read text = .error error → ∃ header lines, bareLines text = header :: lines ∧
    ((String.ofList header ∉ accepted ∧
        error.message = "Unexpected header: expected '" ++ " | ".intercalate accepted ++
          "', found '" ++ String.ofList header ++ "'") ∨
      ∃ (before : List (List Char)) (line : List Char) (after : List (List Char))
          (fault : RowFault), lines = before ++ line :: after ∧ String.ofList header ∈ accepted ∧
        fault.Tells (columnNames header) (Text.splitAt (· == ',') line) ∧
        error.message =
          "Malformed row " ++ toString (before.length + 1) ++ ": " ++ fault.message)

section Sheet

variable {α : Type} {expected : List String} {reader : String → Columns → Except RowFault α}

/-- The first row with a fault is where reading stops. -/
theorem exists_of_readAll_error {read : Columns → Except RowFault α}
    {lines : List (List Char)} {first : Nat} {error : ReaderError}
    (bare : ∀ line ∈ lines, Text.trimEnd '\r' line = line)
    (failed : readAll read (numbered first lines) = .error error) :
    ∃ before line after fault, lines = before ++ line :: after ∧
      read (Text.splitAt (· == ',') line) = .error fault ∧
      error = .malformedRow (first + before.length) fault := by
  induction lines generalizing first with
  | nil => cases failed
  | cons line lines ih =>
      obtain ⟨here, others⟩ := List.forall_mem_cons.mp bare
      have later (failed : readAll read (numbered (first + 1) lines) = .error error) :
          ∃ before bad after fault, line :: lines = before ++ bad :: after ∧
            read (Text.splitAt (· == ',') bad) = .error fault ∧
            error = .malformedRow (first + before.length) fault := by
        obtain ⟨before, bad, after, fault, rfl, refused, same⟩ := ih others failed
        refine ⟨line :: before, bad, after, fault, rfl, refused, ?_⟩
        rw [same, List.length_cons, Nat.add_right_comm, Nat.add_assoc]
      rw [readAll_numbered_cons here] at failed
      split at failed
      · exact later failed
      · split at failed
        next fault refused =>
          exact ⟨[], line, lines, fault, rfl, refused, (Except.error.inj failed).symm⟩
        next row read =>
          cases rest : readAll _ (numbered (first + 1) lines) with
          | error other =>
              rw [rest] at failed
              obtain rfl := Except.error.inj failed
              exact later rest
          | ok rows =>
              rw [rest] at failed
              cases failed

/-- A reader of sheets leads to the fault if its way of reading a row does. -/
theorem namesPlaces_readSheet
    (telling : ∀ header ∈ expected, ∀ row,
      Telling (columnNames header.toList) row (reader header row)) :
    NamesPlaces expected (readSheet expected reader) := by
  intro text error failed
  obtain ⟨header, lines, split⟩ := List.exists_cons_of_ne_nil (bareLines_ne_nil text)
  refine ⟨header, lines, split, ?_⟩
  by_cases known : String.ofList header ∈ expected
  · rw [readSheet_of_mem split known] at failed
    have bare : ∀ line ∈ lines, Text.trimEnd '\r' line = line := fun line member =>
      (of_mem_bareLines (split ▸ List.mem_cons_of_mem header member)).1
    obtain ⟨before, line, after, fault, cut, refused, rfl⟩ := exists_of_readAll_error bare failed
    refine .inr ⟨before, line, after, fault, cut, known, ?_, ?_⟩
    · have told := telling _ known _ fault refused
      rwa [String.toList_ofList] at told
    · rw [Nat.add_comm 1]
      rfl
  · rw [readSheet_of_not_mem split known] at failed
    obtain rfl := Except.error.inj failed
    exact .inl ⟨known, rfl⟩

end Sheet

end Rows

open Rows

/-- The eleven columns of a call. -/
theorem FunctionTrace.telling_readRow (row : Columns) :
    Telling (columnNames FunctionTrace.header.toList) row (FunctionTrace.readRow row) := by
  have names : columnNames FunctionTrace.header.toList = ["index", "calltype", "depth", "from",
      "to", "value", "gas", "input", "output", "callstack", "tracepath"] := by decide
  rw [names, FunctionTrace.readRow.eq_def]
  split
  · refine (telling_number (by decide) _ _).bind fun _ => ?_
    refine (telling_mapError "calltype" (by decide) _ .callType (fun error => ": " ++ error.message)
      fun _ => ?_).bind fun _ => ?_
    · rw [← String.append_assoc]
      rfl
    refine (telling_number (by decide) _ _).bind fun _ => ?_
    refine (telling_readFixedBytes (by decide) _).bind fun _ => ?_
    refine (telling_readFixedBytes (by decide) _).bind fun _ => ?_
    refine (telling_mapError "value" (by decide) _ .value (fun error => ": " ++ error.message)
      fun _ => ?_).bind fun _ => ?_
    · rw [← String.append_assoc]
      rfl
    refine (telling_number (by decide) _ _).bind fun _ => ?_
    refine (telling_readBytes (by decide) _).bind fun _ => ?_
    refine (telling_readBytes (by decide) _).bind fun _ => ?_
    refine (telling_readPath (by decide) _).bind fun _ => ?_
    exact (telling_readPath (by decide) _).bind fun _ => telling_ok _
  next other =>
    refine telling_columnCount rfl fun same => ?_
    match row, same with
    | [_, _, _, _, _, _, _, _, _, _, _], _ => exact other _ _ _ _ _ _ _ _ _ _ _ rfl

/-- The columns of an event before its classification. -/
theorem EventTrace.telling_readCommon {names : List String} {row : Columns}
    (known : ∀ name ∈ ["topics", "address", "data"], name ∈ names)
    (address topics data : List Char) {tag : Unit → Except RowFault (Option EventTag)}
    (telling : Telling names row (tag ())) :
    Telling names row (EventTrace.readCommon address topics data tag) := by
  refine (telling_readList (known "topics" (by decide))
    (fun _ => telling_readFixedBytes (known "topics" (by decide)) _) _).bind fun _ => ?_
  refine (telling_readFixedBytes (known "address" (by decide)) _).bind fun _ => ?_
  refine (telling_readBytes (known "data" (by decide)) _).bind fun _ => ?_
  exact telling.bind fun _ => telling_ok _

theorem EventTrace.telling_readRow (tagged : Bool) (row : Columns) :
    Telling (columnNames (EventTrace.header tagged).toList) row
      (EventTrace.readRow tagged row) := by
  have known (tagged : Bool) : ∀ name ∈ ["topics", "address", "data"],
      name ∈ columnNames (EventTrace.header tagged).toList := by
    cases tagged <;> decide
  have count (tagged : Bool) : (columnNames (EventTrace.header tagged).toList).length =
      if tagged then 5 else 3 := by
    cases tagged <;> decide
  rw [EventTrace.readRow.eq_def]
  split
  · exact EventTrace.telling_readCommon (known true) _ _ _ ((telling_readTag (by simp) _).map some)
  · exact EventTrace.telling_readCommon (known false) _ _ _ (telling_ok none)
  next other =>
    refine telling_columnCount (count true) fun same => ?_
    match row, same with
    | [_, _, _, _, _], _ => exact other _ _ _ _ _ rfl
  next other =>
    refine telling_columnCount (count false) fun same => ?_
    match row, same with
    | [_, _, _], _ => exact other _ _ _ rfl

/-- The columns of a transfer before its classification. Parties and value are kept as they
stand and cannot be at fault. -/
theorem TransferTrace.telling_readCommon {names : List String} {row : Columns}
    (known : ∀ name ∈ ["tokenAddr", "calldepth", "traceindex", "tracepath"], name ∈ names)
    (sender receiver token value depth index path : List Char)
    {tag : Unit → Except RowFault (Option EventTag)} (telling : Telling names row (tag ())) :
    Telling names row
      (TransferTrace.readCommon sender receiver token value depth index path tag) := by
  refine (telling_readFixedBytes (known "tokenAddr" (by decide)) _).bind fun _ => ?_
  refine (telling_number (known "calldepth" (by decide)) _ _).bind fun _ => ?_
  refine (telling_number (known "traceindex" (by decide)) _ _).bind fun _ => ?_
  refine (telling_readPath (known "tracepath" (by decide)) _).bind fun _ => ?_
  exact telling.bind fun _ => telling_ok _

theorem TransferTrace.telling_readRow (tagged : Bool) (row : Columns) :
    Telling (columnNames (TransferTrace.header tagged).toList) row
      (TransferTrace.readRow tagged row) := by
  have known (tagged : Bool) : ∀ name ∈ ["tokenAddr", "calldepth", "traceindex", "tracepath"],
      name ∈ columnNames (TransferTrace.header tagged).toList := by
    cases tagged <;> decide
  have count (tagged : Bool) : (columnNames (TransferTrace.header tagged).toList).length =
      if tagged then 8 else 7 := by
    cases tagged <;> decide
  rw [TransferTrace.readRow.eq_def]
  split
  · exact TransferTrace.telling_readCommon (known true) _ _ _ _ _ _ _
      ((telling_readTag (by simp) _).map some)
  · exact TransferTrace.telling_readCommon (known false) _ _ _ _ _ _ _ (telling_ok none)
  next other =>
    refine telling_columnCount (count true) fun same => ?_
    match row, same with
    | [_, _, _, _, _, _, _, _], _ => exact other _ _ _ _ _ _ _ _ rfl
  next other =>
    refine telling_columnCount (count false) fun same => ?_
    match row, same with
    | [_, _, _, _, _, _, _], _ => exact other _ _ _ _ _ _ _ rfl

/-- A trace that may have a classification tells by its header whether it does. -/
theorem Rows.telling_of_header {α : Type} {header : Bool → String}
    {read : Bool → Columns → Except RowFault α}
    (telling : ∀ tagged row, Telling (columnNames (header tagged).toList) row (read tagged row))
    (differ : header false ≠ header true) :
    ∀ found ∈ [header true, header false], ∀ row,
      Telling (columnNames found.toList) row (read (found == header true) row) := by
  intro found known row
  obtain rfl | rfl : found = header true ∨ found = header false := by simpa using known
  · rw [beq_self_eq_true]
    exact telling true row
  · rw [beq_eq_false_iff_ne.mpr differ]
    exact telling false row

/-- Whatever is wrong with a trace, its text leads to the place: to the header, or to a line and
in it to a column. -/
theorem Rows.faults_name_their_places :
    NamesPlaces [FunctionTrace.header] FunctionTrace.read ∧
      NamesPlaces [EventTrace.header true, EventTrace.header false] EventTrace.read ∧
      NamesPlaces [TransferTrace.header true, TransferTrace.header false] TransferTrace.read := by
  refine ⟨?_, ?_, ?_⟩
  · have sheets : NamesPlaces [FunctionTrace.header]
        (readSheet [FunctionTrace.header] fun _ => FunctionTrace.readRow) :=
      namesPlaces_readSheet fun header known row =>
        List.mem_singleton.mp known ▸ FunctionTrace.telling_readRow row
    intro text error failed
    cases nothing : text.isEmpty with
    | true => simp [FunctionTrace.read, nothing] at failed
    | false =>
        rw [FunctionTrace.read, nothing] at failed
        exact sheets text error failed
  · exact namesPlaces_readSheet (telling_of_header EventTrace.telling_readRow (by decide))
  · exact namesPlaces_readSheet (telling_of_header TransferTrace.telling_readRow (by decide))

end CallTrace
