/-
# Traces are read line by line

A row is read without regard to the rows around it. So what a trace is read as is decided by
what its lines are read as, each alone under the header: it is their rows together, or the
fault of the first line that has one, with the number of that line. Lines that are empty but
for carriage returns have no row and no fault; they only count when lines are numbered.

The three kinds of trace differ in their headers and in how a row is read. What is said here
is proved once, for any headers and any way of reading a row.
-/

import CallTrace.Proofs.Rows.Basic
import CallTrace.Rows.Event
import CallTrace.Rows.Function
import CallTrace.Rows.Transfer

namespace CallTrace

/-- A fault without the number of the line that it was found in. -/
def ReaderError.unnumbered : ReaderError → ReaderError
  | .unexpectedHeader expected found => .unexpectedHeader expected found
  | .malformedRow _ fault => .malformedRow 0 fault

namespace Rows

/-- The lines of a text without the carriage returns at their ends. -/
def bareLines (text : List Char) : List (List Char) :=
  (Text.lines text).map (Text.trimEnd '\r')

/-- A text with a carriage return before every line break. -/
def withReturns (text : List Char) : List Char :=
  text.flatMap fun c => if c = '\n' then ['\r', '\n'] else [c]

/-- A reader of traces that goes by lines. Below a header that it accepts, it looks at every
line that is not empty as if the line stood alone below the header. -/
structure LineByLine {α : Type} (accepted : List String)
    (read : List Char → Except ReaderError (List α)) : Prop where
  /-- If every line can be read alone, their rows are those of the text. -/
  rows {text header : List Char} {lines : List (List Char)}
    (split : bareLines text = header :: lines) (known : String.ofList header ∈ accepted)
    {rowsOf : List Char → List α}
    (alone : ∀ line ∈ lines, line ≠ [] → read (header ++ '\n' :: line) = .ok (rowsOf line)) :
    read text = .ok ((lines.filter (!·.isEmpty)).flatMap rowsOf)
  /-- If a line cannot be read alone, the first such line is reported. -/
  fault {text header : List Char} {lines : List (List Char)}
    (split : bareLines text = header :: lines) (known : String.ofList header ∈ accepted)
    {bad : List Char} (member : bad ∈ lines) (something : bad ≠ [])
    (alone : ∀ rows, read (header ++ '\n' :: bad) ≠ .ok rows) :
    ∃ before line after fault, lines = before ++ line :: after ∧ line ≠ [] ∧
      read (header ++ '\n' :: line) = .error (.malformedRow 1 fault) ∧
      (∀ earlier ∈ before, earlier ≠ [] → ∃ rows, read (header ++ '\n' :: earlier) = .ok rows) ∧
      read text = .error (.malformedRow (before.length + 1) fault)
  /-- A text that begins with no header that is accepted is not read any further. -/
  refused {text header : List Char} {lines : List (List Char)} (something : text ≠ [])
    (split : bareLines text = header :: lines) (unknown : String.ofList header ∉ accepted) :
    read text = .error (.unexpectedHeader accepted (String.ofList header))
  /-- Carriage returns before line breaks change nothing. -/
  returns (text : List Char) : read (withReturns text) = read text
  /-- Empty lines below the header change nothing but the numbers of other lines. -/
  emptyLines {text other header : List Char} {lines others : List (List Char)}
    (split : bareLines text = header :: lines) (splitOther : bareLines other = header :: others)
    (known : String.ofList header ∈ accepted)
    (same : others.filter (!·.isEmpty) = lines.filter (!·.isEmpty)) :
    (read other).mapError ReaderError.unnumbered = (read text).mapError ReaderError.unnumbered

section BareLines

variable {text header line : List Char} {lines : List (List Char)}

theorem bareLines_ne_nil (text : List Char) : bareLines text ≠ [] := by
  rw [bareLines, ne_eq, List.map_eq_nil_iff]
  exact Text.splitAt_ne_nil _ text

/-- A bare line ends in no carriage return and has no line break in it. -/
theorem of_mem_bareLines (member : line ∈ bareLines text) :
    Text.trimEnd '\r' line = line ∧ ∀ c ∈ line, (c == '\n') = false := by
  obtain ⟨whole, among, rfl⟩ := List.mem_map.mp member
  refine ⟨Text.trimEnd_trimEnd '\r' whole, fun c inside => ?_⟩
  exact Text.forall_mem_splitAt whole among c (Text.mem_of_mem_trimEnd inside)

/-- Two lines of a text make up a text of their own. -/
theorem bareLines_pair (first : header ∈ bareLines text) (second : line ∈ bareLines text) :
    bareLines (header ++ '\n' :: line) = [header, line] := by
  obtain ⟨headerBare, headerFree⟩ := of_mem_bareLines first
  obtain ⟨lineBare, lineFree⟩ := of_mem_bareLines second
  rw [bareLines, Text.lines, Text.splitAt_append_cons headerFree rfl,
    Text.splitAt_of_forall_not lineFree, List.map_cons, List.map_singleton, headerBare, lineBare]

@[simp]
theorem bareLines_break (text : List Char) : bareLines ('\n' :: text) = [] :: bareLines text := rfl

/-- A character in front of a text belongs to its first line. -/
theorem bareLines_cons {c : Char} (inLine : c ≠ '\n') {first : List Char}
    (split : bareLines text = first :: lines) :
    bareLines (c :: text) = Text.trimEnd '\r' (c :: first) :: lines := by
  obtain ⟨whole, others, cut⟩ :=
    List.exists_cons_of_ne_nil (Text.splitAt_ne_nil (· == '\n') text)
  rw [bareLines, Text.lines, cut, List.map_cons, List.cons.injEq] at split
  obtain ⟨rfl, rfl⟩ := split
  have longer : Text.splitAt (· == '\n') (c :: text) = (c :: whole) :: others := by
    simp [Text.splitAt, cut, inLine]
  rw [bareLines, Text.lines, longer, List.map_cons]
  exact congrArg (· :: _) (Text.trimEnd_append_trimEnd '\r' [c] whole).symm

/-- One carriage return more at the end of a line is trimmed off like all others. -/
theorem bareLines_withReturns (text : List Char) :
    bareLines (withReturns text) = bareLines text := by
  induction text with
  | nil => rfl
  | cons c text ih =>
      rw [withReturns, List.flatMap_cons, ← withReturns]
      split
      next lineBreak =>
        have ended : bareLines ('\n' :: withReturns text) = [] :: bareLines text := by
          rw [bareLines_break, ih]
        rw [lineBreak, bareLines_break]
        exact bareLines_cons (by decide) ended
      next inLine =>
        obtain ⟨first, others, split⟩ := List.exists_cons_of_ne_nil (bareLines_ne_nil text)
        exact (bareLines_cons inLine (ih.trans split)).trans (bareLines_cons inLine split).symm

theorem withReturns_eq_nil_iff {text : List Char} : withReturns text = [] ↔ text = [] := by
  rw [withReturns, List.flatMap_eq_nil_iff]
  constructor
  · intro nothing
    cases text with
    | nil => rfl
    | cons c text =>
        have some := nothing c List.mem_cons_self
        split at some <;> cases some
  · rintro rfl
    exact List.forall_mem_nil _

end BareLines

section Sheet

variable {α : Type} {expected : List String} {reader : String → Columns → Except RowFault α}
  {text header line : List Char} {lines : List (List Char)}

/-- Reads a trace whose header tells how its rows are read. -/
def readSheet (expected : List String) (reader : String → Columns → Except RowFault α)
    (text : List Char) : Except ReaderError (List α) :=
  body expected text >>= fun parts => readAll (reader parts.1) parts.2

/-- Lines are numbered without their carriage returns. -/
theorem numbered_map_trimEnd (first : Nat) (lines : List (List Char)) :
    numbered first (lines.map (Text.trimEnd '\r')) = numbered first lines := by
  induction lines generalizing first with
  | nil => rfl
  | cons line lines ih => rw [List.map_cons, numbered, numbered, Text.trimEnd_trimEnd, ih]

theorem body_of_bareLines (split : bareLines text = header :: lines) :
    body expected text =
      match expected.find? (· == String.ofList header) with
      | some found => .ok (found, numbered 1 lines)
      | none => .error (.unexpectedHeader expected (String.ofList header)) := by
  obtain ⟨first, others, cut, rfl, rfl⟩ := List.map_eq_cons_iff.mp split
  rewrite [body, cut, List.headD_cons, List.tail_cons, numbered_map_trimEnd]
  rfl

/-- Below a header that is expected, the lines are read as it says. -/
theorem readSheet_of_mem (split : bareLines text = header :: lines)
    (known : String.ofList header ∈ expected) :
    readSheet expected reader text =
      readAll (reader (String.ofList header)) (numbered 1 lines) := by
  rw [readSheet, body_of_bareLines split, find?_beq_of_mem known]
  rfl

theorem readSheet_of_not_mem (split : bareLines text = header :: lines)
    (unknown : String.ofList header ∉ expected) :
    readSheet expected reader text =
      .error (.unexpectedHeader expected (String.ofList header)) := by
  have nothing : expected.find? (· == String.ofList header) = none := by
    rw [List.find?_eq_none]
    intro other member same
    exact unknown (eq_of_beq same ▸ member)
  rw [readSheet, body_of_bareLines split, nothing]
  rfl

variable {read : Columns → Except RowFault α}

/-- The first line is passed over if it is empty, and else it decides whether the lines after
it are read at all. -/
theorem readAll_numbered_cons (bare : Text.trimEnd '\r' line = line) (first : Nat)
    (lines : List (List Char)) :
    readAll read (numbered first (line :: lines)) =
      if line = [] then readAll read (numbered (first + 1) lines)
      else match read (Text.splitAt (· == ',') line) with
        | .error fault => .error (.malformedRow first fault)
        | .ok row => (readAll read (numbered (first + 1) lines)).map (row :: ·) := by
  rw [numbered, bare]
  simp only [List.isEmpty_iff]
  split <;> rfl

/-- Lines that can all be read are read as their rows. -/
theorem readAll_of_forall (bare : ∀ line ∈ lines, Text.trimEnd '\r' line = line)
    {rowsOf : List Char → List α}
    (reads : ∀ line ∈ lines, line ≠ [] →
      ∃ row, read (Text.splitAt (· == ',') line) = .ok row ∧ rowsOf line = [row]) (first : Nat) :
    readAll read (numbered first lines) =
      .ok ((lines.filter (!·.isEmpty)).flatMap rowsOf) := by
  induction lines generalizing first with
  | nil => rfl
  | cons line lines ih =>
      obtain ⟨here, others⟩ := List.forall_mem_cons.mp bare
      obtain ⟨readsHere, readsOthers⟩ := List.forall_mem_cons.mp reads
      rw [readAll_numbered_cons here, ih others readsOthers]
      by_cases nothing : line = []
      · rw [if_pos nothing, nothing]
        rfl
      · obtain ⟨row, read, rows⟩ := readsHere nothing
        rw [if_neg nothing, read, List.filter_cons_of_pos (by simpa using nothing),
          List.flatMap_cons, rows]
        rfl

/-- If there is a line that cannot be read, then there is a first one. -/
theorem exists_first_fault {bad : List Char} (member : bad ∈ lines) (something : bad ≠ [])
    {badFault : RowFault} (faulty : read (Text.splitAt (· == ',') bad) = .error badFault) :
    ∃ before line after fault, lines = before ++ line :: after ∧ line ≠ [] ∧
      read (Text.splitAt (· == ',') line) = .error fault ∧
      ∀ earlier ∈ before, earlier ≠ [] →
        ∃ row, read (Text.splitAt (· == ',') earlier) = .ok row := by
  induction lines with
  | nil => exact absurd member List.not_mem_nil
  | cons first lines ih =>
      by_cases here : first ≠ [] ∧ ∃ fault, read (Text.splitAt (· == ',') first) = .error fault
      · obtain ⟨some, fault, firstFaulty⟩ := here
        exact ⟨[], first, lines, fault, rfl, some, firstFaulty, List.forall_mem_nil _⟩
      · have later : bad ∈ lines := (List.mem_cons.mp member).resolve_left fun same =>
          here ⟨same ▸ something, badFault, same ▸ faulty⟩
        obtain ⟨before, line, after, fault, rfl, some, lineFaulty, reads⟩ := ih later
        refine ⟨first :: before, line, after, fault, rfl, some, lineFaulty,
          List.forall_mem_cons.mpr ⟨fun firstSome => ?_, reads⟩⟩
        cases result : read (Text.splitAt (· == ',') first) with
        | error fault => exact absurd ⟨firstSome, fault, result⟩ here
        | ok row => exact ⟨row, rfl⟩

/-- The first line that cannot be read is reported. -/
theorem readAll_of_fault {before after : List (List Char)} {fault : RowFault}
    (bare : ∀ other ∈ before ++ line :: after, Text.trimEnd '\r' other = other)
    (reads : ∀ earlier ∈ before, earlier ≠ [] →
      ∃ row, read (Text.splitAt (· == ',') earlier) = .ok row)
    (something : line ≠ []) (faulty : read (Text.splitAt (· == ',') line) = .error fault)
    (first : Nat) :
    readAll read (numbered first (before ++ line :: after)) =
      .error (.malformedRow (first + before.length) fault) := by
  induction before generalizing first with
  | nil =>
      rw [List.nil_append, readAll_numbered_cons (bare line (by simp)), if_neg something, faulty]
      rfl
  | cons earlier before ih =>
      rw [List.cons_append, List.forall_mem_cons] at bare
      obtain ⟨readsHere, readsOthers⟩ := List.forall_mem_cons.mp reads
      rw [List.cons_append, readAll_numbered_cons bare.1, ih bare.2 readsOthers, List.length_cons,
        Nat.add_right_comm first 1, Nat.add_assoc]
      split
      · rfl
      next some =>
        obtain ⟨row, read⟩ := readsHere some
        rw [read]
        rfl

theorem mapError_map {ε δ β γ : Type} (result : Except ε β) (f : ε → δ) (g : β → γ) :
    (result.map g).mapError f = (result.mapError f).map g := by
  cases result <;> rfl

/-- Empty lines show in nothing but the numbers of the lines after them. -/
theorem readAll_filter (bare : ∀ line ∈ lines, Text.trimEnd '\r' line = line)
    (first second : Nat) :
    (readAll read (numbered first lines)).mapError ReaderError.unnumbered =
      (readAll read (numbered second (lines.filter (!·.isEmpty)))).mapError
        ReaderError.unnumbered := by
  induction lines generalizing first second with
  | nil => rfl
  | cons line lines ih =>
      obtain ⟨here, others⟩ := List.forall_mem_cons.mp bare
      rw [readAll_numbered_cons here]
      by_cases nothing : line = []
      · rw [if_pos nothing, nothing]
        exact ih others _ _
      · rw [if_neg nothing, List.filter_cons_of_pos (by simpa using nothing),
          readAll_numbered_cons here, if_neg nothing]
        cases read (Text.splitAt (· == ',') line) with
        | error fault => rfl
        | ok row =>
            change (Except.map _ _).mapError _ = (Except.map _ _).mapError _
            rw [mapError_map, mapError_map, ih others (first + 1) (second + 1)]

/-- What a line is read as that stands alone below the header. -/
theorem readSheet_alone (split : bareLines text = header :: lines)
    (known : String.ofList header ∈ expected) (member : line ∈ lines) (something : line ≠ []) :
    readSheet expected reader (header ++ '\n' :: line) =
      match reader (String.ofList header) (Text.splitAt (· == ',') line) with
      | .error fault => .error (.malformedRow 1 fault)
      | .ok row => .ok [row] := by
  have first : header ∈ bareLines text := split ▸ List.mem_cons_self
  have second : line ∈ bareLines text := split ▸ List.mem_cons_of_mem header member
  rw [readSheet_of_mem (bareLines_pair first second) known,
    readAll_numbered_cons (of_mem_bareLines second).1, if_neg something]
  rfl

/-- Sheets are read line by line, whatever their headers and however a row is read. -/
theorem lineByLine_readSheet (expected : List String)
    (reader : String → Columns → Except RowFault α) :
    LineByLine expected (readSheet expected reader) where
  rows := by
    intro text header lines split known rowsOf alone
    have bare : ∀ line ∈ lines, Text.trimEnd '\r' line = line := fun line member =>
      (of_mem_bareLines (split ▸ List.mem_cons_of_mem header member)).1
    rw [readSheet_of_mem split known]
    refine readAll_of_forall bare (fun line member something => ?_) 1
    have whole := alone line member something
    rw [readSheet_alone split known member something] at whole
    split at whole
    · cases whole
    next row read => exact ⟨row, read, (Except.ok.inj whole).symm⟩
  fault := by
    intro text header lines split known bad member something alone
    have badFault : ∃ fault,
        reader (String.ofList header) (Text.splitAt (· == ',') bad) = .error fault := by
      cases result : reader (String.ofList header) (Text.splitAt (· == ',') bad) with
      | error fault => exact ⟨fault, rfl⟩
      | ok row =>
          have whole : readSheet expected reader (header ++ '\n' :: bad) = .ok [row] := by
            rw [readSheet_alone split known member something, result]
          exact absurd whole (alone [row])
    obtain ⟨badFault, faulty⟩ := badFault
    obtain ⟨before, line, after, fault, rfl, some, faulty, reads⟩ :=
      exists_first_fault member something faulty
    refine ⟨before, line, after, fault, rfl, some, ?_, fun earlier among other => ?_, ?_⟩
    · rw [readSheet_alone split known (by simp) some, faulty]
    · obtain ⟨row, read⟩ := reads earlier among other
      rw [readSheet_alone split known (by simp [among]) other, read]
      exact ⟨[row], rfl⟩
    · have bare : ∀ other ∈ before ++ line :: after, Text.trimEnd '\r' other = other :=
        fun other among => (of_mem_bareLines (split ▸ List.mem_cons_of_mem header among)).1
      rw [readSheet_of_mem split known, readAll_of_fault bare reads some faulty, Nat.add_comm 1]
  refused := fun _ split unknown => readSheet_of_not_mem split unknown
  returns := by
    intro text
    obtain ⟨header, lines, split⟩ := List.exists_cons_of_ne_nil (bareLines_ne_nil text)
    have same := (bareLines_withReturns text).trans split
    by_cases known : String.ofList header ∈ expected
    · rw [readSheet_of_mem split known, readSheet_of_mem same known]
    · rw [readSheet_of_not_mem split known, readSheet_of_not_mem same known]
  emptyLines := by
    intro text other header lines others split splitOther known same
    rw [readSheet_of_mem split known, readSheet_of_mem splitOther known,
      readAll_filter _ 1 1, same, ← readAll_filter _ 1 1]
    · exact fun line member =>
        (of_mem_bareLines (split ▸ List.mem_cons_of_mem header member)).1
    · exact fun line member =>
        (of_mem_bareLines (splitOther ▸ List.mem_cons_of_mem header member)).1

/-- A reader that differs only on the empty text goes by lines as well, since the empty text
has no header. -/
theorem LineByLine.of_forall_ne_nil {accepted : List String}
    {read other : List Char → Except ReaderError (List α)} (lineByLine : LineByLine accepted read)
    (noEmpty : "" ∉ accepted) (agrees : ∀ text ≠ [], other text = read text) :
    LineByLine accepted other := by
  have ne_nil {text header : List Char} {lines : List (List Char)}
      (split : bareLines text = header :: lines) (known : String.ofList header ∈ accepted) :
      text ≠ [] := by
    rintro rfl
    obtain ⟨rfl, -⟩ := List.cons.inj split
    exact noEmpty known
  have alone_eq (header line : List Char) :
      other (header ++ '\n' :: line) = read (header ++ '\n' :: line) := agrees _ (by simp)
  constructor
  case rows =>
    intro text header lines split known rowsOf alone
    simp only [alone_eq] at alone
    rw [agrees text (ne_nil split known), lineByLine.rows split known alone]
  case fault =>
    intro text header lines split known bad member something alone
    simp only [alone_eq] at alone ⊢
    rw [agrees text (ne_nil split known)]
    exact lineByLine.fault split known member something alone
  case refused =>
    intro text header lines something split unknown
    rw [agrees text something, lineByLine.refused something split unknown]
  case returns =>
    intro text
    by_cases nothing : text = []
    · rw [nothing]
      rfl
    · rw [agrees text nothing, agrees _ (mt withReturns_eq_nil_iff.mp nothing), lineByLine.returns]
  case emptyLines =>
    intro text other header lines others split splitOther known same
    rw [agrees text (ne_nil split known), agrees other (ne_nil splitOther known),
      lineByLine.emptyLines split splitOther known same]

end Sheet

/-- All three kinds of trace are read line by line below their headers. The empty text has no
header; it is the function trace without calls, and it is refused as a trace of another kind. -/
theorem traces_are_read_line_by_line :
    LineByLine [FunctionTrace.header] FunctionTrace.read ∧
    LineByLine [EventTrace.header true, EventTrace.header false] EventTrace.read ∧
    LineByLine [TransferTrace.header true, TransferTrace.header false] TransferTrace.read ∧
    FunctionTrace.read [] = .ok [] ∧
    EventTrace.read [] =
      .error (.unexpectedHeader [EventTrace.header true, EventTrace.header false] "") ∧
    TransferTrace.read [] =
      .error (.unexpectedHeader [TransferTrace.header true, TransferTrace.header false] "") := by
  refine ⟨?_, ?_, ?_, rfl, ?_, ?_⟩
  · have sheets := lineByLine_readSheet [FunctionTrace.header] fun _ => FunctionTrace.readRow
    refine sheets.of_forall_ne_nil (by decide) fun text something => ?_
    rw [FunctionTrace.read, List.isEmpty_eq_false_iff.mpr something]
    rfl
  · exact lineByLine_readSheet _ fun found =>
      EventTrace.readRow (found == EventTrace.header true)
  · exact lineByLine_readSheet _ fun found =>
      TransferTrace.readRow (found == TransferTrace.header true)
  · decide
  · decide

/-- An event stands between lines that hold nothing or a carriage return, and is read as if it
stood alone. A line with a single column is reported with its number, the empty line before it
counted. -/
theorem events_among_empty_lines :
    let header := "address,topics,data".toList
    let line := "0x0000000000000000000000000000000000000000,[],".toList
    let text := header ++ "\r\n\n".toList ++ line ++ "\r\n\r\n".toList
    let broken := header ++ "\n\nx".toList
    let row : EventRow := ⟨.zero 20, [], [], none⟩
    bareLines text = [header, [], line, [], []] ∧ bareLines broken = [header, [], ['x']] ∧
      String.ofList header ∈ [EventTrace.header true, EventTrace.header false] ∧
      EventTrace.read (header ++ '\n' :: line) = .ok [row] ∧ EventTrace.read text = .ok [row] ∧
      ∃ fault, EventTrace.read (header ++ ['\n', 'x']) = .error (.malformedRow 1 fault) ∧
        EventTrace.read broken = .error (.malformedRow 2 fault) := by
  intro header line text broken row
  obtain ⟨-, events, -⟩ := traces_are_read_line_by_line
  have split : bareLines text = [header, [], line, [], []] := by decide
  have splitBroken : bareLines broken = [header, [], ['x']] := by decide
  have known : String.ofList header ∈ [EventTrace.header true, EventTrace.header false] := by
    decide
  have alone : ∀ other ∈ [[], line, [], []], other ≠ [] →
      EventTrace.read (header ++ '\n' :: other) = .ok [row] := by decide
  have refused : EventTrace.read (header ++ ['\n', 'x']) =
      .error (.malformedRow 1 (.columnCount 3 1)) := by decide
  refine ⟨split, splitBroken, known, alone line (by simp) (by decide),
    events.rows split known alone, .columnCount 3 1, refused, ?_⟩
  have member : ['x'] ∈ [[], ['x']] := by simp
  obtain ⟨before, bad, after, fault, cut, some, badAlone, -, reported⟩ :=
    events.fault splitBroken known member (by simp) (by simp [refused])
  obtain ⟨rfl, rfl⟩ : before = [[]] ∧ bad = ['x'] := by
    match before, cut with
    | [], cut => exact absurd (List.cons.inj cut).1.symm some
    | [_], cut =>
      obtain ⟨rfl, rest⟩ := List.cons.inj cut
      exact ⟨rfl, (List.cons.inj rest).1.symm⟩
    | _ :: _ :: _, cut => simp at cut
  obtain rfl : fault = .columnCount 3 1 := by simpa [refused] using badAlone.symm
  exact reported

end Rows

end CallTrace
