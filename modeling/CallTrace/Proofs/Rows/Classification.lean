/-
# What the columns of a classification tell

Behind its other columns, a row of a tagged trace shows what was classified: an event by its
standard and its name, a transfer by its standard alone. Reading is exact but for one case. A
row is read with the tag that its columns are the written form of, and if they are that of no
tag, the row is refused for them. Only the native currency is recognized by its standard, so
that an event row is taken for a native movement whatever its last column holds; this column is
not kept, and is written as the name that native movements have.
-/

import CallTrace.Proofs.Rows.Lines
import Mathlib.Data.List.Forall2

namespace CallTrace

namespace EventTag

/-- Whether two columns are taken for a tag: they are the written form of it, or the first of
them is that of native movements. -/
def IsShownBy (tag : EventTag) (standard function : List Char) : Prop :=
  standard = tag.standard.toList ∧ (tag = .native ∨ function = tag.function.toList)

variable {tag : EventTag} {standard function : List Char}

instance : Decidable (tag.IsShownBy standard function) :=
  inferInstanceAs
    (Decidable (standard = tag.standard.toList ∧ (tag = .native ∨ function = tag.function.toList)))

/-- Columns that show a tag are its written form exactly if they are that of native movements
where the first of them is. -/
theorem IsShownBy.function_eq_iff (shown : tag.IsShownBy standard function) :
    function = tag.function.toList ↔
      (standard = native.standard.toList → function = native.function.toList) := by
  have only : ∀ tag : EventTag, tag.standard.toList = native.standard.toList → tag = native := by
    intro tag
    cases tag <;> decide
  obtain ⟨rfl, rfl | written⟩ := shown
  · exact ⟨fun named _ => named, fun named => named rfl⟩
  · refine ⟨fun _ same => ?_, fun _ => written⟩
    rwa [only tag same] at written

end EventTag

namespace Rows

section Tag

variable {standard function : List Char} {tag : EventTag}

theorem eq_toList_of_ofList_eq {column : List Char} {text : String}
    (same : String.ofList column = text) : column = text.toList := by
  rw [← same, String.toList_ofList]

/-- Columns are read as the tag that they show. -/
theorem readTag_eq_ok_iff :
    readTag standard function = .ok tag ↔ tag.IsShownBy standard function := by
  constructor
  · intro read
    have found : EventTag.ofColumns? (String.ofList standard) (String.ofList function) =
        some tag := by
      rw [readTag] at read
      split at read
      next other isOther => rw [isOther, Except.ok.inj read]
      next => cases read
    rw [EventTag.ofColumns?] at found
    split at found
    next native =>
        obtain rfl := Option.some_inj.mp found
        exact ⟨eq_toList_of_ofList_eq (eq_of_beq native), .inl rfl⟩
    next other =>
        have shows := List.find?_some found
        simp only [Bool.and_eq_true, beq_iff_eq] at shows
        exact ⟨eq_toList_of_ofList_eq shows.1.symm, .inr (eq_toList_of_ofList_eq shows.2.symm)⟩
  · rintro ⟨rfl, rfl | rfl⟩
    · rfl
    · exact readTag_columns tag

/-- Columns that show no tag are reported as they stand. -/
theorem readTag_eq_error (unknown : ∀ tag : EventTag, ¬ tag.IsShownBy standard function) :
    readTag standard function =
      .error (.tag (String.ofList standard) (String.ofList function)) := by
  cases found : EventTag.ofColumns? (String.ofList standard) (String.ofList function) with
  | none => rw [readTag, found]
  | some tag =>
      refine absurd (readTag_eq_ok_iff.mp ?_) (unknown tag)
      rw [readTag, found]

end Tag

/-- The rows of lines, as columns. -/
def columnsOf (lines : List (List Char)) : List Columns :=
  (lines.filter (!·.isEmpty)).map (Text.splitAt (· == ','))

section Lines

variable {α : Type} {read : Columns → Except RowFault α} {lines : List (List Char)}
  {rows : List α}

/-- If a text is read, each of its rows is. -/
theorem forall₂_of_readAll (bare : ∀ line ∈ lines, Text.trimEnd '\r' line = line) {first : Nat}
    (accepted : readAll read (numbered first lines) = .ok rows) :
    List.Forall₂ (fun columns row => read columns = .ok row) (columnsOf lines) rows := by
  induction lines generalizing first rows with
  | nil =>
      obtain rfl := Except.ok.inj accepted
      exact .nil
  | cons line lines ih =>
      obtain ⟨here, others⟩ := List.forall_mem_cons.mp bare
      rw [readAll_numbered_cons here] at accepted
      split at accepted
      next nothing =>
          subst nothing
          exact ih others accepted
      next some =>
          split at accepted
          next => cases accepted
          next row isRow =>
              cases rest : readAll read (numbered (first + 1) lines) with
              | error fault => simp [rest, Except.map] at accepted
              | ok later =>
                  obtain rfl : row :: later = rows := by simpa [rest, Except.map] using accepted
                  rw [columnsOf, List.filter_cons_of_pos (by simpa using some), List.map_cons]
                  exact .cons isRow (ih others rest)

/-- A text is read if each of its lines can be. -/
theorem exists_readAll_iff (bare : ∀ line ∈ lines, Text.trimEnd '\r' line = line) (first : Nat) :
    (∃ rows, readAll read (numbered first lines) = .ok rows) ↔
      ∀ line ∈ lines, line ≠ [] → ∃ row, read (Text.splitAt (· == ',') line) = .ok row := by
  constructor
  · rintro ⟨rows, accepted⟩ line member something
    cases result : read (Text.splitAt (· == ',') line) with
    | ok row => exact ⟨row, rfl⟩
    | error fault =>
        obtain ⟨before, bad, after, fault, rfl, some, faulty, reads⟩ :=
          exists_first_fault member something result
        rw [readAll_of_fault bare reads some faulty] at accepted
        cases accepted
  · intro reads
    let rowsOf (line : List Char) : List α :=
      (read (Text.splitAt (· == ',') line)).toOption.toList
    have single : ∀ line ∈ lines, line ≠ [] →
        ∃ row, read (Text.splitAt (· == ',') line) = .ok row ∧ rowsOf line = [row] := by
      intro line member something
      obtain ⟨row, isRow⟩ := reads line member something
      refine ⟨row, isRow, ?_⟩
      show (read (Text.splitAt (· == ',') line)).toOption.toList = [row]
      rw [isRow]
      rfl
    exact ⟨_, readAll_of_forall bare single first⟩

end Lines

/-- How rows are read that end in the columns of a classification. All that stands in front of
these is read as if they were missing, and it is read first. The name of what is classified may
be left out of the columns if it is always the same. -/
structure EndsInTag {α : Type} (width : Nat) (classes : List Char → List Char → Columns)
    (admits : List Char → Prop) (tagged : α → EventTag → α)
    (plain read : Columns → Except RowFault α) : Prop where
  wide : 2 ≤ width
  read_append {front : Columns} {standard function : List Char} (width_eq : front.length = width)
    (admitted : admits function) :
    read (front ++ classes standard function) =
      plain front >>= fun row => (readTag standard function).map (tagged row)
  exists_append {columns : Columns} {row : α} (isRow : read columns = .ok row) :
    ∃ front standard function, columns = front ++ classes standard function ∧
      front.length = width ∧ admits function

/-- A text is read by what the rows below a header show. Behind as many columns as `width`
tells, `classes` are the columns of a classification. -/
structure ShowsTags {α : Type} (header : String) (width : Nat)
    (classes : List Char → List Char → Columns) (admits : List Char → Prop)
    (tagOf : α → Option EventTag) (read : List Char → Except ReaderError (List α))
    (text : List Char) : Prop where
  /-- If the text is read, every row has the tag that its columns show. -/
  kept {lines : List (List Char)} {rows : List α}
    (split : bareLines text = header.toList :: lines) (accepted : read text = .ok rows) :
    List.Forall₂
      (fun columns row => ∃ tag standard function, tagOf row = some tag ∧ admits function ∧
        columns.drop width = classes standard function ∧ tag.IsShownBy standard function)
      (columnsOf lines) rows
  /-- If the text is read, the columns of a classification can be replaced by others that show a
  tag, but not by columns that show none: these are reported. -/
  replaced {other line otherLine : List Char} {before after : List (List Char)}
    {front : Columns} {standard function otherStandard otherFunction : List Char} {rows : List α}
    (split : bareLines text = header.toList :: (before ++ line :: after))
    (columns : Text.splitAt (· == ',') line = front ++ classes standard function)
    (admitted : admits function) (accepted : read text = .ok rows)
    (splitOther : bareLines other = header.toList :: (before ++ otherLine :: after))
    (columnsOther :
      Text.splitAt (· == ',') otherLine = front ++ classes otherStandard otherFunction)
    (admittedOther : admits otherFunction) (width_eq : front.length = width) :
    (∀ tag : EventTag, tag.IsShownBy otherStandard otherFunction →
      ∃ others, read other = .ok others) ∧
    ((∀ tag : EventTag, ¬ tag.IsShownBy otherStandard otherFunction) →
      read other = .error (.malformedRow (before.length + 1)
        (.tag (String.ofList otherStandard) (String.ofList otherFunction))))

theorem map_eq_map_iff {α β γ : Type} {f : α → γ} {g : β → γ} {items : List α}
    {others : List β} :
    items.map f = others.map g ↔
      List.Forall₂ (fun item other => f item = g other) items others := by
  rw [← List.forall₂_eq_eq_eq, List.forall₂_map_left_iff, List.forall₂_map_right_iff]

theorem forall₂_iff_forall_mem {α β : Type} {related same : α → β → Prop} {holds : α → Prop}
    {items : List α} {others : List β} (each : List.Forall₂ related items others)
    (same_iff : ∀ item other, related item other → (same item other ↔ holds item)) :
    List.Forall₂ same items others ↔ ∀ item ∈ items, holds item := by
  induction each with
  | nil => simp
  | cons here _ ih => rw [List.forall₂_cons, List.forall_mem_cons, same_iff _ _ here, ih]

section Shows

variable {α : Type} {width : Nat} {classes : List Char → List Char → Columns}
  {admits : List Char → Prop} {tagged : α → EventTag → α} {tagOf : α → Option EventTag}
  {plain read : Columns → Except RowFault α}

section Row

variable (ends : EndsInTag width classes admits tagged plain read)
include ends

/-- A row is read if what stands in front can be read and a tag is shown behind it. -/
theorem EndsInTag.read_eq_ok_iff {front : Columns} {standard function : List Char}
    (width_eq : front.length = width) (admitted : admits function) {row : α} :
    read (front ++ classes standard function) = .ok row ↔
      ∃ base tag, plain front = .ok base ∧ tag.IsShownBy standard function ∧
        tagged base tag = row := by
  rw [ends.read_append width_eq admitted]
  simp only [← readTag_eq_ok_iff]
  cases plain front with
  | error fault => simp [bind, Except.bind]
  | ok base =>
      cases readTag standard function with
      | error fault => simp [bind, Except.bind, Except.map]
      | ok tag => simp [bind, Except.bind, Except.map]

/-- If what stands in front can be read, columns that show no tag are reported. -/
theorem EndsInTag.read_eq_error {front : Columns} {standard function : List Char}
    (width_eq : front.length = width) (admitted : admits function) {base : α}
    (isBase : plain front = .ok base)
    (unknown : ∀ tag : EventTag, ¬ tag.IsShownBy standard function) :
    read (front ++ classes standard function) =
      .error (.tag (String.ofList standard) (String.ofList function)) := by
  rw [ends.read_append width_eq admitted, isBase, readTag_eq_error unknown]
  rfl

/-- Rows of this kind do not stand on empty lines. -/
theorem EndsInTag.line_ne_nil {line : List Char} {front : Columns}
    {standard function : List Char} (width_eq : front.length = width)
    (columns : Text.splitAt (· == ',') line = front ++ classes standard function) :
    line ≠ [] := by
  rintro rfl
  have count := congrArg List.length columns
  have wide := ends.wide
  rw [List.length_append, width_eq] at count
  change 1 = _ at count
  omega

end Row

/-- Since lines are read one by one, what holds of rows holds of texts. -/
theorem EndsInTag.showsTags (ends : EndsInTag width classes admits tagged plain read)
    (tagOf_tagged : ∀ row tag, tagOf (tagged row tag) = some tag) {header : String}
    {expected : List String} (known : header ∈ expected)
    (reader : String → Columns → Except RowFault α) (below : reader header = read)
    (text : List Char) :
    ShowsTags header width classes admits tagOf (readSheet expected reader) text := by
  have sheet {text : List Char} {lines : List (List Char)}
      (split : bareLines text = header.toList :: lines) :
      (∀ line ∈ lines, Text.trimEnd '\r' line = line) ∧
        readSheet expected reader text = readAll read (numbered 1 lines) := by
    constructor
    · intro line member
      exact (of_mem_bareLines (split ▸ List.mem_cons_of_mem _ member)).1
    · rw [readSheet_of_mem split (String.ofList_toList ▸ known), String.ofList_toList, below]
  constructor
  case kept =>
    intro lines rows split accepted
    obtain ⟨bare, whole⟩ := sheet split
    rw [whole] at accepted
    apply (forall₂_of_readAll bare accepted).imp
    intro columns row isRow
    obtain ⟨front, standard, function, rfl, width_eq, admitted⟩ := ends.exists_append isRow
    obtain ⟨base, tag, -, shown, rfl⟩ := (ends.read_eq_ok_iff width_eq admitted).mp isRow
    exact ⟨tag, standard, function, tagOf_tagged base tag, admitted,
      List.drop_left' width_eq, shown⟩
  case replaced =>
    intro other line otherLine before after front standard function otherStandard
      otherFunction rows split columns admitted accepted splitOther columnsOther admittedOther
      width_eq
    obtain ⟨bare, whole⟩ := sheet split
    obtain ⟨bareOther, wholeOther⟩ := sheet splitOther
    rw [whole] at accepted
    have reads := (exists_readAll_iff bare 1).mp ⟨rows, accepted⟩
    -- The row with the first columns is read, and with it what stands in front of them.
    obtain ⟨row, isRow⟩ := reads line (by simp) (ends.line_ne_nil width_eq columns)
    rw [columns, ends.read_eq_ok_iff width_eq admitted] at isRow
    obtain ⟨base, -, isBase, -, -⟩ := isRow
    rw [wholeOther]
    constructor
    · intro tag shown
      rw [exists_readAll_iff bareOther]
      intro each member something
      rw [List.mem_append, List.mem_cons] at member
      rcases member with earlier | rfl | later
      · exact reads each (List.mem_append_left _ earlier) something
      · rw [columnsOther]
        exact ⟨_, (ends.read_eq_ok_iff width_eq admittedOther).mpr ⟨base, tag, isBase, shown, rfl⟩⟩
      · exact reads each (by simp [later]) something
    · intro unknown
      have faulty := ends.read_eq_error width_eq admittedOther isBase unknown
      rw [← columnsOther] at faulty
      rw [readAll_of_fault bareOther
        (fun earlier member => reads earlier (List.mem_append_left _ member))
        (ends.line_ne_nil width_eq columnsOther) faulty, Nat.add_comm 1]

end Shows

end Rows

open Rows

/-- An event row ends in the standard and in the name of the event. -/
theorem EventTrace.endsInTag :
    EndsInTag 3 (fun standard function => [standard, function]) (fun _ => True)
      (fun row tag => { row with tag := some tag }) (readRow false) (readRow true) where
  wide := by decide
  read_append := by
    intro front standard function width_eq _
    obtain ⟨address, topics, data, rfl⟩ := List.length_eq_three.mp width_eq
    simp only [List.cons_append, List.nil_append, readRow, readCommon]
    cases readList "topics" (readFixedBytes "topics") topics with
    | error fault => rfl
    | ok topics =>
        cases readFixedBytes "address" address with
        | error fault => rfl
        | ok address =>
            cases readBytes "data" data with
            | error fault => rfl
            | ok data => cases readTag standard function <;> rfl
  exists_append := by
    intro columns row isRow
    unfold readRow at isRow
    split at isRow
    case h_1 address topics data standard function _ =>
      exact ⟨[address, topics, data], standard, function, rfl, rfl, trivial⟩
    case h_2 kind => cases kind
    all_goals cases isRow

/-- A transfer row ends in the standard of the token; it is always a transfer that is meant. -/
theorem TransferTrace.endsInTag :
    EndsInTag 7 (fun standard _ => [standard]) (· = EventTag.native.function.toList)
      (fun row tag => { row with tag := some tag }) (readRow false) (readRow true) where
  wide := by decide
  read_append := by
    rintro front standard function width_eq rfl
    match front, width_eq with
    | [sender, receiver, token, value, depth, index, path], _ =>
      simp only [List.cons_append, List.nil_append, readRow, readCommon]
      cases readFixedBytes "tokenAddr" token with
      | error fault => rfl
      | ok token =>
          cases readUInt64 "calldepth" depth with
          | error fault => rfl
          | ok depth =>
              cases readUInt64 "traceindex" index with
              | error fault => rfl
              | ok index =>
                  cases readPath "tracepath" path with
                  | error fault => rfl
                  | ok path => cases readTag standard EventTag.native.function.toList <;> rfl
  exists_append := by
    intro columns row isRow
    unfold readRow at isRow
    split at isRow
    case h_1 sender receiver token value depth index path standard _ =>
      exact ⟨[sender, receiver, token, value, depth, index, path], standard, _, rfl, rfl, rfl⟩
    case h_2 kind => cases kind
    all_goals cases isRow

/-- Traces are read with the tags that their rows show, and with no other columns in the place
of these. So what a transfer is classified by is written again as it was read. The same holds of
events exactly if those that are read as native movements have the name of such. -/
theorem classification_is_read_as_shown (text : List Char) :
    ShowsTags (EventTrace.header true) 3 (fun standard function => [standard, function])
        (fun _ => True) EventRow.tag EventTrace.read text ∧
      ShowsTags (TransferTrace.header true) 7 (fun standard _ => [standard])
        (· = EventTag.native.function.toList) TransferRow.tag TransferTrace.read text ∧
      (∀ lines rows, bareLines text = (TransferTrace.header true).toList :: lines →
        TransferTrace.read text = .ok rows →
          (columnsOf lines).map (·.drop 7) =
            rows.map fun row => row.tag.elim [] fun tag => [tag.standard.toList]) ∧
      ∀ lines rows, bareLines text = (EventTrace.header true).toList :: lines →
        EventTrace.read text = .ok rows →
          ((columnsOf lines).map (·.drop 3) =
            rows.map (fun row =>
              row.tag.elim [] fun tag => [tag.standard.toList, tag.function.toList]) ↔
          ∀ columns ∈ columnsOf lines, columns[3]? = some EventTag.native.standard.toList →
            columns[4]? = some EventTag.native.function.toList) := by
  have events : ShowsTags (EventTrace.header true) 3
      (fun standard function => [standard, function]) (fun _ => True) EventRow.tag
      EventTrace.read text :=
    EventTrace.endsInTag.showsTags (fun _ _ => rfl) (List.mem_cons_self)
      (fun found => EventTrace.readRow (found == EventTrace.header true)) rfl text
  have transfers : ShowsTags (TransferTrace.header true) 7 (fun standard _ => [standard])
      (· = EventTag.native.function.toList) TransferRow.tag TransferTrace.read text :=
    TransferTrace.endsInTag.showsTags (fun _ _ => rfl) (List.mem_cons_self)
      (fun found => TransferTrace.readRow (found == TransferTrace.header true)) rfl text
  refine ⟨events, transfers, ?_, ?_⟩
  · intro lines rows split accepted
    rw [map_eq_map_iff]
    apply (transfers.kept split accepted).imp
    rintro columns row ⟨tag, standard, function, isTag, -, shows, written, -⟩
    rw [shows, isTag, written]
    rfl
  · intro lines rows split accepted
    rw [map_eq_map_iff]
    apply forall₂_iff_forall_mem (events.kept split accepted)
    rintro columns row ⟨tag, standard, function, isTag, -, shows, shown⟩
    have behind (position : Nat) : columns[3 + position]? = [standard, function][position]? := by
      rw [← List.getElem?_drop, shows]
    have third : columns[3]? = some standard := behind 0
    have fourth : columns[4]? = some function := behind 1
    rw [shows, isTag, third, fourth, Option.some_inj, Option.some_inj, ← shown.function_eq_iff,
      shown.1]
    simp

/-- A text with a native movement and, behind an empty line, a token's event. What classifies
the second row is written again as it was read. In its place other names are read that an event
may have; a name that no event has is reported on the third line. -/
theorem approval_behind_native_movement :
    let front := '0' :: 'x' :: List.replicate 40 '0' ++ ",[],".toList
    let line (standard function : String) : List Char :=
      front ++ ',' :: standard.toList ++ ',' :: function.toList
    let header := (EventTrace.header true).toList
    let text (standard function : String) : List Char :=
      header ++ '\n' :: line "NATIVE" "Transfer" ++ '\n' :: '\n' :: line standard function
    let row (tag : EventTag) : EventRow := ⟨.zero 20, [], [], some tag⟩
    let lines := [line "NATIVE" "Transfer", [], line "ERC20" "Approval"]
    bareLines (text "ERC20" "Approval") = header :: lines ∧
      EventTrace.read (text "ERC20" "Approval") = .ok [row .native, row .erc20Approval] ∧
      (columnsOf lines).map (·.drop 3) =
        [["NATIVE".toList, "Transfer".toList], ["ERC20".toList, "Approval".toList]] ∧
      (∃ rows, EventTrace.read (text "ERC721" "ApprovalForAll") = .ok rows) ∧
      EventTrace.read (text "ERC721" "Approve") =
        .error (.malformedRow 3 (.tag "ERC721" "Approve")) := by
  intro front line header text row lines
  obtain ⟨events, -, -, reproduced⟩ := classification_is_read_as_shown (text "ERC20" "Approval")
  have split : bareLines (text "ERC20" "Approval") = header :: lines := by decide
  have accepted : EventTrace.read (text "ERC20" "Approval") =
      .ok [row .native, row .erc20Approval] := by decide
  have plain : ∀ columns ∈ columnsOf lines, columns[3]? = some EventTag.native.standard.toList →
      columns[4]? = some EventTag.native.function.toList := by decide
  -- The second row is replaced by one with another name, and by one with an unknown name.
  let before := [line "NATIVE" "Transfer", []]
  let common : Columns := ['0' :: 'x' :: List.replicate 40 '0', ['[', ']'], []]
  have within : bareLines (text "ERC20" "Approval") =
      header :: (before ++ line "ERC20" "Approval" :: []) := split
  have named : bareLines (text "ERC721" "ApprovalForAll") =
      header :: (before ++ line "ERC721" "ApprovalForAll" :: []) := by decide
  have misnamed : bareLines (text "ERC721" "Approve") =
      header :: (before ++ line "ERC721" "Approve" :: []) := by decide
  have columns : Text.splitAt (· == ',') (line "ERC20" "Approval") =
      common ++ ["ERC20".toList, "Approval".toList] := by decide
  have namedColumns : Text.splitAt (· == ',') (line "ERC721" "ApprovalForAll") =
      common ++ ["ERC721".toList, "ApprovalForAll".toList] := by decide
  have misnamedColumns : Text.splitAt (· == ',') (line "ERC721" "Approve") =
      common ++ ["ERC721".toList, "Approve".toList] := by decide
  have unknown : ∀ tag : EventTag, ¬ tag.IsShownBy "ERC721".toList "Approve".toList := by
    intro tag
    cases tag <;> decide
  refine ⟨split, accepted, (reproduced _ _ split accepted).mpr plain, ?_, ?_⟩
  · exact (events.replaced within columns trivial accepted named namedColumns trivial rfl).1
      .erc721ApprovalForAll (by decide)
  · exact (events.replaced within columns trivial accepted misnamed misnamedColumns trivial
      rfl).2 unknown

/-- What classifies an event is not always written again as it was read: native movements are
recognized with any name. -/
theorem native_movement_is_read_with_any_name :
    ¬ ∀ text lines rows, bareLines text = (EventTrace.header true).toList :: lines →
      EventTrace.read text = .ok rows →
        (columnsOf lines).map (·.drop 3) =
          rows.map fun row =>
            row.tag.elim [] fun tag => [tag.standard.toList, tag.function.toList] := by
  intro reproduced
  let line := '0' :: 'x' :: List.replicate 40 '0' ++ ",[],,NATIVE,x".toList
  let row : EventRow := ⟨.zero 20, [], [], some .native⟩
  have split : bareLines ((EventTrace.header true).toList ++ '\n' :: line) =
      [(EventTrace.header true).toList, line] := by decide
  have accepted : EventTrace.read ((EventTrace.header true).toList ++ '\n' :: line) =
      .ok [row] := by decide
  exact absurd (reproduced _ _ _ split accepted) (by decide)

end CallTrace
