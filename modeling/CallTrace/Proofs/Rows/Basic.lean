/-
# Rows are found again

The characters that separate columns and lines do not occur in columns. Whatever a
row is made of, the lines of a sheet are therefore its header and its rows, and the
columns of a line are those it was made of. What is left to each kind of trace is to
read its own columns.
-/

import CallTrace.Proofs.Bytes.Decode
import CallTrace.Proofs.Numeral
import CallTrace.Proofs.Text.Split
import CallTrace.Rows.Basic
import Mathlib.Data.List.Basic

namespace CallTrace.Rows

/-- A text that can stand in a column: nothing in it ends the column or the line. -/
def Fits (text : List Char) : Prop :=
  ∀ c ∈ text, c ≠ ',' ∧ c ≠ '\n'

/-- A text that can stand in any column. In the last one there may be no carriage return
either, since those at the end of a line are no part of it. -/
def Plain (text : List Char) : Prop :=
  ∀ c ∈ text, c ≠ ',' ∧ c ≠ '\n' ∧ c ≠ '\r'

instance (text : List Char) : Decidable (Fits text) :=
  List.decidableBAll _ text

instance (text : List Char) : Decidable (Plain text) :=
  List.decidableBAll _ text

theorem Plain.fits {text : List Char} (plain : Plain text) : Fits text := by
  intro c member
  obtain ⟨comma, lineBreak, -⟩ := plain c member
  exact ⟨comma, lineBreak⟩

/-- Columns that make up a line of their own: each can stand in its column, and there are at
least two of them, so that the line is not empty. -/
structure Proper (columns : Columns) : Prop where
  wide : 2 ≤ columns.length
  fits : ∀ column ∈ columns, Fits column
  last : ∀ column, columns.getLast? = some column → Plain column

theorem Proper.of_plain {columns : Columns} (wide : 2 ≤ columns.length)
    (plain : ∀ column ∈ columns, Plain column) : Proper columns where
  wide := wide
  fits := fun column member => (plain column member).fits
  last := fun column last => plain column (List.mem_of_getLast? last)

section Plain

theorem plain_toDigits {base : Nat} (large : 1 < base) (small : base ≤ 16) (n : Nat) :
    Plain (Nat.toDigits base n) := by
  intro c member
  have digits : ∀ digit < 16, Nat.digitChar digit ≠ ',' ∧ Nat.digitChar digit ≠ '\n' ∧
      Nat.digitChar digit ≠ '\r' := by decide
  obtain ⟨digit, within, rfl⟩ := Numeral.exists_digit_of_mem_toDigits large member
  exact digits digit (Nat.lt_of_lt_of_le within small)

theorem plain_decimal (n : Nat) : Plain (Numeral.decimal n) :=
  plain_toDigits (by decide) (by decide) n

theorem plain_hexadecimal (n : Nat) : Plain (Numeral.hexadecimal n) :=
  plain_toDigits (by decide) (by decide) n

theorem plain_encodeMarked (bytes : List UInt8) : Plain (Hex.encodeMarked bytes) := by
  intro c member
  have digits : ∀ value < 16, Hex.digit value ≠ ',' ∧ Hex.digit value ≠ '\n' ∧
      Hex.digit value ≠ '\r' := by decide
  rcases Hex.mem_encodeMarked member with rfl | ⟨value, within, rfl⟩
  · decide
  · exact digits value within

theorem plain_toHex {n : Nat} (bytes : FixedBytes n) : Plain bytes.toHex :=
  plain_encodeMarked bytes.toList

theorem plain_encode (bytes : List UInt8) : Plain (Hex.encode bytes) := by
  intro c member
  apply plain_encodeMarked bytes c
  exact List.mem_cons_of_mem _ (List.mem_cons_of_mem _ member)

theorem plain_writeList {items : List (List Char)} (plain : ∀ item ∈ items, Plain item) :
    Plain (writeList items) := by
  intro c member
  rw [writeList, List.cons_append, List.mem_cons, List.mem_append, List.mem_singleton] at member
  rcases member with rfl | inside | rfl
  · decide
  · rcases Text.mem_joinWith inside with rfl | ⟨item, among, inItem⟩
    · decide
    · exact plain item among c inItem
  · decide

theorem plain_writePath (path : List UInt32) : Plain (writePath path) := by
  apply plain_writeList
  intro item member
  obtain ⟨site, -, rfl⟩ := List.mem_map.mp member
  exact plain_decimal site.toNat

theorem plain_writeTopics (topics : List Hash) : Plain (writeTopics topics) := by
  apply plain_writeList
  intro item member
  obtain ⟨topic, -, rfl⟩ := List.mem_map.mp member
  exact plain_encodeMarked topic.toList

theorem plain_tag (tag : EventTag) :
    Plain tag.standard.toList ∧ Plain tag.function.toList := by
  cases tag <;> decide

end Plain

section Columns

@[simp]
theorem readUInt64_decimal (column : String) (number : UInt64) :
    readUInt64 column (Numeral.decimal number.toNat) = .ok number := by
  rw [readUInt64, Numeral.readUInt64_decimal]
  rfl

@[simp]
theorem readUInt32_decimal (column : String) (number : UInt32) :
    readUInt32 column (Numeral.decimal number.toNat) = .ok number := by
  rw [readUInt32, Numeral.readUInt32_decimal]
  rfl

@[simp]
theorem readFixedBytes_toHex {n : Nat} (column : String) (bytes : FixedBytes n) :
    readFixedBytes column bytes.toHex = .ok bytes := by
  rw [readFixedBytes, FixedBytes.ofHex_toHex]
  rfl

@[simp]
theorem readBytes_encodeMarked (column : String) (bytes : List UInt8) :
    readBytes column (Hex.encodeMarked bytes) = .ok bytes := by
  rw [readBytes, Hex.decode_encodeMarked]
  rfl

theorem brackets?_writeList (items : List (List Char)) :
    brackets? (writeList items) = some (Text.joinWith ' ' items) := by
  rw [writeList, List.cons_append, brackets?, List.getLast?_concat, if_pos rfl,
    List.dropLast_concat]

/-- A list is read as what was written if its elements are, and they are words. -/
theorem readList_writeList {α : Type} {column : String}
    {read : List Char → Except RowFault α} {write : α → List Char}
    (reads : ∀ item, read (write item) = .ok item) (nonempty : ∀ item, write item ≠ [])
    (free : ∀ item, ∀ c ∈ write item, Text.isBlank c = false) (items : List α) :
    readList column read (writeList (items.map write)) = .ok items := by
  have words : Text.words (Text.joinWith ' ' (items.map write)) = items.map write := by
    refine Text.words_joinWith (by decide) ?_ ?_
    · exact List.forall_mem_map.mpr fun item _ => nonempty item
    · exact List.forall_mem_map.mpr fun item _ => free item
  have all : items.mapM (fun item => read (write item)) = .ok items := by
    simp only [reads]
    exact List.mapM_pure.trans (congrArg Except.ok (List.map_id items))
  rw [readList, brackets?_writeList]
  simp only [words, List.mapM_map]
  exact all

@[simp]
theorem readPath_writePath (column : String) (path : List UInt32) :
    readPath column (writePath path) = .ok path := by
  apply readList_writeList (readUInt32_decimal column)
    (fun site => Numeral.decimal_ne_nil site.toNat)
  intro site c member
  have digits : ∀ digit < 10, Text.isBlank (Nat.digitChar digit) = false := by decide
  obtain ⟨digit, within, rfl⟩ := Numeral.exists_digit_of_mem_toDigits (by decide) member
  exact digits digit within

@[simp]
theorem readTopics_writeTopics (column : String) (topics : List Hash) :
    readList column (readFixedBytes column) (writeTopics topics) = .ok topics := by
  apply readList_writeList (fun topic : Hash => readFixedBytes_toHex column topic)
    (fun _ => List.cons_ne_nil _ _)
  intro topic c member
  have digits : ∀ value < 16, Text.isBlank (Hex.digit value) = false := by decide
  rcases Hex.mem_encodeMarked member with rfl | ⟨value, within, rfl⟩
  · decide
  · exact digits value within

/-- Two columns tell every tag. -/
@[simp]
theorem readTag_columns (tag : EventTag) :
    readTag tag.standard.toList tag.function.toList = .ok tag := by
  cases tag <;> decide

end Columns

section Sheet

/-- A header that is one line. -/
def OneLine (header : String) : Prop :=
  ∀ c ∈ header.toList, c ≠ '\n' ∧ c ≠ '\r'

instance (header : String) : Decidable (OneLine header) :=
  List.decidableBAll _ header.toList

theorem OneLine.trimEnd {header : String} (oneLine : OneLine header) :
    Text.trimEnd '\r' header.toList = header.toList :=
  Text.trimEnd_eq_self fun last => (oneLine _ (List.mem_of_getLast? last)).2 rfl

namespace Proper

variable {columns : Columns}

/-- Nothing in a row ends its line. -/
theorem ne_of_mem_line (proper : Proper columns) {c : Char}
    (member : c ∈ Text.joinWith ',' columns) : c ≠ '\n' := by
  rcases Text.mem_joinWith member with rfl | ⟨column, among, inside⟩
  · decide
  · exact (proper.fits column among c inside).2

/-- The end of a line is the end of its last column, or the comma before it. -/
theorem trimEnd_line (proper : Proper columns) :
    Text.trimEnd '\r' (Text.joinWith ',' columns) = Text.joinWith ',' columns := by
  cases columns using List.reverseRecOn with
  | nil => rfl
  | append_singleton front column =>
      have others : front ≠ [] := by
        rintro rfl
        exact Nat.not_succ_le_self 1 proper.wide
      have plain : Plain column := proper.last column List.getLast?_concat
      apply Text.trimEnd_eq_self
      intro last
      rw [Text.joinWith_concat others, List.getLast?_append_of_ne_nil _ (List.cons_ne_nil _ _)]
        at last
      rcases List.mem_cons.mp (List.mem_of_getLast? last) with comma | inside
      · exact absurd comma (by decide)
      · exact (plain _ inside).2.2 rfl

theorem line_ne_nil (proper : Proper columns) : Text.joinWith ',' columns ≠ [] := by
  obtain ⟨wide, -, -⟩ := proper
  match columns, wide with
  | first :: second :: rest, _ => simp [Text.joinWith]

/-- The columns of a line are those it was made of. -/
theorem splitAt_line (proper : Proper columns) :
    Text.splitAt (· == ',') (Text.joinWith ',' columns) = columns := by
  refine Text.splitAt_joinWith ?_ rfl ?_
  · rintro rfl
    exact absurd proper.wide (by decide)
  · intro column among c inside
    exact beq_eq_false_iff_ne.mpr (proper.fits column among c inside).1

end Proper

/-- The lines of a sheet are its header and its rows. -/
theorem lines_sheet {header : String} {rows : List Columns} (oneLine : OneLine header)
    (proper : ∀ row ∈ rows, Proper row) :
    Text.lines (sheet header rows) = header.toList :: rows.map (Text.joinWith ',') := by
  have lines : sheet header rows =
      header.toList ++ (rows.map (Text.joinWith ',')).flatMap ('\n' :: ·) := by
    rw [sheet, List.flatMap_map]
  rw [Text.lines, lines]
  apply Text.splitAt_append_flatMap _ rfl
  intro line member c inside
  rcases List.mem_cons.mp member with rfl | among
  · exact beq_eq_false_iff_ne.mpr (oneLine c inside).1
  · obtain ⟨row, inRows, rfl⟩ := List.mem_map.mp among
    exact beq_eq_false_iff_ne.mpr ((proper row inRows).ne_of_mem_line inside)

/-- A sheet ends with its last line, without a line break behind it. -/
theorem getLast?_sheet {header : String} {rows : List Columns} (oneLine : OneLine header)
    (proper : ∀ row ∈ rows, Proper row) : (sheet header rows).getLast? ≠ some '\n' := by
  intro last
  cases rows using List.reverseRecOn with
  | nil =>
      rw [sheet, List.flatMap_nil, List.append_nil] at last
      exact (oneLine _ (List.mem_of_getLast? last)).1 rfl
  | append_singleton rows row =>
      have row : Proper row := proper row (by simp)
      rw [sheet, List.flatMap_append, List.flatMap_singleton, ← List.append_assoc,
        List.append_cons, List.getLast?_append_of_ne_nil _ row.line_ne_nil] at last
      exact row.ne_of_mem_line (List.mem_of_getLast? last) rfl

theorem find?_beq_of_mem {items : List String} {item : String} (member : item ∈ items) :
    items.find? (· == item) = some item := by
  cases search : items.find? (· == item) with
  | none => exact absurd (List.find?_eq_none.mp search item member) (by simp)
  | some other =>
      have same : (other == item) = true := by simpa using List.find?_some search
      rw [eq_of_beq same]

/-- Below a header that is expected stand the lines of the rows. -/
theorem body_sheet {expected : List String} {header : String} {rows : List Columns}
    (known : header ∈ expected) (oneLine : OneLine header) (proper : ∀ row ∈ rows, Proper row) :
    body expected (sheet header rows) =
      .ok (header, numbered 1 (rows.map (Text.joinWith ','))) := by
  rw [body, lines_sheet oneLine proper, List.headD_cons, oneLine.trimEnd, String.ofList_toList]
  simp only [find?_beq_of_mem known, List.tail_cons]

/-- Rows are read as what their items are written for, one after the other. -/
theorem readAll_numbered {α β : Type} {read : Columns → Except RowFault β} {write : α → Columns}
    {result : α → β} {items : List α}
    (reads : ∀ item ∈ items, read (write item) = .ok (result item))
    (proper : ∀ item ∈ items, Proper (write item)) (first : Nat) :
    readAll read (numbered first ((items.map write).map (Text.joinWith ','))) =
      .ok (items.map result) := by
  induction items generalizing first with
  | nil => rfl
  | cons item items ih =>
      have row : Proper (write item) := proper item (by simp)
      have rest := ih (fun other member => reads other (by simp [member]))
        (fun other member => proper other (by simp [member])) (first + 1)
      have something : (Text.joinWith ',' (write item)).isEmpty = false :=
        List.isEmpty_eq_false_iff.mpr row.line_ne_nil
      simp only [List.map_cons, numbered, row.trimEnd_line, something, Bool.false_eq_true,
        if_false, readAll, row.splitAt_line, reads item List.mem_cons_self, rest]
      rfl

/-- A sheet is read as what its rows are written for, by a reader that suits its header. -/
theorem readAll_sheet {α β : Type} {expected : List String} {header : String}
    {write : α → Columns} {result : α → β} {items : List α}
    (reader : String → Columns → Except RowFault β) (known : header ∈ expected)
    (oneLine : OneLine header)
    (reads : ∀ item ∈ items, reader header (write item) = .ok (result item))
    (proper : ∀ item ∈ items, Proper (write item)) :
    (body expected (sheet header (items.map write)) >>= fun parts =>
      readAll (reader parts.1) parts.2) = .ok (items.map result) := by
  have rows : ∀ row ∈ items.map write, Proper row := List.forall_mem_map.mpr proper
  rw [body_sheet known oneLine rows]
  exact readAll_numbered reads proper 1

end Sheet

end CallTrace.Rows
