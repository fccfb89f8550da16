/-
# Written values as texts

A value is written in portions, and the portions make up one text. For strings, arrays
and objects that text is spelled out here: what stands between the marks, and that a
comma stands before every part but the first.
-/

import CallTrace.Json.Writer
import CallTrace.Proofs.Json.Number

namespace CallTrace.Json

/-- The values that are read as they were written. -/
inductive Plain : Json → Prop where
  | null : Plain .null
  | bool (value : Bool) : Plain (.bool value)
  | nat (n : Nat) : Plain (.nat n)
  | text (value : String) : Plain (.text value)
  | array {items : List Json} (each : ∀ item ∈ items, Plain item) : Plain (.array items)
  | fields {members : List (String × Json)} (each : ∀ member ∈ members, Plain member.2) :
      Plain (.fields members)

/-- A character as it stands in a string. -/
def escaped (c : Char) : List Char :=
  (escape? c).getD [c]

/-- A string as it stands in a text. -/
def quoted (text : List Char) : List Char :=
  '"' :: (text.flatMap escaped ++ ['"'])

/-- A member of an object as it stands in a text. -/
def writeMember (member : String × Json) : List Char :=
  quoted member.1.toList ++ ':' :: member.2.write

theorem flatten_run (done : List Char) : (run done).flatten = done.reverse := by
  cases done with
  | nil => rfl
  | cons c done => exact List.append_nil _

/-- Runs and escapes make up the text between the quotes. -/
theorem flatten_contentPieces (done text : List Char) :
    (contentPieces done text).flatten = done.reverse ++ text.flatMap escaped := by
  induction text generalizing done with
  | nil => rw [contentPieces, flatten_run, List.flatMap_nil, List.append_nil]
  | cons c text ih =>
      rw [contentPieces, List.flatMap_cons, escaped]
      cases escape? c with
      | none =>
          change (contentPieces (c :: done) text).flatten = _
          rw [ih, List.reverse_cons, List.append_assoc]
          rfl
      | some escape =>
          change (run done ++ escape :: contentPieces [] text).flatten = _
          rw [List.flatten_append, List.flatten_cons, flatten_run, ih]
          rfl

@[simp]
theorem flatten_stringPieces (text : List Char) : (stringPieces text).flatten = quoted text := by
  rw [stringPieces, List.cons_append, List.flatten_cons, List.flatten_append,
    flatten_contentPieces]
  rfl

/-- Characters that need no escape stand for themselves. -/
theorem flatMap_escaped {text : List Char} (none : ∀ c ∈ text, escape? c = none) :
    text.flatMap escaped = text := by
  induction text with
  | nil => rfl
  | cons c text ih =>
      rw [List.flatMap_cons, escaped, none c List.mem_cons_self,
        ih fun d member => none d (List.mem_cons_of_mem c member)]
      rfl

@[simp]
theorem write_nat (n : Nat) : (nat n).write = Numeral.decimal n := by
  rw [nat, write, pieces, List.flatten_singleton, JsonNumber.write_ofNat]

@[simp]
theorem write_text (value : String) : (text value).write = quoted value.toList := by
  rw [text, write, pieces, flatten_stringPieces]
  rfl

theorem flatten_itemPieces (items : List Json) :
    (itemPieces false items).flatten = items.flatMap (',' :: ·.write) := by
  induction items with
  | nil => rw [itemPieces, List.flatMap_nil, List.flatten_nil]
  | cons item items ih =>
      rw [itemPieces, List.flatten_append, ih, List.flatMap_cons]
      rfl

theorem write_array (first : Json) (others : List Json) :
    (array (first :: others)).write =
      '[' :: (first.write ++ (others.flatMap (',' :: ·.write) ++ [']'])) := by
  rw [write, pieces, itemPieces, List.cons_append, List.flatten_cons, List.flatten_append,
    List.flatten_append, flatten_itemPieces, List.append_assoc]
  rfl

theorem flatten_memberPieces (members : List (String × Json)) :
    (memberPieces false (members.map fun member => (some member.1, member.2))).flatten =
      members.flatMap (',' :: writeMember ·) := by
  induction members with
  | nil => rw [List.map_nil, memberPieces, List.flatMap_nil, List.flatten_nil]
  | cons member members ih =>
      rw [List.map_cons, memberPieces, List.flatten_append, ih, List.flatMap_cons,
        List.flatten_append, List.flatten_append, flatten_stringPieces]
      rfl

theorem write_fields (first : String × Json) (others : List (String × Json)) :
    (fields (first :: others)).write =
      '\x7b' :: (writeMember first ++ (others.flatMap (',' :: writeMember ·) ++ ['\x7d'])) := by
  rw [fields, write, pieces, List.map_cons, memberPieces, List.cons_append, List.flatten_cons,
    List.flatten_append, List.flatten_append, List.flatten_append, flatten_memberPieces,
    List.flatten_append, flatten_stringPieces, List.append_assoc]
  rfl

section Controls

/-- A text without control characters. -/
def Visible (text : List Char) : Prop :=
  ∀ c ∈ text, 0x20 ≤ c.toNat

instance (text : List Char) : Decidable (Visible text) :=
  List.decidableBAll _ text

theorem Visible.cons {c : Char} {text : List Char} (first : 0x20 ≤ c.toNat)
    (visible : Visible text) : Visible (c :: text) :=
  List.forall_mem_cons.mpr ⟨first, visible⟩

theorem Visible.append {first second : List Char} (front : Visible first)
    (back : Visible second) : Visible (first ++ second) :=
  List.forall_mem_append.mpr ⟨front, back⟩

theorem visible_singleton {c : Char} (visible : 0x20 ≤ c.toNat) : Visible [c] :=
  List.forall_mem_singleton.mpr visible

theorem visible_flatMap {α : Type} {text : α → List Char} {parts : List α}
    (each : ∀ part ∈ parts, Visible (text part)) : Visible (parts.flatMap text) := by
  intro c member
  obtain ⟨part, among, inside⟩ := List.mem_flatMap.mp member
  exact each part among c inside

/-- Control characters are written by others. -/
theorem visible_escaped (c : Char) : Visible (escaped c) := by
  have digit : ∀ n < 16, 0x20 ≤ (Hex.digit n).toNat := by decide
  have letter {c : Char} (visible : 0x20 ≤ c.toNat) : Visible ['\\', c] :=
    .cons (by decide) (visible_singleton visible)
  rw [escaped, escape?]
  split_ifs with quote backslash backspace tab newline feed carriage control
  · exact letter (by decide)
  · exact letter (by decide)
  · exact letter (by decide)
  · exact letter (by decide)
  · exact letter (by decide)
  · exact letter (by decide)
  · exact letter (by decide)
  · exact .append (by decide : Visible ['\\', 'u', '0', '0'])
      (.cons (digit _ (by omega)) (visible_singleton (digit _ (by omega))))
  · exact visible_singleton (Nat.le_of_not_lt control)

theorem visible_quoted (text : List Char) : Visible (quoted text) :=
  .cons (by decide) ((visible_flatMap fun c _ => visible_escaped c).append
    (visible_singleton (by decide)))

theorem visible_decimal (n : Nat) : Visible (Numeral.decimal n) := by
  intro c member
  have digit := Numeral.isDigit_of_mem_decimal member
  rw [Char.isDigit, Bool.and_eq_true, decide_eq_true_eq, ge_iff_le, UInt32.le_iff_toNat_le] at digit
  exact Nat.le_trans (by decide) digit.1

/-- Parts, each behind a comma, and a closing mark. -/
theorem visible_parts {α : Type} {text : α → List Char} {parts : List α}
    (each : ∀ part ∈ parts, Visible (text part)) {c : Char} (mark : 0x20 ≤ c.toNat) :
    Visible (parts.flatMap (',' :: text ·) ++ [c]) :=
  (visible_flatMap fun part among => .cons (by decide) (each part among)).append
    (visible_singleton mark)

theorem visible_writeMember {member : String × Json} (value : Visible member.2.write) :
    Visible (writeMember member) :=
  (visible_quoted member.1.toList).append (.cons (by decide) value)

/-- A written value has no control characters, so it stays on its line. -/
theorem Plain.visible_write {value : Json} (plain : Plain value) : Visible value.write := by
  induction plain with
  | null => decide
  | bool value => cases value <;> decide
  | nat n =>
      rw [write_nat]
      exact visible_decimal n
  | text value =>
      rw [write_text]
      exact visible_quoted value.toList
  | @array items each ih =>
      cases items with
      | nil => decide
      | cons first others =>
          rw [write_array]
          exact .cons (by decide) ((ih first List.mem_cons_self).append
            (visible_parts (fun item among => ih item (List.mem_cons_of_mem first among))
              (by decide)))
  | @fields members each ih =>
      cases members with
      | nil => decide
      | cons first others =>
          rw [write_fields]
          exact .cons (by decide) ((visible_writeMember (ih first List.mem_cons_self)).append
            (visible_parts (fun member among =>
              visible_writeMember (ih member (List.mem_cons_of_mem first among))) (by decide)))

end Controls

end CallTrace.Json
