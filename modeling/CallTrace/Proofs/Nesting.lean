/-
# What a sequence of depths says

Calls are reported on entry, so their depths, in order, tell which of them are
open at any time. All of it is read off one cut of the sequence: the part up to
the last call at a level or above it. If that call stands exactly at the level it
is the one open there; if it stands above, the level has been closed since.

The definitions of this module look at the whole sequence every time. They are
what the tables and buffers that are kept from call to call are measured against.
-/

import CallTrace.Frame
import Mathlib.Data.List.DropRight
import Mathlib.Data.List.Induction

namespace CallTrace.Nesting

section Cut

variable {α : Type} (depth : α → Nat)

/-- The calls up to and including the last one at `level` or above it. Without
such a call there are none. -/
def through (level : Nat) (calls : List α) : List α :=
  calls.rdropWhile fun call => level < depth call

/-- The calls after the last one at `level` or above it, all of them deeper. -/
def beyond (level : Nat) (calls : List α) : List α :=
  calls.rtakeWhile fun call => level < depth call

variable {depth} {level : Nat}

@[simp]
theorem through_nil : through depth level [] = [] := rfl

theorem through_append_beyond (calls : List α) :
    through depth level calls ++ beyond depth level calls = calls :=
  List.rdropWhile_append_rtakeWhile

theorem through_concat_of_le {call : α} (calls : List α) (shallow : depth call ≤ level) :
    through depth level (calls ++ [call]) = calls ++ [call] :=
  List.rdropWhile_concat_neg _ _ _ (by simpa using shallow)

theorem through_concat_of_lt {call : α} (calls : List α) (deep : level < depth call) :
    through depth level (calls ++ [call]) = through depth level calls :=
  List.rdropWhile_concat_pos _ _ _ (by simpa using deep)

/-- Calls that are all deeper than the level do not move the cut. -/
theorem through_append_of_lt (calls : List α) {more : List α}
    (deep : ∀ call ∈ more, level < depth call) :
    through depth level (calls ++ more) = through depth level calls := by
  induction more using List.reverseRecOn with
  | nil => rw [List.append_nil]
  | append_singleton more call ih =>
      rw [← List.append_assoc, through_concat_of_lt _ (deep call (by simp))]
      apply ih
      intro call member
      exact deep call (by simp [member])

/-- A cut at a level that a deeper cut has already been made for. -/
theorem through_through {low high : Nat} (le : low ≤ high) (calls : List α) :
    through depth low (through depth high calls) = through depth low calls := by
  induction calls using List.reverseRecOn with
  | nil => rfl
  | append_singleton calls call ih =>
      by_cases shallow : depth call ≤ high
      · rw [through_concat_of_le _ shallow]
      · have deep : high < depth call := Nat.lt_of_not_le shallow
        rw [through_concat_of_lt _ deep, through_concat_of_lt _ (le.trans_lt deep), ih]

/-- If the last call stands at the level or above it, nothing is cut off. -/
theorem through_eq_self {calls : List α}
    (shallow : ∀ call, calls.getLast? = some call → depth call ≤ level) :
    through depth level calls = calls := by
  induction calls using List.reverseRecOn with
  | nil => rfl
  | append_singleton calls call _ => exact through_concat_of_le _ (shallow call (by simp))

theorem through_sublist (calls : List α) :
    (through depth level calls).Sublist calls := by
  have isPrefix : through depth level calls <+: calls := List.rdropWhile_prefix _ calls
  exact isPrefix.sublist

/-- Only the depths decide where a sequence is cut. -/
theorem map_through {β : Type} {other : β → Nat} {f : α → β}
    (same : ∀ call, other (f call) = depth call) (calls : List α) :
    (through depth level calls).map f = through other level (calls.map f) := by
  induction calls using List.reverseRecOn with
  | nil => rfl
  | append_singleton calls call ih =>
      by_cases shallow : depth call ≤ level
      · rw [through_concat_of_le _ shallow, List.map_append, List.map_singleton,
          through_concat_of_le _ (by rwa [same])]
      · have deep : level < depth call := Nat.lt_of_not_le shallow
        rw [through_concat_of_lt _ deep, ih, List.map_append, List.map_singleton,
          through_concat_of_lt _ (by rwa [same])]

theorem map_beyond {β : Type} {other : β → Nat} {f : α → β}
    (same : ∀ call, other (f call) = depth call) (calls : List α) :
    (beyond depth level calls).map f = beyond other level (calls.map f) := by
  have cut : (through depth level calls).map f ++ (beyond depth level calls).map f =
      through other level (calls.map f) ++ beyond other level (calls.map f) := by
    rw [← List.map_append, through_append_beyond, through_append_beyond]
  rw [map_through same] at cut
  exact List.append_cancel_left cut

end Cut

/-- Whether a call is open at `level`: the last call at this level or above it
stands exactly at it. -/
def IsOpen (level : Nat) (depths : List Nat) : Prop :=
  (through id level depths).getLast? = some level

instance (level : Nat) (depths : List Nat) : Decidable (IsOpen level depths) :=
  inferInstanceAs (Decidable (_ = _))

/-- The site of the call open at `level`: the number of calls at this level before
it. A level without an open call has 0 instead. -/
def openSite (level : Nat) (depths : List Nat) : Nat :=
  if IsOpen level depths then (through id level depths).dropLast.count level else 0

/-- The link of the call open at the level below `above`: the site open at `above`.
A level without an open call has 0 instead. -/
def openLink (above : Nat) (depths : List Nat) : Nat :=
  if IsOpen (above + 1) depths then openSite above depths else 0

/-- The sites open at the levels 1 to `depth`. -/
def path (depths : List Nat) (depth : Nat) : List Nat :=
  (List.range depth).map fun above => openSite (above + 1) depths

/-- The links at the levels 1 to `depth`. -/
def links (depths : List Nat) (depth : Nat) : List Nat :=
  (List.range depth).map fun above => openLink above depths

section Step

variable {level depth : Nat} {depths : List Nat}

@[simp]
theorem not_isOpen_nil : ¬ IsOpen level [] := by
  simp [IsOpen]

theorem isOpen_concat_of_lt (above : level < depth) :
    IsOpen level (depths ++ [depth]) ↔ IsOpen level depths := by
  rw [IsOpen, IsOpen, through_concat_of_lt depths above]

theorem isOpen_concat_self : IsOpen depth (depths ++ [depth]) := by
  rw [IsOpen, through_concat_of_le depths (Nat.le_refl depth), List.getLast?_concat]

/-- A call closes every level deeper than its own. -/
theorem not_isOpen_concat_of_gt (below : depth < level) :
    ¬ IsOpen level (depths ++ [depth]) := by
  rw [IsOpen, through_concat_of_le depths below.le, List.getLast?_concat, Option.some_inj]
  exact below.ne

@[simp]
theorem openSite_nil : openSite level [] = 0 :=
  if_neg not_isOpen_nil

/-- The site open at a level depends on the cut alone. -/
theorem openSite_congr {other : List Nat}
    (cut : through id level depths = through id level other) :
    openSite level depths = openSite level other := by
  have opened : IsOpen level depths ↔ IsOpen level other := by
    rw [IsOpen, IsOpen, cut]
  simp only [openSite, opened, cut]

theorem openSite_concat_of_lt (above : level < depth) :
    openSite level (depths ++ [depth]) = openSite level depths :=
  openSite_congr (through_concat_of_lt depths above)

theorem openSite_concat_self : openSite depth (depths ++ [depth]) = depths.count depth := by
  rw [openSite, if_pos isOpen_concat_self, through_concat_of_le depths (Nat.le_refl depth),
    List.dropLast_concat]

theorem openSite_concat_of_gt (below : depth < level) :
    openSite level (depths ++ [depth]) = 0 :=
  if_neg (not_isOpen_concat_of_gt below)

@[simp]
theorem openLink_nil : openLink level [] = 0 :=
  if_neg not_isOpen_nil

theorem openLink_concat_of_lt (above : level + 1 < depth) :
    openLink level (depths ++ [depth]) = openLink level depths := by
  simp only [openLink, isOpen_concat_of_lt above,
    openSite_concat_of_lt (Nat.lt_of_succ_lt above)]

theorem openLink_concat_self :
    openLink depth (depths ++ [depth + 1]) = openSite depth depths := by
  rw [openLink, if_pos isOpen_concat_self, openSite_concat_of_lt (Nat.lt_succ_self depth)]

theorem openLink_concat_of_gt (below : depth < level + 1) :
    openLink level (depths ++ [depth]) = 0 :=
  if_neg (not_isOpen_concat_of_gt below)

end Step

/-- A level with an open call was reached. -/
theorem mem_of_isOpen {level : Nat} {depths : List Nat} (isOpen : IsOpen level depths) :
    level ∈ depths :=
  (through_sublist depths).subset (List.mem_of_getLast? isOpen)

/-- An open site counts calls at its own level. -/
theorem openSite_le_count (level : Nat) (depths : List Nat) :
    openSite level depths ≤ depths.count level := by
  rw [openSite]
  split
  · exact ((List.dropLast_sublist _).trans (through_sublist depths)).count_le level
  · exact Nat.zero_le _

end CallTrace.Nesting

namespace CallTrace

/-- The level at which a frame is entered: its depth as a plain number. -/
def CallFrame.level (frame : CallFrame) : Nat :=
  frame.depth.toNat

/-- The level at which the call of a record was entered. -/
def CallRecord.level (record : CallRecord) : Nat :=
  record.frame.level

/-- A frame of which nothing is told but its depth. -/
def CallFrame.bare (depth : UInt64) : CallFrame :=
  { (default : CallFrame) with depth := depth }

theorem map_level_map_frame (records : List CallRecord) :
    (records.map CallRecord.frame).map CallFrame.level = records.map CallRecord.level :=
  List.map_map

namespace Nesting

/-- The record that a frame gets as the last of `frames`, all of which were entered
since the last reset. -/
def record (frames : List CallFrame) (frame : CallFrame) : CallRecord where
  frame := frame
  links := (links (frames.map CallFrame.level) frame.level).map UInt32.ofNat
  path := (path (frames.map CallFrame.level) frame.level).map UInt32.ofNat

/-- The records of frames that are entered in this order, each made from the frames
up to its own. -/
def records (frames : List CallFrame) : List CallRecord :=
  frames.mapIdx fun place frame => record (frames.take (place + 1)) frame

/-- Records are made for frames as they are, and in their order. -/
theorem map_frame_records (frames : List CallFrame) :
    (records frames).map CallRecord.frame = frames := by
  apply List.ext_getElem (by simp [records])
  intro place _ _
  simp only [records, List.getElem_map, List.getElem_mapIdx, record]

/-- What is made of each element and the ones up to it does not change when one more comes
last. With `own` the elements up to it include the element itself. -/
theorem mapIdx_take_concat {α β : Type} (make : List α → α → β) (elements : List α) (last : α)
    {own : Nat} (le : own ≤ 1) :
    (elements ++ [last]).mapIdx
        (fun place element => make ((elements ++ [last]).take (place + own)) element) =
      elements.mapIdx (fun place element => make (elements.take (place + own)) element) ++
        [make ((elements ++ [last]).take (elements.length + own)) last] := by
  rw [List.mapIdx_concat]
  refine congrArg (· ++ _) (List.ext_getElem (by simp) fun place within _ => ?_)
  have inside : place + own ≤ elements.length := by
    have : place < elements.length := by simpa using within
    omega
  simp only [List.getElem_mapIdx, List.take_append_of_le_length inside]

theorem records_concat (frames : List CallFrame) (frame : CallFrame) :
    records (frames ++ [frame]) = records frames ++ [record (frames ++ [frame]) frame] := by
  rw [records, mapIdx_take_concat record frames frame (Nat.le_refl 1),
    List.take_of_length_le (by simp), records]

end Nesting

end CallTrace
