/-
# What the buffers hold, level by level

A buffer is read through `slot`, which does not tell a level that was never
allocated from an empty one, and the operations are described by what they do to
every slot. Read from level 0 downward the slots are one list, and folding a level
into the next one up moves nothing within that list: it only moves the place where
the list is cut into levels.
-/

import CallTrace.DepthBuffers
import CallTrace.Proofs.GrownArray
import Mathlib.Data.List.Basic
import Mathlib.Order.MinMax

namespace CallTrace.DepthBuffers

variable {α : Type} {buffers : DepthBuffers α}

/-- What waits at the first `count` levels, level by level. -/
def held (buffers : DepthBuffers α) (count : Nat) : List α :=
  (List.range count).flatMap fun level => (buffers.slot level).toList

/-- The rows of buffers that come about by adding records, touching, folding a level
into a higher one, draining and resetting, in any order. -/
inductive Reachable : DepthBuffers α → Prop
  | empty : Reachable .empty
  | touch {buffers : DepthBuffers α} (depth : Nat) (reachable : Reachable buffers) :
      Reachable (buffers.touch depth)
  | push {buffers : DepthBuffers α} (depth : Nat) (record : α) (reachable : Reachable buffers) :
      Reachable (buffers.push depth record)
  | fold {buffers : DepthBuffers α} {parent child : Nat} (above : parent < child)
      (reachable : Reachable buffers) : Reachable (buffers.fold parent child)
  | drain {buffers : DepthBuffers α} (depth : Nat) (reachable : Reachable buffers) :
      Reachable (buffers.drain depth).2
  | reset {buffers : DepthBuffers α} (reachable : Reachable buffers) : Reachable buffers.reset

@[simp]
theorem slot_empty (level : Nat) : (empty : DepthBuffers α).slot level = #[] := rfl

/-- A level that is not allocated has nothing waiting. -/
theorem slot_of_size_le {level : Nat} (beyond : buffers.slots.size ≤ level) :
    buffers.slot level = #[] :=
  GrownArray.getD_of_size_le beyond

@[simp]
theorem slot_touch (buffers : DepthBuffers α) (depth level : Nat) :
    (buffers.touch depth).slot level = buffers.slot level :=
  GrownArray.getD_append_replicate _ _ _ level

theorem lt_size_touch (buffers : DepthBuffers α) (depth : Nat) :
    depth < (buffers.touch depth).slots.size :=
  GrownArray.lt_size_append_replicate _ _ depth

theorem slot_modifySlot_of_ne {depth level : Nat} (apart : level ≠ depth)
    (change : Array α → Array α) :
    (buffers.modifySlot depth change).slot level = buffers.slot level := by
  rw [slot, slot, modifySlot, Array.getD_eq_getD_getElem?, Array.getD_eq_getD_getElem?,
    Array.getElem?_modify, if_neg apart.symm]

theorem slot_modifySlot_self {depth : Nat} (allocated : depth < buffers.slots.size)
    (change : Array α → Array α) :
    (buffers.modifySlot depth change).slot depth = change (buffers.slot depth) := by
  rw [slot, slot, modifySlot, Array.getD_eq_getD_getElem?, Array.getD_eq_getD_getElem?,
    Array.getElem?_modify, if_pos rfl, Array.getElem?_eq_getElem allocated]
  rfl

/-- Emptying a level empties it, whether it was allocated or not. -/
theorem slot_clear (buffers : DepthBuffers α) (depth : Nat) :
    (buffers.modifySlot depth fun _ => #[]).slot depth = #[] := by
  by_cases allocated : depth < buffers.slots.size
  · exact slot_modifySlot_self allocated _
  · refine slot_of_size_le ?_
    rw [modifySlot, Array.size_modify]
    exact Nat.le_of_not_lt allocated

theorem slot_push_self (buffers : DepthBuffers α) (depth : Nat) (record : α) :
    (buffers.push depth record).slot depth = (buffers.slot depth).push record := by
  rw [push, slot_modifySlot_self (lt_size_touch buffers depth), slot_touch]

theorem slot_push_of_ne (record : α) {depth level : Nat} (apart : level ≠ depth) :
    (buffers.push depth record).slot level = buffers.slot level := by
  rw [push, slot_modifySlot_of_ne apart, slot_touch]

theorem slot_fold_parent {parent child : Nat} (apart : parent ≠ child) :
    (buffers.fold parent child).slot parent = buffers.slot parent ++ buffers.slot child := by
  rw [fold]
  split
  · rename_i nothing
    rw [Array.isEmpty_iff.mp nothing, Array.append_empty]
  · rw [slot_modifySlot_of_ne apart, slot_modifySlot_self (lt_size_touch buffers parent),
      slot_touch]

theorem slot_fold_child (buffers : DepthBuffers α) (parent child : Nat) :
    (buffers.fold parent child).slot child = #[] := by
  rw [fold]
  split
  · rename_i nothing
    exact Array.isEmpty_iff.mp nothing
  · exact slot_clear _ child

theorem slot_fold_of_ne {parent child level : Nat} (notParent : level ≠ parent)
    (notChild : level ≠ child) : (buffers.fold parent child).slot level = buffers.slot level := by
  rw [fold]
  split
  · rfl
  · rw [slot_modifySlot_of_ne notChild, slot_modifySlot_of_ne notParent, slot_touch]

theorem slot_drain_self (buffers : DepthBuffers α) (depth : Nat) :
    (buffers.drain depth).2.slot depth = #[] :=
  slot_clear buffers depth

theorem slot_drain_of_ne {depth level : Nat} (apart : level ≠ depth) :
    (buffers.drain depth).2.slot level = buffers.slot level :=
  slot_modifySlot_of_ne apart _

theorem slot_reset (buffers : DepthBuffers α) (level : Nat) :
    buffers.reset.slot level = if level < buffers.touched then #[] else buffers.slot level := by
  rw [slot, reset, GrownArray.getD_mapIdx]
  by_cases allocated : level < buffers.slots.size
  · rw [if_pos allocated]
    rfl
  · rw [if_neg allocated, slot_of_size_le (Nat.le_of_not_lt allocated), ite_self]

/-- Looking through the levels that are allocated tells about all levels. -/
theorem isEmptyBelow_iff (buffers : DepthBuffers α) (depth : Nat) :
    buffers.isEmptyBelow depth = true ↔ ∀ level, depth < level → buffers.slot level = #[] := by
  rw [isEmptyBelow, List.all_eq_true]
  constructor
  · intro nothing level deeper
    by_cases allocated : level < buffers.slots.size
    · obtain ⟨place, rfl⟩ := Nat.exists_eq_add_of_lt deeper
      rw [slot, GrownArray.getD_of_lt allocated]
      apply Array.isEmpty_iff.mp
      apply nothing
      rw [List.mem_drop_iff_getElem]
      refine ⟨place, ?_, ?_⟩
      · rw [Array.length_toList]
        omega
      · simp only [Array.getElem_toList, Nat.add_right_comm]
    · exact slot_of_size_le (Nat.le_of_not_lt allocated)
  · intro nothing waiting member
    obtain ⟨place, within, rfl⟩ := List.mem_drop_iff_getElem.mp member
    have allocated : depth + 1 + place < buffers.slots.size := by
      rw [Array.length_toList] at within
      omega
    have empty := nothing (depth + 1 + place) (by omega)
    rw [slot, GrownArray.getD_of_lt allocated] at empty
    exact Array.isEmpty_iff.mpr empty

/-- The levels in use are allocated, and nothing waits beyond them. -/
structure WellFormed (buffers : DepthBuffers α) : Prop where
  touched_le : buffers.touched ≤ buffers.slots.size
  unused : ∀ level, buffers.touched ≤ level → buffers.slot level = #[]

namespace WellFormed

theorem empty : (DepthBuffers.empty : DepthBuffers α).WellFormed where
  touched_le := Nat.le_refl 0
  unused level _ := slot_empty level

theorem touch (wellFormed : buffers.WellFormed) (depth : Nat) :
    (buffers.touch depth).WellFormed where
  touched_le := by
    have kept := wellFormed.touched_le
    simp only [DepthBuffers.touch, Array.size_append, Array.size_replicate]
    omega
  unused level beyond := by
    rw [slot_touch]
    exact wellFormed.unused level ((Nat.le_max_left _ _).trans beyond)

/-- A change of one level in use keeps the levels beyond them empty. -/
theorem modifySlot (wellFormed : buffers.WellFormed) {depth : Nat}
    (inUse : depth < buffers.touched) (change : Array α → Array α) :
    (buffers.modifySlot depth change).WellFormed where
  touched_le := by
    rw [DepthBuffers.modifySlot, Array.size_modify]
    exact wellFormed.touched_le
  unused level beyond := by
    have apart : level ≠ depth := (inUse.trans_le beyond).ne'
    rw [slot_modifySlot_of_ne apart]
    exact wellFormed.unused level beyond

/-- A level may be emptied even if it is not in use. -/
theorem clear (wellFormed : buffers.WellFormed) (depth : Nat) :
    (buffers.modifySlot depth fun _ => #[]).WellFormed where
  touched_le := by
    rw [DepthBuffers.modifySlot, Array.size_modify]
    exact wellFormed.touched_le
  unused level beyond := by
    by_cases same : level = depth
    · rw [same, slot_clear]
    · rw [slot_modifySlot_of_ne same]
      exact wellFormed.unused level beyond

theorem push (wellFormed : buffers.WellFormed) (depth : Nat) (record : α) :
    (buffers.push depth record).WellFormed :=
  (wellFormed.touch depth).modifySlot (Nat.le_max_right _ _) _

theorem fold (wellFormed : buffers.WellFormed) (parent child : Nat) :
    (buffers.fold parent child).WellFormed := by
  rw [DepthBuffers.fold]
  split
  · exact wellFormed
  · exact ((wellFormed.touch parent).modifySlot (Nat.le_max_right _ _) _).clear child

theorem drain (wellFormed : buffers.WellFormed) (depth : Nat) :
    (buffers.drain depth).2.WellFormed :=
  wellFormed.clear depth

theorem slot_reset (wellFormed : buffers.WellFormed) (level : Nat) :
    buffers.reset.slot level = #[] := by
  rw [DepthBuffers.slot_reset]
  split
  · rfl
  · rename_i beyond
    exact wellFormed.unused level (Nat.le_of_not_lt beyond)

theorem reset (wellFormed : buffers.WellFormed) : buffers.reset.WellFormed where
  touched_le := Nat.zero_le _
  unused level _ := wellFormed.slot_reset level

end WellFormed

theorem Reachable.wellFormed (reachable : Reachable buffers) : buffers.WellFormed := by
  induction reachable with
  | empty => exact .empty
  | touch depth _ ih => exact ih.touch depth
  | push depth record _ ih => exact ih.push depth record
  | fold _ _ ih => exact ih.fold _ _
  | drain depth _ ih => exact ih.drain depth
  | reset _ ih => exact ih.reset

@[simp]
theorem held_zero (buffers : DepthBuffers α) : buffers.held 0 = [] := rfl

theorem held_succ (buffers : DepthBuffers α) (count : Nat) :
    buffers.held (count + 1) = buffers.held count ++ (buffers.slot count).toList := by
  rw [held, List.range_succ, List.flatMap_append, List.flatMap_singleton, held]

/-- The first levels hold the same if their buffers are the same. -/
theorem held_congr {other : DepthBuffers α} {count : Nat}
    (same : ∀ level < count, buffers.slot level = other.slot level) :
    buffers.held count = other.held count := by
  rw [held, held]
  exact List.flatMap_congr fun level member => by rw [same level (List.mem_range.mp member)]

/-- If all levels are empty then nothing is held. -/
theorem held_eq_nil (nothing : ∀ level, buffers.slot level = #[]) (count : Nat) :
    buffers.held count = [] := by
  rw [held, List.flatMap_eq_nil_iff]
  intro level _
  rw [nothing level]

/-- A level that adds nothing to the levels above it is empty. -/
theorem slot_eq_empty_of_held {front whole : List α} {count : Nat}
    (before : front ++ buffers.held count = whole)
    (after : front ++ buffers.held (count + 1) = whole) : buffers.slot count = #[] := by
  rw [held_succ, ← List.append_assoc, before] at after
  exact Array.toList_eq_nil_iff.mp (List.append_right_eq_self.mp after)

/-- Folding a level into the next one up matters only to a cut between the two. -/
theorem held_fold (buffers : DepthBuffers α) (level count : Nat) :
    (buffers.fold level (level + 1)).held count =
      if count = level + 1 then buffers.held (level + 2) else buffers.held count := by
  have upper : ∀ count ≤ level,
      (buffers.fold level (level + 1)).held count = buffers.held count := fun count le =>
    held_congr fun place lt => slot_fold_of_ne (by omega) (by omega)
  have between : (buffers.fold level (level + 1)).held (level + 1) = buffers.held (level + 2) := by
    rw [held_succ, upper level (Nat.le_refl level), slot_fold_parent (by omega),
      Array.toList_append, held_succ, held_succ, List.append_assoc]
  have lower : ∀ count, level + 2 ≤ count →
      (buffers.fold level (level + 1)).held count = buffers.held count := fun count le => by
    induction count, le using Nat.le_induction with
    | base => rw [held_succ, between, slot_fold_child, List.append_nil]
    | succ count le ih =>
        rw [held_succ, ih, slot_fold_of_ne (by omega) (by omega), held_succ]
  split
  · rename_i here
    rw [here, between]
  · obtain above | below : count ≤ level ∨ level + 2 ≤ count := by omega
    · exact upper count above
    · exact lower count below

theorem held_push_of_le (record : α) {depth count : Nat} (above : count ≤ depth) :
    (buffers.push depth record).held count = buffers.held count :=
  held_congr fun _ lt => slot_push_of_ne record (lt.trans_le above).ne

/-- A record added at a level comes last if nothing waits deeper. -/
theorem held_push_of_lt (record : α) {depth count : Nat}
    (nothing : ∀ level, depth < level → buffers.slot level = #[]) (below : depth < count) :
    (buffers.push depth record).held count = buffers.held count ++ [record] := by
  induction count, below using Nat.le_induction with
  | base =>
      rw [held_succ, held_push_of_le record (Nat.le_refl depth), slot_push_self,
        Array.toList_push, held_succ, List.append_assoc]
  | succ count le ih =>
      rw [held_succ, ih, slot_push_of_ne record (by omega), nothing count le, held_succ,
        nothing count le, List.append_nil, List.append_nil]

/-- What is taken out at level 0 stood before everything else. -/
theorem slot_append_held_drain {count : Nat} (positive : 0 < count) :
    (buffers.slot 0).toList ++ (buffers.drain 0).2.held count = buffers.held count := by
  induction count, positive using Nat.le_induction with
  | base => rw [held_succ, held_succ, slot_drain_self, held_zero, held_zero]; simp
  | succ count le ih =>
      rw [held_succ, ← List.append_assoc, ih, slot_drain_of_ne (by omega), held_succ]

end CallTrace.DepthBuffers
