/-
# The table of call sites follows the calls

The table keeps three numbers a level and changes only the level of the call that
is entered and the levels below it. The invariant says that these numbers are what
the whole sequence of depths since the last reset says they should be, for every
level, whether it was ever allocated or not.

A reset writes only to the levels in use. It forgets everything all the same,
because the levels beyond those in use hold nothing.
-/

import CallTrace.Proofs.GrownArray
import CallTrace.Proofs.Nesting
import CallTrace.SiteTable
import Mathlib.Order.MinMax

namespace CallTrace.SiteTable

open Nesting

/-- The tables that come about by entering calls and resetting, in any order. -/
inductive Reachable : SiteTable → Prop
  | empty : Reachable .empty
  | enter {table : SiteTable} (depth : Nat) (reachable : Reachable table) :
      Reachable (table.enter depth).2
  | reset {table : SiteTable} (reachable : Reachable table) : Reachable table.reset

/-- The tables with which a transaction can begin: a new one, or one that was
reset, whatever it had been used for before. -/
inductive Fresh : SiteTable → Prop
  | empty : Fresh .empty
  | reset {table : SiteTable} (reachable : Reachable table) : Fresh table.reset

/-- Enters calls at the given depths in order. -/
def enterAll (depths : List Nat) (table : SiteTable) : SiteTable :=
  depths.foldl (fun table depth => (table.enter depth).2) table

/-- Growing adds levels that read the same as levels that are not there. -/
@[simp]
theorem levelAt_grow (table : SiteTable) (depth level : Nat) :
    (table.grow depth).levelAt level = table.levelAt level :=
  GrownArray.getD_append_replicate _ _ _ level

@[simp]
theorem levelAt_empty (level : Nat) : empty.levelAt level = .unused := rfl

theorem closed_unused : SiteLevel.unused.closed = .unused := rfl

/-- Closing a level at which nothing is open changes nothing. -/
theorem closed_eq_self {site : SiteLevel} (noSite : site.opened = 0) (noLink : site.link = 0) :
    site.closed = site := by
  obtain ⟨next, opened, link⟩ := site
  simp only at noSite noLink
  rw [noSite, noLink, SiteLevel.closed]

/-- A change of every level by its place. What is not allocated stays unused. -/
theorem levelAt_mapIdx (table : SiteTable) (change : Nat → SiteLevel → SiteLevel)
    (touched level : Nat) :
    (SiteTable.mk (table.levels.mapIdx change) touched).levelAt level =
      if level < table.levels.size then change level (table.levelAt level) else .unused :=
  GrownArray.getD_mapIdx _ change _ level

theorem lt_size_grow (table : SiteTable) (depth : Nat) :
    depth < (table.grow depth).levels.size :=
  GrownArray.lt_size_append_replicate _ _ depth

/-- A level that is not allocated reads as unused. -/
theorem levelAt_of_size_le {table : SiteTable} {level : Nat} (beyond : table.levels.size ≤ level) :
    table.levelAt level = .unused :=
  GrownArray.getD_of_size_le beyond

/-- What a level reads once a call was entered at `depth`. -/
theorem levelAt_enter (table : SiteTable) (depth level : Nat) :
    (table.enter depth).2.levelAt level =
      if level = depth then
        ⟨table.nextSite depth + 1, table.nextSite depth,
          if depth = 0 then 0 else (table.levelAt (depth - 1)).opened⟩
      else if depth < level ∧ level < table.touched then (table.levelAt level).closed
      else table.levelAt level := by
  rw [← levelAt_grow table depth level, enter, levelAt_mapIdx]
  split
  · rfl
  · rename_i beyond
    rw [levelAt_of_size_le (Nat.le_of_not_lt beyond), closed_unused, ite_self, if_neg]
    exact fun same => beyond (same ▸ lt_size_grow table depth)

@[simp]
theorem touched_enter (table : SiteTable) (depth : Nat) :
    (table.enter depth).2.touched = max table.touched (depth + 1) := rfl

@[simp]
theorem touched_reset (table : SiteTable) : table.reset.touched = 0 := rfl

theorem levelAt_reset (table : SiteTable) (level : Nat) :
    table.reset.levelAt level =
      if level < table.touched then .unused else table.levelAt level := by
  rw [reset, levelAt_mapIdx]
  split
  · rfl
  · rename_i beyond
    rw [levelAt_of_size_le (Nat.le_of_not_lt beyond), ite_self]

/-- The levels in use are allocated, and those beyond them hold nothing. -/
structure WellFormed (table : SiteTable) : Prop where
  touched_le : table.touched ≤ table.levels.size
  unused : ∀ level, table.touched ≤ level → table.levelAt level = .unused

theorem wellFormed_empty : WellFormed .empty where
  touched_le := Nat.le_refl 0
  unused level _ := levelAt_empty level

theorem WellFormed.enter {table : SiteTable} (wellFormed : table.WellFormed) (depth : Nat) :
    (table.enter depth).2.WellFormed where
  touched_le := by
    have grown := lt_size_grow table depth
    have kept := wellFormed.touched_le
    simp only [SiteTable.enter, Array.size_mapIdx, grow, Array.size_append,
      Array.size_replicate] at grown ⊢
    omega
  unused level beyond := by
    rw [touched_enter] at beyond
    rw [levelAt_enter, if_neg (by omega), if_neg (by omega)]
    exact wellFormed.unused level (by omega)

theorem WellFormed.levelAt_reset {table : SiteTable} (wellFormed : table.WellFormed)
    (level : Nat) : table.reset.levelAt level = .unused := by
  rw [SiteTable.levelAt_reset]
  split
  · rfl
  · rename_i beyond
    exact wellFormed.unused level (Nat.le_of_not_lt beyond)

theorem WellFormed.reset {table : SiteTable} (wellFormed : table.WellFormed) :
    table.reset.WellFormed where
  touched_le := Nat.zero_le _
  unused level _ := wellFormed.levelAt_reset level

theorem Reachable.wellFormed {table : SiteTable} (reachable : Reachable table) :
    table.WellFormed := by
  induction reachable with
  | empty => exact wellFormed_empty
  | enter depth _ ih => exact ih.enter depth
  | reset _ ih => exact ih.reset

/-- What the table holds once calls were entered at `depths`, and no others since
the last reset. -/
structure Records (table : SiteTable) (depths : List Nat) : Prop where
  next : ∀ level, (table.levelAt level).next = UInt32.ofNat (depths.count level)
  opened : ∀ level, (table.levelAt level).opened = UInt32.ofNat (openSite level depths)
  link : ∀ above, (table.levelAt (above + 1)).link = UInt32.ofNat (openLink above depths)
  inUse : ∀ level, level < table.touched ↔ ∃ depth ∈ depths, level ≤ depth

/-- A table with which a transaction can begin holds nothing. -/
theorem Fresh.records {table : SiteTable} (fresh : Fresh table) : table.Records [] := by
  have blank : ∀ level, table.levelAt level = .unused := by
    cases fresh with
    | empty => exact levelAt_empty
    | reset reachable => exact reachable.wellFormed.levelAt_reset
  have untouched : table.touched = 0 := by
    cases fresh <;> rfl
  constructor
  · intro level
    rw [blank, List.count_nil]
    rfl
  · intro level
    rw [blank, openSite_nil]
    rfl
  · intro above
    rw [blank, openLink_nil]
    rfl
  · simp [untouched]

namespace Records

variable {table : SiteTable} {depths : List Nat}

/-- A level beyond those in use has no open call. -/
theorem not_isOpen (records : table.Records depths) {level : Nat}
    (beyond : table.touched ≤ level) : ¬ IsOpen level depths := fun isOpen =>
  absurd ((records.inUse level).mpr ⟨level, mem_of_isOpen isOpen, Nat.le_refl level⟩)
    (Nat.not_lt.mpr beyond)

/-- Below a call that is entered, every level loses its open call. The levels that
the table leaves alone had none. -/
theorem levelAt_enter_of_gt (records : table.Records depths) {depth level : Nat}
    (below : depth < level) :
    (table.enter depth).2.levelAt level = (table.levelAt level).closed := by
  rw [levelAt_enter, if_neg below.ne']
  split
  · rfl
  · rename_i outside
    have closed : ¬ IsOpen level depths := records.not_isOpen (by omega)
    obtain ⟨above, rfl⟩ := Nat.exists_eq_add_one_of_ne_zero (Nat.ne_zero_of_lt below)
    have noSite : (table.levelAt (above + 1)).opened = 0 := by
      rw [records.opened, openSite, if_neg closed]
      rfl
    have noLink : (table.levelAt (above + 1)).link = 0 := by
      rw [records.link, openLink, if_neg closed]
      rfl
    rw [closed_eq_self noSite noLink]

/-- One step: entering a call extends what the table has recorded by its depth. -/
theorem enter (records : table.Records depths) (depth : Nat) :
    (table.enter depth).2.Records (depths ++ [depth]) where
  next level := by
    by_cases same : level = depth
    · subst same
      rw [levelAt_enter, if_pos rfl, List.count_append, List.count_singleton_self,
        UInt32.ofNat_add]
      exact congrArg (· + 1) (records.next level)
    · have kept : ((table.enter depth).2.levelAt level).next = (table.levelAt level).next := by
        rw [levelAt_enter, if_neg same]
        split <;> rfl
      rw [kept, records.next, List.count_append, List.count_singleton,
        if_neg (by simpa using Ne.symm same), Nat.add_zero]
  opened level := by
    rcases Nat.lt_trichotomy level depth with above | rfl | below
    · rw [levelAt_enter, if_neg above.ne, if_neg (by omega), records.opened,
        openSite_concat_of_lt above]
    · rw [levelAt_enter, if_pos rfl, openSite_concat_self]
      exact records.next level
    · rw [records.levelAt_enter_of_gt below, openSite_concat_of_gt below]
      rfl
  link above := by
    rcases Nat.lt_trichotomy (above + 1) depth with higher | rfl | below
    · rw [levelAt_enter, if_neg higher.ne, if_neg (by omega), records.link,
        openLink_concat_of_lt higher]
    · rw [levelAt_enter, if_pos rfl, if_neg above.succ_ne_zero, openLink_concat_self]
      exact records.opened above
    · rw [records.levelAt_enter_of_gt below, openLink_concat_of_gt below]
      rfl
  inUse level := by
    rw [touched_enter, lt_max_iff, records.inUse, Nat.lt_succ_iff]
    simp [or_and_right, exists_or]

/-- A whole run: the table has recorded the depths of all calls entered. -/
theorem enterAll {start : SiteTable} {earlier : List Nat} (records : start.Records earlier)
    (depths : List Nat) : (start.enterAll depths).Records (earlier ++ depths) := by
  induction depths generalizing start earlier with
  | nil => rwa [List.append_nil]
  | cons depth depths ih =>
      rw [List.append_cons]
      exact ih (records.enter depth)

theorem path_eq (records : table.Records depths) (depth : Nat) :
    table.path depth = (Nesting.path depths depth).map UInt32.ofNat := by
  rw [SiteTable.path, Nesting.path, List.map_map]
  exact List.map_congr_left fun above _ => records.opened (above + 1)

theorem links_eq (records : table.Records depths) (depth : Nat) :
    table.links depth = (Nesting.links depths depth).map UInt32.ofNat := by
  rw [SiteTable.links, Nesting.links, List.map_map]
  exact List.map_congr_left fun above _ => records.link above

theorem deepest_eq (records : table.Records depths) : table.deepest = depths.max? := by
  rw [deepest]
  split
  · rename_i untouched
    symm
    rw [List.max?_eq_none_iff, List.eq_nil_iff_forall_not_mem]
    intro depth member
    have reached := (records.inUse depth).mpr ⟨depth, member, Nat.le_refl depth⟩
    omega
  · rename_i touched
    symm
    rw [List.max?_eq_some_iff]
    have within : ∀ depth ∈ depths, depth ≤ table.touched - 1 := fun depth member => by
      have reached := (records.inUse depth).mpr ⟨depth, member, Nat.le_refl depth⟩
      omega
    obtain ⟨depth, member, le⟩ := (records.inUse (table.touched - 1)).mp (by omega)
    exact ⟨Nat.le_antisymm le (within depth member) ▸ member, within⟩

end Records

end CallTrace.SiteTable
