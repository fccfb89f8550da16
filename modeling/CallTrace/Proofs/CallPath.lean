/-
# Paths are what the history of calls says

A site is one of the 32-bit numbers that a level gives out, so the numbers in a path
are those of the whole history as long as no level gives out more than there are.
This holds of the table itself, whatever it was used for before its last reset, and
of every record that a merger makes from it.
-/

import CallTrace.Proofs.Merger

namespace CallTrace

namespace Nesting

/-- Every level has fewer calls than there are sites. -/
def SitesFit (depths : List Nat) : Prop :=
  ∀ level, depths.count level < UInt32.size

theorem SitesFit.sublist {depths some : List Nat} (fit : SitesFit depths)
    (sublist : some.Sublist depths) : SitesFit some := fun level =>
  (sublist.count_le level).trans_lt (fit level)

/-- A history that is short as a whole is short at every level. -/
theorem SitesFit.of_length_lt {depths : List Nat} (short : depths.length < UInt32.size) :
    SitesFit depths := fun _ =>
  List.count_le_length.trans_lt short

theorem map_toNat_map_ofNat {numbers : List Nat}
    (small : ∀ number ∈ numbers, number < UInt32.size) :
    (numbers.map UInt32.ofNat).map UInt32.toNat = numbers := by
  calc
    (numbers.map UInt32.ofNat).map UInt32.toNat = numbers.map id := by
      rw [List.map_map]
      apply List.map_congr_left
      intro number member
      exact UInt32.toNat_ofNat_of_lt' (small number member)
    _ = numbers := List.map_id numbers

theorem openLink_le_openSite (above : Nat) (depths : List Nat) :
    openLink above depths ≤ openSite above depths := by
  rw [openLink]
  split
  · exact Nat.le_refl _
  · exact Nat.zero_le _

theorem path_lt {depths : List Nat} (fit : SitesFit depths) (depth : Nat) :
    ∀ site ∈ path depths depth, site < UInt32.size := by
  intro site member
  obtain ⟨above, -, rfl⟩ := List.mem_map.mp member
  exact (openSite_le_count _ _).trans_lt (fit _)

theorem links_lt {depths : List Nat} (fit : SitesFit depths) (depth : Nat) :
    ∀ link ∈ links depths depth, link < UInt32.size := by
  intro link member
  obtain ⟨above, -, rfl⟩ := List.mem_map.mp member
  exact ((openLink_le_openSite _ _).trans (openSite_le_count _ _)).trans_lt (fit _)

theorem getElem?_records (frames : List CallFrame) (place : Nat) :
    (records frames)[place]? = frames[place]?.map (record (frames.take (place + 1))) :=
  List.getElem?_mapIdx

end Nesting

namespace SiteTable

open Nesting

variable {table : SiteTable} {depths : List Nat}

namespace Records

theorem toNat_nextSite (records : table.Records depths) (fit : SitesFit depths) (depth : Nat) :
    (table.nextSite depth).toNat = depths.count depth := by
  rw [nextSite, records.next]
  exact UInt32.toNat_ofNat_of_lt' (fit depth)

theorem toNat_path (records : table.Records depths) (fit : SitesFit depths) (depth : Nat) :
    (table.path depth).map UInt32.toNat = Nesting.path depths depth := by
  rw [records.path_eq, map_toNat_map_ofNat (path_lt fit depth)]

theorem toNat_links (records : table.Records depths) (fit : SitesFit depths) (depth : Nat) :
    (table.links depth).map UInt32.toNat = Nesting.links depths depth := by
  rw [records.links_eq, map_toNat_map_ofNat (links_lt fit depth)]

end Records

end SiteTable

namespace Merger

open Nesting

/-- The records that a merger makes, read as numbers. -/
theorem Holds.toNat_record {merger : Merger} {handed recent : List CallRecord}
    (holds : merger.Holds handed recent)
    (fit : SitesFit ((handed ++ recent).map CallRecord.level)) {place : Nat} {record : CallRecord}
    (here : (handed ++ recent)[place]? = some record) :
    record.path.map UInt32.toNat =
        path (((handed ++ recent).take (place + 1)).map CallRecord.level) record.level ∧
      record.links.map UInt32.toNat =
        links (((handed ++ recent).take (place + 1)).map CallRecord.level) record.level := by
  rw [holds.placed, getElem?_records] at here
  obtain ⟨frame, -, rfl⟩ := Option.map_eq_some_iff.mp here
  have fitHere : SitesFit (((handed ++ recent).take (place + 1)).map CallRecord.level) :=
    fit.sublist ((List.take_sublist _ _).map _)
  simp only [Nesting.record, ← List.map_take, map_level_map_frame]
  exact ⟨map_toNat_map_ofNat (path_lt fitHere _), map_toNat_map_ofNat (links_lt fitHere _)⟩

end Merger

namespace CallPath

open Nesting

/-- The table of sites answers every question by the calls entered since its last
reset, and so does every record that a merger hands out or still holds, where the
calls are those accepted up to the record's own. -/
theorem table_and_records_follow_history :
    (∀ {start : SiteTable} (depths : List Nat), start.Fresh → SitesFit depths →
      let table := start.enterAll depths
      (∀ depth, (table.nextSite depth).toNat = depths.count depth) ∧
        (∀ depth, (table.path depth).map UInt32.toNat = path depths depth) ∧
        (∀ depth, (table.links depth).map UInt32.toNat = links depths depth) ∧
        table.deepest = depths.max?) ∧
      ∀ {maxDepth : UInt64} {start : Merger} (operations : List Merger.Operation),
        start.Fresh maxDepth →
        SitesFit ((Merger.accepted maxDepth operations).map CallFrame.level) →
        let frames := Merger.accepted maxDepth operations
        let made := (Merger.run operations start).1 ++ (Merger.run operations start).2.inside
        made.map CallRecord.frame = frames ∧
          ∀ place record, made[place]? = some record →
            record.path.map UInt32.toNat =
                path ((frames.take (place + 1)).map CallFrame.level) record.level ∧
              record.links.map UInt32.toNat =
                links ((frames.take (place + 1)).map CallFrame.level) record.level := by
  constructor
  · intro start depths fresh fit
    have records : (start.enterAll depths).Records depths := fresh.records.enterAll depths
    exact ⟨records.toNat_nextSite fit, records.toNat_path fit, records.toNat_links fit,
      records.deepest_eq⟩
  · intro maxDepth start operations fresh fit
    obtain ⟨still, holds, all, -⟩ := fresh.run_holds operations
    simp only [holds.inside_eq, ← all, ← List.map_take, map_level_map_frame] at fit ⊢
    exact ⟨trivial, fun place record here => holds.toNat_record fit here⟩

/-- A subtree is closed and a level skipped before the last call of a table that was
used before, and a trace was handed out before the last two calls of a merger. -/
theorem path_after_closed_subtree :
    let operations : List Merger.Operation := [.accept (.bare 0), .accept (.bare 1),
      .accept (.bare 7), .finish, .accept (.bare 1), .accept (.bare 2)]
    let run := Merger.run operations (Merger.new 3).reset
    (SitesFit [0, 1, 2, 2, 1, 3] ∧
        (((SiteTable.empty.enter 4).2.reset.enterAll [0, 1, 2, 2, 1, 3]).path 3).map
          UInt32.toNat = [1, 0, 0]) ∧
      SitesFit ((Merger.accepted 3 operations).map CallFrame.level) ∧
      ∃ record, (run.1 ++ run.2.inside)[3]? = some record ∧
        record.path.map UInt32.toNat = [1, 0] := by
  intro operations run
  have fitTable : SitesFit [0, 1, 2, 2, 1, 3] := .of_length_lt (by decide)
  have fitMerger : SitesFit ((Merger.accepted 3 operations).map CallFrame.level) :=
    .of_length_lt (by decide)
  obtain ⟨-, paths, -⟩ := table_and_records_follow_history.1 _
    (.reset (.enter 4 .empty)) fitTable
  obtain ⟨frames, records⟩ :=
    table_and_records_follow_history.2 operations (.reset .new) fitMerger
  have last : ((run.1 ++ run.2.inside).map CallRecord.frame)[3]? = some (.bare 2) := by
    rw [frames]
    rfl
  rw [List.getElem?_map] at last
  obtain ⟨record, here, frame⟩ := Option.map_eq_some_iff.mp last
  refine ⟨⟨fitTable, (paths 3).trans (by decide)⟩, fitMerger, record, here, ?_⟩
  rw [(records 3 record here).1, CallRecord.level, frame]
  decide

end CallPath

end CallTrace
