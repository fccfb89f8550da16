/-
# Paths are addresses in the tree of calls

The numbers in a path come from counters that know nothing of the tree. They still
tell any two calls below the top level apart, because the counter of a level never
goes back; and where calls are nested as an engine nests them, without skipping a
level on the way down, they tell which call is inside which. The reason is one
fact: the call open at a level is the only one of its level with that number, and it
is around everything that comes after it up to the present.

Top-level calls have empty paths. Which of them is around a call is told by the
first of its links instead.
-/

import CallTrace.Proofs.CallPath
import CallTrace.Proofs.CallTree
import Mathlib.Data.List.Chain

namespace CallTrace

namespace Nesting

/-- The first call is at the top, and each of the others is at most one level deeper
than the one before it. -/
def WellNested (depths : List Nat) : Prop :=
  (∀ first ∈ depths.head?, first = 0) ∧
    depths.IsChain fun previous next => next ≤ previous + 1

instance (depths : List Nat) : Decidable (WellNested depths) :=
  inferInstanceAs (Decidable (_ ∧ _))

theorem WellNested.left_of_append {front rest : List Nat} (nested : WellNested (front ++ rest)) :
    WellNested front := by
  refine ⟨fun first head => nested.1 first ?_, nested.2.left_of_append⟩
  rw [List.head?_append, Option.mem_def.mp head]
  rfl

/-- Every level above a call is open while the call is, its own included. -/
theorem WellNested.isOpen {depths : List Nat} {level depth : Nat}
    (nested : WellNested (depths ++ [depth])) (above : level ≤ depth) :
    IsOpen level (depths ++ [depth]) := by
  induction depths using List.reverseRecOn generalizing depth with
  | nil =>
      obtain rfl : depth = 0 := nested.1 depth rfl
      obtain rfl : level = 0 := Nat.le_zero.mp above
      exact isOpen_concat_self
  | append_singleton depths previous ih =>
      rcases above.eq_or_lt with rfl | strictly
      · exact isOpen_concat_self
      · rw [isOpen_concat_of_lt strictly]
        have step : depth ≤ previous + 1 := by
          have chain := nested.2
          rw [List.append_assoc, List.singleton_append, List.isChain_split] at chain
          simpa using chain.2
        exact ih nested.left_of_append (by omega)

section OpenCall

variable {level : Nat} {before after : List Nat}

theorem through_split (deep : ∀ depth ∈ after, level < depth) :
    through id level (before ++ level :: after) = before ++ [level] := by
  have cut : through id level ((before ++ [level]) ++ after) =
      through id level (before ++ [level]) :=
    through_append_of_lt _ deep
  rw [List.append_cons, cut]
  exact through_concat_of_le _ (Nat.le_refl level)

/-- Deeper calls do not close a level. -/
theorem isOpen_split (deep : ∀ depth ∈ after, level < depth) :
    IsOpen level (before ++ level :: after) := by
  rw [IsOpen, through_split deep, List.getLast?_concat]

theorem openSite_split (deep : ∀ depth ∈ after, level < depth) :
    openSite level (before ++ level :: after) = before.count level := by
  rw [openSite, if_pos (isOpen_split deep), through_split deep, List.dropLast_concat]

/-- The call open at a level has only deeper ones after it. -/
theorem IsOpen.exists_split {depths : List Nat} (isOpen : IsOpen level depths) :
    ∃ before after, depths = before ++ level :: after ∧ ∀ depth ∈ after, level < depth := by
  induction depths using List.reverseRecOn with
  | nil => exact absurd isOpen not_isOpen_nil
  | append_singleton depths depth ih =>
      rcases Nat.lt_trichotomy level depth with above | rfl | below
      · rw [isOpen_concat_of_lt above] at isOpen
        obtain ⟨before, after, rfl, deep⟩ := ih isOpen
        refine ⟨before, after ++ [depth], by simp, ?_⟩
        intro other member
        rcases List.mem_append.mp member with inner | last
        · exact deep other inner
        · rw [List.mem_singleton.mp last]
          exact above
      · exact ⟨depths, [], rfl, List.forall_mem_nil _⟩
      · exact absurd isOpen (not_isOpen_concat_of_gt below)

end OpenCall

section Place

variable {depths : List Nat} {level upper lower : Nat}

theorem take_succ_eq_concat (here : depths[upper]? = some level) :
    depths.take (upper + 1) = depths.take upper ++ [level] := by
  rw [List.take_add_one, here, Option.toList_some]

/-- The counter of a level grows with every call at the level. -/
theorem count_take_lt (here : depths[upper]? = some level) (before : upper < lower) :
    (depths.take upper).count level < (depths.take lower).count level := by
  have upTo : (depths.take (upper + 1)).count level = (depths.take upper).count level + 1 := by
    rw [take_succ_eq_concat here, List.count_append, List.count_singleton_self]
  have grows : (depths.take (upper + 1)).count level ≤ (depths.take lower).count level :=
    (List.take_sublist_take_left (Nat.succ_le_of_lt before)).count_le level
  omega

theorem openSite_own (here : depths[upper]? = some level) :
    openSite level (depths.take (upper + 1)) = (depths.take upper).count level := by
  rw [take_succ_eq_concat here, openSite_concat_self]

theorem WellNested.isOpen_take {depth : Nat} (nested : WellNested depths)
    (here : depths[upper]? = some depth) (above : level ≤ depth) :
    IsOpen level (depths.take (upper + 1)) := by
  rw [← List.take_append_drop (upper + 1) depths] at nested
  have front : WellNested (depths.take (upper + 1)) := nested.left_of_append
  rw [take_succ_eq_concat here] at front ⊢
  exact front.isOpen above

/-- Calls at one level with the same number are the same call. -/
theorem place_eq_of_count_eq (here : depths[upper]? = some level)
    (there : depths[lower]? = some level)
    (same : (depths.take upper).count level = (depths.take lower).count level) :
    upper = lower := by
  rcases Nat.lt_trichotomy upper lower with before | rfl | after
  · exact absurd same (count_take_lt here before).ne
  · rfl
  · exact absurd same (count_take_lt there after).ne'

/-- A history up to some call, cut at an earlier one. -/
theorem take_succ_split (here : depths[upper]? = some level) (before : upper ≤ lower) :
    depths.take (lower + 1) =
      depths.take upper ++ level :: (depths.take (lower + 1)).drop (upper + 1) := by
  have inside : (depths.take (lower + 1))[upper]? = some level := by
    rw [List.getElem?_take_of_lt (Nat.lt_succ_of_le before), here]
  obtain ⟨short, rfl⟩ := List.getElem?_eq_some_iff.mp inside
  calc
    depths.take (lower + 1) =
        (depths.take (lower + 1)).take upper ++ (depths.take (lower + 1)).drop upper :=
      (List.take_append_drop _ _).symm
    _ = _ := by
      rw [List.take_take, Nat.min_eq_left (Nat.le_succ_of_le before),
        List.drop_eq_getElem_cons short]

/-- The call open at a level stands somewhere in the history, with only deeper ones
after it. -/
theorem IsOpen.exists_place (isOpen : IsOpen level (depths.take (lower + 1))) :
    ∃ place ≤ lower, depths[place]? = some level ∧
      ∀ depth ∈ (depths.take (lower + 1)).drop (place + 1), level < depth := by
  obtain ⟨before, after, split, deep⟩ := isOpen.exists_split
  have here : (depths.take (lower + 1))[before.length]? = some level := by
    rw [split, List.getElem?_append_right (Nat.le_refl _), Nat.sub_self]
    rfl
  rw [List.getElem?_take, Option.ite_none_right_eq_some] at here
  obtain ⟨inside, here⟩ := here
  refine ⟨before.length, Nat.le_of_lt_succ inside, here, ?_⟩
  rw [split, List.drop_length_add_append]
  exact deep

/-- The number of the call open at a level is that of a certain call at this level if
and only if none but deeper calls came after it. -/
theorem openSite_eq_count_iff (here : depths[upper]? = some level)
    (isOpen : IsOpen level (depths.take (lower + 1))) :
    openSite level (depths.take (lower + 1)) = (depths.take upper).count level ↔
      upper ≤ lower ∧ ∀ depth ∈ (depths.take (lower + 1)).drop (upper + 1), level < depth := by
  constructor
  · intro same
    obtain ⟨place, le, there, deep⟩ := isOpen.exists_place
    rw [take_succ_split there le, openSite_split deep] at same
    obtain rfl : place = upper := place_eq_of_count_eq there here same
    exact ⟨le, deep⟩
  · rintro ⟨before, deep⟩
    rw [take_succ_split here before, openSite_split deep]

end Place

section Path

variable {depths : List Nat} {level depth : Nat}

/-- A path leads to the site of its own level last. -/
theorem path_eq_concat (depths : List Nat) (below : 1 ≤ depth) :
    path depths depth = path depths (depth - 1) ++ [openSite depth depths] := by
  obtain ⟨above, rfl⟩ := Nat.exists_eq_add_of_le' below
  rw [path, List.range_succ, List.map_append, List.map_singleton]
  rfl

theorem path_isPrefix (depths : List Nat) (le : level ≤ depth) :
    path depths level <+: path depths depth := by
  have front : path depths level = (path depths depth).take level := by
    rw [path, path, ← List.map_take, List.take_range, Nat.min_eq_left le]
  rw [front]
  exact List.take_prefix _ _

theorem length_path (depths : List Nat) (depth : Nat) : (path depths depth).length = depth := by
  rw [path, List.length_map, List.length_range]

/-- Two paths begin alike if and only if they agree on the levels of the shorter one. -/
theorem path_prefix_iff {first second : List Nat} (le : level ≤ depth) :
    path first level <+: path second depth ↔ path first level = path second level := by
  constructor
  · intro front
    exact (List.prefix_of_prefix_length_le front (path_isPrefix second le)
      (by rw [length_path, length_path])).eq_of_length (by rw [length_path, length_path])
  · intro same
    rw [same]
    exact path_isPrefix second le

/-- Where all levels are open, the links are the path one level up, from the top on. -/
theorem links_eq_cons (below : 1 ≤ depth) (opened : ∀ level ≤ depth, IsOpen level depths) :
    links depths depth = openSite 0 depths :: path depths (depth - 1) := by
  have links : links depths depth =
      (List.range depth).map fun above => openSite above depths := by
    apply List.map_congr_left
    intro above member
    rw [openLink, if_pos (opened (above + 1) (List.mem_range.mp member))]
  obtain ⟨above, rfl⟩ := Nat.exists_eq_add_of_le' below
  rw [links, List.range_succ_eq_map, List.map_cons, List.map_map]
  rfl

/-- What comes after a call and is deeper does not change the path that leads to it. -/
theorem path_split {before after : List Nat} (deep : ∀ depth ∈ after, level < depth) :
    path (before ++ level :: after) level = path (before ++ [level]) level := by
  apply List.map_congr_left
  intro above member
  have inside : above + 1 ≤ level := List.mem_range.mp member
  rw [List.append_cons]
  exact openSite_congr
    (through_append_of_lt _ fun depth later => inside.trans_lt (deep depth later))

end Path

end Nesting

namespace CallTree

open CallNode Nesting

/-- Records whose paths and links, read as numbers, are those of the history up to
them. -/
def Addressed (records : List CallRecord) : Prop :=
  ∀ place record, records[place]? = some record →
    record.path.map UInt32.toNat =
        path ((records.map CallRecord.level).take (place + 1)) record.level ∧
      record.links.map UInt32.toNat =
        links ((records.map CallRecord.level).take (place + 1)) record.level

section Records

variable {records : List CallRecord} {upper lower : Nat} {first second : CallRecord}

theorem getElem?_level (here : records[upper]? = some first) :
    (records.map CallRecord.level)[upper]? = some first.level := by
  rw [List.getElem?_map, here, Option.map_some]

/-- The condition for one call to be around another, in terms of depths alone. -/
theorem encloses_build_iff_depths (here : records[upper]? = some first)
    (there : records[lower]? = some second) :
    Encloses (build records) upper lower ↔
      upper < lower ∧
        ∀ depth ∈ ((records.map CallRecord.level).take (lower + 1)).drop (upper + 1),
          first.level < depth := by
  have inside : lower < records.length := (List.getElem?_eq_some_iff.mp there).1
  rw [encloses_build_iff here]
  simp only [inside, true_and, ← List.map_take, ← List.map_drop, List.forall_mem_map]

theorem level_lt_of_encloses (here : records[upper]? = some first)
    (there : records[lower]? = some second) (encloses : Encloses (build records) upper lower) :
    first.level < second.level := by
  obtain ⟨before, deep⟩ := (encloses_build_iff_depths here there).mp encloses
  refine deep _ (List.mem_iff_getElem?.mpr ⟨lower - (upper + 1), ?_⟩)
  rw [List.getElem?_drop, Nat.add_sub_cancel' (Nat.succ_le_of_lt before),
    List.getElem?_take_of_lt (Nat.lt_succ_self lower)]
  exact getElem?_level there

/-- A call is around another, deeper one if it is the one open at its level when the
other is entered. -/
theorem encloses_iff_openSite (here : records[upper]? = some first)
    (there : records[lower]? = some second) (deeper : first.level < second.level)
    (isOpen : IsOpen first.level ((records.map CallRecord.level).take (lower + 1))) :
    Encloses (build records) upper lower ↔
      openSite first.level ((records.map CallRecord.level).take (lower + 1)) =
        ((records.map CallRecord.level).take upper).count first.level := by
  rw [encloses_build_iff_depths here there, openSite_eq_count_iff (getElem?_level here) isOpen]
  refine and_congr_left fun _ => ⟨Nat.le_of_lt, fun le => lt_of_le_of_ne le ?_⟩
  rintro rfl
  rw [Option.some_inj.mp (here.symm.trans there)] at deeper
  exact deeper.false

namespace Addressed

variable (addressed : Addressed records)
include addressed

/-- No two calls below the top level have one path. -/
theorem place_eq_of_path_eq (here : records[upper]? = some first)
    (there : records[lower]? = some second) (below : 1 ≤ first.level)
    (same : first.path = second.path) : upper = lower := by
  have paths : path ((records.map CallRecord.level).take (upper + 1)) first.level =
      path ((records.map CallRecord.level).take (lower + 1)) second.level := by
    rw [← (addressed upper first here).1, ← (addressed lower second there).1, same]
  have level : first.level = second.level := by
    have length := congrArg List.length paths
    rwa [length_path, length_path] at length
  rw [← level, path_eq_concat _ below, path_eq_concat _ below] at paths
  -- The last number of a path is the counter at the call's own level, which never repeats.
  have sites : openSite first.level ((records.map CallRecord.level).take (upper + 1)) =
      openSite first.level ((records.map CallRecord.level).take (lower + 1)) :=
    List.singleton_inj.mp (List.append_inj' paths rfl).2
  have thereLevel := level ▸ getElem?_level there
  rw [openSite_own (getElem?_level here), openSite_own thereLevel] at sites
  exact place_eq_of_count_eq (getElem?_level here) thereLevel sites

variable (nested : WellNested (records.map CallRecord.level))
include nested

/-- Below the top level, a call is around exactly the deeper ones whose paths go on
from its own. -/
theorem encloses_iff_path (here : records[upper]? = some first)
    (there : records[lower]? = some second) (below : 1 ≤ first.level) :
    Encloses (build records) upper lower ↔
      first.level < second.level ∧ first.path <+: second.path := by
  have injective : Function.Injective UInt32.toNat := fun _ _ => UInt32.toNat_inj.mp
  rw [← List.prefix_map_iff_of_injective injective, (addressed upper first here).1,
    (addressed lower second there).1]
  constructor
  · intro encloses
    have deeper := level_lt_of_encloses here there encloses
    obtain ⟨before, deep⟩ := (encloses_build_iff_depths here there).mp encloses
    refine ⟨deeper, (path_prefix_iff deeper.le).mpr ?_⟩
    rw [take_succ_split (getElem?_level here) before.le, path_split deep,
      take_succ_eq_concat (getElem?_level here)]
  · rintro ⟨deeper, front⟩
    have isOpen := nested.isOpen_take (getElem?_level there) deeper.le
    have paths := (path_prefix_iff deeper.le).mp front
    rw [path_eq_concat _ below, path_eq_concat _ below] at paths
    rw [encloses_iff_openSite here there deeper isOpen,
      ← List.singleton_inj.mp (List.append_inj' paths rfl).2,
      openSite_own (getElem?_level here)]

/-- The links of a call lead from the site of its root along its path. -/
theorem toNat_links (there : records[lower]? = some second) (below : 1 ≤ second.level) :
    second.links.map UInt32.toNat =
      openSite 0 ((records.map CallRecord.level).take (lower + 1)) ::
        second.path.dropLast.map UInt32.toNat := by
  have opened : ∀ level ≤ second.level,
      IsOpen level ((records.map CallRecord.level).take (lower + 1)) := fun level le =>
    nested.isOpen_take (getElem?_level there) le
  rw [List.map_dropLast, (addressed lower second there).1, (addressed lower second there).2,
    links_eq_cons below opened, path_eq_concat _ below, List.dropLast_concat]

/-- A call at the top is around exactly the calls below the top whose first link is
its site. -/
theorem encloses_iff_link (here : records[upper]? = some first)
    (there : records[lower]? = some second) (top : first.level = 0) :
    Encloses (build records) upper lower ↔
      1 ≤ second.level ∧ second.links.head?.map UInt32.toNat =
        some (((records.map CallRecord.level).take upper).count 0) := by
  constructor
  · intro encloses
    have deeper := level_lt_of_encloses here there encloses
    have isOpen := nested.isOpen_take (getElem?_level there) deeper.le
    rw [encloses_iff_openSite here there deeper isOpen] at encloses
    rw [top] at encloses deeper
    refine ⟨deeper, ?_⟩
    rw [← List.head?_map, addressed.toNat_links nested there deeper, List.head?_cons, encloses]
  · rintro ⟨below, link⟩
    have deeper : first.level < second.level := top ▸ below
    have isOpen := nested.isOpen_take (getElem?_level there) deeper.le
    rw [← List.head?_map, addressed.toNat_links nested there below, List.head?_cons,
      Option.some_inj] at link
    rw [encloses_iff_openSite here there deeper isOpen, top, link]

/-- A call below the top has a call at the top around it, and its links lead from the
site of that call along its path. -/
theorem exists_root (there : records[lower]? = some second) (below : 1 ≤ second.level) :
    ∃ root, (records.map CallRecord.level)[root]? = some 0 ∧
      Encloses (build records) root lower ∧
        second.links.map UInt32.toNat =
          ((records.map CallRecord.level).take root).count 0 ::
            second.path.dropLast.map UInt32.toNat := by
  have isOpen := nested.isOpen_take (getElem?_level there) (Nat.zero_le _)
  obtain ⟨root, le, top, deep⟩ := isOpen.exists_place
  have same := (openSite_eq_count_iff top isOpen).mpr ⟨le, deep⟩
  obtain ⟨first, here, level⟩ := Option.map_eq_some_iff.mp (List.getElem?_map .. ▸ top)
  have deeper : first.level < second.level := level ▸ below
  refine ⟨root, top, ?_, ?_⟩
  · rw [encloses_iff_openSite here there deeper (level ▸ isOpen), level, same]
  · rw [addressed.toNat_links nested there below, same]

end Addressed

end Records

/-- What a merger hands out is addressed, as long as the sites suffice. -/
theorem addressed_of_holds {merger : Merger} {handed : List CallRecord}
    (holds : merger.Holds handed []) (fit : SitesFit (handed.map CallRecord.level)) :
    Addressed handed := by
  intro place record here
  rw [← List.append_nil handed] at fit here
  rw [← List.map_take]
  simpa only [List.append_nil] using holds.toNat_record fit here

/-- The records of all calls of a transaction, handed out at its end if not before.
Below the top level their paths tell them apart. If the calls are nested without
skipping a level on the way down, paths and first links also tell which call is
inside which in the tree of the records, and the links lead from the site of the
root along the path. -/
theorem paths_and_links_address_calls {maxDepth : UInt64} {start : Merger}
    (fresh : start.Fresh maxDepth) (operations : List Merger.Operation)
    (fit : SitesFit ((Merger.accepted maxDepth operations).map CallFrame.level)) :
    let calls := (Merger.run (operations ++ [.finish]) start).1
    let depths := calls.map CallRecord.level
    calls.map CallRecord.frame = Merger.accepted maxDepth operations ∧
      flattenAll (build calls) = calls ∧
      (∀ (upper lower : Nat) (first second : CallRecord),
        calls[upper]? = some first → calls[lower]? = some second → upper ≠ lower →
        1 ≤ first.level → 1 ≤ second.level → first.path ≠ second.path) ∧
      (WellNested ((Merger.accepted maxDepth operations).map CallFrame.level) →
        (∀ (upper lower : Nat) (first second : CallRecord),
          calls[upper]? = some first → calls[lower]? = some second →
          (1 ≤ first.level → (Encloses (build calls) upper lower ↔
              first.level < second.level ∧ first.path <+: second.path)) ∧
            (first.level = 0 → (Encloses (build calls) upper lower ↔
              1 ≤ second.level ∧ second.links.head?.map UInt32.toNat =
                some ((depths.take upper).count 0)))) ∧
          ∀ (lower : Nat) (second : CallRecord), calls[lower]? = some second → 1 ≤ second.level →
            ∃ root, depths[root]? = some 0 ∧ Encloses (build calls) root lower ∧
              second.links.map UInt32.toNat =
                (depths.take root).count 0 :: second.path.dropLast.map UInt32.toNat) := by
  intro calls depths
  obtain ⟨holds, frames⟩ := fresh.finish_holds operations
  rw [← frames, map_level_map_frame] at fit
  rw [← frames, map_level_map_frame]
  have addressed : Addressed calls := addressed_of_holds holds fit
  refine ⟨rfl, flattenAll_build calls, ?_, fun nested => ⟨?_, ?_⟩⟩
  · intro upper lower first second here there apart below _ same
    exact apart (addressed.place_eq_of_path_eq here there below same)
  · intro upper lower first second here there
    exact ⟨addressed.encloses_iff_path nested here there,
      addressed.encloses_iff_link nested here there⟩
  · intro lower second there below
    exact addressed.exists_root nested there below

/-- Two top-level calls, and below the first of them two calls with a call inside each. -/
theorem address_below_second_sibling :
    let operations : List Merger.Operation := [.accept (.bare 0), .accept (.bare 1),
      .accept (.bare 2), .accept (.bare 1), .accept (.bare 2), .accept (.bare 0),
      .accept (.bare 1)]
    let calls := (Merger.run (operations ++ [.finish]) (Merger.new 3).reset).1
    SitesFit ((Merger.accepted 3 operations).map CallFrame.level) ∧
      WellNested ((Merger.accepted 3 operations).map CallFrame.level) ∧
      calls[3]? = some ⟨.bare 1, [0], [1]⟩ ∧ calls[4]? = some ⟨.bare 2, [0, 1], [1, 1]⟩ ∧
      Encloses (build calls) 3 4 ∧ ¬ Encloses (build calls) 1 4 := by
  intro operations calls
  have fit : SitesFit ((Merger.accepted 3 operations).map CallFrame.level) :=
    .of_length_lt (by decide)
  have nested : WellNested ((Merger.accepted 3 operations).map CallFrame.level) := by decide
  have first : calls[3]? = some ⟨.bare 1, [0], [1]⟩ := by decide +kernel
  have second : calls[4]? = some ⟨.bare 2, [0, 1], [1, 1]⟩ := by decide +kernel
  have other : calls[1]? = some ⟨.bare 1, [0], [0]⟩ := by decide +kernel
  obtain ⟨-, -, -, tree⟩ := paths_and_links_address_calls (.reset .new) operations fit
  obtain ⟨around, -⟩ := tree nested
  refine ⟨fit, nested, first, second, ?_, ?_⟩
  · exact ((around 3 4 _ _ first second).1 (by decide)).mpr (by decide)
  · rw [(around 1 4 _ _ other second).1 (by decide)]
    decide

end CallTree

end CallTrace
