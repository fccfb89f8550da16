/-
# Lists of calls and forests of calls

A list of records is a forest read from its roots down and from left to right, and the
forest can be had back from the list alone as long as its depths agree with it: calls are
deeper than the call around them, and no call is deeper than one beside it that came
earlier. Building and reading are then inverse to each other, so lists and such forests
are the same thing.

The call around a call need not be one level up. It is the last call before it that is
less deep, and a call without any such call before it is a root.
-/

import CallTrace.Proofs.CallTree
import Mathlib.Algebra.Ring.Nat

namespace CallTrace

namespace CallNode

mutual

/-- Whether the depths of a tree agree with it: every call is deeper than the call around
it, and not deeper than the calls that came earlier beside it. -/
def ByDepth : CallNode → Prop
  | .node record children =>
    (∀ child ∈ children, record.level < child.record.level) ∧ AllByDepth children

/-- Whether the depths of a forest agree with it. -/
def AllByDepth : List CallNode → Prop
  | [] => True
  | tree :: rest =>
    ByDepth tree ∧ (∀ later ∈ rest, later.record.level ≤ tree.record.level) ∧ AllByDepth rest

end

mutual

/-- The calls around the calls of a tree, by their places: `around` is the call around
the root, which stands at `place` itself. -/
def parents (around : Option Nat) (place : Nat) : CallNode → List (Option Nat)
  | .node _ children => around :: parentsAll (some place) (place + 1) children

/-- The calls around the calls of a forest, by their places. The first call of the forest
stands at `place`. -/
def parentsAll (around : Option Nat) (place : Nat) : List CallNode → List (Option Nat)
  | [] => []
  | tree :: rest => parents around place tree ++ parentsAll around (place + tree.size) rest

end

/-- What holds of no trees, and of a root before a forest if it holds of the forest and of
the one inside the root, holds of every forest. -/
@[elab_as_elim]
theorem forest_induction {motive : List CallNode → Prop} (nil : motive [])
    (cons : ∀ record children rest, motive children → motive rest →
      motive (.node record children :: rest)) :
    ∀ forest, motive forest
  | [] => nil
  | .node record children :: rest =>
    cons record children rest (forest_induction nil cons children) (forest_induction nil cons rest)

theorem sizeAll_eq_sum (forest : List CallNode) : sizeAll forest = (forest.map size).sum := by
  induction forest with
  | nil => rfl
  | cons tree rest ih => rw [sizeAll, ih, List.map_cons, List.sum_cons]

@[simp]
theorem parentsAll_cons (around : Option Nat) (place : Nat) (record : CallRecord)
    (children rest : List CallNode) :
    parentsAll around place (.node record children :: rest) =
      around :: (parentsAll (some place) (place + 1) children ++
        parentsAll around (place + (sizeAll children + 1)) rest) := by
  rw [parentsAll, parents, size, List.cons_append, Nat.add_comm 1]

/-- Every call has one entry. -/
@[simp]
theorem length_parentsAll (around : Option Nat) (place : Nat) (forest : List CallNode) :
    (parentsAll around place forest).length = sizeAll forest := by
  induction forest using forest_induction generalizing around place with
  | nil => rfl
  | cons record children rest inner after =>
      rw [parentsAll_cons, List.length_cons, List.length_append, inner, after, sizeAll, size]
      omega

/-- All calls of a forest are deeper than a level if its roots are. -/
theorem AllByDepth.lt_level {forest : List CallNode} (byDepth : AllByDepth forest) {level : Nat}
    (roots : ∀ tree ∈ forest, level < tree.record.level) :
    ∀ call ∈ flattenAll forest, level < call.level := by
  induction forest using forest_induction generalizing level with
  | nil => exact List.forall_mem_nil _
  | cons record children rest inner after =>
      obtain ⟨⟨deeper, inside⟩, -, beside⟩ := byDepth
      obtain ⟨first, others⟩ := List.forall_mem_cons.mp roots
      intro call member
      rcases List.mem_cons.mp member with rfl | member
      · exact first
      · rcases List.mem_append.mp member with below | later
        · exact Nat.lt_trans first (inner inside deeper call below)
        · exact after beside others call later

end CallNode

namespace CallTree

open CallNode

section Forests

theorem level_le_of_head?_dropWhile {record next : CallRecord} {rest : List CallRecord}
    (first : (rest.dropWhile (deeper record)).head? = some next) : next.level ≤ record.level :=
  Nat.le_of_not_lt fun below => not_deeper_of_head?_dropWhile first (deeper_iff.mpr below)

/-- The roots of a forest are among the records it was built from. -/
theorem record_mem_of_mem_build {records : List CallRecord} :
    ∀ tree ∈ build records, tree.record ∈ records := by
  induction records using build_induction with
  | nil => exact List.forall_mem_nil _
  | cons record rest _ outer =>
      rw [build_cons, List.forall_mem_cons]
      refine ⟨List.mem_cons_self, fun tree member => List.mem_cons_of_mem record ?_⟩
      exact (List.dropWhile_sublist _).subset (outer tree member)

/-- The depths of a list agree with the forest that is built from it. -/
theorem allByDepth_build (records : List CallRecord) : AllByDepth (build records) := by
  induction records using build_induction with
  | nil => trivial
  | cons record rest inner outer =>
      rw [build_cons]
      refine ⟨⟨fun child member => ?_, inner⟩, ?_, outer⟩
      · exact deeper_iff.mp (List.mem_takeWhile_imp (record_mem_of_mem_build child member))
      -- The root after this one is not deeper, and those behind it are not deeper than that.
      · cases later : rest.dropWhile (deeper record) with
        | nil => exact List.forall_mem_nil _
        | cons next others =>
            have shallow : next.level ≤ record.level :=
              level_le_of_head?_dropWhile (by rw [later]; rfl)
            rw [later, build_cons] at outer
            rw [build_cons, List.forall_mem_cons]
            exact ⟨shallow, fun tree member => (outer.2.1 tree member).trans shallow⟩

/-- A forest whose depths agree with it is built from its calls. -/
theorem build_flattenAll {forest : List CallNode} (byDepth : AllByDepth forest) :
    build (flattenAll forest) = forest := by
  induction forest using forest_induction with
  | nil => rfl
  | cons record children rest inner after =>
      obtain ⟨⟨deep, inside⟩, shallow, beside⟩ := byDepth
      have below : ∀ call ∈ flattenAll children, deeper record call := fun call member =>
        deeper_iff.mpr (inside.lt_level deep call member)
      have stops : ∀ call, (flattenAll rest).head? = some call → ¬ deeper record call := by
        intro call first
        cases rest with
        | nil => cases first
        | cons tree others =>
            obtain ⟨root, calls⟩ := tree
            obtain rfl : root = call := Option.some_inj.mp first
            exact fun below =>
              Nat.not_lt.mpr (shallow _ List.mem_cons_self) (deeper_iff.mp below)
      have parts : flattenAll (.node record children :: rest) =
          record :: (flattenAll children ++ flattenAll rest) := rfl
      rw [parts, build_append below stops, inner inside, after beside]

end Forests

section Nearest

/-- The place of the last call in a list that is less deep than `record`. -/
def nearest? (record : CallRecord) : List CallRecord → Option Nat
  | [] => none
  | first :: later =>
    ((nearest? record later).map (· + 1)).or (if deeper first record then some 0 else none)

theorem nearest?_eq_none_iff {record : CallRecord} {earlier : List CallRecord} :
    nearest? record earlier = none ↔ ∀ call ∈ earlier, record.level ≤ call.level := by
  induction earlier with
  | nil => simp [nearest?]
  | cons first later ih =>
      rw [nearest?, Option.or_eq_none_iff, Option.map_eq_none_iff, ih, List.forall_mem_cons,
        and_comm]
      apply and_congr_left'
      rw [← Nat.not_lt, ← deeper_iff]
      simp

/-- The last call that is less deep is less deep, and no call after it is. -/
theorem nearest?_eq_some_iff {record : CallRecord} {earlier : List CallRecord} {place : Nat} :
    nearest? record earlier = some place ↔
      ∃ parent, earlier[place]? = some parent ∧ parent.level < record.level ∧
        ∀ call ∈ earlier.drop (place + 1), record.level ≤ call.level := by
  induction earlier generalizing place with
  | nil => simp [nearest?]
  | cons first later ih =>
      rw [nearest?, Option.or_eq_some_iff, Option.map_eq_none_iff, nearest?_eq_none_iff,
        Option.map_eq_some_iff]
      cases place with
      | zero => simp [deeper_iff, and_comm]
      | succ place =>
          have never : ¬ (if deeper first record then some 0 else none) = some (place + 1) := by
            split <;> simp
          simp [never, ih]

theorem nearest?_append (record : CallRecord) (first second : List CallRecord) :
    nearest? record (first ++ second) =
      ((nearest? record second).map (first.length + ·)).or (nearest? record first) := by
  induction first with
  | nil => simp [nearest?]
  | cons call first ih =>
      rw [List.cons_append, nearest?, ih, nearest?, Option.map_or, Option.map_map, Option.or_assoc,
        List.length_cons]
      congr 2
      funext place
      simp only [Function.comp]
      omega

/-- If no call from the end of a run of deeper calls on is less deep than a record, then
neither is the call that the run belongs to. -/
theorem level_le_of_nearest?_eq_none {first record : CallRecord} {rest : List CallRecord}
    {place : Nat} (here : (rest.dropWhile (deeper first))[place]? = some record)
    (nothing : nearest? record ((rest.dropWhile (deeper first)).take place) = none) :
    record.level ≤ first.level := by
  cases later : rest.dropWhile (deeper first) with
  | nil => simp [later] at here
  | cons next others =>
      have shallow : next.level ≤ first.level := level_le_of_head?_dropWhile (by rw [later]; rfl)
      rw [later] at here nothing
      cases place with
      | zero => exact Option.some_inj.mp here ▸ shallow
      | succ place => exact (nearest?_eq_none_iff.mp nothing next (by simp)).trans shallow

/-- Behind a run of deeper calls, the calls of the run are passed over, and so is the one that
the run belongs to. -/
theorem nearest?_cons_append {first record : CallRecord} {below second : List CallRecord}
    (deep : ∀ call ∈ below, deeper first call)
    (shallow : nearest? record second = none → record.level ≤ first.level) :
    nearest? record (first :: (below ++ second)) =
      (nearest? record second).map (below.length + 1 + ·) := by
  rw [nearest?, nearest?_append]
  cases found : nearest? record second with
  | some place => simp; omega
  | none =>
      have noneBelow : nearest? record below = none :=
        nearest?_eq_none_iff.mpr fun call member =>
          (shallow found).trans (deeper_iff.mp (deep call member)).le
      have notFirst : ¬ deeper first record := fun above =>
        Nat.not_lt.mpr (shallow found) (deeper_iff.mp above)
      simp [noneBelow, notFirst]

/-- The call around a call in the forest of a list is the last one before it that is less
deep, or what is around the forest if there is none. -/
theorem parentsAll_build {records : List CallRecord} {place : Nat} {record : CallRecord}
    (here : records[place]? = some record) (around : Option Nat) (start : Nat) :
    (parentsAll around start (build records))[place]? =
      some (((nearest? record (records.take place)).map (start + ·)).or around) := by
  induction records using build_induction generalizing place around start with
  | nil => simp at here
  | cons first rest inner outer =>
      have parts : rest.takeWhile (deeper first) ++ rest.dropWhile (deeper first) = rest :=
        List.takeWhile_append_dropWhile
      have deep : ∀ call ∈ rest.takeWhile (deeper first), deeper first call := fun _ =>
        List.mem_takeWhile_imp
      have stops := @level_le_of_nearest?_eq_none first record rest
      rw [build_cons, parentsAll_cons, sizeAll_build]
      generalize rest.takeWhile (deeper first) = below at *
      generalize rest.dropWhile (deeper first) = beyond at *
      subst parts
      cases place with
      | zero => simp [nearest?]
      | succ place =>
          rw [List.getElem?_cons_succ] at here ⊢
          rw [List.take_succ_cons]
          by_cases inside : place < below.length
          -- Inside the first tree its root is less deep, whatever else is.
          · rw [List.getElem?_append_left inside] at here
            rw [List.getElem?_append_left (by rw [length_parentsAll, sizeAll_build]; exact inside),
              inner here, List.take_append_of_le_length inside.le, nearest?,
              if_pos (deep record (List.mem_of_getElem? here))]
            cases nearest? record (below.take place) with
            | none => rfl
            | some found => simp; omega
          · obtain ⟨later, rfl⟩ := Nat.exists_eq_add_of_le (Nat.le_of_not_lt inside)
            rw [List.getElem?_append_right (Nat.le_add_right _ _), Nat.add_sub_cancel_left] at here
            have same := outer here around (start + (below.length + 1))
            rw [List.getElem?_append_right (by rw [length_parentsAll, sizeAll_build]; omega),
              length_parentsAll, sizeAll_build, Nat.add_sub_cancel_left, same,
              List.take_length_add_append, nearest?_cons_append deep (stops here), Option.map_map]
            simp only [Function.comp_def, Nat.add_assoc]

end Nearest

/-- Lists of records and forests whose depths agree with them are the same. The forest of a
list has the records of the list for its calls, in their order; its depths agree with it, and
the call around a record is the nearest record before it that is less deep, if there is one.
And a forest whose depths agree with it is the forest of its calls. -/
theorem lists_are_forests :
    (∀ records : List CallRecord,
      flattenAll (build records) = records ∧
      ((build records).map size).sum = records.length ∧
      AllByDepth (build records) ∧
      ∀ (place : Nat) (record : CallRecord), records[place]? = some record →
        ((parentsAll none 0 (build records))[place]? = some none ↔
          ∀ earlier ∈ records.take place, record.level ≤ earlier.level) ∧
        ∀ upper, (parentsAll none 0 (build records))[place]? = some (some upper) ↔
          ∃ parent, (records.take place)[upper]? = some parent ∧ parent.level < record.level ∧
            ∀ between ∈ (records.take place).drop (upper + 1), record.level ≤ between.level) ∧
    ∀ forest, AllByDepth forest → build (flattenAll forest) = forest := by
  refine ⟨fun records => ⟨flattenAll_build records, ?_, allByDepth_build records, ?_⟩,
    fun forest => build_flattenAll⟩
  · rw [← sizeAll_eq_sum, sizeAll_build]
  · intro place record here
    have around : (parentsAll none 0 (build records))[place]? =
        some (nearest? record (records.take place)) := by
      simpa using parentsAll_build here none 0
    rw [around, Option.some_inj, nearest?_eq_none_iff]
    refine ⟨Iff.rfl, fun upper => ?_⟩
    rw [Option.some_inj, nearest?_eq_some_iff]

/-- Levels may be skipped on the way down and on the way up: the second and the third call
are both inside the first, and the last one is a root. -/
theorem forest_with_skipped_levels :
    let call (depth : UInt64) : CallRecord := ⟨.bare depth, [], []⟩
    let records := [call 1, call 3, call 2, call 0]
    let forest : List CallNode :=
      [.node (call 1) [.node (call 3) [], .node (call 2) []], .node (call 0) []]
    AllByDepth forest ∧ flattenAll forest = records ∧ build records = forest ∧
      records[2]? = some (call 2) ∧ (parentsAll none 0 (build records))[2]? = some (some 0) ∧
      records[3]? = some (call 0) ∧ (parentsAll none 0 (build records))[3]? = some none := by
  intro call records forest
  obtain ⟨ofList, ofForest⟩ := lists_are_forests
  obtain ⟨-, -, -, around⟩ := ofList records
  have byDepth : AllByDepth forest := by
    simp [forest, AllByDepth, ByDepth, CallNode.record, CallRecord.level, CallFrame.level, call,
      CallFrame.bare]
  have third : records[2]? = some (call 2) := rfl
  have last : records[3]? = some (call 0) := rfl
  refine ⟨byDepth, rfl, ofForest forest byDepth, third, ?_, last, ?_⟩
  · exact ((around 2 _ third).2 0).mpr ⟨call 1, rfl, by decide, by decide⟩
  · exact (around 3 _ last).1.mpr (by decide)

end CallTree

end CallTrace
