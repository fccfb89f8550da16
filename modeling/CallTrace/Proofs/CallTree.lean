/-
# The shape of the tree of calls

The tree is built in one pass with a stack of open calls. What the pass comes to can
be said without the stack: the first record of a list is a root, the run of deeper
records after it is the forest inside it, and the rest of the list is the rest of
the forest. Everything else about the tree follows from this by induction on the
list.

Two calls with equal records are told apart by their places in the list, which are
also their places when the tree is read from the root down and from left to right.
-/

import CallTrace.CallTree
import CallTrace.Proofs.Nesting

namespace CallTrace

namespace CallNode

mutual

theorem length_flatten : ∀ tree : CallNode, (flatten tree).length = size tree
  | .node record children => by
      rw [flatten, size, List.length_cons, length_flattenAll children, Nat.add_comm]

@[simp]
theorem length_flattenAll : ∀ forest : List CallNode, (flattenAll forest).length = sizeAll forest
  | [] => rfl
  | tree :: rest => by
      rw [flattenAll, sizeAll, List.length_append, length_flatten tree, length_flattenAll rest]

end

/-- Whether the call at one place is around the call at another. Places are counted in
the forest read from its roots down and from left to right. -/
inductive Encloses : List CallNode → Nat → Nat → Prop where
  | root {record : CallRecord} {children later : List CallNode} {place : Nat}
      (inside : place < sizeAll children) :
      Encloses (.node record children :: later) 0 (place + 1)
  | within {record : CallRecord} {children later : List CallNode} {upper lower : Nat}
      (inside : Encloses children upper lower) :
      Encloses (.node record children :: later) (upper + 1) (lower + 1)
  | later {tree : CallNode} {trees : List CallNode} {upper lower : Nat}
      (after : Encloses trees upper lower) :
      Encloses (tree :: trees) (tree.size + upper) (tree.size + lower)

end CallNode

namespace CallTree

open CallNode

/-- Whether a record is less deep than another. -/
def deeper (record other : CallRecord) : Bool :=
  record.frame.depth < other.frame.depth

theorem deeper_iff {record other : CallRecord} :
    deeper record other = true ↔ record.level < other.level := by
  rw [deeper, decide_eq_true_iff, UInt64.lt_iff_toNat_lt]
  rfl

theorem deeper_trans {first second third : CallRecord} (above : deeper first second)
    (below : deeper second third) : deeper first third := by
  rw [deeper_iff] at above below ⊢
  exact above.trans below

@[simp]
theorem extend_nil (call : OpenCall) : call.extend [] = call := by
  rw [OpenCall.extend, List.append_nil]

@[simp]
theorem extend_record (call : OpenCall) (more : List CallNode) :
    (call.extend more).record = call.record := rfl

@[simp]
theorem extend_done (call : OpenCall) (more : List CallNode) :
    (call.extend more).done = call.done ++ more := rfl

/-- A call that is less deep than the one entered stays open, and is handed what was
closed above it. -/
theorem closeTo_concat {depth : UInt64} {bottom : OpenCall}
    (stays : bottom.record.frame.depth < depth) (closed : List CallNode)
    (stack : List OpenCall) :
    closeTo depth closed (stack ++ [bottom]) =
      ((closeTo depth closed stack).1 ++ [bottom.extend (closeTo depth closed stack).2], []) := by
  induction stack generalizing closed with
  | nil =>
      rw [List.nil_append, closeTo, closeTo]
      exact if_neg (UInt64.not_le.mpr stays)
  | cons inner stack ih =>
      rw [List.cons_append, closeTo, closeTo]
      split
      · exact ih _
      · rw [extend_nil]
        rfl

/-- If no open call is less deep than the one entered, then all are closed. -/
theorem closeTo_of_forall_le {depth : UInt64} {stack : List OpenCall}
    (all : ∀ call ∈ stack, depth ≤ call.record.frame.depth) (closed : List CallNode) :
    closeTo depth closed stack = ([], closeAll closed stack) := by
  induction stack generalizing closed with
  | nil => rfl
  | cons inner stack ih =>
      have first : depth ≤ (inner.extend closed).record.frame.depth := all inner (by simp)
      rw [closeTo, if_pos first, closeAll]
      apply ih
      intro call member
      exact all call (by simp [member])

theorem closeAll_concat (closed : List CallNode) (stack : List OpenCall) (bottom : OpenCall) :
    closeAll closed (stack ++ [bottom]) = [(bottom.extend (closeAll closed stack)).close] := by
  induction stack generalizing closed with
  | nil => rfl
  | cons inner stack ih => exact ih _

/-- The calls that stay open are some of those that were open. -/
theorem exists_of_mem_closeTo {depth : UInt64} {closed : List CallNode} {stack : List OpenCall}
    {call : OpenCall} (member : call ∈ (closeTo depth closed stack).1) :
    ∃ before ∈ stack, before.record = call.record := by
  induction stack generalizing closed with
  | nil => simp [closeTo] at member
  | cons inner stack ih =>
      rw [closeTo] at member
      split at member
      · obtain ⟨before, inside, same⟩ := ih member
        exact ⟨before, List.mem_cons_of_mem _ inside, same⟩
      · rcases List.mem_cons.mp member with rfl | inside
        · exact ⟨inner, List.mem_cons_self, rfl⟩
        · exact ⟨call, List.mem_cons_of_mem _ inside, rfl⟩

/-- The outermost open call ends at the first record that is not deeper. Up to there
the calls above it go on as if it were not there; from there on it is as if nothing
had been open. -/
theorem grow_concat (stack : List OpenCall) (bottom : OpenCall)
    (above : ∀ call ∈ stack, deeper bottom.record call.record) (records : List CallRecord) :
    grow (stack ++ [bottom]) records =
      .node bottom.record
          (bottom.done ++ grow stack (records.takeWhile (deeper bottom.record))) ::
        grow [] (records.dropWhile (deeper bottom.record)) := by
  induction records generalizing stack bottom with
  | nil =>
      rw [grow, closeAll_concat]
      rfl
  | cons record rest ih =>
      by_cases inside : deeper bottom.record record
      -- The outermost call stays open; what the record closes goes to the calls around it.
      · have stillAbove : ∀ call ∈ ⟨record, []⟩ :: (closeTo record.frame.depth [] stack).1,
            deeper (bottom.extend (closeTo record.frame.depth [] stack).2).record call.record := by
          intro call member
          rcases List.mem_cons.mp member with rfl | outer
          · exact inside
          · obtain ⟨before, was, same⟩ := exists_of_mem_closeTo outer
            exact same ▸ above before was
        rw [List.takeWhile_cons_of_pos inside, List.dropWhile_cons_of_pos inside, grow, grow,
          closeTo_concat (by simpa [deeper] using inside)]
        simp only [List.nil_append, ← List.cons_append]
        rw [ih _ _ stillAbove, extend_record, extend_done, List.append_assoc]
      -- The record ends the outermost call, and with it all that are open above it.
      · have shallow : ∀ call ∈ stack ++ [bottom],
            record.frame.depth ≤ call.record.frame.depth := by
          have reached : record.frame.depth ≤ bottom.record.frame.depth := by
            simpa [deeper] using inside
          intro call member
          rcases List.mem_append.mp member with inner | outermost
          · have deep : bottom.record.frame.depth < call.record.frame.depth := by
              simpa [deeper] using above call inner
            exact UInt64.le_of_lt (UInt64.lt_of_le_of_lt reached deep)
          · rw [List.mem_singleton.mp outermost]
            exact reached
        rw [List.takeWhile_cons_of_neg inside, List.dropWhile_cons_of_neg inside, grow, grow,
          closeTo_of_forall_le shallow, closeAll_concat, grow]
        rfl

/-- The first record is a root, and the run of deeper records after it is inside. -/
theorem build_cons (record : CallRecord) (rest : List CallRecord) :
    build (record :: rest) =
      .node record (build (rest.takeWhile (deeper record))) ::
        build (rest.dropWhile (deeper record)) :=
  grow_concat [] ⟨record, []⟩ (List.forall_mem_nil _) rest

/-- What holds of a forest, and of one made of a root, a forest inside it and a forest
after it, holds of every list of records. -/
@[elab_as_elim]
theorem build_induction {motive : List CallRecord → Prop} (nil : motive [])
    (cons : ∀ record rest, motive (rest.takeWhile (deeper record)) →
      motive (rest.dropWhile (deeper record)) → motive (record :: rest)) :
    ∀ records, motive records
  | [] => nil
  | record :: rest =>
    cons record rest (build_induction nil cons _) (build_induction nil cons _)
termination_by records => records.length
decreasing_by
  · exact Nat.lt_succ_of_le (List.takeWhile_sublist _).length_le
  · exact Nat.lt_succ_of_le (List.dropWhile_sublist _).length_le

/-- A root with its own records before the rest of a forest. -/
theorem build_append {record : CallRecord} {inner rest : List CallRecord}
    (inside : ∀ call ∈ inner, deeper record call)
    (after : ∀ call, rest.head? = some call → ¬ deeper record call) :
    build (record :: (inner ++ rest)) = .node record (build inner) :: build rest := by
  have taken : rest.takeWhile (deeper record) = [] := by
    cases rest with
    | nil => rfl
    | cons call rest => exact List.takeWhile_cons_of_neg (after call rfl)
  have dropped : rest.dropWhile (deeper record) = rest := by
    cases rest with
    | nil => rfl
    | cons call rest => exact List.dropWhile_cons_of_neg (after call rfl)
  rw [build_cons, List.takeWhile_append_of_pos inside, List.dropWhile_append_of_pos inside,
    taken, dropped, List.append_nil]

@[simp]
theorem build_nil : build [] = [] := rfl

/-- The tree keeps all records and their order. -/
@[simp]
theorem flattenAll_build (records : List CallRecord) : flattenAll (build records) = records := by
  induction records using build_induction with
  | nil => rfl
  | cons record rest inner outer =>
      rw [build_cons, flattenAll, flatten, inner, outer, List.cons_append,
        List.takeWhile_append_dropWhile]

@[simp]
theorem sizeAll_build (records : List CallRecord) : sizeAll (build records) = records.length := by
  rw [← length_flattenAll, flattenAll_build]

/-- The number of records after the one at a place that are deeper than it, up to the
first that is not. -/
def reach (records : List CallRecord) (place : Nat) : Nat :=
  match records.drop place with
  | [] => 0
  | record :: later => (later.takeWhile (deeper record)).length

@[simp]
theorem reach_cons_zero (record : CallRecord) (rest : List CallRecord) :
    reach (record :: rest) 0 = (rest.takeWhile (deeper record)).length := rfl

@[simp]
theorem reach_cons_succ (record : CallRecord) (rest : List CallRecord) (place : Nat) :
    reach (record :: rest) (place + 1) = reach rest place := rfl

theorem reach_of_length_le {records : List CallRecord} {place : Nat}
    (outside : records.length ≤ place) : reach records place = 0 := by
  rw [reach, List.drop_of_length_le outside]

theorem reach_append_right (first second : List CallRecord) (place : Nat) :
    reach (first ++ second) (first.length + place) = reach second place := by
  rw [reach, List.drop_length_add_append]
  rfl

theorem reach_append_left {first second : List CallRecord} {place : Nat}
    (stops : ∀ record ∈ first, ∀ next, second.head? = some next → ¬ deeper record next)
    (within : place < first.length) : reach (first ++ second) place = reach first place := by
  induction first generalizing place with
  | nil => exact absurd within (Nat.not_lt_zero place)
  | cons record first ih =>
      rw [List.cons_append]
      cases place with
      | zero =>
          have stopped : second.takeWhile (deeper record) = [] := by
            cases second with
            | nil => rfl
            | cons next second => exact List.takeWhile_cons_of_neg (stops record (by simp) next rfl)
          rw [reach_cons_zero, reach_cons_zero, List.takeWhile_append, stopped, List.append_nil]
          split
          next whole =>
            rw [(List.takeWhile_sublist _).eq_of_length whole]
          next => rfl
      | succ place =>
          rw [reach_cons_succ, reach_cons_succ]
          apply ih _ (Nat.lt_of_succ_lt_succ within)
          intro other member
          exact stops other (by simp [member])

/-- What ends a run of deeper calls is not deeper. -/
theorem not_deeper_of_head?_dropWhile {record next : CallRecord} {rest : List CallRecord}
    (first : (rest.dropWhile (deeper record)).head? = some next) : ¬ deeper record next := by
  have stopped := List.head?_dropWhile_not (deeper record) rest
  simpa [first] using stopped

/-- A call inside the first tree reaches no further than that tree. -/
theorem reach_cons_within {record : CallRecord} {rest : List CallRecord} {place : Nat}
    (within : place < (rest.takeWhile (deeper record)).length) :
    reach (record :: rest) (place + 1) = reach (rest.takeWhile (deeper record)) place := by
  have stops : ∀ call ∈ rest.takeWhile (deeper record), ∀ next,
      (rest.dropWhile (deeper record)).head? = some next → ¬ deeper call next := by
    intro call member next first deep
    exact not_deeper_of_head?_dropWhile first (deeper_trans (List.mem_takeWhile_imp member) deep)
  calc
    reach (record :: rest) (place + 1) =
        reach (rest.takeWhile (deeper record) ++ rest.dropWhile (deeper record)) place := by
      rw [reach_cons_succ, List.takeWhile_append_dropWhile]
    _ = reach (rest.takeWhile (deeper record)) place := reach_append_left stops within

theorem reach_cons_after (record : CallRecord) (rest : List CallRecord) (place : Nat) :
    reach (record :: rest) ((rest.takeWhile (deeper record)).length + place + 1) =
      reach (rest.dropWhile (deeper record)) place := by
  calc
    reach (record :: rest) ((rest.takeWhile (deeper record)).length + place + 1) =
        reach (rest.takeWhile (deeper record) ++ rest.dropWhile (deeper record))
          ((rest.takeWhile (deeper record)).length + place) := by
      rw [reach_cons_succ, List.takeWhile_append_dropWhile]
    _ = reach (rest.dropWhile (deeper record)) place := reach_append_right _ _ _

/-- In the tree of a list of records a call is around exactly those it reaches. -/
theorem encloses_build_iff_reach {records : List CallRecord} {upper lower : Nat} :
    Encloses (build records) upper lower ↔
      upper < lower ∧ lower ≤ upper + reach records upper := by
  induction records using build_induction generalizing upper lower with
  | nil =>
      rw [build_nil, reach_of_length_le (Nat.zero_le _)]
      constructor
      · intro encloses
        cases encloses
      · omega
  | cons record rest inner outer =>
      have size : (CallNode.node record (build (rest.takeWhile (deeper record)))).size =
          (rest.takeWhile (deeper record)).length + 1 := by
        rw [CallNode.size, sizeAll_build, Nat.add_comm]
      rw [build_cons]
      constructor
      · intro encloses
        cases encloses with
        | root inside =>
            rw [sizeAll_build] at inside
            rw [reach_cons_zero]
            omega
        | @within _ _ _ upper lower inside =>
            obtain ⟨before, reached⟩ := inner.mp inside
            -- Beyond the first tree there is nothing inside it that could reach anything.
            have short : upper < (rest.takeWhile (deeper record)).length := by
              by_contra outside
              rw [reach_of_length_le (Nat.le_of_not_lt outside)] at reached
              omega
            rw [reach_cons_within short]
            omega
        | @later _ _ upper lower after =>
            obtain ⟨before, reached⟩ := outer.mp after
            rw [size, Nat.add_right_comm _ 1 upper, reach_cons_after]
            omega
      · rintro ⟨before, reached⟩
        obtain ⟨lower, rfl⟩ := Nat.exists_eq_add_one_of_ne_zero (Nat.ne_zero_of_lt before)
        cases upper with
        | zero =>
            rw [reach_cons_zero] at reached
            exact .root (by rw [sizeAll_build]; omega)
        | succ upper =>
            by_cases short : upper < (rest.takeWhile (deeper record)).length
            · rw [reach_cons_within short] at reached
              exact .within (inner.mpr ⟨by omega, by omega⟩)
            · obtain ⟨later, rfl⟩ := Nat.exists_eq_add_of_le (Nat.le_of_not_lt short)
              obtain ⟨last, rfl⟩ : ∃ last, lower =
                  (rest.takeWhile (deeper record)).length + last :=
                Nat.exists_eq_add_of_le (by omega)
              rw [reach_cons_after] at reached
              rw [Nat.add_right_comm _ later 1, Nat.add_right_comm _ last 1, ← size]
              exact .later (outer.mpr ⟨by omega, by omega⟩)

theorem le_length_takeWhile_iff {α : Type} {holds : α → Bool} {items : List α} {count : Nat} :
    count ≤ (items.takeWhile holds).length ↔
      count ≤ items.length ∧ ∀ item ∈ items.take count, holds item := by
  induction items generalizing count with
  | nil => simp
  | cons item items ih =>
      cases count with
      | zero => simp
      | succ count =>
          by_cases first : holds item
          · rw [List.takeWhile_cons_of_pos first]
            simp [ih, first]
          · rw [List.takeWhile_cons_of_neg first]
            simp [first]

/-- In the tree of a list of records, a call is around another if all calls after it up
to the other are deeper than it. -/
theorem encloses_build_iff {records : List CallRecord} {upper lower : Nat} {record : CallRecord}
    (here : records[upper]? = some record) :
    Encloses (build records) upper lower ↔
      upper < lower ∧ lower < records.length ∧
        ∀ call ∈ (records.take (lower + 1)).drop (upper + 1), record.level < call.level := by
  obtain ⟨inside, rfl⟩ := List.getElem?_eq_some_iff.mp here
  rw [encloses_build_iff_reach, reach, List.drop_eq_getElem_cons inside]
  apply and_congr_right
  intro before
  obtain ⟨count, rfl⟩ := Nat.exists_eq_add_of_le before.le
  have between : (records.take (upper + count + 1)).drop (upper + 1) =
      (records.drop (upper + 1)).take count := by
    rw [List.drop_take]
    congr 1
    omega
  rw [Nat.add_le_add_iff_left, le_length_takeWhile_iff, List.length_drop, between]
  refine and_congr (by omega) ?_
  simp only [deeper_iff]

end CallTree

end CallTrace
