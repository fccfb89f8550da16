/-
# Only the last depth is out of bounds

The levels in use always are allocated, because a level is allocated before it is counted
as used and nothing is ever given back. So the operations in place meet no index and no
slice that does not fit, neither among themselves nor where what they leave is compared,
and they come to what the definitions say, as long as the sums that they make fit a word.

There are two such sums. One counts the levels down to a depth and does not fit at the last
depth. Where that is not checked, the operation cuts the array down to nothing and then is
out of bounds. The other numbers the sites of a level, where nothing is indexed by
the number: if it is not checked, the numbering begins anew, as the definitions have it.
-/

import CallTrace.InPlace
import CallTrace.Proofs.Requests

namespace CallTrace

namespace Arithmetic

/-- What ends an operation that counts the levels down to the last depth. -/
def fault : Arithmetic → AccessFault
  | .checked => .overflow
  | .wrapping => .outOfBounds

section

variable {Word : Type} [Add Word] [OfNat Word 0] [OfNat Word 1] [DecidableEq Word] {word : Word}

theorem next_eq_ok (arithmetic : Arithmetic) (fits : word + 1 ≠ 0) :
    arithmetic.next word = .ok (word + 1) :=
  if_neg fun full => fits full.2

/-- What is not checked comes to a sum, right or wrong. -/
theorem next_wrapping (word : Word) : wrapping.next word = .ok (word + 1) := rfl

theorem next_checked_eq_error (full : word + 1 = 0) : checked.next word = .error .overflow :=
  if_pos ⟨rfl, full⟩

/-- A next word is the sum. -/
theorem eq_of_next {arithmetic : Arithmetic} {next : Word}
    (found : arithmetic.next word = .ok next) : next = word + 1 := by
  rw [Arithmetic.next] at found
  split at found
  · cases found
  · exact (Except.ok.inj found).symm

end

/-- Below the last depth, the levels are counted as numbers. -/
theorem toNat_next {depth : UInt64} (below : depth + 1 ≠ 0) :
    (depth + 1).toNat = depth.toNat + 1 := by
  have apart : (depth + 1).toNat ≠ 0 := fun zero => below (UInt64.toNat_inj.mp zero)
  have sum : (depth + 1).toNat = (depth.toNat + 1) % 2 ^ 64 := UInt64.toNat_add depth 1
  have word : depth.toNat < 2 ^ 64 := depth.toNat_lt
  omega

/-- The last depth is the greatest word. -/
theorem toNat_of_last {depth : UInt64} (last : depth + 1 = 0) : depth.toNat + 1 = UInt64.size := by
  have sum : (depth + 1).toNat = (depth.toNat + 1) % 2 ^ 64 := UInt64.toNat_add depth 1
  have word : depth.toNat < 2 ^ 64 := depth.toNat_lt
  rw [last, UInt64.toNat_zero] at sum
  rw [UInt64.size]
  omega

/-- No word is greater than the last depth. -/
theorem next_ne_zero_of_lt {depth deeper : UInt64} (above : depth < deeper) : depth + 1 ≠ 0 := by
  intro last
  have greatest := toNat_of_last last
  have apart : depth.toNat < deeper.toNat := UInt64.lt_iff_toNat_lt.mp above
  have word : deeper.toNat < UInt64.size := deeper.toNat_lt_size
  omega

/-- What is ended by a fault ends out of bounds only if sums are not checked. -/
theorem ended_outOfBounds_iff {Result : Type} (arithmetic : Arithmetic) (fits : Bool)
    (result : Result) :
    (if fits then Except.ok result else .error arithmetic.fault) = .error .outOfBounds ↔
      arithmetic = .wrapping ∧ fits = false := by
  cases arithmetic <;> cases fits <;> simp [fault]

end Arithmetic

namespace InPlace

variable {α : Type} {items : Array α} {place count : Nat}

/-- An entry is read as the default or by its index. -/
theorem read_eq_ok (within : place < items.size) (default : α) :
    read place items = .ok (items.getD place default) := by
  rw [read, Array.getElem?_eq_getElem within, GrownArray.getD_of_lt within]

theorem read_eq_error (beyond : items.size ≤ place) : read place items = .error .outOfBounds := by
  rw [read, Array.getElem?_eq_none beyond]

theorem modify_eq_ok (within : place < items.size) (change : α → α) :
    modify place change items = .ok (items.modify place change) :=
  if_pos within

theorem split_eq_ok (within : place ≤ items.size) :
    split place items = .ok (items.extract 0 place, items.extract place) :=
  if_pos within

/-- To clear a slice is to change every entry by its place. -/
theorem clear_eq_ok (within : count ≤ items.size) (default : α) :
    clear default count items =
      .ok (items.mapIdx fun place item => if place < count then default else item) := by
  rw [clear, split_eq_ok within]
  refine congrArg Except.ok (Array.ext ?_ fun place inside _ => ?_)
  · simp only [Array.size_append, Array.size_map, Array.size_extract, Array.size_mapIdx]
    omega
  · have front : (items.extract 0 count).size = count := by
      rw [Array.size_extract, Nat.min_eq_left within, Nat.sub_zero]
    rw [Array.getElem_append, Array.getElem_mapIdx]
    simp only [Array.size_map, front]
    split
    · exact Array.getElem_map ..
    · rename_i behind
      rw [Array.getElem_extract]
      congr 1
      omega

/-- The slice of the first entries is what the array begins with. -/
theorem toList_front (items : Array α) (count : Nat) :
    (items.extract 0 count).toList = items.toList.take count := by
  simp

theorem sameUse_eq_ok [BEq α] {other : Array α} {otherCount : Nat}
    (within : count ≤ items.size) (otherWithin : otherCount ≤ other.size) :
    sameUse count items otherCount other =
      .ok (count == otherCount &&
        items.toList.take count == other.toList.take otherCount) := by
  rw [sameUse]
  by_cases same : count = otherCount
  · rw [if_pos same, split_eq_ok within, split_eq_ok otherWithin, beq_iff_eq.mpr same,
      Bool.true_and, ← toList_front, ← toList_front]
    rfl
  · rw [if_neg same, beq_eq_false_iff_ne.mpr same, Bool.false_and]
    rfl

/-- Two entries are changed in two slices as they are in the whole. -/
theorem modify_append_modify (items : Array α) {upper lower : Nat} (apart : upper < lower)
    (within : lower < items.size) (change clear : α → α) :
    (items.extract 0 lower).modify upper change ++ (items.extract lower).modify 0 clear =
      (items.modify upper change).modify lower clear := by
  apply Array.ext
  · simp only [Array.size_append, Array.size_modify, Array.size_extract]
    omega
  · intro place _ _
    have front : (items.extract 0 lower).size = lower := by
      rw [Array.size_extract, Nat.min_eq_left within.le, Nat.sub_zero]
    simp only [Array.getElem_append, Array.size_modify, front, Array.getElem_modify,
      Array.getElem_extract, Nat.zero_add]
    grind

/-- Below the last depth an array is grown by defaults, and only if it does not reach far
enough. -/
theorem reach_eq_ok (arithmetic : Arithmetic) (default : α) {depth : UInt64}
    (below : depth + 1 ≠ 0) (items : Array α) :
    reach arithmetic default depth items =
      .ok (items ++ Array.replicate (depth.toNat + 1 - items.size) default) := by
  rw [reach]
  by_cases short : items.size ≤ depth.toNat
  · rw [if_pos short, Arithmetic.next_eq_ok arithmetic below]
    have whole : items.extract 0 (depth.toNat + 1) = items :=
      Array.extract_eq_self_of_le (Nat.le_succ_of_le short)
    simp only [bind, Except.bind, resize, Arithmetic.toNat_next below, whole]
    rfl
  · have enough : depth.toNat + 1 - items.size = 0 := by omega
    rw [if_neg short, enough, Array.replicate_zero, Array.append_empty]
    rfl

/-- At the last depth either the sum is found not to fit, or nothing is left of the array. -/
theorem reach_last (arithmetic : Arithmetic) (default : α) {depth : UInt64}
    (last : depth + 1 = 0) (short : items.size < UInt64.size) :
    reach arithmetic default depth items =
      match arithmetic with
      | .checked => .error .overflow
      | .wrapping => .ok #[] := by
  have beyond : items.size ≤ depth.toNat := by
    have greatest := Arithmetic.toNat_of_last last
    omega
  rw [reach, if_pos beyond]
  cases arithmetic with
  | checked =>
      rw [Arithmetic.next_checked_eq_error last]
      rfl
  | wrapping =>
      rw [Arithmetic.next_wrapping, last]
      simp [bind, Except.bind, resize, pure, Except.pure]

end InPlace

namespace SiteTable

variable {table other : SiteTable} {level depth : Nat}

/-- A table that is grown to a depth has this level and those above it. -/
theorem read_grow (table : SiteTable) (above : level ≤ depth) :
    InPlace.read level (table.grow depth).levels = .ok (table.levelAt level) := by
  rw [InPlace.read_eq_ok (above.trans_lt (lt_size_grow table depth)) .unused]
  exact congrArg Except.ok (levelAt_grow table depth level)

/-- Below the last depth a frame is opened in place as it is by the definition, if only its
site is not the last one, or nothing checks that. -/
theorem enterInPlace_of_below (arithmetic : Arithmetic) (table : SiteTable) {depth : UInt64}
    (below : depth + 1 ≠ 0) :
    table.enterInPlace arithmetic depth = do
      let _ ← arithmetic.next (table.nextSite depth.toNat)
      return table.enter depth.toNat := by
  have reached : InPlace.reach arithmetic .unused depth table.levels =
      .ok (table.grow depth.toNat).levels :=
    InPlace.reach_eq_ok arithmetic .unused below table.levels
  have link : linkInPlace depth (table.grow depth.toNat).levels =
      .ok (if depth.toNat = 0 then 0 else (table.levelAt (depth.toNat - 1)).opened) := by
    have top : depth = 0 ↔ depth.toNat = 0 := UInt64.toNat_inj.symm
    rw [linkInPlace, read_grow table (Nat.sub_le depth.toNat 1), if_congr top rfl rfl]
    split <;> rfl
  simp only [enterInPlace, bind, Except.bind, reached, link, read_grow table (Nat.le_refl _)]
  rcases numbered : arithmetic.next (table.nextSite depth.toNat) with fault | next
  · rw [nextSite] at numbered
    rw [numbered]
  · have sum : next = table.nextSite depth.toNat + 1 := Arithmetic.eq_of_next numbered
    rw [nextSite] at numbered
    simp only [numbered, InPlace.modify_eq_ok (lt_size_grow table depth.toNat),
      Arithmetic.next_eq_ok arithmetic below, Arithmetic.toNat_next below]
    refine congrArg Except.ok (Prod.ext rfl (congrArg (SiteTable.mk · _) (Array.ext ?_ ?_)))
    · simp only [Array.size_mapIdx, Array.size_modify]
    · -- The level that is entered is written first, and is not among those closed after it.
      intro place _ _
      simp only [Array.getElem_mapIdx, Array.getElem_modify, Nat.succ_le_iff, sum]
      by_cases entered : place = depth.toNat
      · rw [if_pos entered, if_pos entered.symm, if_neg (by omega)]
        rfl
      · rw [if_neg entered, if_neg (Ne.symm entered)]

/-- At the last depth no frame can be opened. -/
theorem enterInPlace_last (arithmetic : Arithmetic) {depth : UInt64} (last : depth + 1 = 0)
    (short : table.levels.size < UInt64.size) :
    table.enterInPlace arithmetic depth = .error arithmetic.fault := by
  rw [enterInPlace, InPlace.reach_last arithmetic .unused last short]
  cases arithmetic with
  | checked => rfl
  | wrapping =>
      have deep : depth ≠ 0 := by
        rintro rfl
        cases last
      have link : linkInPlace depth #[] = .error .outOfBounds := by
        rw [linkInPlace, if_neg deep, InPlace.read_eq_error (Nat.zero_le _)]
        rfl
      simp only [bind, Except.bind, link]
      rfl

theorem resetInPlace_eq_ok (allocated : table.touched ≤ table.levels.size) :
    table.resetInPlace = .ok table.reset := by
  rw [resetInPlace, InPlace.clear_eq_ok allocated]
  rfl

/-- A table that counts a level without having it could not be reset. -/
example : (⟨#[], 1⟩ : SiteTable).resetInPlace = .error .outOfBounds := rfl

theorem beqInPlace_eq_ok (allocated : table.touched ≤ table.levels.size)
    (otherAllocated : other.touched ≤ other.levels.size) :
    table.beqInPlace other = .ok (table == other) :=
  InPlace.sameUse_eq_ok allocated otherAllocated

/-- What changes a table, with its depths in words. -/
inductive Operation where
  | enter (depth : UInt64)
  | reset

namespace Operation

/-- The request that an operation answers. -/
def request : Operation → Request
  | .enter depth => .enter depth.toNat
  | .reset => .reset

/-- Whether an operation counts the levels down to the last depth. -/
def reachesLast : Operation → Bool
  | .enter depth => depth + 1 == 0
  | .reset => false

/-- Whether the sums that an operation makes fit, those of sites only where this is checked. -/
def fits (arithmetic : Arithmetic) (table : SiteTable) : Operation → Bool
  | .enter depth =>
    depth + 1 != 0 && (arithmetic == .wrapping || table.nextSite depth.toNat + 1 != 0)
  | .reset => true

theorem fits_wrapping (table : SiteTable) (operation : Operation) :
    operation.fits .wrapping table = !operation.reachesLast := by
  cases operation with
  | enter depth => exact Bool.and_true _
  | reset => rfl

end Operation

/-- The machine of which the depths are words, and the levels are not. -/
def wordMachine : Machine SiteTable Operation Reply :=
  ⟨.empty, fun table operation => table.answer operation.request⟩

theorem reachable_operated (history : List Operation) : (wordMachine.reached history).Reachable :=
  wordMachine.after_induction (fun _ operation reachable => reachable.answer operation.request)
    .empty history

/-- Carries an operation out in place. -/
def perform (arithmetic : Arithmetic) (table : SiteTable) :
    Operation → Except AccessFault (Reply × SiteTable)
  | .enter depth => do
    let (site, next) ← table.enterInPlace arithmetic depth
    return (.site site, next)
  | .reset => do
    let next ← table.resetInPlace
    return (.done, next)

/-- An operation in place is the one defined, unless a sum does not fit. -/
theorem perform_eq (arithmetic : Arithmetic) (wellFormed : table.WellFormed)
    (short : table.levels.size < UInt64.size) (operation : Operation) :
    table.perform arithmetic operation =
      if operation.fits arithmetic table then .ok (wordMachine.answer table operation)
      else .error arithmetic.fault := by
  cases operation with
  | reset =>
      rw [perform, resetInPlace_eq_ok wellFormed.touched_le]
      rfl
  | enter depth =>
      by_cases last : depth + 1 = 0
      · have misfit : (Operation.enter depth).fits arithmetic table = false := by
          rw [Operation.fits, bne_eq_false_iff_eq.mpr last, Bool.false_and]
        rw [perform, enterInPlace_last arithmetic last short, misfit]
        rfl
      · rw [perform, enterInPlace_of_below arithmetic table last, Operation.fits,
          bne_iff_ne.mpr last, Bool.true_and]
        by_cases numbered : table.nextSite depth.toNat + 1 = 0
        · rw [bne_eq_false_iff_eq.mpr numbered, Bool.or_false]
          cases arithmetic with
          | checked =>
              rw [Arithmetic.next_checked_eq_error numbered]
              rfl
          | wrapping => rfl
        · rw [bne_iff_ne.mpr numbered, Bool.or_true, Arithmetic.next_eq_ok arithmetic numbered]
          rfl

theorem size_enter (table : SiteTable) (depth : Nat) :
    (table.enter depth).2.levels.size = max table.levels.size (depth + 1) := by
  rw [enter, grow, Array.size_mapIdx, Array.size_append, Array.size_replicate]
  omega

/-- The tables that come about and have no more levels than a word can count. -/
structure InWords (table : SiteTable) : Prop where
  reachable : table.Reachable
  short : table.levels.size < UInt64.size

theorem inWords_empty : InWords .empty := ⟨.empty, by decide⟩

/-- What fits leaves no more levels than can be counted. -/
theorem InWords.answer {arithmetic : Arithmetic} (inWords : table.InWords) (operation : Operation)
    (fits : operation.fits arithmetic table) :
    (wordMachine.answer table operation).2.InWords where
  reachable := inWords.reachable.answer operation.request
  short := by
    cases operation with
    | enter depth =>
        have below : depth + 1 ≠ 0 := bne_iff_ne.mp (Bool.and_eq_true _ _ ▸ fits).1
        change (table.enter depth.toNat).2.levels.size < UInt64.size
        rw [size_enter, ← Arithmetic.toNat_next below]
        exact Nat.max_lt.mpr ⟨inWords.short, (depth + 1).toNat_lt_size⟩
    | reset =>
        change table.reset.levels.size < UInt64.size
        rw [reset, Array.size_mapIdx]
        exact inWords.short

/-- A run of a new table is that of the definitions, unless a sum does not fit. -/
theorem attempt_eq (arithmetic : Arithmetic) (history : List Operation) :
    Machine.attempt (perform arithmetic) history .empty =
      if wordMachine.admits (fun table operation => operation.fits arithmetic table) history .empty
      then .ok (wordMachine.replies history .empty, wordMachine.reached history)
      else .error arithmetic.fault :=
  wordMachine.attempt_eq
    (fun _ operation (inWords : InWords _) =>
      perform_eq arithmetic inWords.reachable.wellFormed inWords.short operation)
    (fun _ operation inWords fits => inWords.answer operation fits) inWords_empty history

/-- If sums are not checked, only the last depth matters. -/
theorem admits_wrapping (history : List Operation) (table : SiteTable) :
    wordMachine.admits (fun table operation => operation.fits .wrapping table) history table =
      history.all (!·.reachesLast) := by
  simp only [Operation.fits_wrapping, Machine.admits_eq_all]

/-- A run of a new table is out of bounds exactly if it comes to the last depth and goes on. -/
theorem attempt_eq_outOfBounds_iff (arithmetic : Arithmetic) (history : List Operation) :
    Machine.attempt (perform arithmetic) history .empty = .error .outOfBounds ↔
      arithmetic = .wrapping ∧ ∃ operation ∈ history, operation.reachesLast := by
  rw [attempt_eq, Arithmetic.ended_outOfBounds_iff]
  refine and_congr_right ?_
  rintro rfl
  rw [admits_wrapping, List.all_eq_false]
  simp only [Bool.not_eq_true', Bool.not_eq_false]

end SiteTable

namespace DepthBuffers

variable {α : Type} {buffers other : DepthBuffers α}

theorem reach_eq_ok (arithmetic : Arithmetic) (buffers : DepthBuffers α) {depth : UInt64}
    (below : depth + 1 ≠ 0) :
    InPlace.reach arithmetic #[] depth buffers.slots = .ok (buffers.touch depth.toNat).slots :=
  InPlace.reach_eq_ok arithmetic #[] below buffers.slots

/-- A level that is touched is there to be used. -/
theorem read_touch (buffers : DepthBuffers α) (depth : Nat) :
    InPlace.read depth (buffers.touch depth).slots = .ok (buffers.slot depth) := by
  rw [InPlace.read_eq_ok (lt_size_touch buffers depth) #[]]
  exact congrArg Except.ok (slot_touch buffers depth depth)

theorem touchInPlace_eq_ok (arithmetic : Arithmetic) (buffers : DepthBuffers α) {depth : UInt64}
    (below : depth + 1 ≠ 0) :
    buffers.touchInPlace arithmetic depth =
      .ok (buffers.slot depth.toNat, buffers.touch depth.toNat) := by
  simp only [touchInPlace, bind, Except.bind, reach_eq_ok arithmetic buffers below,
    Arithmetic.next_eq_ok arithmetic below, Arithmetic.toNat_next below, read_touch]
  rfl

/-- At the last depth there is no buffer to be used. -/
theorem touchInPlace_last (arithmetic : Arithmetic) {depth : UInt64} (last : depth + 1 = 0)
    (short : buffers.slots.size < UInt64.size) :
    buffers.touchInPlace arithmetic depth = .error arithmetic.fault := by
  rw [touchInPlace, InPlace.reach_last arithmetic #[] last short]
  cases arithmetic with
  | checked => rfl
  | wrapping =>
      have gone : InPlace.read depth.toNat (#[] : Array (Array α)) = .error .outOfBounds :=
        InPlace.read_eq_error (Nat.zero_le _)
      simp only [bind, Except.bind, Arithmetic.next_wrapping, gone]
      rfl

theorem pushInPlace_eq_ok (arithmetic : Arithmetic) (buffers : DepthBuffers α) {depth : UInt64}
    (below : depth + 1 ≠ 0) (record : α) :
    buffers.pushInPlace arithmetic depth record = .ok (buffers.push depth.toNat record) := by
  simp only [pushInPlace, bind, Except.bind, touchInPlace_eq_ok arithmetic buffers below,
    InPlace.modify_eq_ok (lt_size_touch buffers depth.toNat)]
  rfl

/-- Folding upward counts no level that is not there, and stays within the two slices: the one
above the cut has as many entries as the index of the level folded, and the one below it has
that level. -/
theorem foldInPlace_eq_ok (arithmetic : Arithmetic) (buffers : DepthBuffers α)
    {parent child : UInt64} (above : parent < child) :
    buffers.foldInPlace arithmetic parent child =
      .ok (buffers.fold parent.toNat child.toNat) := by
  rw [foldInPlace, fold]
  by_cases beyond : buffers.slots.size ≤ child.toNat
  · rw [if_pos beyond, slot_of_size_le beyond]
    rfl
  · have allocated : child.toNat < buffers.slots.size := Nat.lt_of_not_le beyond
    have apart : parent.toNat < child.toNat := UInt64.lt_iff_toNat_lt.mp above
    have below : parent + 1 ≠ 0 := Arithmetic.next_ne_zero_of_lt above
    simp only [if_neg beyond, bind, Except.bind, InPlace.read_eq_ok allocated #[],
      touchInPlace_eq_ok arithmetic buffers below]
    change (if (buffers.slot child.toNat).isEmpty then _ else _) = _
    by_cases nothing : (buffers.slot child.toNat).isEmpty
    · rw [if_pos nothing, if_pos nothing]
      rfl
    · rw [if_neg nothing, if_neg nothing]
      -- Room for `parent` is made behind what is allocated, so `child` is still there.
      have within : child.toNat < (buffers.touch parent.toNat).slots.size := by
        rw [touch, Array.size_append]
        exact Nat.lt_add_right _ allocated
      have upper : parent.toNat <
          ((buffers.touch parent.toNat).slots.extract 0 child.toNat).size := by
        rwa [Array.size_extract, Nat.min_eq_left within.le, Nat.sub_zero]
      have lower : 0 < ((buffers.touch parent.toNat).slots.extract child.toNat).size := by
        rw [Array.size_extract, Nat.min_self]
        exact Nat.sub_pos_of_lt within
      have moved : InPlace.read 0 ((buffers.touch parent.toNat).slots.extract child.toNat) =
          .ok (buffers.slot child.toNat) := by
        rw [InPlace.read, Array.getElem?_extract, if_pos (by omega), Nat.add_zero,
          Array.getElem?_eq_getElem within, ← slot_touch buffers parent.toNat, slot,
          GrownArray.getD_of_lt within]
      simp only [InPlace.split_eq_ok within.le, moved, InPlace.modify_eq_ok upper,
        InPlace.modify_eq_ok lower, InPlace.modify_append_modify _ apart within]
      rfl

theorem resetInPlace_eq_ok (allocated : buffers.touched ≤ buffers.slots.size) :
    buffers.resetInPlace = .ok buffers.reset := by
  rw [resetInPlace, InPlace.clear_eq_ok allocated]
  rfl

theorem beqInPlace_eq_ok [BEq α] (allocated : buffers.touched ≤ buffers.slots.size)
    (otherAllocated : other.touched ≤ other.slots.size) :
    buffers.beqInPlace other = .ok (buffers == other) :=
  InPlace.sameUse_eq_ok allocated otherAllocated

/-- What changes a row of buffers, with its depths in words. -/
inductive Operation (α : Type) where
  | touch (depth : UInt64)
  | push (depth : UInt64) (record : α)
  | fold (parent child : UInt64) (above : parent < child)
  | drain (depth : UInt64)
  | reset

namespace Operation

/-- The request that an operation answers. -/
def request : Operation α → Request α
  | .touch depth => .touch depth.toNat
  | .push depth record => .push depth.toNat record
  | .fold parent child above => .fold parent.toNat child.toNat (UInt64.lt_iff_toNat_lt.mp above)
  | .drain depth => .drain depth.toNat
  | .reset => .reset

/-- Whether an operation counts the levels down to the last depth. -/
def reachesLast : Operation α → Bool
  | .touch depth | .push depth _ => depth + 1 == 0
  | .fold .. | .drain _ | .reset => false

end Operation

/-- The machine of which the depths are words, and the levels are not. -/
def wordMachine (α : Type) : Machine (DepthBuffers α) (Operation α) (Reply α) :=
  ⟨.empty, fun buffers operation => buffers.answer operation.request⟩

theorem reachable_operated (history : List (Operation α)) :
    ((wordMachine α).reached history).Reachable :=
  (wordMachine α).after_induction
    (fun _ operation reachable => reachable.answer operation.request) .empty history

/-- Carries an operation out in place. -/
def perform (arithmetic : Arithmetic) (buffers : DepthBuffers α) :
    Operation α → Except AccessFault (Reply α × DepthBuffers α)
  | .touch depth => do
    let (records, next) ← buffers.touchInPlace arithmetic depth
    return (.records records, next)
  | .push depth record => do
    let next ← buffers.pushInPlace arithmetic depth record
    return (.done, next)
  | .fold parent child _ => do
    let next ← buffers.foldInPlace arithmetic parent child
    return (.done, next)
  | .drain depth => return (.records (buffers.drain depth.toNat).1, (buffers.drain depth.toNat).2)
  | .reset => do
    let next ← buffers.resetInPlace
    return (.done, next)

/-- An operation in place is the one defined, except at the last depth. -/
theorem perform_eq (arithmetic : Arithmetic) (wellFormed : buffers.WellFormed)
    (short : buffers.slots.size < UInt64.size) (operation : Operation α) :
    buffers.perform arithmetic operation =
      if !operation.reachesLast then .ok ((wordMachine α).answer buffers operation)
      else .error arithmetic.fault := by
  cases operation with
  | touch depth =>
      by_cases last : depth + 1 = 0
      · rw [perform, touchInPlace_last arithmetic last short, Operation.reachesLast,
          beq_iff_eq.mpr last]
        rfl
      · rw [perform, touchInPlace_eq_ok arithmetic buffers last, Operation.reachesLast,
          beq_eq_false_iff_ne.mpr last]
        rfl
  | push depth record =>
      by_cases last : depth + 1 = 0
      · rw [perform, pushInPlace, touchInPlace_last arithmetic last short, Operation.reachesLast,
          beq_iff_eq.mpr last]
        rfl
      · rw [perform, pushInPlace_eq_ok arithmetic buffers last, Operation.reachesLast,
          beq_eq_false_iff_ne.mpr last]
        rfl
  | fold parent child above =>
      rw [perform, foldInPlace_eq_ok arithmetic buffers above]
      rfl
  | drain depth => rfl
  | reset =>
      rw [perform, resetInPlace_eq_ok wellFormed.touched_le]
      rfl

/-- The rows that come about and have no more levels than a word can count. -/
structure InWords (buffers : DepthBuffers α) : Prop where
  reachable : buffers.Reachable
  short : buffers.slots.size < UInt64.size

theorem inWords_empty : InWords (.empty : DepthBuffers α) :=
  ⟨.empty, (by decide : 0 < UInt64.size)⟩

/-- Touching a level below the last makes no more levels than can be counted. -/
theorem InWords.size_touch (inWords : buffers.InWords) {depth : UInt64} (below : depth + 1 ≠ 0) :
    (buffers.touch depth.toNat).slots.size < UInt64.size := by
  have counted : depth.toNat + 1 < UInt64.size :=
    Arithmetic.toNat_next below ▸ (depth + 1).toNat_lt_size
  have room := inWords.short
  rw [touch, Array.size_append, Array.size_replicate]
  omega

/-- What fits leaves no more levels than can be counted. -/
theorem InWords.answer (inWords : buffers.InWords) (operation : Operation α)
    (fits : !operation.reachesLast) :
    ((wordMachine α).answer buffers operation).2.InWords where
  reachable := inWords.reachable.answer operation.request
  short := by
    cases operation with
    | touch depth =>
        exact inWords.size_touch fun last => by simp [Operation.reachesLast, last] at fits
    | push depth record =>
        change (buffers.push depth.toNat record).slots.size < UInt64.size
        rw [push, modifySlot, Array.size_modify]
        exact inWords.size_touch fun last => by simp [Operation.reachesLast, last] at fits
    | fold parent child above =>
        change (buffers.fold parent.toNat child.toNat).slots.size < UInt64.size
        rw [fold]
        split
        · exact inWords.short
        · rw [modifySlot, modifySlot, Array.size_modify, Array.size_modify]
          exact inWords.size_touch (Arithmetic.next_ne_zero_of_lt above)
    | drain depth =>
        change (buffers.drain depth.toNat).2.slots.size < UInt64.size
        rw [drain, modifySlot, Array.size_modify]
        exact inWords.short
    | reset =>
        change buffers.reset.slots.size < UInt64.size
        rw [reset, Array.size_mapIdx]
        exact inWords.short

/-- A run of a new row is that of the definitions, unless it comes to the last depth. -/
theorem attempt_eq (arithmetic : Arithmetic) (history : List (Operation α)) :
    Machine.attempt (perform arithmetic) history .empty =
      if history.all (!·.reachesLast) then
        .ok ((wordMachine α).replies history .empty, (wordMachine α).reached history)
      else .error arithmetic.fault := by
  have run := (wordMachine α).attempt_eq
    (fun _ operation (inWords : InWords _) =>
      perform_eq arithmetic inWords.reachable.wellFormed inWords.short operation)
    (fun _ operation inWords fits => inWords.answer operation fits) inWords_empty history
  rwa [Machine.admits_eq_all] at run

/-- A run of a new row is out of bounds exactly if it comes to the last depth and goes on. -/
theorem attempt_eq_outOfBounds_iff (arithmetic : Arithmetic) (history : List (Operation α)) :
    Machine.attempt (perform arithmetic) history .empty = .error .outOfBounds ↔
      arithmetic = .wrapping ∧ ∃ operation ∈ history, operation.reachesLast := by
  rw [attempt_eq, Arithmetic.ended_outOfBounds_iff, List.all_eq_false]
  simp only [Bool.not_eq_true', Bool.not_eq_false]

theorem isEmptyBelowInPlace_eq_ok (arithmetic : Arithmetic) (buffers : DepthBuffers α)
    {depth : UInt64} (below : depth + 1 ≠ 0) :
    buffers.isEmptyBelowInPlace arithmetic depth = .ok (buffers.isEmptyBelow depth.toNat) := by
  rw [isEmptyBelowInPlace, Arithmetic.next_eq_ok arithmetic below]
  simp only [bind, Except.bind, Arithmetic.toNat_next below]
  rfl

/-- What waits deeper than the last depth is taken to be everything. -/
theorem isEmptyBelowInPlace_last (buffers : DepthBuffers α) {depth : UInt64}
    (last : depth + 1 = 0) :
    buffers.isEmptyBelowInPlace .wrapping depth =
      .ok (buffers.slots.toList.all Array.isEmpty) := by
  rw [isEmptyBelowInPlace, Arithmetic.next_wrapping, last]
  rfl

end DepthBuffers

/-- A merger takes a frame only below its bound, and no depth below a bound is the last one. So
opening the frame, and adding its record to whatever waits, is in place what it is defined to be. -/
theorem Merger.in_place_of_accept {merger next : Merger} {frame : CallFrame}
    (accepted : merger.accept frame = .ok next) (buffers : DepthBuffers CallRecord)
    (record : CallRecord) :
    merger.table.enterInPlace .wrapping frame.depth = .ok (merger.table.enter frame.level) ∧
      ∀ arithmetic,
        buffers.pushInPlace arithmetic frame.depth record = .ok (buffers.push frame.level record) := by
  have below : frame.depth + 1 ≠ 0 := by
    by_cases deep : merger.maxDepth ≤ frame.depth
    · rw [accept, if_pos deep] at accepted
      cases accepted
    · exact Arithmetic.next_ne_zero_of_lt (UInt64.not_le.mp deep)
  constructor
  · rw [SiteTable.enterInPlace_of_below .wrapping merger.table below, Arithmetic.next_wrapping]
    rfl
  · exact fun arithmetic => DepthBuffers.pushInPlace_eq_ok arithmetic buffers below record

/-- Whatever was carried out, the levels in use are allocated and those beyond them hold nothing,
and to compare what is left with what other operations leave meets no slice that does not fit.
A run, after any resets and on whatever was allocated before them, comes to what is defined, with
all its replies, if every sum fits, and otherwise is ended by the first that does not. So no
index and no slice is out of bounds where sums are checked, nor anywhere else before the
levels down to the last depth are counted. Then one is. -/
theorem only_last_depth_is_out_of_bounds (arithmetic : Arithmetic) :
    (∀ history other : List SiteTable.Operation,
      let table := SiteTable.wordMachine.reached history
      let otherTable := SiteTable.wordMachine.reached other
      let run := Machine.attempt (SiteTable.perform arithmetic) history .empty
      table.WellFormed ∧
        run = (if SiteTable.wordMachine.admits
            (fun table operation => operation.fits arithmetic table) history .empty
          then .ok (SiteTable.wordMachine.replies history .empty, table)
          else .error arithmetic.fault) ∧
        (run = .error .outOfBounds ↔
          arithmetic = .wrapping ∧ ∃ operation ∈ history, operation.reachesLast) ∧
        table.beqInPlace otherTable = .ok (table == otherTable)) ∧
      ∀ (α : Type) [BEq α] (history other : List (DepthBuffers.Operation α)),
        let buffers := (DepthBuffers.wordMachine α).reached history
        let otherBuffers := (DepthBuffers.wordMachine α).reached other
        let run := Machine.attempt (DepthBuffers.perform arithmetic) history .empty
        buffers.WellFormed ∧
          run = (if history.all (!·.reachesLast)
            then .ok ((DepthBuffers.wordMachine α).replies history .empty, buffers)
            else .error arithmetic.fault) ∧
          (run = .error .outOfBounds ↔
            arithmetic = .wrapping ∧ ∃ operation ∈ history, operation.reachesLast) ∧
          buffers.beqInPlace otherBuffers = .ok (buffers == otherBuffers) := by
  constructor
  · intro history other table otherTable run
    have formed : table.WellFormed := (SiteTable.reachable_operated history).wellFormed
    have otherFormed : otherTable.WellFormed := (SiteTable.reachable_operated other).wellFormed
    exact ⟨formed, SiteTable.attempt_eq arithmetic history,
      SiteTable.attempt_eq_outOfBounds_iff arithmetic history,
      SiteTable.beqInPlace_eq_ok formed.touched_le otherFormed.touched_le⟩
  · intro α _ history other buffers otherBuffers run
    have formed : buffers.WellFormed := (DepthBuffers.reachable_operated history).wellFormed
    have otherFormed : otherBuffers.WellFormed :=
      (DepthBuffers.reachable_operated other).wellFormed
    exact ⟨formed, DepthBuffers.attempt_eq arithmetic history,
      DepthBuffers.attempt_eq_outOfBounds_iff arithmetic history,
      DepthBuffers.beqInPlace_eq_ok formed.touched_le otherFormed.touched_le⟩

/-- In a program built for release, a frame that is opened at the last depth, or a record that
is added there, meets an index beyond an array of which nothing is left. -/
theorem last_depth_is_out_of_bounds :
    Machine.attempt (SiteTable.perform .wrapping) [.enter 3, .enter 18446744073709551615] .empty =
        .error .outOfBounds ∧
      Machine.attempt (DepthBuffers.perform .wrapping)
          [.push 0 'a', .push 18446744073709551615 'b'] .empty = .error .outOfBounds :=
  ⟨rfl, rfl⟩

end CallTrace
