/-
# Arrays that grow on demand

A table with an entry for every depth is an array that reaches as far as it has ever
been grown; what lies beyond reads as a default. Growing writes that default into the
new places, so no place reads differently afterwards.
-/

namespace CallTrace.GrownArray

variable {α : Type} {items : Array α} {default : α} {place : Nat}

/-- Beyond the end of an array stands the default. -/
theorem getD_of_size_le (beyond : items.size ≤ place) : items.getD place default = default := by
  rw [Array.getD_eq_getD_getElem?, Array.getElem?_eq_none beyond, Option.getD_none]

/-- Within an array stands what the array holds. -/
theorem getD_of_lt (within : place < items.size) : items.getD place default = items[place] := by
  rw [Array.getD_eq_getD_getElem?, Array.getElem?_eq_getElem within, Option.getD_some]

/-- Growing by defaults changes what no place reads. -/
theorem getD_append_replicate (items : Array α) (count : Nat) (default : α) (place : Nat) :
    (items ++ Array.replicate count default).getD place default = items.getD place default := by
  rw [Array.getD_eq_getD_getElem?, Array.getD_eq_getD_getElem?, Array.getElem?_append,
    Array.getElem?_replicate]
  split
  · rfl
  · rename_i beyond
    rw [Array.getElem?_eq_none (Nat.le_of_not_lt beyond)]
    split <;> rfl

/-- An array that is grown as far as a place has the place. -/
theorem lt_size_append_replicate (items : Array α) (default : α) (place : Nat) :
    place < (items ++ Array.replicate (place + 1 - items.size) default).size := by
  rw [Array.size_append, Array.size_replicate]
  omega

/-- A change of every entry by its place. There is nothing to change beyond the end. -/
theorem getD_mapIdx (items : Array α) (change : Nat → α → α) (default : α) (place : Nat) :
    (items.mapIdx change).getD place default =
      if place < items.size then change place (items.getD place default) else default := by
  rw [Array.getD_eq_getD_getElem?, Array.getD_eq_getD_getElem?, Array.getElem?_mapIdx]
  split
  · rename_i inside
    rw [Array.getElem?_eq_getElem inside, Option.map_some, Option.getD_some, Option.getD_some]
  · rename_i beyond
    rw [Array.getElem?_eq_none (Nat.le_of_not_lt beyond), Option.map_none, Option.getD_none]

/-- The front of an array, read place by place. -/
theorem take_toList (default : α) {count : Nat} (within : count ≤ items.size) :
    items.toList.take count = (List.range count).map fun place => items.getD place default := by
  apply List.ext_getElem
  · rw [List.length_take, Array.length_toList, List.length_map, List.length_range,
      Nat.min_eq_left within]
  · intro place inFront inRange
    have inside : place < items.size := by
      rw [List.length_map, List.length_range] at inRange
      exact Nat.lt_of_lt_of_le inRange within
    rw [List.getElem_take, List.getElem_map, List.getElem_range, Array.getElem_toList,
      getD_of_lt inside]

/-- If nothing but the default stands beyond the part in use, then arrays of which the same
part is in use read the same in every place. -/
theorem used_eq_iff {other : Array α} {count otherCount : Nat} (within : count ≤ items.size)
    (otherWithin : otherCount ≤ other.size)
    (unused : ∀ place, count ≤ place → items.getD place default = default)
    (otherUnused : ∀ place, otherCount ≤ place → other.getD place default = default) :
    count = otherCount ∧ items.toList.take count = other.toList.take otherCount ↔
      count = otherCount ∧ ∀ place, items.getD place default = other.getD place default := by
  apply and_congr_right
  rintro rfl
  rw [take_toList default within, take_toList default otherWithin, List.map_inj_left]
  constructor
  · intro front place
    by_cases inFront : place < count
    · exact front place (List.mem_range.mpr inFront)
    · have outside : count ≤ place := Nat.le_of_not_lt inFront
      rw [unused place outside, otherUnused place outside]
  · exact fun same place _ => same place

/-- A change that leaves every entry as it is leaves the array as it is. -/
theorem mapIdx_eq_self {change : Nat → α → α} (same : ∀ place item, change place item = item)
    (items : Array α) : items.mapIdx change = items := by
  apply Array.ext
  · exact Array.size_mapIdx
  · intro place _ inside
    rw [Array.getElem_mapIdx, same]

end CallTrace.GrownArray
