/-
# Tables and buffers in place

The definitions of call sites and of buffers count levels without a bound and read a
default where nothing is allocated. What is carried out has less room: a depth is a word,
the levels down to it are counted in a word too, an array is resized to that many entries,
and an entry is read or written at its index. An index or a slice that does not fit the
array ends the program there and then, and whatever was allocated is lost with it.

Down to the last depth there is one level more than a word can count. Where sums are
checked, counting them ends the program. Where they are not, as in a program built for
release, there seem to be no levels at all: the array is cut down to nothing, and the
index that is read next is beyond its end.

How many levels the memory holds is left out of account.
-/

import CallTrace.DepthBuffers
import CallTrace.SiteTable

namespace CallTrace

/-- What becomes of a sum that does not fit its word. -/
inductive Arithmetic where
  /-- It ends the program. -/
  | checked
  /-- What is beyond the word is lost. -/
  | wrapping
  deriving DecidableEq, Repr

/-- What ends a program in the middle of an operation. -/
inductive AccessFault where
  | overflow
  | outOfBounds
  deriving DecidableEq, Repr

/-- The word that comes after a word. -/
def Arithmetic.next {Word : Type} [Add Word] [OfNat Word 0] [OfNat Word 1] [DecidableEq Word]
    (arithmetic : Arithmetic) (word : Word) : Except AccessFault Word :=
  if arithmetic = .checked ∧ word + 1 = 0 then .error .overflow else .ok (word + 1)

namespace InPlace

variable {α : Type}

/-- The entry at an index. -/
def read (place : Nat) (items : Array α) : Except AccessFault α :=
  match items[place]? with
  | some item => .ok item
  | none => .error .outOfBounds

/-- Changes the entry at an index. -/
def modify (place : Nat) (change : α → α) (items : Array α) : Except AccessFault (Array α) :=
  if place < items.size then .ok (items.modify place change) else .error .outOfBounds

/-- The slices before and from a place. -/
def split (place : Nat) (items : Array α) : Except AccessFault (Array α × Array α) :=
  if place ≤ items.size then .ok (items.extract 0 place, items.extract place)
  else .error .outOfBounds

/-- Writes a default into each entry of the slice of the first `count`. -/
def clear (default : α) (count : Nat) (items : Array α) : Except AccessFault (Array α) := do
  let (front, rest) ← split count items
  return front.map (fun _ => default) ++ rest

/-- Compares how many entries of two arrays are in use, and if they are as many, the slices of
those in use. -/
def sameUse [BEq α] (count : Nat) (items : Array α) (otherCount : Nat) (other : Array α) :
    Except AccessFault Bool :=
  if count = otherCount then do
    let (front, _) ← split count items
    let (otherFront, _) ← split otherCount other
    return front.toList == otherFront.toList
  else return false

/-- Makes an array have `count` entries. Those beyond are dropped, those missing are defaults. -/
def resize (default : α) (count : Nat) (items : Array α) : Array α :=
  items.extract 0 count ++ Array.replicate (count - items.size) default

/-- Resizes an array that does not reach down to a depth. -/
def reach (arithmetic : Arithmetic) (default : α) (depth : UInt64) (items : Array α) :
    Except AccessFault (Array α) :=
  if items.size ≤ depth.toNat then do
    let count ← arithmetic.next depth
    return resize default count.toNat items
  else return items

end InPlace

namespace SiteTable

/-- The site of the frame open one level above a depth. -/
def linkInPlace (depth : UInt64) (levels : Array SiteLevel) : Except AccessFault UInt32 :=
  if depth = 0 then return 0
  else do
    let above ← InPlace.read (depth.toNat - 1) levels
    return above.opened

/-- Opens a frame at `depth` and gives its site. -/
def enterInPlace (arithmetic : Arithmetic) (depth : UInt64) (table : SiteTable) :
    Except AccessFault (UInt32 × SiteTable) := do
  let levels ← InPlace.reach arithmetic .unused depth table.levels
  let link ← linkInPlace depth levels
  let entry ← InPlace.read depth.toNat levels
  let next ← arithmetic.next entry.next
  let levels ← InPlace.modify depth.toNat (fun _ => ⟨next, entry.next, link⟩) levels
  let count ← arithmetic.next depth
  let levels := levels.mapIdx fun place level =>
    if count.toNat ≤ place ∧ place < table.touched then level.closed else level
  return (entry.next, ⟨levels, max table.touched count.toNat⟩)

/-- Forgets the levels in use by their slice. -/
def resetInPlace (table : SiteTable) : Except AccessFault SiteTable := do
  let levels ← InPlace.clear .unused table.touched table.levels
  return ⟨levels, 0⟩

/-- Compares the slices of the levels in use. -/
def beqInPlace (table other : SiteTable) : Except AccessFault Bool :=
  InPlace.sameUse table.touched table.levels other.touched other.levels

end SiteTable

namespace DepthBuffers

variable {α : Type}

/-- The buffer of a level, which is allocated if needed and counted as used. -/
def touchInPlace (arithmetic : Arithmetic) (depth : UInt64) (buffers : DepthBuffers α) :
    Except AccessFault (Array α × DepthBuffers α) := do
  let slots ← InPlace.reach arithmetic #[] depth buffers.slots
  let count ← arithmetic.next depth
  let records ← InPlace.read depth.toNat slots
  return (records, ⟨slots, max buffers.touched count.toNat⟩)

/-- Adds a record to the buffer of a level. -/
def pushInPlace (arithmetic : Arithmetic) (depth : UInt64) (record : α)
    (buffers : DepthBuffers α) : Except AccessFault (DepthBuffers α) := do
  let (_, touched) ← buffers.touchInPlace arithmetic depth
  let slots ← InPlace.modify depth.toNat (·.push record) touched.slots
  return ⟨slots, touched.touched⟩

/-- Moves everything at `child` to the end of `parent`. The row is cut before `child`, so that
`parent` is an entry of the slice above the cut and `child` the first entry of the one below. -/
def foldInPlace (arithmetic : Arithmetic) (parent child : UInt64) (buffers : DepthBuffers α) :
    Except AccessFault (DepthBuffers α) :=
  if buffers.slots.size ≤ child.toNat then return buffers
  else do
    let waiting ← InPlace.read child.toNat buffers.slots
    if waiting.isEmpty then return buffers
    else do
      let (_, touched) ← buffers.touchInPlace arithmetic parent
      let (upper, lower) ← InPlace.split child.toNat touched.slots
      let moved ← InPlace.read 0 lower
      let upper ← InPlace.modify parent.toNat (· ++ moved) upper
      let lower ← InPlace.modify 0 (fun _ => #[]) lower
      return ⟨upper ++ lower, touched.touched⟩

/-- Whether nothing waits behind as many levels as there are down to `depth`. -/
def isEmptyBelowInPlace (arithmetic : Arithmetic) (buffers : DepthBuffers α) (depth : UInt64) :
    Except AccessFault Bool := do
  let count ← arithmetic.next depth
  return (buffers.slots.toList.drop count.toNat).all Array.isEmpty

/-- Empties the levels in use by their slice. -/
def resetInPlace (buffers : DepthBuffers α) : Except AccessFault (DepthBuffers α) := do
  let slots ← InPlace.clear #[] buffers.touched buffers.slots
  return ⟨slots, 0⟩

/-- Compares the slices of the levels in use. -/
def beqInPlace [BEq α] (buffers other : DepthBuffers α) : Except AccessFault Bool :=
  InPlace.sameUse buffers.touched buffers.slots other.touched other.slots

end DepthBuffers

end CallTrace
