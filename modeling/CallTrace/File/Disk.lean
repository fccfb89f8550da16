/-
# Disks

Whether a file takes what is written to it is not up to the tree that the file is
in: a disk may be full, or fail. What it makes of the writes to come is given
beforehand, one answer for each write.
-/

namespace CallTrace

/-- What a disk makes of a write. -/
inductive WriteAnswer where
  /-- It takes all bytes. -/
  | all
  /-- It takes the first bytes, this many at most. -/
  | first (count : Nat)
  | refused
  deriving DecidableEq, Repr

/-- The bytes that are taken of those offered. -/
def WriteAnswer.taken? (answer : WriteAnswer) (bytes : List UInt8) : Option (List UInt8) :=
  match answer with
  | .all => some bytes
  | .first count => some (bytes.take count)
  | .refused => none

/-- The answers of a disk to the writes to come, in order. -/
abbrev Disk := Nat → WriteAnswer

namespace Disk

/-- A disk on which there is always room. -/
def ample : Disk := fun _ => .all

/-- A disk after its next write. -/
def later (disk : Disk) : Disk := fun place => disk (place + 1)

end Disk

end CallTrace
