/-
# A buffer for every depth

Records of calls that are still inside other calls wait in the buffer of their
level until the calls around them have ended. As with call sites, buffers are
allocated when a level is first reached and kept afterwards, `touched` counts the
leading levels used since the last reset, and equality looks at no others.
-/

namespace CallTrace

/-- A row of buffers, one a level, and how many of them are in use. -/
structure DepthBuffers (α : Type) where
  slots : Array (Array α)
  touched : Nat

namespace DepthBuffers

variable {α : Type}

def empty : DepthBuffers α := ⟨#[], 0⟩

instance : Inhabited (DepthBuffers α) := ⟨empty⟩

/-- The buffers of the levels used since the last reset. -/
def live (buffers : DepthBuffers α) : List (Array α) :=
  buffers.slots.toList.take buffers.touched

instance [BEq α] : BEq (DepthBuffers α) where
  beq a b := a.touched == b.touched && a.live == b.live

/-- What waits at a level. -/
def slot (buffers : DepthBuffers α) (depth : Nat) : Array α :=
  buffers.slots.getD depth #[]

/-- Makes sure that a level is allocated, and counts it as used. -/
def touch (depth : Nat) (buffers : DepthBuffers α) : DepthBuffers α where
  slots := buffers.slots ++ Array.replicate (depth + 1 - buffers.slots.size) #[]
  touched := max buffers.touched (depth + 1)

/-- Changes what waits at an allocated level. -/
def modifySlot (depth : Nat) (change : Array α → Array α) (buffers : DepthBuffers α) :
    DepthBuffers α :=
  { buffers with slots := buffers.slots.modify depth change }

/-- Adds a record at the end of a level. -/
def push (depth : Nat) (record : α) (buffers : DepthBuffers α) : DepthBuffers α :=
  (buffers.touch depth).modifySlot depth (·.push record)

/-- Moves everything at `child` to the end of `parent`, a level above it. A level
with nothing in it moves nothing, and uses nothing. -/
def fold (parent child : Nat) (buffers : DepthBuffers α) : DepthBuffers α :=
  let moved := buffers.slot child
  if moved.isEmpty then buffers
  else
    ((buffers.touch parent).modifySlot parent (· ++ moved)).modifySlot child fun _ => #[]

/-- Takes everything out of a level. -/
def drain (depth : Nat) (buffers : DepthBuffers α) : Array α × DepthBuffers α :=
  (buffers.slot depth, buffers.modifySlot depth fun _ => #[])

/-- Whether nothing waits deeper than `depth`. -/
def isEmptyBelow (buffers : DepthBuffers α) (depth : Nat) : Bool :=
  (buffers.slots.toList.drop (depth + 1)).all Array.isEmpty

/-- Empties the levels used since the last reset. -/
def reset (buffers : DepthBuffers α) : DepthBuffers α where
  slots := buffers.slots.mapIdx fun level contents =>
    if level < buffers.touched then #[] else contents
  touched := 0

end DepthBuffers

end CallTrace
