/-
# Call sites

Every frame gets a site: its number among the frames opened at the same depth in
the same transaction. The sites of the frames open around it, from level 1 down,
are its path, an address that does not need the tree of calls to be kept.

The table has one entry a level, grown when a deeper level is first reached and
kept from one transaction to the next. `touched` counts the leading levels used
since the last reset; levels beyond it have not been used, however many are
allocated, and two tables are equal when they agree on the levels used.
-/

namespace CallTrace

/-- What is known about one level. -/
structure SiteLevel where
  /-- The site that the next frame at this level gets. -/
  next : UInt32
  /-- The site of the frame open at this level. -/
  opened : UInt32
  /-- The site of the frame that was open one level up when this one was opened. -/
  link : UInt32
  deriving DecidableEq, Repr

namespace SiteLevel

/-- A level at which nothing has been opened. -/
def unused : SiteLevel := ⟨0, 0, 0⟩

instance : Inhabited SiteLevel := ⟨unused⟩

/-- A level whose frame has ended. The numbering of its sites goes on. -/
def closed (site : SiteLevel) : SiteLevel :=
  { site with opened := 0, link := 0 }

end SiteLevel

/-- Every level that was ever reached, and how many of them are in use. -/
structure SiteTable where
  levels : Array SiteLevel
  touched : Nat

namespace SiteTable

def empty : SiteTable := ⟨#[], 0⟩

instance : Inhabited SiteTable := ⟨empty⟩

/-- What is known about a level; levels that were never reached are unused. -/
def levelAt (table : SiteTable) (depth : Nat) : SiteLevel :=
  table.levels.getD depth .unused

/-- The levels used since the last reset. -/
def live (table : SiteTable) : List SiteLevel :=
  table.levels.toList.take table.touched

instance : BEq SiteTable where
  beq a b := a.touched == b.touched && a.live == b.live

/-- The site that a frame opened at `depth` would get. -/
def nextSite (table : SiteTable) (depth : Nat) : UInt32 :=
  (table.levelAt depth).next

/-- Makes sure that the level `depth` is allocated. -/
def grow (depth : Nat) (table : SiteTable) : SiteTable :=
  { table with
    levels := table.levels ++
      Array.replicate (depth + 1 - table.levels.size) .unused }

/-- Opens a frame at `depth` and gives its site. Frames deeper than it have ended
by now, so the levels below lose theirs; their numbering goes on. -/
def enter (depth : Nat) (table : SiteTable) : UInt32 × SiteTable :=
  let site := table.nextSite depth
  let link := if depth = 0 then 0 else (table.levelAt (depth - 1)).opened
  let levels := (table.grow depth).levels.mapIdx fun place level =>
    if place = depth then ⟨site + 1, site, link⟩
    else if depth < place ∧ place < table.touched then level.closed
    else level
  (site, ⟨levels, max table.touched (depth + 1)⟩)

/-- The sites of the frames open at the levels 1 to `depth`. A level without an
open frame reads as 0. -/
def path (table : SiteTable) (depth : Nat) : List UInt32 :=
  (List.range depth).map fun above => (table.levelAt (above + 1)).opened

/-- The links of the frames open at the levels 1 to `depth`. -/
def links (table : SiteTable) (depth : Nat) : List UInt32 :=
  (List.range depth).map fun above => (table.levelAt (above + 1)).link

/-- The deepest level used since the last reset. -/
def deepest (table : SiteTable) : Option Nat :=
  if table.touched = 0 then none else some (table.touched - 1)

/-- Forgets all frames. Only the levels used are written to. -/
def reset (table : SiteTable) : SiteTable where
  levels := table.levels.mapIdx fun place level =>
    if place < table.touched then .unused else level
  touched := 0

end SiteTable

end CallTrace
