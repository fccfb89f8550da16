/-
# One file, opened again and again

A store may be opened, offered records and closed any number of times. Every store goes on
behind what the file holds by then, so the file is a log of all records in the order in which
they were put, whichever store has put them. A store in memory keeps of the same records the
last one of every transaction; so what it holds can be told from the log.
-/

import CallTrace.Proofs.Store.Lines
import CallTrace.Proofs.Store.Memory

namespace CallTrace.LineStore

section Counting

variable {δ : Type} [ByteSink δ]

/-- A store counts the records that it has taken, whatever its device makes of them. -/
theorem written_put (record : TraceRecord) (store : LineStore δ) :
    (store.put record).2.written = store.written + (store.put record).1.isOk.toNat := by
  -- The count is raised at the very end, behind the last of three steps that may fail.
  obtain ⟨_, -, put⟩ | ⟨_, -, ⟨_, -, put⟩ | ⟨_, -, ⟨_, -, put⟩ | ⟨_, -, put⟩⟩⟩ :=
    store.put_cases record
  all_goals
    rw [put]
    rfl

theorem written_offerAll (records : List TraceRecord) (store : LineStore δ) :
    (TraceStore.offerAll records store).2.written =
      store.written + (TraceStore.offerAll records store).1.count true := by
  induction records generalizing store with
  | nil => rfl
  | cons record records ih =>
      have answer : ∀ taken : Bool, (if taken == true then 1 else 0) = taken.toNat := by decide
      rw [TraceStore.offerAll, List.count_cons, answer]
      refine (ih (store.put record).2).trans ?_
      rw [written_put, Nat.add_assoc, Nat.add_comm (Bool.toNat _)]
      rfl

end Counting

/-- Records offered one after the other are all taken, and their lines are added in order. -/
theorem AtRest.offerAll {δ : Type} [ByteSink δ] {holds : List UInt8 → δ → Prop}
    (accepts : ByteSink.Accepts holds) {bytes : List UInt8} {store : LineStore δ}
    (rest : AtRest holds bytes store) (records : List TraceRecord) :
    (TraceStore.offerAll records store).1 = records.map (fun _ => true) ∧
      AtRest holds (bytes ++ records.flatMap (·.line)) (TraceStore.offerAll records store).2 := by
  induction records generalizing bytes store with
  | nil =>
      rw [List.flatMap_nil, List.append_nil]
      exact ⟨rfl, rest⟩
  | cons record records ih =>
      obtain ⟨taken, next⟩ := put_accepted accepts rest.given record
      obtain ⟨others, last⟩ := ih next
      rw [List.flatMap_cons, ← List.append_assoc]
      refine ⟨?_, last⟩
      change (LineStore.put record store).1.isOk :: _ = _
      rw [taken, List.map_cons, ← others]
      rfl

/-- What is told by a store that was opened, offered records and closed. -/
structure Visit where
  /-- For each record whether it was taken. -/
  taken : List Bool
  /-- How many records the store has counted. -/
  written : Nat

/-- Opens the store at a path, offers it records one after the other, and closes it. -/
def visit (path : String) (records : List TraceRecord) (tree : FileTree) :
    Except StoreError Visit × FileTree :=
  match openAt tree path with
  | (.error fault, tree) => (.error fault, tree)
  | (.ok store, _) =>
    let offered := TraceStore.offerAll records store
    (.ok ⟨offered.1, offered.2.written⟩, offered.2.close)

/-- Visits at one path, one after the other and each with records of its own. -/
def visitAll (path : String) :
    List (List TraceRecord) → FileTree → List (Except StoreError Visit) × FileTree
  | [], tree => ([], tree)
  | records :: later, tree =>
    let first := visit path records tree
    let rest := visitAll path later first.2
    (first.1 :: rest.1, rest.2)

variable {tree base opened : FileTree} {path : String} {location : Location}
  {store : LineStore FileHandle} {bytes : List UInt8}

/-- Between two records there is nothing left to hand over. -/
theorem AtRest.close (rest : AtRest (HandleHolds base location) bytes store) :
    base.Holds location bytes store.close := by
  rw [LineStore.close, BufferedWriter.flush_eq, rest.empty, ByteSink.offer_nil]
  exact rest.held.2

/-- A visit adds the lines of its records, takes all of them, and counts its own. -/
theorem visit_of_atRest (opens : openAt tree path = (.ok store, opened))
    (rest : AtRest (HandleTakes base location) bytes store) (unused : store.written = 0)
    (records : List TraceRecord) :
    (visit path records tree).1 = .ok ⟨records.map fun _ => true, records.length⟩ ∧
      base.Holds location (bytes ++ records.flatMap (·.line)) (visit path records tree).2 := by
  obtain ⟨taken, after⟩ := rest.offerAll (accepts_handleTakes base location) records
  have counted := written_offerAll records store
  rw [unused, Nat.zero_add, taken, List.map_const', List.count_replicate_self] at counted
  rw [visit, opens]
  refine ⟨?_, AtRest.close ⟨after.empty, after.held.1⟩⟩
  simp only [taken, counted]

/-- Visits to a path at which a store was opened before all succeed, and add the lines of
their records in order. -/
theorem OpenedAt.visitAll_again (before : OpenedAt tree path store base location opened)
    {later : FileTree} (holds : base.Holds location bytes later)
    (visits : List (List TraceRecord)) :
    (visitAll path visits later).1 =
        visits.map (fun records => .ok ⟨records.map fun _ => true, records.length⟩) ∧
      base.Holds location (bytes ++ visits.flatten.flatMap (·.line))
        (visitAll path visits later).2 := by
  induction visits generalizing later bytes with
  | nil =>
      rw [List.flatten_nil, List.flatMap_nil, List.append_nil]
      exact ⟨rfl, holds⟩
  | cons records visits ih =>
      obtain ⟨first, held⟩ := visit_of_atRest (before.reopen holds)
        ⟨rfl, ⟨rfl, holds⟩, Disk.takesSome_ample⟩ rfl records
      obtain ⟨others, last⟩ := ih held
      rw [List.flatten_cons, List.flatMap_append, ← List.append_assoc]
      refine ⟨?_, last⟩
      rw [visitAll, List.map_cons, ← first, ← others]

/-- A file that was not there, or was empty, is read as all records that were put at its path,
in order. Once a store could be opened there, every later one can, takes all records that it is
offered, whatever the texts in them, and counts its own. A store in memory holds after the same
puts the last record of every transaction, in ascending order of the keys. -/
theorem log_and_memory_hold_what_was_put (opens : openAt tree path = (.ok store, opened))
    (blank : tree.node? store.writer.device.location = none ∨
      tree.node? store.writer.device.location = some (.file []))
    (first : List TraceRecord) (later : List (List TraceRecord)) :
    let visits := first :: later
    let result := visitAll path visits tree
    result.1 = visits.map (fun records => .ok ⟨records.map fun _ => true, records.length⟩) ∧
      readAt result.2 path = .ok visits.flatten ∧
      TraceStore.offerAll visits.flatten MemoryStore.empty =
        (visits.flatten.map (fun _ => true),
          ⟨TraceRecord.inOrder (TraceRecord.latest visits.flatten)⟩) := by
  intro visits result
  obtain ⟨base, location, openedAt⟩ := openAt_ok opens
  have place : store.writer.device.location = location := by
    rw [openedAt.store_eq]
    rfl
  have unused : store.written = 0 := by
    rw [openedAt.store_eq]
  have rest : AtRest (HandleHolds base location) [] store := by
    rw [place] at blank
    exact blank.elim openedAt.atRest openedAt.atRest_of_file
  -- The first store finds the file blank; the others find what was put before them.
  obtain ⟨told, held⟩ := visit_of_atRest opens (rest.takes openedAt.takesSome) unused first
  obtain ⟨others, last⟩ := openedAt.visitAll_again held later
  have lines : base.Holds location (visits.flatten.flatMap (·.line)) result.2 := by
    rw [List.nil_append, ← List.flatMap_append, ← List.flatten_cons] at last
    exact last
  refine ⟨?_, openedAt.readAt_of_holds lines, MemoryStore.offerAll_eq visits.flatten⟩
  rw [List.map_cons, ← told, ← others]
  rfl

/-- The second record of a transaction stands in the log behind the first, and in memory in its
place. Line breaks and quotes in texts do not come between the records, and neither does a store
that is given none. -/
theorem log_beside_replaced_record :
    let tree : FileTree := ⟨[], []⟩
    let location : Location := ["out", "traces.jsonl"]
    let opened : FileTree := ⟨[(["out"], .directory), (location, .file [])], []⟩
    let record (mark : UInt8) (text : String) : TraceRecord :=
      { version := text
        metadata := ⟨1, ⟨.replicate 32 mark, List.length_replicate⟩, .zero 20, none, text, "1", 0⟩
        functionTrace := text
        eventTrace := ""
        transferTrace := ""
        complete := true
        recordedAt := text }
    let former := record 2 "first\nsecond\r\n"
    let other := record 1 "\"\t\""
    let latter := record 2 "\r"
    let result := visitAll "out/traces.jsonl" [[former, other], [], [latter]] tree
    openAt tree "out/traces.jsonl" =
        (.ok ⟨"out/traces.jsonl", .new ⟨opened, location, .ample⟩, 0⟩, opened) ∧
      tree.node? location = none ∧
      result.1 = [.ok ⟨[true, true], 2⟩, .ok ⟨[], 0⟩, .ok ⟨[true], 1⟩] ∧
      readAt result.2 "out/traces.jsonl" = .ok [former, other, latter] ∧
      TraceRecord.inOrder (TraceRecord.latest [former, other, latter]) = [other, latter] := by
  intro tree location opened record former other latter result
  have opens : openAt tree "out/traces.jsonl" =
      (.ok ⟨"out/traces.jsonl", .new ⟨opened, location, .ample⟩, 0⟩, opened) := rfl
  have absent : tree.node? location = none := rfl
  obtain ⟨told, read, memory⟩ := log_and_memory_hold_what_was_put opens (.inl absent)
    [former, other] [[], [latter]]
  have held : (TraceStore.offerAll [former, other, latter] MemoryStore.empty).2.records =
      [other, latter] := by decide +kernel
  refine ⟨opens, absent, told, read, ?_⟩
  exact (congrArg (fun answer => answer.2.records) memory.symm).trans held

end CallTrace.LineStore
