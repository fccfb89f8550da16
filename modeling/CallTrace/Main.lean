/-
# The program on a real system

The program itself is a function on trees of files. Here the part of the disk that
a command line speaks of is read into a tree, the function is applied, and what it
changed in the tree is carried out on the disk.
-/

import CallTrace.CommandLine.Program
import CallTrace.Timestamp
import Std.Time.DateTime.Timestamp

namespace CallTrace.Main

/-- The files that an invocation of the program may read or write. -/
def paths : Invocation → List String
  | .replay args => [args.input, args.output] ++ args.config.toList
  | .validate path => [path]
  | .schema _ | .version => []

/-- The path of a place from the root. -/
def absolute (location : Location) : String :=
  "/" ++ "/".intercalate location

/-- The device on which there is never room. -/
def fullDevice : Location := ["dev", "full"]

/-- What there is at a place on the disk. A directory can be opened like a file, but
it cannot be read like one. -/
def look (location : Location) : IO (Option FileNode) := do
  if location == fullDevice then return some .fullDevice
  try
    return some (.file (← IO.FS.readBinFile (absolute location)).toList)
  catch
    | .noFileOrDirectory .. => return none
    | .inappropriateType .. => return some .directory
    | fault => throw fault

/-- Takes what lies on the way along some names, and at the end of it, into a tree. At
a name that no directory can hold the way ends. -/
def survey (tree : FileTree) : Location → List String → IO FileTree
  | _, [] => return tree
  | place, name :: rest => do
    let next := if name == "." then place else if name == ".." then place.dropLast
      else place ++ [name]
    if next.isEmpty then survey tree next rest
    else if !Path.isName name then return tree
    else
      match ← look next with
      | some node => survey (tree.set next node) next rest
      | none => return tree

/-- Takes what there is along a path into a tree. A path that is too long leads nowhere. -/
def surveyPath (tree : FileTree) (path : String) : IO FileTree := do
  if Path.lengthEnd ≤ path.utf8ByteSize then return tree
  let start := if path.startsWith "/" then [] else tree.workingDirectory
  survey (← survey tree [] start) start (FileTree.steps path)

/-- The part of the disk that paths speak of. -/
def snapshot (paths : List String) : IO FileTree := do
  let workingDirectory := FileTree.steps (toString (← IO.currentDir))
  paths.foldlM surveyPath ⟨[], workingDirectory⟩

/-- Carries out one change on the disk: a new directory is made, and what a file has
gained is written at its end. -/
def carryOut (before : FileTree) (location : Location) : FileNode → IO Unit
  | .directory => do
    if (before.node? location).isNone then IO.FS.createDir (absolute location)
  | .file contents => do
    let (isNew, known) := match before.node? location with
      | some (.file known) => (false, known.length)
      | _ => (true, 0)
    if isNew || known < contents.length then
      let handle ← IO.FS.Handle.mk (absolute location) .append
      handle.write (ByteArray.mk (contents.drop known).toArray)
      handle.flush
  | .fullDevice => return ()

/-- Carries out on the disk what changed between two trees. -/
def commit (before after : FileTree) : IO Unit :=
  after.entries.forM fun (location, node) => carryOut before location node

/-- The present time. -/
def present : IO String := do
  let elapsed := (← Std.Time.Timestamp.now).toNanosecondsSinceUnixEpoch.val.toNat
  return String.ofList (Timestamp.render ⟨elapsed / 1000000000, elapsed % 1000000000⟩)

/-- How many records an invocation of the program makes. -/
def recordCount (tree : FileTree) : Invocation → Nat
  | .replay args => (args.load tree).toOption.elim 0 (·.2.transactions.length)
  | .validate _ | .schema _ | .version => 0

/-- Reads the clock so many times. -/
def readClock (count : Nat) : IO Clock := do
  let readings ← (List.range count).mapM fun _ => present
  return fun place => readings.getD place ""

/-- Whether output is to be coloured: it is for people and they have not declined. -/
def wantsColor : IO Bool := do
  return (← (← IO.getStdout).isTty) && (← IO.getEnv "NO_COLOR").isNone

/-- Reports how the program ended. -/
def report : Ending → IO Unit
  | .success => return ()
  | .misuse => IO.eprint ("error: the arguments were not understood\n\n" ++ Program.usage)
  | .failure fault => do
    IO.eprintln ("Error: " ++ fault.message)
    if let some cause := fault.cause? then IO.eprintln ("\nCaused by:\n    " ++ cause)

/-- Runs the program on the disk and gives its exit code. -/
def execute (arguments : List String) : IO UInt32 := do
  let environment ← IO.getEnv "TX_TRACE_CONFIG"
  let invocation := (Invocation.ofArguments environment arguments).toOption
  let before ← snapshot (invocation.elim [] paths)
  let clock ← readClock (invocation.elim 0 (recordCount before))
  let run := Program.run (← wantsColor) .ample clock environment arguments before
  commit before run.tree
  IO.print run.output
  report run.ending
  return UInt32.ofNat run.ending.code

end CallTrace.Main

/-- Runs the program with the arguments of its command line. -/
def main (arguments : List String) : IO UInt32 :=
  CallTrace.Main.execute arguments
