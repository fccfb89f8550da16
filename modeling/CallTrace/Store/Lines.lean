/-
# Keeping records in a file

Every record is one line of a file, in its JSON form, and is written at the end.
Since no line break occurs inside a record's JSON form, the lines of the file are
its records. A store may be closed and opened again; what is in the file stays.

The store writes through a buffer and empties it after every record, so that a
record that was taken is in the file.
-/

import CallTrace.File.Disk
import CallTrace.File.Tree
import CallTrace.Json.Reader
import CallTrace.Store
import CallTrace.Store.BufferedWriter
import CallTrace.Wire.Record

namespace CallTrace

/-- A store that writes lines to a device. -/
structure LineStore (δ : Type) where
  path : String
  writer : BufferedWriter δ
  /-- How many records this store has written since it was opened. -/
  written : Nat

namespace LineStore

variable {δ : Type} [ByteSink δ]

/-- Writes a record, a line break, and empties the buffer. -/
def put (record : TraceRecord) (store : LineStore δ) : Except StoreError Unit × LineStore δ :=
  match store.writer.putAll (record.pieces.map Utf8.encode) with
  | (false, writer) => (.error .serializationFailed, { store with writer := writer })
  | (true, writer) =>
    match writer.put (Utf8.encode ['\n']) with
    | (false, writer) => (.error .writeFailed, { store with writer := writer })
    | (true, writer) =>
      match writer.flush with
      | (false, writer) => (.error .writeFailed, { store with writer := writer })
      | (true, writer) =>
        (.ok (), { store with writer := writer, written := store.written + 1 })

instance : TraceStore (LineStore δ) where
  put := put

end LineStore

/-- A file of a tree, opened for writing at its end, and the disk that it is on. -/
structure FileHandle where
  tree : FileTree
  location : Location
  disk : Disk

/-- Writes bytes at the end of a file. How many are taken is up to the disk; a device
without room takes none in any case. -/
def FileHandle.write (bytes : List UInt8) (handle : FileHandle) : Option Nat × FileHandle :=
  let later := { handle with disk := handle.disk.later }
  match (handle.disk 0).taken? bytes with
  | none => (none, later)
  | some taken =>
    match handle.tree.append handle.location taken with
    | (true, tree) => (some taken.length, { later with tree := tree })
    | (false, _) => (none, later)

instance : ByteSink FileHandle where
  write := FileHandle.write

namespace LineStore

/-- Refuses a path at which there can be no store. -/
def checkPath (tree : FileTree) (path : String) : Except StoreError Unit :=
  if path.isEmpty then .error (.invalidPath .empty)
  else if tree.isDirectory path then .error (.invalidPath (.isDirectory path))
  else .ok ()

/-- Makes the directory in which a store is to be, if it is missing. -/
def createParent (tree : FileTree) (path : String) : Except StoreError Unit × FileTree :=
  match Path.parent? path with
  | none => (.ok (), tree)
  | some directory =>
    if directory.isEmpty || tree.exists? directory then (.ok (), tree)
    else
      match tree.createDirectories directory with
      | (.ok (), tree) => (.ok (), tree)
      | (.error _, tree) => (.error (.invalidPath (.cannotCreate directory)), tree)

/-- Opens the store at a path, which need not exist yet, on a disk with room. The tree
is the one after the attempt, whatever came of it. -/
def openAt (tree : FileTree) (path : String) :
    Except StoreError (LineStore FileHandle) × FileTree :=
  match checkPath tree path with
  | .error fault => (.error fault, tree)
  | .ok () =>
    match createParent tree path with
    | (.error fault, tree) => (.error fault, tree)
    | (.ok (), tree) =>
      match tree.openAppend path with
      | .error _ => (.error .writeFailed, tree)
      | .ok (location, tree) => (.ok ⟨path, .new ⟨tree, location, .ample⟩, 0⟩, tree)

/-- The same store on another disk. -/
def on (disk : Disk) (store : LineStore FileHandle) : LineStore FileHandle :=
  { store with writer.device.disk := disk }

/-- The tree of files with what the store has written so far. -/
def tree (store : LineStore FileHandle) : FileTree :=
  store.writer.device.tree

/-- The tree of files when the store is closed. What is left in its buffer is offered
once more then, and nothing is told of the answer. -/
def close (store : LineStore FileHandle) : FileTree :=
  store.writer.flush.2.device.tree

/-- What stands between line breaks, made into lines. A carriage return before a line
break belongs to it, and a final line break begins no further line. -/
def trimLines : List (List UInt8) → List (List UInt8)
  | [] => []
  | [last] => if last.isEmpty then [] else [last]
  | line :: rest =>
    (if line.getLast? == some 13 then line.dropLast else line) :: trimLines rest

/-- The lines of a file without their line breaks. -/
def splitLines (bytes : List UInt8) : List (List UInt8) :=
  trimLines (Text.splitAt (· == 10) bytes)

/-- The record on a line, or nothing if the line is blank. `number` is the line's own
number. -/
def readLine (number : Nat) (line : List UInt8) : Except StoreError (Option TraceRecord) :=
  match Utf8.decode? line with
  | none => .error .readFailed
  | some text =>
    if text.all Text.isBlank then .ok none
    else
      match Json.ofText? text >>= TraceRecord.ofJson? with
      | some record => .ok (some record)
      | none => .error (.malformedRecord number)

/-- The records on lines, of which the first has the given number. -/
def readLines (number : Nat) : List (List UInt8) → Except StoreError (List TraceRecord)
  | [] => .ok []
  | line :: rest => do
    let record ← readLine number line
    let records ← readLines (number + 1) rest
    return record.toList ++ records

/-- The records that bytes hold. -/
def readBytes (bytes : List UInt8) : Except StoreError (List TraceRecord) :=
  readLines 1 (splitLines bytes)

/-- The records in the file at a path. -/
def readAt (tree : FileTree) (path : String) : Except StoreError (List TraceRecord) :=
  match tree.read path with
  | .error _ => .error .readFailed
  | .ok bytes => readBytes bytes

end LineStore

end CallTrace
