/-
# A tree of files

Directories, files with their contents, and a device that takes no data: what a
program sees of a file system that nobody else changes. A path is resolved one
name at a time from the root or the working directory, and every name but the
last must lead to a directory. A name that no directory can hold is refused where
it is looked up, so a fault on the way to it is found first.
-/

import CallTrace.File.Path
import CallTrace.Text.Utf8

namespace CallTrace

/-- What there is at a place. -/
inductive FileNode where
  | directory
  | file (contents : List UInt8)
  /-- A device on which there is never room for data. -/
  | fullDevice
  deriving DecidableEq, Repr

/-- Why a path cannot be used. -/
inductive FileFault where
  | notFound
  | notDirectory
  | isDirectory
  | alreadyExists
  /-- The path, or a name in it, is longer than any can be. -/
  | tooLong
  /-- The path holds a null character, and so is none. -/
  | notPath
  deriving DecidableEq, Repr

/-- A place is named by the names on the way to it from the root. -/
abbrev Location := List String

/-- What there is at every place, and the directory from which paths start that do not
start at the root. -/
structure FileTree where
  entries : List (Location × FileNode)
  workingDirectory : Location
  deriving DecidableEq

namespace FileTree

/-- What there is at a place. The root is always a directory. -/
def node? (tree : FileTree) (location : Location) : Option FileNode :=
  if location.isEmpty then some .directory
  else (tree.entries.find? (·.1 == location)).map (·.2)

/-- What a path leads to: something that exists, or a free place in an existing
directory. -/
inductive Target where
  | existing (location : Location) (node : FileNode)
  | vacant (location : Location)
  deriving DecidableEq, Repr

/-- Follows names from a directory. `closed` tells that the path ends in a slash and
so cannot lead to a file. -/
def follow (tree : FileTree) (closed : Bool) :
    Location → List String → Except FileFault Target
  | place, [] => .ok (.existing place .directory)
  | place, name :: rest =>
    if name == "." then follow tree closed place rest
    else if name == ".." then follow tree closed place.dropLast rest
    else if !Path.isName name then .error .tooLong
    else
      let next := place ++ [name]
      match tree.node? next with
      | some .directory => follow tree closed next rest
      | some node =>
        if rest.isEmpty && !closed then .ok (.existing next node) else .error .notDirectory
      | none => if rest.isEmpty then .ok (.vacant next) else .error .notFound

/-- The names in a path, the empty ones left out. -/
def steps (path : String) : List String :=
  ((Path.names path.toList).filter (!·.isEmpty)).map String.ofList

/-- Whether a path ends in a slash. -/
def endsOpen (path : String) : Bool :=
  path.toList.getLast? == some '/'

/-- Resolves a path. The empty path leads nowhere, and a path that cannot be one is
refused before any name in it is looked up. -/
def resolve (tree : FileTree) (path : String) : Except FileFault Target :=
  if path.isEmpty then .error .notFound
  else if path.toList.contains '\x00' then .error .notPath
  else if Path.lengthEnd ≤ path.utf8ByteSize then .error .tooLong
  else
    let start := if path.toList.head? == some '/' then [] else tree.workingDirectory
    follow tree (endsOpen path) start (steps path)

/-- What exists at a path. -/
def find? (tree : FileTree) (path : String) : Option FileNode :=
  match tree.resolve path with
  | .ok (.existing _ node) => some node
  | _ => none

def exists? (tree : FileTree) (path : String) : Bool :=
  (tree.find? path).isSome

def isDirectory (tree : FileTree) (path : String) : Bool :=
  tree.find? path == some .directory

def isFile (tree : FileTree) (path : String) : Bool :=
  match tree.find? path with
  | some (.file _) => true
  | _ => false

/-- The bytes at a path. All that a full device gives is zeros, and no reader here
gets past the first. -/
def read (tree : FileTree) (path : String) : Except FileFault (List UInt8) :=
  match tree.resolve path with
  | .error fault => .error fault
  | .ok (.vacant _) => .error .notFound
  | .ok (.existing _ .directory) => .error .isDirectory
  | .ok (.existing _ (.file contents)) => .ok contents
  | .ok (.existing _ .fullDevice) => .ok [0]

/-- Puts something at a place, instead of what was there. -/
def set (tree : FileTree) (location : Location) (node : FileNode) : FileTree :=
  if tree.entries.any (·.1 == location) then
    { tree with
      entries := tree.entries.map fun entry =>
        if entry.1 == location then (location, node) else entry }
  else { tree with entries := tree.entries ++ [(location, node)] }

/-- Makes a directory in an existing directory. -/
def createDirectory (tree : FileTree) (path : String) : Except FileFault FileTree :=
  match tree.resolve path with
  | .error fault => .error fault
  | .ok (.existing ..) => .error .alreadyExists
  | .ok (.vacant location) => .ok (tree.set location .directory)

/-- Makes the first of the given directories; if it lacks the directory around it,
that one is made first. A directory that exists already is as good as one just
made. What was made before a failure stays. -/
def createFirst : List String → FileTree → Except FileFault Unit × FileTree
  | [], tree => (.error .notFound, tree)
  | path :: around, tree =>
    if path.isEmpty then (.ok (), tree)
    else
      match tree.createDirectory path with
      | .ok tree => (.ok (), tree)
      | .error .notFound =>
        match createFirst around tree with
        | (.error fault, tree) => (.error fault, tree)
        | (.ok (), tree) =>
          match tree.createDirectory path with
          | .ok tree => (.ok (), tree)
          | .error fault =>
            if tree.isDirectory path then (.ok (), tree) else (.error fault, tree)
      | .error fault =>
        if tree.isDirectory path then (.ok (), tree) else (.error fault, tree)

/-- Makes a directory and all directories around it that are missing. -/
def createDirectories (path : String) (tree : FileTree) : Except FileFault Unit × FileTree :=
  createFirst (Path.ancestors path) tree

/-- Opens a file at the end of which bytes can be written, and creates it if there
is none. -/
def openAppend (tree : FileTree) (path : String) : Except FileFault (Location × FileTree) :=
  match tree.resolve path with
  | .error fault => .error fault
  | .ok (.existing _ .directory) => .error .isDirectory
  | .ok (.existing location _) => .ok (location, tree)
  | .ok (.vacant location) =>
    if endsOpen path then .error .isDirectory
    else .ok (location, tree.set location (.file []))

/-- Puts bytes at the end of the file at a place, and tells whether there is one. -/
def append (location : Location) (bytes : List UInt8) (tree : FileTree) : Bool × FileTree :=
  match tree.node? location with
  | some (.file contents) => (true, tree.set location (.file (contents ++ bytes)))
  | _ => (false, tree)

end FileTree

end CallTrace
