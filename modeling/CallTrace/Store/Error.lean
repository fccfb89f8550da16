/-
# Why a store fails

A store may refuse a path, fail to write or read, or find a line that holds no
record. What the operating system has to say about it is not part of the cause.
-/

import CallTrace.Numeral

namespace CallTrace

/-- Why a path is no place for a store. -/
inductive PathFault where
  | empty
  | isDirectory (path : String)
  | cannotCreate (directory : String)
  | readOnly
  deriving DecidableEq, Repr

namespace PathFault

def message : PathFault → String
  | .empty => "Path is empty"
  | .isDirectory path => "Path is a directory: " ++ path
  | .cannotCreate directory => "Cannot create directory " ++ directory
  | .readOnly => "read-only"

end PathFault

/-- Why a store refuses a path or a record, or cannot be read. -/
inductive StoreError where
  | writeFailed
  | readFailed
  | serializationFailed
  /-- The number of the line counts from one. -/
  | malformedRecord (line : Nat)
  | invalidPath (fault : PathFault)
  deriving DecidableEq, Repr

namespace StoreError

def message : StoreError → String
  | .writeFailed => "Failed to write trace store"
  | .readFailed => "Failed to read trace store"
  | .serializationFailed => "Failed to serialize trace record"
  | .malformedRecord line =>
    "Malformed record on line " ++ String.ofList (Numeral.decimal line)
  | .invalidPath fault => "Invalid store path: " ++ fault.message

end StoreError

end CallTrace
