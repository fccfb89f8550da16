/-
# Paths

A path is text: names separated by slashes. Whether it leads anywhere is for a
file tree to say; here a path is only taken apart and put together. The directory
that a path is in is found on the text, where a trailing slash or dot does not
count as a name of its own. Paths and names are limited in length, which is
counted in the bytes of their encoding.
-/

import CallTrace.Text.Split

namespace CallTrace.Path

/-- The names in a path as they stand, the empty ones included. -/
def names (path : List Char) : List (List Char) :=
  Text.splitAt (· == '/') path

/-- Whether a name adds nothing at the end of a path. -/
def isIdle (name : List Char) : Bool :=
  name == [] || name == ['.']

/-- Names without the idle ones at the end. -/
def trimEnd (names : List (List Char)) : List (List Char) :=
  (names.reverse.dropWhile isIdle).reverse

/-- What a path begins with before its names: the root, the current directory, or
nothing. -/
def anchor (path : List Char) : List Char :=
  match path with
  | '/' :: _ => ['/']
  | ['.'] => ['.']
  | '.' :: '/' :: _ => ['.']
  | _ => []

/-- The directory that a path is in. The root is in none, and neither is the empty
path; a single name is in the directory with the empty path. -/
def parent? (path : String) : Option String :=
  let text := path.toList
  let start := anchor text
  match (trimEnd (names (text.drop start.length))).reverse with
  | [] => if start == ['.'] then some "" else none
  | _ :: outer =>
    some (String.ofList (start ++ Text.joinWith '/' (trimEnd outer.reverse)))

/-- A path and the directories around it, innermost first, at most `bound` of them. -/
def ancestorsUpTo : Nat → String → List String
  | 0, path => [path]
  | bound + 1, path =>
    match parent? path with
    | some parent => path :: ancestorsUpTo bound parent
    | none => [path]

/-- A path and the directories around it, innermost first. Every one is shorter than
the one before, so their number is bounded by the length of the path. -/
def ancestors (path : String) : List String :=
  ancestorsUpTo path.length path

/-- The length that no path reaches. -/
def lengthEnd : Nat := 4096

/-- The length of the longest name that a directory can hold. -/
def longestName : Nat := 255

/-- Whether a directory can hold something of this name. -/
def isName (name : String) : Bool :=
  name.utf8ByteSize ≤ longestName

/-- A path seen from the directory `directory`. -/
def join (directory path : String) : String :=
  if path.toList.head? == some '/' then path
  else directory ++ "/" ++ path

end CallTrace.Path
