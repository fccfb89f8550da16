/-
# TOML documents

A document is a table built up statement by statement, and what a later statement
may still extend depends on how a table came to be. Every table therefore
remembers its origin: a table named by its own header is closed to dotted keys, a
table that only occurred inside a longer header may still get a header of its own,
and a table written in braces is closed to everything.

Floats and dates are recognised but not kept, since no setting takes one.
-/

namespace CallTrace

/-- How a table came to be. -/
inductive TomlOrigin where
  /-- Named by a header. The document as a whole counts as named. -/
  | header
  /-- Named only by being on the way to a table with a longer header. -/
  | implied
  /-- Made by a key with dots. -/
  | dotted
  /-- Written in braces. -/
  | braces
  deriving DecidableEq, Repr

/-- A value in a document. -/
inductive Toml where
  | string (value : String)
  | integer (value : Int)
  | float
  | boolean (value : Bool)
  /-- A date, a time of day, or both. -/
  | moment
  | array (items : List Toml)
  | table (origin : TomlOrigin) (entries : List (String × Toml))
  /-- The tables with one header in double brackets, the last one first. -/
  | tables (items : List (List (String × Toml)))
  deriving Inhabited

/-- The contents of a table in the order in which its keys appeared. -/
abbrev TomlEntries := List (String × Toml)

namespace TomlEntries

/-- Sets a key, in its old place if it is there. -/
def put (key : String) (value : Toml) : TomlEntries → TomlEntries
  | [] => [(key, value)]
  | (name, old) :: rest =>
    if name = key then (key, value) :: rest else (name, old) :: put key value rest

/-- Edits the table at the end of a path. Tables missing on the way are made, with
`route` as their origin. A header passes through every table but one in braces; a
dotted key passes only through tables without a header of their own. Tables that
share a header are represented by the last of them. -/
def edit (route : TomlOrigin) (change : TomlOrigin → TomlEntries → Option TomlEntries) :
    List String → TomlOrigin → TomlEntries → Option TomlEntries
  | [], origin, entries => change origin entries
  | key :: path, _, entries => do
    let value ← match entries.lookup key with
      | none => (edit route change path route []).map (.table route)
      | some (.table origin inner) =>
        if origin = .braces ∨ (route = .dotted ∧ origin = .header) then none
        else (edit route change path origin inner).map (.table origin)
      | some (.tables (last :: earlier)) =>
        (edit route change path .header last).map fun last => .tables (last :: earlier)
      | some _ => none
    return put key value entries

/-- Gives a key its value. A key is given one value only, and a table that dotted
keys lead to must itself have been made by dotted keys. -/
def assign (parents : List String) (key : String) (value : Toml) :
    TomlOrigin → TomlEntries → Option TomlEntries :=
  edit .dotted (fun origin entries =>
    if (origin == .dotted) == parents.isEmpty || (entries.lookup key).isSome then none
    else some (put key value entries)) parents

/-- Opens the table of a header. A header occurs once. -/
def openTable (parents : List String) (key : String) :
    TomlOrigin → TomlEntries → Option TomlEntries :=
  edit .implied (fun _ entries =>
    match entries.lookup key with
    | none => some (put key (.table .header []) entries)
    | some (.table .implied inner) => some (put key (.table .header inner) entries)
    | some _ => none) parents

/-- Opens one more of the tables that share a header. -/
def openItem (parents : List String) (key : String) :
    TomlOrigin → TomlEntries → Option TomlEntries :=
  edit .implied (fun _ entries =>
    match entries.lookup key with
    | none => some (put key (.tables [[]]) entries)
    | some (.tables items) => some (put key (.tables ([] :: items)) entries)
    | some _ => none) parents

end TomlEntries

end CallTrace
