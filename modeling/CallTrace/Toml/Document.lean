/-
# TOML statements and the document they make

A text is first read as a list of statements, line by line, without regard to
what they say; the statements then build the document one after the other. Both
ways of assigning a value, on a line of its own and between braces, go by the
same rule.
-/

import CallTrace.Toml.Scalar

namespace CallTrace.Toml

open Scan
open Scalar (isSpace isPlain lineBreak quoted literal)

/-- A key with dots: the names before the last one, and the last one. -/
structure Key where
  parents : List String
  name : String
  deriving DecidableEq, Repr

/-- What one line of a document, or one value over several lines, says. -/
inductive Statement where
  | assign (key : Key) (value : Toml)
  /-- A header: what follows belongs to this table. -/
  | table (key : Key)
  /-- A header in double brackets: what follows belongs to a new table in a row. -/
  | item (key : Key)

/-- Blanks within a line. -/
def blanks : Scan Unit := do
  let _ ← span isSpace
  return ()

/-- A comment, up to the end of its line. -/
def comment : Scan Unit := do
  exactly ['#']
  let _ ← span isPlain
  return ()

/-- The end of a statement's line, or of the text. -/
def lineEnd : Scan Unit := do
  blanks
  let _ ← attempt comment
  (do let _ ← lineBreak) <|> ending

/-- Blanks, line breaks and comments. -/
def gap : Scan Unit := do
  let _ ← repeated ((do let _ ← one isSpace) <|> (do let _ ← lineBreak) <|> comment)
  return ()

/-- A key has fewer than this many names. -/
def keyLimit : Nat := 80

/-- One name of a key: bare, or a string on one line. -/
def name : Scan String := do
  blanks
  let characters ← quoted <|> literal <|> do
    let bare ← span fun c => c.isAlphanum || c == '_' || c == '-'
    if bare.isEmpty then failure else return bare
  blanks
  return String.ofList characters

/-- A key: names with dots between them. -/
def key : Scan Key := do
  let names ← separated (exactly ['.']) name
  match names.reverse with
  | last :: before =>
    if names.length < keyLimit then return ⟨before.reverse, last⟩ else failure
  | [] => failure

/-- Items between brackets. Line breaks and comments may stand between them, and a
comma after the last. -/
def items (value : Scan Toml) : Scan Toml := do
  exactly ['[']
  let items ← attempt do
    let items ← separated (exactly [',']) do
      gap
      let item ← value
      gap
      return item
    let _ ← attempt (exactly [','])
    return items
  gap
  exactly [']']
  return .array (items.getD [])

/-- A key, an equals sign and a value. -/
def assignment (value : Scan Toml) : Scan (Key × Toml) := do
  let key ← key
  exactly ['=']
  blanks
  return (key, ← value)

/-- Assignments between braces, all on one line. -/
def braces (value : Scan Toml) : Scan Toml := do
  exactly ['\x7b']
  let pairs ← attempt do
    separated (exactly [',']) do
      let pair ← assignment value
      blanks
      return pair
  blanks
  exactly ['\x7d']
  let entries ← (pairs.getD []).foldlM (fun (entries : TomlEntries) (pair : Key × Toml) =>
    (entries.assign pair.1.parents pair.1.name pair.2 .braces : Option TomlEntries)) []
  return .table .braces entries

/-- A value in which arrays and braces nest at most `room` deep. -/
def value : Nat → Scan Toml
  | 0 => Scalar.value
  | room + 1 => do
    match ← peek with
    | some '[' => items (value room)
    | some '\x7b' => braces (value room)
    | _ => Scalar.value

/-- How deep arrays and braces may nest. -/
def nestingLimit : Nat := 79

/-- A statement up to the end of its line. -/
def statement : Scan Statement := do
  let statement ←
    if ← ahead ['[', '['] then do
      exactly ['[', '[']
      let key ← key
      exactly [']', ']']
      pure (.item key)
    else if ← ahead ['['] then do
      exactly ['[']
      let key ← key
      exactly [']']
      pure (.table key)
    else do
      let (key, value) ← assignment (Toml.value nestingLimit)
      pure (.assign key value)
  lineEnd
  return statement

/-- The statements of a text, which may start with a byte order mark. -/
def statements : Scan (List Statement) := do
  let _ ← attempt (exactly ['\uFEFF'])
  gap
  repeated do
    let statement ← statement
    gap
    return statement

/-- A document under construction. -/
structure Draft where
  /-- The table that assignments go to. -/
  current : List String
  entries : TomlEntries

/-- Carries out one statement. -/
def Draft.step (draft : Draft) : Statement → Option Draft
  | .assign key value => do
    let change := fun origin (entries : TomlEntries) =>
      entries.assign key.parents key.name value origin
    return { draft with entries := ← draft.entries.edit .implied change draft.current .header }
  | .table key => do
    return ⟨key.parents ++ [key.name], ← draft.entries.openTable key.parents key.name .header⟩
  | .item key => do
    return ⟨key.parents ++ [key.name], ← draft.entries.openItem key.parents key.name .header⟩

/-- The document that a text describes. -/
def ofText? (text : List Char) : Option TomlEntries := do
  let statements ← statements.complete? text
  let draft ← statements.foldlM Draft.step ⟨[], []⟩
  return draft.entries

end CallTrace.Toml
