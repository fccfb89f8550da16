/-
# Traces as rows of text

A trace is written as a header line and one line a record; columns are separated
by commas, lists stand in brackets with spaces between their elements, and the
last line has no line break. A reader checks the header, skips empty lines,
ignores carriage returns at line ends and stops at the first row that it cannot
read, which it names by its number below the header.

What differs between the three traces is how a row is made of columns; all else
is here.
-/

import CallTrace.Frame
import CallTrace.Event
import CallTrace.Text.Split

namespace CallTrace

/-- Why a column does not hold what it should. -/
inductive RowFault where
  | columnCount (expected found : Nat)
  | number (column raw : String) (cause : NumeralFault)
  | identifier (column raw : String) (cause : HexFault)
  | bytes (column : String) (cause : HexFault)
  | callType (cause : UnknownCallType)
  | value (cause : AmountFault)
  | notList (column raw : String)
  | tag (standard function : String)
  deriving DecidableEq, Repr

namespace RowFault

def message : RowFault → String
  | .columnCount expected found =>
    "expected " ++ String.ofList (Numeral.decimal expected) ++ " columns, found " ++
      String.ofList (Numeral.decimal found)
  | .number column raw cause => "bad " ++ column ++ " '" ++ raw ++ "': " ++ cause.message
  | .identifier column raw cause => "bad " ++ column ++ " '" ++ raw ++ "': " ++ cause.message
  | .bytes column cause => "bad " ++ column ++ ": " ++ cause.message
  | .callType cause => "bad calltype: " ++ cause.message
  | .value cause => "bad value: " ++ cause.message
  | .notList column raw => "bad " ++ column ++ " '" ++ raw ++ "': not a [..] list"
  | .tag standard function =>
    "unknown classification '" ++ standard ++ "','" ++ function ++ "'"

end RowFault

/-- Why a trace cannot be read. -/
inductive ReaderError where
  | unexpectedHeader (expected : List String) (found : String)
  | malformedRow (line : Nat) (fault : RowFault)
  deriving DecidableEq, Repr

namespace ReaderError

def message : ReaderError → String
  | .unexpectedHeader expected found =>
    "Unexpected header: expected '" ++ " | ".intercalate expected ++ "', found '" ++ found ++ "'"
  | .malformedRow line fault =>
    "Malformed row " ++ String.ofList (Numeral.decimal line) ++ ": " ++ fault.message

end ReaderError

namespace Rows

/-- The columns of a row. -/
abbrev Columns := List (List Char)

/-- A trace from its header and its rows. -/
def sheet (header : String) (rows : List Columns) : List Char :=
  header.toList ++ rows.flatMap fun columns => '\n' :: Text.joinWith ',' columns

/-- A list as a column. -/
def writeList (items : List (List Char)) : List Char :=
  '[' :: Text.joinWith ' ' items ++ [']']

/-- A call path as a column. -/
def writePath (path : List UInt32) : List Char :=
  writeList (path.map fun site => Numeral.decimal site.toNat)

/-- Log topics as a column. -/
def writeTopics (topics : List Hash) : List Char :=
  writeList (topics.map FixedBytes.toHex)

/-- A column that holds a 64-bit number. -/
def readUInt64 (column : String) (raw : List Char) : Except RowFault UInt64 :=
  (Numeral.readUInt64 raw).mapError (.number column (String.ofList raw))

/-- A column that holds a 32-bit number. -/
def readUInt32 (column : String) (raw : List Char) : Except RowFault UInt32 :=
  (Numeral.readUInt32 raw).mapError (.number column (String.ofList raw))

/-- A column that holds an address or a hash. -/
def readFixedBytes {n : Nat} (column : String) (raw : List Char) :
    Except RowFault (FixedBytes n) :=
  (FixedBytes.ofHex raw).mapError (.identifier column (String.ofList raw))

/-- A column that holds a byte string. -/
def readBytes (column : String) (raw : List Char) : Except RowFault (List UInt8) :=
  (Hex.decode raw).mapError (.bytes column)

/-- What stands between the brackets of a list. -/
def brackets? (raw : List Char) : Option (List Char) :=
  match raw with
  | '[' :: rest =>
    if rest.getLast? = some ']' then some rest.dropLast else none
  | _ => none

/-- A column that holds a list. Elements are separated by any white space. -/
def readList {α : Type} (column : String) (read : List Char → Except RowFault α)
    (raw : List Char) : Except RowFault (List α) :=
  match brackets? raw with
  | none => .error (.notList column (String.ofList raw))
  | some items => (Text.words items).mapM read

/-- A column that holds a call path. -/
def readPath (column : String) (raw : List Char) : Except RowFault (List UInt32) :=
  readList column (readUInt32 column) raw

/-- The classification in the columns of a row. -/
def readTag (standard function : List Char) : Except RowFault EventTag :=
  match EventTag.ofColumns? (String.ofList standard) (String.ofList function) with
  | some tag => .ok tag
  | none => .error (.tag (String.ofList standard) (String.ofList function))

/-- The lines below a header with their numbers, the empty ones left out. -/
def numbered (first : Nat) : List (List Char) → List (Nat × List Char)
  | [] => []
  | line :: rest =>
    let line := Text.trimEnd '\r' line
    if line.isEmpty then numbered (first + 1) rest
    else (first, line) :: numbered (first + 1) rest

/-- Splits a trace into its header, which must be one of those expected, and its
numbered lines. -/
def body (expected : List String) (text : List Char) :
    Except ReaderError (String × List (Nat × List Char)) :=
  let lines := Text.lines text
  let found := String.ofList (Text.trimEnd '\r' (lines.headD []))
  match expected.find? (· == found) with
  | some header => .ok (header, numbered 1 lines.tail)
  | none => .error (.unexpectedHeader expected found)

/-- Reads the rows of a trace in order, up to the first that cannot be read. -/
def readAll {α : Type} (read : Columns → Except RowFault α) :
    List (Nat × List Char) → Except ReaderError (List α)
  | [] => .ok []
  | (number, line) :: rest =>
    match read (Text.splitAt (· == ',') line) with
    | .error fault => .error (.malformedRow number fault)
    | .ok row => (readAll read rest).map (row :: ·)

end Rows

end CallTrace
