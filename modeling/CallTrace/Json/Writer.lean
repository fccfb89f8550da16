/-
# Writing JSON

Values are written without any space. The text is produced as a list of pieces,
in the portions in which a writer hands them on: a mark, a number, a word, an
escape, or a run of characters that need none. What is written does not depend
on the portions, but what a full buffer holds back does.
-/

import CallTrace.Json.Basic
import CallTrace.Bytes.Hex

namespace CallTrace.Json

/-- The escape of a character that may not stand for itself in a string. -/
def escape? (c : Char) : Option (List Char) :=
  if c == '"' then some ['\\', '"']
  else if c == '\\' then some ['\\', '\\']
  else if c == '\x08' then some ['\\', 'b']
  else if c == '\t' then some ['\\', 't']
  else if c == '\n' then some ['\\', 'n']
  else if c == '\x0c' then some ['\\', 'f']
  else if c == '\r' then some ['\\', 'r']
  else if c.toNat < 0x20 then
    some ['\\', 'u', '0', '0', Hex.digit (c.toNat / 16), Hex.digit (c.toNat % 16)]
  else none

/-- A run of characters, given last first, as one piece. -/
def run (done : List Char) : List (List Char) :=
  if done.isEmpty then [] else [done.reverse]

/-- The contents of a string in runs and escapes. `done` is the run begun before. -/
def contentPieces (done : List Char) : List Char → List (List Char)
  | [] => run done
  | c :: rest =>
    match escape? c with
    | none => contentPieces (c :: done) rest
    | some escape => run done ++ escape :: contentPieces [] rest

/-- A string between its quotes. -/
def stringPieces (text : List Char) : List (List Char) :=
  ['"'] :: contentPieces [] text ++ [['"']]

/-- The text of a string; one that holds none is written as the replacement
character. -/
def shown (value : Option String) : List Char :=
  match value with
  | some text => text.toList
  | none => ['\ufffd']

mutual

/-- The portions in which a value is written. -/
def pieces : Json → List (List Char)
  | .null => [['n', 'u', 'l', 'l']]
  | .bool true => [['t', 'r', 'u', 'e']]
  | .bool false => [['f', 'a', 'l', 's', 'e']]
  | .number value => [value.write]
  | .string value => stringPieces (shown value)
  | .array items => ['['] :: itemPieces true items ++ [[']']]
  | .object members => ['\x7b'] :: memberPieces true members ++ [['\x7d']]

/-- The items of an array, a comma before each but the first. -/
def itemPieces (first : Bool) : List Json → List (List Char)
  | [] => []
  | item :: rest =>
    (if first then [] else [[',']]) ++ pieces item ++ itemPieces false rest

/-- The members of an object, a comma before each but the first. -/
def memberPieces (first : Bool) : List (Option String × Json) → List (List Char)
  | [] => []
  | (key, value) :: rest =>
    (if first then [] else [[',']]) ++ stringPieces (shown key) ++ [':'] :: pieces value ++
      memberPieces false rest

end

/-- The written form of a value. -/
def write (value : Json) : List Char :=
  value.pieces.flatten

end CallTrace.Json
