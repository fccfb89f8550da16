/-
# From JSON tokens to a value

The reader keeps the containers that are still open, innermost first, and what
may come next. A complete value is delivered to the innermost container, or is
the result if none is open. Since the open containers are data, a text may nest
to any depth.
-/

import CallTrace.Json.Lexer

namespace CallTrace.Json

/-- A container that is still open, with its contents so far, last first. -/
inductive Container where
  | items (done : List Json)
  | members (done : List (Option String × Json))
  /-- An object in which the value of `key` is awaited. -/
  | member (done : List (Option String × Json)) (key : Option String)

/-- What may come next. -/
inductive Awaited where
  | value
  /-- Right after an opening bracket: an item, or the end of the array. -/
  | firstItem
  /-- Right after an opening brace: a key, or the end of the object. -/
  | firstKey
  | key
  | colon
  /-- After a value inside a container: a comma or the end of the container. -/
  | separator
  /-- Nothing: the value is complete. -/
  | nothing (result : Json)

/-- How far a value has been read. -/
structure Reader where
  opened : List Container
  awaited : Awaited

namespace Reader

def start : Reader :=
  ⟨[], .value⟩

/-- Hands a complete value to the innermost open container. -/
def deliver (value : Json) : List Container → Option Reader
  | [] => some ⟨[], .nothing value⟩
  | .items done :: outer => some ⟨.items (value :: done) :: outer, .separator⟩
  | .member done key :: outer => some ⟨.members ((key, value) :: done) :: outer, .separator⟩
  | .members _ :: _ => none

/-- Begins a value. -/
def value (opened : List Container) : JsonToken → Option Reader
  | .null => deliver .null opened
  | .bool value => deliver (.bool value) opened
  | .number value => deliver (.number value) opened
  | .string value => deliver (.string value) opened
  | .openBracket => some ⟨.items [] :: opened, .firstItem⟩
  | .openBrace => some ⟨.members [] :: opened, .firstKey⟩
  | _ => none

/-- Reads a key of the innermost open object. -/
def key : List Container → JsonToken → Option Reader
  | .members done :: outer, .string name => some ⟨.member done name :: outer, .colon⟩
  | _, _ => none

/-- Closes the innermost container. -/
def close : List Container → JsonToken → Option Reader
  | .items done :: outer, .closeBracket => deliver (.array done.reverse) outer
  | .members done :: outer, .closeBrace => deliver (.object done.reverse) outer
  | _, _ => none

/-- Takes in one token. -/
def step (reader : Reader) (token : JsonToken) : Option Reader :=
  match reader.awaited with
  | .value => value reader.opened token
  | .firstItem =>
    if token = .closeBracket then close reader.opened token else value reader.opened token
  | .firstKey =>
    if token = .closeBrace then close reader.opened token else key reader.opened token
  | .key => key reader.opened token
  | .colon => if token = .colon then some ⟨reader.opened, .value⟩ else none
  | .separator =>
    if token = .comma then
      match reader.opened with
      | .items _ :: _ => some ⟨reader.opened, .value⟩
      | .members _ :: _ => some ⟨reader.opened, .key⟩
      | _ => none
    else close reader.opened token
  | .nothing _ => none

/-- Takes in tokens in order. -/
def run (reader : Reader) : List JsonToken → Option Reader
  | [] => some reader
  | token :: rest => do (← reader.step token).run rest

end Reader

/-- The value that a source holds, if it holds exactly one. -/
def ofSource? (source : List (Option Char)) : Option Json := do
  let tokens ← JsonToken.lex source
  let reader ← Reader.start.run tokens
  match reader.awaited with
  | .nothing result => some result
  | _ => none

/-- The value that a text holds. -/
def ofText? (text : List Char) : Option Json :=
  ofSource? (text.map some)

/-- The value that bytes hold. -/
def ofBytes? (bytes : List UInt8) : Option Json :=
  ofSource? (Utf8.scan bytes)

end CallTrace.Json
