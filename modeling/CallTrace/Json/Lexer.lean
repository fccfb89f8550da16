/-
# From characters to JSON tokens

A transducer with a handful of states reads one character at a time and gives out
the tokens that are complete by then. A number has no closing mark, so it is
complete only when a character arrives that cannot continue it, and that
character may be a token of its own.

The source may be damaged: `none` stands for a byte that is part of no character.
Damage is tolerated inside strings, where it only spoils the string it is in, and
refused everywhere else.
-/

import CallTrace.Json.Basic
import CallTrace.Text.Utf8

namespace CallTrace

/-- The marks, words, numbers and strings that a text is made of. -/
inductive JsonToken where
  | openBrace
  | closeBrace
  | openBracket
  | closeBracket
  | colon
  | comma
  | null
  | bool (value : Bool)
  | number (value : JsonNumber)
  | string (value : Option String)
  deriving DecidableEq, Repr

namespace JsonToken

/-- One element of a string's contents. -/
inductive Piece where
  | character (c : Char)
  /-- The first half of an escaped pair of surrogates. -/
  | high (unit : Nat)
  /-- The second half of such a pair. -/
  | low (unit : Nat)
  | damage
  deriving DecidableEq, Repr

/-- The text that the pieces make up. Halves of surrogate pairs count only next to
each other and in their order. -/
def assemble : List Piece → Option (List Char)
  | [] => some []
  | .character c :: rest => (assemble rest).map (c :: ·)
  | .high first :: .low second :: rest =>
    let code := 0x10000 + (first - 0xD800) * 0x400 + (second - 0xDC00)
    (assemble rest).map (Char.ofNat code :: ·)
  | _ => none

/-- The piece that an escape with four hexadecimal digits stands for. -/
def unitPiece (unit : Nat) : Piece :=
  if 0xD800 ≤ unit ∧ unit < 0xDC00 then .high unit
  else if 0xDC00 ≤ unit ∧ unit < 0xE000 then .low unit
  else .character (Char.ofNat unit)

/-- The character behind a one-letter escape. -/
def escaped? : Char → Option Char
  | '"' => some '"'
  | '\\' => some '\\'
  | '/' => some '/'
  | 'b' => some '\x08'
  | 'f' => some '\x0c'
  | 'n' => some '\n'
  | 'r' => some '\r'
  | 't' => some '\t'
  | _ => none

/-- What the transducer is in the middle of. Lists of what was read are kept last
first. -/
inductive LexState where
  | between
  /-- A literal word of which these characters must still come. -/
  | word (missing : List Char) (token : JsonToken)
  | number (done : List Char)
  | string (done : List Piece)
  | escape (done : List Piece)
  | unit (done : List Piece) (digits : List Char)
  deriving DecidableEq, Repr

/-- Whether a character can stand in a number. -/
def inNumber (c : Char) : Bool :=
  c.isDigit || c == '-' || c == '+' || c == '.' || c == 'e' || c == 'E'

/-- A character outside strings, words and numbers. -/
def lexBetween (c : Char) : Option (List JsonToken × LexState) :=
  if c == ' ' || c == '\t' || c == '\n' || c == '\r' then some ([], .between)
  else if c == '\x7b' then some ([.openBrace], .between)
  else if c == '\x7d' then some ([.closeBrace], .between)
  else if c == '[' then some ([.openBracket], .between)
  else if c == ']' then some ([.closeBracket], .between)
  else if c == ':' then some ([.colon], .between)
  else if c == ',' then some ([.comma], .between)
  else if c == '"' then some ([], .string [])
  else if c == 'n' then some ([], .word ['u', 'l', 'l'] .null)
  else if c == 't' then some ([], .word ['r', 'u', 'e'] (.bool true))
  else if c == 'f' then some ([], .word ['a', 'l', 's', 'e'] (.bool false))
  else if c.isDigit || c == '-' then some ([], .number [c])
  else none

/-- One character further: the tokens now complete and the state after it. -/
def lexStep : LexState → Option Char → Option (List JsonToken × LexState)
  | .string done, none => some ([], .string (.damage :: done))
  | _, none => none
  | .between, some c => lexBetween c
  | .word [] _, some _ => none
  | .word [last] token, some c => if c == last then some ([token], .between) else none
  | .word (next :: missing) token, some c =>
    if c == next then some ([], .word missing token) else none
  | .number done, some c =>
    if inNumber c then some ([], .number (c :: done))
    else do
      let number ← JsonNumber.read? done.reverse
      let (tokens, state) ← lexBetween c
      return (.number number :: tokens, state)
  | .string done, some c =>
    if c == '"' then some ([.string ((assemble done.reverse).map String.ofList)], .between)
    else if c == '\\' then some ([], .escape done)
    else if c.toNat < 0x20 then none
    else some ([], .string (.character c :: done))
  | .escape done, some c =>
    if c == 'u' then some ([], .unit done [])
    else (escaped? c).map fun e => ([], .string (.character e :: done))
  | .unit done digits, some c =>
    if (Numeral.digitValue? 16 c).isNone then none
    else
      match digits with
      | [third, second, first] =>
        match Numeral.read 16 0x10000 [first, second, third, c] with
        | .ok unit => some ([], .string (unitPiece unit :: done))
        | .error _ => none
      | _ => some ([], .unit done (c :: digits))

/-- What is complete when the source ends. -/
def lexEnd : LexState → Option (List JsonToken)
  | .between => some []
  | .number done => (JsonNumber.read? done.reverse).map fun number => [.number number]
  | _ => none

/-- The tokens of a source from a state on. -/
def lexFrom (state : LexState) : List (Option Char) → Option (List JsonToken)
  | [] => lexEnd state
  | c :: rest => do
    let (tokens, state) ← lexStep state c
    let more ← lexFrom state rest
    return tokens ++ more

/-- The tokens of a source. -/
def lex (source : List (Option Char)) : Option (List JsonToken) :=
  lexFrom .between source

end JsonToken

end CallTrace
