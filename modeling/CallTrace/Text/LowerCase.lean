/-
# Small letters

A text in small letters: every capital gives way to its small letter, one capital
(the dotted I) to two characters, and a capital sigma at the end of a word to the
final form of its small letter.
-/

import CallTrace.Text.LowerCase.Table

namespace CallTrace.Text.LowerCase

/-- Whether a character lies in one of the ranges. -/
def inRanges (ranges : List (Nat × Nat)) (c : Char) : Bool :=
  ranges.any fun range => range.1 ≤ c.toNat && c.toNat ≤ range.2

/-- The small letter of a capital; any other character stays as it is. -/
def letter (c : Char) : Char :=
  let code := c.toNat
  if code < 0x80 then c.toLower
  else
    match capitalRuns.find? fun (first, last, step, _) =>
        first ≤ code && code ≤ last && (code - first) % step == 0 with
    | some (_, _, _, offset) => Char.ofNat (code + offset).toNat
    | none => c

/-- Whether the nearest character that is not passed over is a letter with case. -/
def reachesCased (text : List Char) : Bool :=
  match text.dropWhile (inRanges ignorableRanges) with
  | c :: _ => inRanges casedRanges c
  | [] => false

/-- A text in small letters, given the characters before it, nearest first. -/
def textAfter (before : List Char) : List Char → List Char
  | [] => []
  | c :: rest =>
    let small :=
      if c == 'Σ' then
        if reachesCased before && !reachesCased rest then ['ς'] else ['σ']
      else if c == 'İ' then ['i', '\u0307']
      else [letter c]
    small ++ textAfter (c :: before) rest

/-- A text in small letters. -/
def text (capital : List Char) : List Char :=
  textAfter [] capital

end CallTrace.Text.LowerCase
