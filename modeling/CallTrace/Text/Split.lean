/-
# Cutting texts into pieces

Every trace format of this library is lines of columns of list elements, so all
reading begins by cutting a text at separators. `splitAt` keeps empty pieces and
is inverted by joining; `words` drops them.
-/

import CallTrace.Text.Blank

namespace CallTrace.Text

/-- Cuts a text, or bytes, at every element satisfying `separates`. There is always
one piece more than there are separators, so that no separator is lost. -/
def splitAt {α : Type} (separates : α → Bool) : List α → List (List α)
  | [] => [[]]
  | c :: rest =>
    if separates c then
      [] :: splitAt separates rest
    else
      match splitAt separates rest with
      | [] => [[c]]
      | piece :: pieces => (c :: piece) :: pieces

/-- The lines of a text: a final line break leaves an empty last line. -/
def lines : List Char → List (List Char) :=
  splitAt (· == '\n')

/-- The pieces of a text between runs of white space. -/
def words (text : List Char) : List (List Char) :=
  (splitAt isBlank text).filter (!·.isEmpty)

/-- Puts `separator` between consecutive pieces. -/
def joinWith (separator : Char) : List (List Char) → List Char
  | [] => []
  | [piece] => piece
  | piece :: pieces => piece ++ separator :: joinWith separator pieces

/-- A text without the given opening, or unchanged if it does not begin so. -/
def dropOpening (opening text : List Char) : List Char :=
  match opening.isPrefixOf? text with
  | some rest => rest
  | none => text

/-- A text without the run of `c` at its end. -/
def trimEnd (c : Char) (text : List Char) : List Char :=
  (text.reverse.dropWhile (· == c)).reverse

end CallTrace.Text
