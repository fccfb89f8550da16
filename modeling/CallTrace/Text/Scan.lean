/-
# Reading off the front of a text

A scan takes what it recognises off the front of a text and leaves the rest, or
refuses and leaves no trace: a caller that tries one scan after another starts
each on the same text. Repetition ends where its scan refuses, so a repetition
reads as much as it can and never refuses itself.
-/

namespace CallTrace

/-- A reader of the front of a text. -/
abbrev Scan (α : Type) := StateT (List Char) Option α

namespace Scan

/-- Whether a text begins with the given characters. -/
def ahead (expected : List Char) : Scan Bool := do
  return expected.isPrefixOf (← get)

/-- The next character, left in place. -/
def peek : Scan (Option Char) := do
  return (← get).head?

/-- One character with a property. -/
def one (property : Char → Bool) : Scan Char := do
  match ← get with
  | c :: rest => if property c then set rest; return c else failure
  | [] => failure

/-- The given characters, one after the other. -/
def exactly (expected : List Char) : Scan Unit := do
  let text ← get
  if expected.isPrefixOf text then set (text.drop expected.length) else failure

/-- As many characters with a property as there are. -/
def span (property : Char → Bool) : Scan (List Char) := do
  let text ← get
  set (text.dropWhile property)
  return text.takeWhile property

/-- What a scan reads, or nothing if it refuses. -/
def attempt {α : Type} (scan : Scan α) : Scan (Option α) :=
  (do return some (← scan)) <|> return none

/-- Repeats a scan, at most as often as `limit` has characters. -/
def repeatAlong {α : Type} (scan : Scan α) : List Char → Scan (List α)
  | [] => return []
  | _ :: limit => do
    match ← attempt scan with
    | none => return []
    | some item => return item :: (← repeatAlong scan limit)

/-- Repeats a scan as often as it reads something. A scan that reads at least one
character each time cannot go on for longer than the text. -/
def repeated {α : Type} (scan : Scan α) : Scan (List α) := do
  repeatAlong scan (← get)

/-- A scan at least once, with a separator before every further time. -/
def separated {α : Type} (separator : Scan Unit) (scan : Scan α) : Scan (List α) := do
  let first ← scan
  return first :: (← repeated (do separator; scan))

/-- A fixed number of decimal digits, as a number. -/
def digits (count : Nat) : Scan Nat := do
  let text ← get
  let figures := text.take count
  if figures.length = count ∧ figures.all Char.isDigit then
    set (text.drop count)
    return Nat.ofDigitChars 10 figures 0
  else failure

/-- The end of the text. -/
def ending : Scan Unit := do
  if (← get).isEmpty then return () else failure

/-- What a scan makes of a text that it reads to its end. -/
def complete? {α : Type} (scan : Scan α) (text : List Char) : Option α :=
  ((do let result ← scan; ending; return result : Scan α).run text).map Prod.fst

end Scan

end CallTrace
