/-
# TOML scalars

Strings in their four notations, numbers, dates and times. Where two notations
begin alike, the longer one is tried first: a date before a float before an
integer, and three quotes before one.
-/

import CallTrace.Decimal
import CallTrace.Toml.Basic
import CallTrace.Text.Scan

namespace CallTrace.Toml.Scalar

open Scan

/-- A space or a tab. -/
def isSpace (c : Char) : Bool :=
  c == ' ' || c == '\t'

/-- Whether a character may stand in a comment: any but the control characters,
a tab excepted. -/
def isPlain (c : Char) : Bool :=
  c == '\t' || (0x20 ≤ c.toNat && c.toNat != 0x7F)

/-- The end of a line. -/
def lineBreak : Scan Char := do
  exactly ['\n'] <|> exactly ['\r', '\n']
  return '\n'

/-- The character with a code given in hexadecimal digits. -/
def coded (count : Nat) : Scan Char := do
  let text ← get
  let figures := text.take count
  if figures.length = count then
    match Numeral.readDigits 16 0x110000 figures 0 with
    | .ok code =>
      if code.isValidChar then
        set (text.drop count)
        return Char.ofNat code
      else failure
    | .error _ => failure
  else failure

/-- A backslash and what it stands for with the characters after it. -/
def escaped : Scan Char := do
  exactly ['\\']
  match ← one fun _ => true with
  | 'b' => return '\x08'
  | 'f' => return '\x0c'
  | 'n' => return '\n'
  | 'r' => return '\r'
  | 't' => return '\t'
  | '"' => return '"'
  | '\\' => return '\\'
  | 'u' => coded 4
  | 'U' => coded 8
  | _ => failure

/-- A character that stands for itself between double quotes. -/
def unescaped : Scan Char :=
  one fun c => isPlain c && c != '"' && c != '\\'

/-- A string in double quotes on one line. -/
def quoted : Scan (List Char) := do
  exactly ['"']
  let text ← repeated (unescaped <|> escaped)
  exactly ['"']
  return text

/-- A string in single quotes on one line, in which nothing is escaped. -/
def literal : Scan (List Char) := do
  exactly ['\x27']
  let text ← span fun c => isPlain c && c != '\x27'
  exactly ['\x27']
  return text

/-- A backslash at the end of a line, which hides the line break and all blanks
after it. -/
def hiddenBreak : Scan (List Char) := do
  exactly ['\\']
  let _ ← span isSpace
  let _ ← lineBreak
  let _ ← repeated (lineBreak <|> one isSpace)
  return []

/-- A string between threefold quotes. Up to two quotes may stand anywhere in it,
so of a run of quotes at its end the last three close it. -/
def fenced (quote : Char) (piece : Scan (List Char)) : Scan (List Char) := do
  let fence := [quote, quote, quote]
  exactly fence
  let _ ← attempt lineBreak
  let pieces ← repeated do
    if ← ahead fence then failure
    piece <|> (do return [← one (· == quote)]) <|> (do return [← lineBreak])
  exactly fence
  let extra ← attempt (exactly [quote, quote])
  let extra ← match extra with
    | some _ => pure [quote, quote]
    | none => do
      match ← attempt (exactly [quote]) with
      | some _ => pure [quote]
      | none => pure []
  return pieces.flatten ++ extra

/-- A string in any notation. -/
def text : Scan (List Char) := do
  if ← ahead ['"', '"', '"'] then
    fenced '"' (hiddenBreak <|> (do return [← unescaped <|> escaped]))
  else if ← ahead ['\x27', '\x27', '\x27'] then
    fenced '\x27' (do return [← one fun c => isPlain c && c != '\x27'])
  else quoted <|> literal

/-- Further digits of a number, in which a single underscore may stand before each. -/
def digitsAfter (base : Nat) : Scan (List Char) :=
  repeated do
    let _ ← attempt (exactly ['_'])
    one fun c => (Numeral.digitValue? base c).isSome

/-- The digits of a number. -/
def figures (base : Nat) : Scan (List Char) := do
  let first ← one fun c => (Numeral.digitValue? base c).isSome
  return first :: (← digitsAfter base)

/-- An optional sign; whether it is a minus. -/
def sign : Scan Bool := do
  match ← attempt (one fun c => c == '+' || c == '-') with
  | some c => return c == '-'
  | none => return false

/-- Decimal digits without a leading zero. -/
def wholeFigures : Scan (List Char) := do
  if (← peek) == some '0' then return [← one fun _ => true] else figures 10

/-- An integer of 64 bits with a sign. Other bases than ten take none. -/
def integer : Scan Int := do
  let based (mark : Char) (base : Nat) : Scan Int := do
    exactly ['0', mark]
    match Numeral.readDigits base 0x8000000000000000 (← figures base) 0 with
    | .ok size => return size
    | .error _ => failure
  let value ← based 'x' 16 <|> based 'o' 8 <|> based 'b' 2 <|> do
    let negative ← sign
    let size : Int := Nat.ofDigitChars 10 (← wholeFigures) 0
    return if negative then -size else size
  if -0x8000000000000000 ≤ value ∧ value < 0x8000000000000000 then return value else failure

/-- A power of ten. -/
def power : Scan Int := do
  let _ ← one fun c => c == 'e' || c == 'E'
  let negative ← sign
  let size : Int := Nat.ofDigitChars 10 (← figures 10) 0
  return if negative then -size else size

/-- A number with a fraction or a power of ten, or one of the words for no finite
number. A number too large for a double is refused, unless it is negative. -/
def float : Scan Unit := do
  let negative ← sign
  exactly ['i', 'n', 'f'] <|> exactly ['n', 'a', 'n'] <|> do
    let whole := Nat.ofDigitChars 10 (← wholeFigures) 0
    let fraction ← attempt do
      exactly ['.']
      figures 10
    let exponent ← attempt power
    if fraction.isNone && exponent.isNone then failure
    let number := Decimal.ofFigures whole (fraction.getD []) (exponent.getD 0)
    if number.isFinite || negative then return () else failure

/-- How many days a month has. -/
def daysOf (year month : Nat) : Nat :=
  if month = 2 then
    if year % 4 = 0 ∧ (year % 100 ≠ 0 ∨ year % 400 = 0) then 29 else 28
  else if month = 4 ∨ month = 6 ∨ month = 9 ∨ month = 11 then 30
  else 31

/-- A day of a year. It has to exist in the calendar. -/
def date : Scan Unit := do
  let year ← digits 4
  exactly ['-']
  let month ← digits 2
  exactly ['-']
  let day ← digits 2
  if 1 ≤ month ∧ month ≤ 12 ∧ 1 ≤ day ∧ day ≤ daysOf year month then return () else failure

/-- Hours and minutes. -/
def clock : Scan Unit := do
  let hour ← digits 2
  exactly [':']
  let minute ← digits 2
  if hour < 24 ∧ minute < 60 then return () else failure

/-- A time of day. The sixtieth second is a leap second. -/
def time : Scan Unit := do
  clock
  exactly [':']
  let second ← digits 2
  if 60 < second then failure
  let _ ← attempt do
    exactly ['.']
    let _ ← digits 1
    span Char.isDigit
  return ()

/-- How far a time is from universal time. -/
def offset : Scan Unit := do
  let mark ← one fun c => c == 'Z' || c == 'z' || c == '+' || c == '-'
  if mark == '+' || mark == '-' then clock

/-- A date, a time of day, or both. -/
def moment : Scan Unit := do
  match ← attempt date with
  | none => time
  | some _ =>
    let _ ← attempt do
      let _ ← one fun c => c == 'T' || c == 't' || c == ' '
      time
      attempt offset
    return ()

/-- A value that holds no other values. -/
def value : Scan Toml := do
  match ← peek with
  | some 't' => exactly ['t', 'r', 'u', 'e']; return .boolean true
  | some 'f' => exactly ['f', 'a', 'l', 's', 'e']; return .boolean false
  | _ =>
    (do return .string (String.ofList (← text))) <|> (do moment; return .moment) <|>
      (do float; return .float) <|> (do return .integer (← integer))

end CallTrace.Toml.Scalar
