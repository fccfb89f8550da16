/-
# Points in time

A record says when it was made, in universal time: the date, the time of day, a
fraction of a second if there is one, and an offset of zero. The fraction has
three, six or nine digits, as few of these as it needs.
-/

import CallTrace.Numeral

namespace CallTrace

/-- A point in time after the beginning of 1970. -/
structure Timestamp where
  seconds : Nat
  /-- Billionths of a second after that. -/
  nanoseconds : Nat
  deriving DecidableEq, Repr

namespace Timestamp

/-- A number in at least `width` digits. -/
def padded (width n : Nat) : List Char :=
  let digits := Numeral.decimal n
  List.replicate (width - digits.length) '0' ++ digits

/-- The year, month and day that lie a number of days after the beginning of 1970.
Years are taken to begin in March, so that a leap day is the last of its year, and
are counted in cycles of four hundred. -/
def date (days : Nat) : Nat × Nat × Nat :=
  let days := days + 719468
  let cycle := days / 146097
  let inCycle := days % 146097
  let year := (inCycle - inCycle / 1460 + inCycle / 36524 - inCycle / 146096) / 365
  let inYear := inCycle - (365 * year + year / 4 - year / 100)
  let month := (5 * inYear + 2) / 153
  let day := inYear - (153 * month + 2) / 5 + 1
  let year := year + cycle * 400
  if month < 10 then (year, month + 3, day) else (year + 1, month - 9, day)

/-- The digits of the fraction of a second, with the point before them. -/
def fraction (nanoseconds : Nat) : List Char :=
  if nanoseconds = 0 then []
  else if nanoseconds % 1000000 = 0 then '.' :: padded 3 (nanoseconds / 1000000)
  else if nanoseconds % 1000 = 0 then '.' :: padded 6 (nanoseconds / 1000)
  else '.' :: padded 9 nanoseconds

/-- The written form of a point in time. -/
def render (time : Timestamp) : List Char :=
  let (year, month, day) := date (time.seconds / 86400)
  let second := time.seconds % 86400
  padded 4 year ++ '-' :: padded 2 month ++ '-' :: padded 2 day ++
    'T' :: padded 2 (second / 3600) ++ ':' :: padded 2 (second / 60 % 60) ++
    ':' :: padded 2 (second % 60) ++ fraction time.nanoseconds ++
    ['+', '0', '0', ':', '0', '0']

end Timestamp

end CallTrace
