import Workbench.Text.Numeral

/-!
# Points in time as text

A point in time is a number of seconds since the start of 1970 and a number of nanoseconds; leap
seconds do not count. `instant` writes one as date and time of day at Greenwich, in the form of an
internet timestamp.

A calendar repeats itself after 400 years. Counted from a first of March the leap day is the last
day of its year, so the lengths of the years and months before any day follow from a division.
-/

namespace Workbench.Text

/-- A day of the calendar. -/
structure Date where
  year : Nat
  month : Nat
  day : Nat
  deriving DecidableEq, Repr

/-- The days in 400 years. -/
def cycleDays : Nat :=
  146097

/-- The days from the first of March of the year zero to the start of 1970. -/
def daysBefore1970 : Nat :=
  719468

/-- The date of a day, counted from the start of 1970. -/
def Date.ofDays (days : Nat) : Date :=
  let all := days + daysBefore1970
  let inCycle := all % cycleDays
  let year := (inCycle - inCycle / 1460 + inCycle / 36524 - inCycle / 146096) / 365
  let inYear := inCycle - (365 * year + year / 4 - year / 100)
  let fromMarch := (5 * inYear + 2) / 153
  let month := if fromMarch < 10 then fromMarch + 3 else fromMarch - 9
  { year := all / cycleDays * 400 + year + if month ≤ 2 then 1 else 0
    month
    day := inYear - (153 * fromMarch + 2) / 5 + 1 }

/-- A number with zeros before it, so that it takes at least `width` places. -/
def padded (width n : Nat) : List Char :=
  List.replicate (width - (digits n).length) '0' ++ digits n

/-- The part of a second behind the point, without the zeros at its end, and the point before it;
nothing for a whole second. -/
def subsecond (nanos : Nat) : List Char :=
  if nanos = 0 then [] else '.' :: ((padded 9 nanos).reverse.dropWhile (· = '0')).reverse

/-- A point in time. -/
def instant (seconds nanos : Nat) : String :=
  let date := Date.ofDays (seconds / 86400)
  let time := seconds % 86400
  String.ofList (padded 4 date.year ++ '-' :: padded 2 date.month ++ '-' :: padded 2 date.day ++
    'T' :: padded 2 (time / 3600) ++ ':' :: padded 2 (time / 60 % 60) ++
    ':' :: padded 2 (time % 60) ++ subsecond nanos ++ ['Z'])

end Workbench.Text
