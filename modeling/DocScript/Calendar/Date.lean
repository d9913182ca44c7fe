/-!
# Dates

The proleptic Gregorian calendar of the years 1 to 9999. `Date.ordinal` counts days from the
first of January of the year 1, which is day 1; `ofOrdinal?` is its inverse. Weeks start on
Monday and belong to the year of their Thursday.
-/

namespace DocScript.Calendar

def isLeap (year : Nat) : Bool :=
  year % 4 == 0 && (year % 100 != 0 || year % 400 == 0)

def monthLengths (year : Nat) : List Nat :=
  [31, if isLeap year then 29 else 28, 31, 30, 31, 30, 31, 31, 30, 31, 30, 31]

/-- The number of days of a month, counted from 1; zero for a month that does not exist. -/
def daysInMonth (year month : Nat) : Nat :=
  if month = 0 then 0 else (monthLengths year).getD (month - 1) 0

/-- The days before the first of January of a year. -/
def daysBeforeYear (year : Nat) : Nat :=
  let y := year - 1
  y * 365 + y / 4 - y / 100 + y / 400

/-- The days before the first of a month, within its year. -/
def daysBeforeMonth (year month : Nat) : Nat :=
  ((monthLengths year).take (month - 1)).foldl (· + ·) 0

structure Date where
  year : Nat
  month : Nat
  day : Nat
  year_pos : 1 ≤ year
  year_le : year ≤ 9999
  month_pos : 1 ≤ month
  month_le : month ≤ 12
  day_pos : 1 ≤ day
  day_le : day ≤ daysInMonth year month
  deriving DecidableEq, Repr

namespace Date

def ofParts? (year month day : Nat) : Option Date :=
  if h : 1 ≤ year ∧ year ≤ 9999 ∧ 1 ≤ month ∧ month ≤ 12 ∧ 1 ≤ day
      ∧ day ≤ daysInMonth year month then
    some ⟨year, month, day, h.1, h.2.1, h.2.2.1, h.2.2.2.1, h.2.2.2.2.1, h.2.2.2.2.2⟩
  else
    none

def ordinal (d : Date) : Nat :=
  daysBeforeYear d.year + daysBeforeMonth d.year d.month + d.day

end Date

/-- The month and day of a day of the year that is counted from zero, given the lengths of the
months that are left. -/
def monthAndDay : List Nat → Nat → Nat → Nat × Nat
  | [], month, rest => (month, rest + 1)
  | length :: lengths, month, rest =>
    if rest < length then (month, rest + 1) else monthAndDay lengths (month + 1) (rest - length)

def Date.ofOrdinal? (n : Nat) : Option Date :=
  let days := n - 1
  let centuries := min 3 (days % 146097 / 36524)
  let inCentury := days % 146097 - centuries * 36524
  let years := min 3 (inCentury % 1461 / 365)
  let year := 400 * (days / 146097) + 100 * centuries + 4 * (inCentury / 1461) + years + 1
  let (month, day) := monthAndDay (monthLengths year) 1 (inCentury % 1461 - years * 365)
  ofParts? year month day

/-- The day of the week of a numbered day; Monday is zero. -/
def weekday (ordinal : Nat) : Nat := (ordinal + 6) % 7

def firstWeekday (year : Nat) : Nat := weekday (daysBeforeYear year + 1)

def hasWeek53 (year : Nat) : Bool :=
  firstWeekday year == 3 || (firstWeekday year == 2 && isLeap year)

/-- The date of a day in a week of a year; both are counted from 1. -/
def Date.ofWeek? (year week day : Nat) : Option Date :=
  if 1 ≤ year && 1 ≤ week && (week ≤ 52 || (week == 53 && hasWeek53 year))
      && 1 ≤ day && day ≤ 7 then
    let first := daysBeforeYear year + 1
    let start := firstWeekday year
    -- The first week is the one with the first Thursday of the year.
    let monday := if start ≤ 3 then first - start else first + (7 - start)
    ofOrdinal? (monday + (week - 1) * 7 + (day - 1))
  else
    none

end DocScript.Calendar
