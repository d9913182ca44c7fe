import DocScript.Calendar.Date
import DocScript.Numeral.Shortest

/-!
# Moments

A moment is a date and a time of day to the microsecond, with or without an offset from universal
time. `ticks?` counts intervals of 100 nanoseconds from the start of the year 1. A moment with an
offset is counted in universal time, so that equal instants have equal ticks.
-/

namespace DocScript.Calendar

open Numeral

structure Clock where
  hour : Nat
  minute : Nat
  second : Nat
  micro : Nat
  hour_lt : hour < 24
  minute_lt : minute < 60
  second_lt : second < 60
  micro_lt : micro < 1000000
  deriving DecidableEq, Repr

def Clock.ofParts? (hour minute second micro : Nat) : Option Clock :=
  if h : hour < 24 ∧ minute < 60 ∧ second < 60 ∧ micro < 1000000 then
    some ⟨hour, minute, second, micro, h.1, h.2.1, h.2.2.1, h.2.2.2⟩
  else
    none

def microsPerDay : Nat := 86400000000

def Clock.micros (c : Clock) : Nat :=
  ((c.hour * 60 + c.minute) * 60 + c.second) * 1000000 + c.micro

/-- An offset from universal time, shorter than a day. -/
structure Offset where
  micros : Int
  after : -(microsPerDay : Int) < micros
  before : micros < (microsPerDay : Int)
  deriving DecidableEq, Repr

def Offset.zero : Offset := ⟨0, by decide, by decide⟩

/-- The offset of some microseconds, if they are fewer than a day has. -/
def Offset.ofMicros? (n : Int) : Option Offset :=
  if h : -(microsPerDay : Int) < n ∧ n < (microsPerDay : Int) then some ⟨n, h.1, h.2⟩ else none

/-- A date and time, on the clock of an unknown place or of one with a known offset. -/
structure Moment where
  date : Date
  clock : Clock
  offset : Option Offset
  deriving DecidableEq, Repr

namespace Moment

/-- Microseconds from the start of the year 1 to the time shown on the clock. -/
def wallMicros (m : Moment) : Nat :=
  (m.date.ordinal - 1) * microsPerDay + m.clock.micros

/-- Microseconds from the start of the year 1 in universal time, where the offset is known. -/
def utcMicros (m : Moment) : Int :=
  match m.offset with
  | none => m.wallMicros
  | some o => m.wallMicros - o.micros

def totalDays : Nat := daysBeforeYear 10000

/-- The moment in ticks, if it lies in the years 1 to 9999. -/
def ticks? (m : Moment) : Option Int :=
  if 0 ≤ m.utcMicros ∧ m.utcMicros < ((totalDays * microsPerDay : Nat) : Int) then
    some (m.utcMicros * 10)
  else
    none

inductive Zone where
  | utc
  | unspecified
  deriving DecidableEq, Repr

/-- Ticks are in universal time if and only if the moment has an offset. -/
def zone (m : Moment) : Zone := if m.offset.isSome then .utc else .unspecified

def Zone.name : Zone → String
  | .utc => "Utc"
  | .unspecified => "Unspecified"

end Moment

def padded (width n : Nat) : String := padZeros width (Nat.repr n)

/-- A fraction of a second, left out when it is zero. -/
def fractionText (micro : Nat) : String := if micro = 0 then "" else "." ++ padded 6 micro

def Date.text (d : Date) : String :=
  padded 4 d.year ++ "-" ++ padded 2 d.month ++ "-" ++ padded 2 d.day

/-- The text `HH:MM:SS`, with six more digits where needed. -/
def Clock.text (c : Clock) : String :=
  padded 2 c.hour ++ ":" ++ padded 2 c.minute ++ ":" ++ padded 2 c.second ++ fractionText c.micro

/-- The text `+HH:MM`, with seconds and their fraction where needed. -/
def Offset.text (o : Offset) : String :=
  let n := o.micros.natAbs
  let seconds := n / 1000000
  let micro := n % 1000000
  let tail :=
    if seconds % 60 = 0 && micro = 0 then ""
    else ":" ++ padded 2 (seconds % 60) ++ fractionText micro
  (if o.micros < 0 then "-" else "+") ++ padded 2 (seconds / 3600) ++ ":"
    ++ padded 2 (seconds / 60 % 60) ++ tail

/-- The text of the clock with a mark between date and time. -/
def Moment.wallText (mark : String) (m : Moment) : String := m.date.text ++ mark ++ m.clock.text

/-- The text of a moment inside a text or message. -/
def Moment.display (m : Moment) : String :=
  m.wallText " " ++ (m.offset.map Offset.text).getD ""

end DocScript.Calendar
