import DocScript.Calendar.Reader
import DocScript.Toml.Scan

/-!
# Dates and times

A date, a time of day, or both with a `T` or a blank between them and with an optional offset. The
fields have fixed widths; digits beyond microseconds are dropped.
-/

namespace DocScript.Toml

open Calendar

/-- A fraction of a second in microseconds, zero if there is none. -/
def microseconds (cs : List Char) : Nat × List Char :=
  match cs with
  | '.' :: rest =>
    let ds := rest.takeWhile Char.isDigit
    if ds.isEmpty then (0, cs)
    else
      let used := ds.take 6
      let n := (used.filterMap digit?).foldl (fun n d => 10 * n + d) 0
      (n * Nat.pow 10 (6 - used.length), rest.dropWhile Char.isDigit)
  | _ => (0, cs)

def clock? (cs : List Char) : Option (Clock × List Char) := do
  let (hour, rest) ← takeDigits? 2 cs
  let (minute, rest) ← takeDigits? 2 (← expect? ':' rest)
  let (second, rest) ← takeDigits? 2 (← expect? ':' rest)
  let whole ← Clock.ofParts? hour minute second 0
  let (micro, rest) := microseconds rest
  return ((Clock.ofParts? hour minute second micro).getD whole, rest)

def offset? : List Char → Option (Offset × List Char)
  | [] => none
  | c :: rest =>
    if c == 'Z' || c == 'z' then some (.zero, rest)
    else if c == '+' || c == '-' then do
      let (hour, rest) ← takeDigits? 2 rest
      let (minute, rest) ← takeDigits? 2 (← expect? ':' rest)
      let time ← Clock.ofParts? hour minute 0 0
      let micros : Int := time.micros
      return (← Offset.ofMicros? (if c == '-' then -micros else micros), rest)
    else none

/-- Reads a date of fixed width; there may be no such day. -/
def date? (cs : List Char) : Option (Option Date × List Char) := do
  let (year, rest) ← takeDigits? 4 cs
  let (month, rest) ← takeDigits? 2 (← expect? '-' rest)
  let (day, rest) ← takeDigits? 2 (← expect? '-' rest)
  if 1 ≤ month ∧ month ≤ 12 ∧ 1 ≤ day ∧ day ≤ 31 then return (Date.ofParts? year month day, rest)
  else none

def clockAfterDate? : List Char → Option (Clock × List Char)
  | [] => none
  | c :: rest => if c == 'T' || c == 't' || c == ' ' then clock? rest else none

/-- Reads a date or a time at the start of a text, if there is one. -/
def timestamp? (cs : List Char) : Option (Except Cause Value × List Char) :=
  match date? cs with
  | none => (clock? cs).map fun (c, rest) => (.ok (.clock c), rest)
  | some (none, rest) => some (.error .calendar, rest)
  | some (some d, rest) =>
    match clockAfterDate? rest with
    | none => some (.ok (.date d), rest)
    | some (c, rest) =>
      match offset? rest with
      | none => some (.ok (.moment ⟨d, c, none⟩), rest)
      | some (o, rest) => some (.ok (.moment ⟨d, c, some o⟩), rest)

end DocScript.Toml
