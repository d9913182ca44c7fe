import DocScript.Calendar.Moment
import DocScript.Text.Quoted

/-!
# Values of TOML documents

A value is a text, a number, a truth value, something of the calendar, a list or a table. Tables
keep the order of their keys. `display` is the text of a value inside a text or message, and
`same` says when two values count as one member of a set.
-/

namespace DocScript.Toml

open Calendar Numeral Text

inductive Value where
  | text (s : String)
  | integer (n : Int)
  | real (x : Binary64)
  | truth (b : Bool)
  | moment (m : Moment)
  | date (d : Date)
  | clock (c : Clock)
  | list (items : List Value)
  | table (entries : List (String × Value))
  deriving Repr

abbrev Entries := List (String × Value)

/-- Something spelled as the application of a name to arguments. -/
def applied (name : String) (args : List String) : String :=
  name ++ "(" ++ ", ".intercalate args ++ ")"

/-- The numbers of a time of day; seconds and microseconds only as far as needed. -/
def clockNumbers (c : Clock) : List String :=
  let fine :=
    if c.micro ≠ 0 then [c.second, c.micro] else if c.second ≠ 0 then [c.second] else []
  (c.hour :: c.minute :: fine).map Nat.repr

def dateNumbers (d : Date) : List String := [d.year, d.month, d.day].map Nat.repr

/-- An offset as an item of a list: whole days, which may be negative, and a rest in seconds. -/
def offsetLiteral (o : Offset) : String :=
  if o.micros = 0 then "datetime.timezone.utc"
  else
    let days := o.micros.fdiv microsPerDay
    let seconds := (o.micros.fmod microsPerDay) / 1000000
    let parts := [("days", days), ("seconds", seconds)].filter (·.2 ≠ 0)
    applied "datetime.timezone"
      [applied "datetime.timedelta" (parts.map fun (k, n) => k ++ "=" ++ intText n)]

def momentLiteral (m : Moment) : String :=
  let zone := m.offset.toList.map fun o => "tzinfo=" ++ offsetLiteral o
  applied "datetime.datetime" (dateNumbers m.date ++ clockNumbers m.clock ++ zone)

namespace Value

mutual

def literal : Value → String
  | text s => quoted s
  | integer n => intText n
  | real x => x.display
  | truth true => "True"
  | truth false => "False"
  | moment m => momentLiteral m
  | date d => applied "datetime.date" (dateNumbers d)
  | clock c => applied "datetime.time" (clockNumbers c)
  | list items => "[" ++ literalItems items ++ "]"
  | table entries => "\x7b" ++ literalEntries entries ++ "\x7d"

def literalItems : List Value → String
  | [] => ""
  | [x] => literal x
  | x :: rest => literal x ++ ", " ++ literalItems rest

def literalEntries : List (String × Value) → String
  | [] => ""
  | [(k, x)] => quoted k ++ ": " ++ literal x
  | (k, x) :: rest => quoted k ++ ": " ++ literal x ++ ", " ++ literalEntries rest

end

def display : Value → String
  | text s => s
  | moment m => m.display
  | date d => d.text
  | clock c => c.text
  | v => literal v

mutual

/-- All integers in the value are short enough to be written as text. -/
def isWritable : Value → Bool
  | integer n => n.natAbs < Nat.pow 10 maxDigits
  | list items => areWritable items
  | table entries => entriesAreWritable entries
  | _ => true

/-- All integers in some values are short enough to be written as text. -/
def areWritable : List Value → Bool
  | [] => true
  | x :: rest => x.isWritable && areWritable rest

/-- All integers in some entries are short enough to be written as text. -/
def entriesAreWritable : List (String × Value) → Bool
  | [] => true
  | (_, x) :: rest => x.isWritable && entriesAreWritable rest

end

/-- A value counts as true unless it is empty, zero or false. -/
def truthy : Value → Bool
  | text s => s ≠ ""
  | integer n => n ≠ 0
  | real x => x.toInt? ≠ some 0
  | truth b => b
  | moment _ | date _ | clock _ => true
  | list items => !items.isEmpty
  | table entries => !entries.isEmpty

/-- The integer that a value is equal to, if it is equal to one; truth values count as 0 and 1. -/
def integral? : Value → Option Int
  | integer n => some n
  | real x => x.toInt?
  | truth b => some (if b then 1 else 0)
  | _ => none

/-- Two values without parts count as one: equal numbers, or equal instants. Nothing equals what
is not a number. -/
def same (v w : Value) : Bool :=
  match v, w with
  | text s, text t => s == t
  | real (.infinite a), real (.infinite b) => a == b
  | real (.finite x), real (.finite y) => x == y || (x.toInt?.isSome && x.toInt? == y.toInt?)
  | moment m, moment n =>
    m.offset.isSome == n.offset.isSome && m.utcMicros == n.utcMicros
  | date d, date e => d == e
  | clock c, clock d => c == d
  | v, w => v.integral?.isSome && v.integral? == w.integral?

def isScalar : Value → Bool
  | list _ | table _ => false
  | _ => true

end Value

end DocScript.Toml
