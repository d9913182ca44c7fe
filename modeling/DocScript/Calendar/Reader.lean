import DocScript.Calendar.Moment

/-!
# Reading moments

The date is a calendar date or a week date, each with or without hyphens. One character of any
kind separates it from the time, which may stop after any of its fields, may leave out the
colons, and may end in `Z` or in an offset in the same form. Only the digits of ASCII count.
-/

namespace DocScript.Calendar

def digit? (c : Char) : Option Nat := if c.isDigit then some (c.toNat - 48) else none

def takeDigits? (n : Nat) (cs : List Char) : Option (Nat × List Char) := do
  let ds ← (cs.take n).mapM digit?
  if ds.length = n then some (ds.foldl (fun v d => 10 * v + d) 0, cs.drop n) else none

def expect? (c : Char) : List Char → Option (List Char)
  | d :: rest => if d == c then some rest else none
  | [] => none

/-- The length of the date at the start of a text. A week date without hyphens may have a day of
one digit; as the fields of a time have two digits each, the number of digits tells. A hyphen
after the week starts a day of one digit, unless a digit follows that: then it is a separator. -/
def dateLength (cs : List Char) : Nat :=
  let isDigitAt (i : Nat) : Bool := cs[i]?.any Char.isDigit
  if cs.length = 7 then 7
  else if cs[4]? == some '-' then
    if cs[5]? == some 'W' then
      if cs[8]? == some '-' && !isDigitAt 10 then 10 else 8
    else 10
  else if cs[4]? == some 'W' then
    let stop := 7 + ((cs.drop 7).takeWhile Char.isDigit).length
    if stop < 9 then stop else if stop % 2 = 0 then 7 else 8
  else 8

def readDate? (length : Nat) (cs : List Char) : Option Date := do
  let (year, rest) ← takeDigits? 4 cs
  let hyphens := rest.head? == some '-'
  let rest := if hyphens then rest.drop 1 else rest
  let separate (cs : List Char) : Option (List Char) := if hyphens then expect? '-' cs else some cs
  match rest with
  | 'W' :: rest =>
    let (week, rest) ← takeDigits? 2 rest
    let used := if hyphens then 8 else 7
    if used < length then
      let (day, _) ← takeDigits? 1 (← separate rest)
      Date.ofWeek? year week day
    else
      Date.ofWeek? year week 1
  | _ =>
    let (month, rest) ← takeDigits? 2 rest
    let (day, _) ← takeDigits? 2 (← separate rest)
    Date.ofParts? year month day

/-- The fields of a time as they are read, before their ranges are checked. -/
structure TimeFields where
  hour : Nat := 0
  minute : Nat := 0
  second : Nat := 0
  micro : Nat := 0
  deriving DecidableEq, Repr

def TimeFields.set (t : TimeFields) (index value : Nat) : TimeFields :=
  match index with
  | 0 => { t with hour := value }
  | 1 => { t with minute := value }
  | _ => { t with second := value }

def endMark : Char := '\x00'

/-- Reads a fraction of a second; digits beyond six are dropped. The flag says that something
other than the end mark follows. -/
def readFraction? (t : TimeFields) (cs : List Char) (next : Char) : Option (TimeFields × Bool) := do
  let n := min 6 cs.length
  let (value, rest) ← takeDigits? n cs
  let rest := rest.dropWhile Char.isDigit
  return ({ t with micro := value * Nat.pow 10 (6 - n) }, rest.headD next != endMark)

/-- Reads the fields of a time from `index` on, where `left` more may come and `next` is the
character behind the text. The flag says that something other than the end mark follows the last
field; one ASCII character may. -/
def readFields? (next : Char) :
    (left : Nat) → (colons : Bool) → TimeFields → List Char → Option (TimeFields × Bool)
  | 0, _, t, cs => readFraction? t cs next
  | left + 1, colons, t, cs => do
    let (value, rest) ← takeDigits? 2 cs
    let t := t.set (2 - left) value
    match rest with
    | [] => return (t, next != endMark)
    | c :: rest =>
      let colons := if left = 2 then c == ':' else colons
      if rest.isEmpty && c.toNat < 128 then return (t, c != endMark)
      else if colons && c == ':' then readFields? next left colons t rest
      else if c == '.' || c == ',' then readFraction? t rest next
      else if !colons then readFields? next left colons t (c :: rest)
      else none

def readTime? (cs : List Char) : Option (TimeFields × Option Offset) := do
  let (time, zone) := cs.span fun c => c != '+' && c != '-' && c != 'Z'
  let (t, more) ← readFields? (zone.headD endMark) 3 true {} time
  match zone with
  | [] => if more then none else return (t, none)
  | 'Z' :: rest => if rest.headD endMark == endMark then return (t, some Offset.zero) else none
  | sign :: rest =>
    let (o, more) ← readFields? endMark 3 true {} rest
    if more then none
    else
      let seconds := (o.hour * 60 + o.minute) * 60 + o.second
      -- An offset of no whole seconds is none at all.
      let micros : Int := if seconds = 0 then 0 else seconds * 1000000 + o.micro
      let offset ← Offset.ofMicros? (if sign == '-' then -micros else micros)
      return (t, some offset)

def Moment.read? (s : String) : Option Moment := do
  let cs := s.toList
  if cs.length < 7 then none
  else
    let length := dateLength cs
    let date ← readDate? length cs
    let rest := cs.drop length
    if rest.isEmpty then
      let clock ← Clock.ofParts? 0 0 0 0
      return ⟨date, clock, none⟩
    else
      let (t, offset) ← readTime? (rest.drop 1)
      let clock ← Clock.ofParts? t.hour t.minute t.second t.micro
      return ⟨date, clock, offset⟩

end DocScript.Calendar
