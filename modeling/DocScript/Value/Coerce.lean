import DocScript.Calendar.Reader
import DocScript.Json.Display
import DocScript.Schema.Registry
import DocScript.Script.Basic
import DocScript.Text.Blank
import DocScript.Text.CaseMap

/-!
# Coercion of raw values

A raw value usually is text. `coerce?` gives the value of the declared kind that it stands for, if
there is one; a truth value is never a number.
-/

namespace DocScript

open Calendar Numeral Text

/-- A raw value: JSON, or a moment that has been read already. -/
inductive Raw where
  | json (j : Json)
  | moment (m : Moment)

def Raw.display : Raw → String
  | json j => j.display
  | moment m => m.display

inductive Value where
  | literal (l : Literal)
  | moment (m : Moment)
  deriving DecidableEq

/-- The smallest and largest number of an integer kind. -/
def Primitive.range? : Primitive → Option (Int × Int)
  | .byte => some (0, 0xFF)
  | .sbyte => some (-0x80, 0x7F)
  | .int16 => some (-0x8000, 0x7FFF)
  | .uint16 => some (0, 0xFFFF)
  | .int32 => some (-0x80000000, 0x7FFFFFFF)
  | .uint32 => some (0, 0xFFFFFFFF)
  | .int64 => some (-0x8000000000000000, 0x7FFFFFFFFFFFFFFF)
  | .uint64 => some (0, 0xFFFFFFFFFFFFFFFF)
  | _ => none

namespace Raw

/-- The text without blank characters at its ends. -/
def trimmed (r : Raw) : List Char := trimChars r.display.toList

def truthOfText? (s : String) : Option Bool :=
  let token := lower (trim s)
  if token ∈ ["true", "1", "on"] then some true
  else if token ∈ ["false", "0", "off"] then some false
  else none

def toBool? : Raw → Option Bool
  | json (.bool b) => some b
  | json (.int n) => if n = 0 then some false else if n = 1 then some true else none
  | json (.str s) => truthOfText? s
  | _ => none

def toInt? (r : Raw) : Option Int :=
  match r with
  | json (.bool _) => none
  | json (.int n) => some n
  | json (.float x) => x.toInt?
  | _ => readInt? r.trimmed

/-- The number that a raw value stands for. Separators around its digits are not left out. -/
def toFloat? (r : Raw) : Option Binary64 :=
  match r with
  | json (.int n) => Binary64.ofInt? n
  | json (.float x) => some x
  | json (.str s) => Binary64.read? (trimSpaces s.toList)
  | _ => none

def toDecimal? (r : Raw) : Option Decimal :=
  match r with
  | json (.bool _) => none
  | _ => Decimal.read? r.trimmed

def toMoment? (r : Raw) : Option Moment :=
  match r with
  | moment m => some m
  | _ => Moment.read? (String.ofList r.trimmed)

/-- The value of a kind that a raw value stands for. -/
def coerce? (kind : Primitive) (r : Raw) : Option Value :=
  match kind.range? with
  | some (low, high) =>
    (r.toInt?.filter fun n => low ≤ n && n ≤ high).map fun n => .literal (.int n)
  | none =>
    match kind with
    | .boolean => r.toBool?.map fun b => .literal (.bool b)
    | .single | .double => r.toFloat?.map fun x => .literal (.float x)
    | .decimal => r.toDecimal?.map fun d => .literal (.decimal d)
    | .datetime => r.toMoment?.map .moment
    | _ => some (.literal (.str r.display))

end Raw

/-- What is said of a value that does not fit the kind of its property. -/
def mismatchMessage (property raw : String) : String :=
  s!"'{raw}' is not a valid value for the {property} property"

/-- What is said of a code that an enum does not have. -/
def EnumSpec.mismatchMessage (e : EnumSpec) (raw : String) : String :=
  s!"{e.type.name} enum does not contain '{raw}' field"

end DocScript
