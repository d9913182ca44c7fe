import DocScript.Numeral.Binary64

/-!
# The shortest decimal of a double precision number

`shortest` gives the decimal with the fewest digits that reads back as the number, and of those
the nearest one. `FloatStyle` says how such a decimal is laid out as text.
-/

namespace DocScript.Numeral

structure Scientific where
  coefficient : Nat
  exponent : Int
  deriving DecidableEq, Repr

namespace Finite64

def scaledMagnitude (x : Finite64) : Nat :=
  x.significand * Nat.pow 2 x.scale * Nat.pow 5 1074

def exactDecimal (x : Finite64) : Scientific := ⟨x.scaledMagnitude, -1074⟩

/-- The decimal reads back as the number, its sign apart. -/
def readsBack (x : Finite64) (s : Scientific) : Bool :=
  Binary64.ofDecimal x.negative s.coefficient s.exponent == .finite x

/-- The two decimals next to the magnitude that drop its last `drop` digits, nearer one first; of
two equally near ones the even one is first. -/
def neighbours (x : Finite64) (drop : Nat) : List Scientific :=
  let unit := Nat.pow 10 drop
  let below := x.scaledMagnitude / unit
  let rest := x.scaledMagnitude % unit
  let exponent : Int := drop - 1074
  if 2 * rest > unit || (2 * rest == unit && below % 2 == 1) then
    [⟨below + 1, exponent⟩, ⟨below, exponent⟩]
  else
    [⟨below, exponent⟩, ⟨below + 1, exponent⟩]

/-- Decimals of one digit, of two and so on up to 17, and last the exact one. -/
def candidates (x : Finite64) : List Scientific :=
  let size := (Nat.toDigits 10 x.scaledMagnitude).length
  ((List.range 17).flatMap fun n => if n + 1 ≤ size then x.neighbours (size - (n + 1)) else [])
    ++ [x.exactDecimal]

end Finite64

/-- Moves zeros at the end of the coefficient into the exponent; `fuel` bounds their number. -/
def Scientific.dropZeros : Nat → Scientific → Scientific
  | 0, s => s
  | fuel + 1, s =>
    if s.coefficient % 10 == 0 && s.coefficient != 0 then
      dropZeros fuel ⟨s.coefficient / 10, s.exponent + 1⟩
    else s

def Scientific.normalize (s : Scientific) : Scientific :=
  if s.coefficient == 0 then ⟨0, 0⟩ else s.dropZeros (Nat.log2 s.coefficient + 1)

/-- The shortest decimal that reads back as the number. -/
def Finite64.shortest (x : Finite64) : Scientific :=
  ((x.candidates.find? x.readsBack).getD x.exactDecimal).normalize

/-- How a decimal is written: positionally while the power of ten of its first digit is at least
`low` and below `high`, else with an exponent of at least `exponentWidth` digits. -/
structure FloatStyle where
  low : Int
  high : Int
  exponentWidth : Nat

def padZeros (width : Nat) (s : String) : String :=
  String.ofList (List.replicate (width - s.length) '0') ++ s

/-- The text of a decimal without its sign. Positional text has at least one digit on either side
of the point. -/
def FloatStyle.magnitude (style : FloatStyle) (s : Scientific) : String :=
  let ds := (Nat.repr s.coefficient).toList
  let power : Int := s.exponent + ds.length - 1
  if style.low ≤ power && power < style.high then
    if 0 ≤ s.exponent then
      String.ofList (ds ++ List.replicate s.exponent.toNat '0') ++ ".0"
    else if 0 ≤ power then
      let whole := power.toNat + 1
      String.ofList (ds.take whole) ++ "." ++ String.ofList (ds.drop whole)
    else
      "0." ++ String.ofList (List.replicate (-power - 1).toNat '0' ++ ds)
  else
    let head := String.ofList (ds.take 1)
    let tail := if ds.length ≤ 1 then "" else "." ++ String.ofList (ds.drop 1)
    let sign := if power < 0 then "-" else "+"
    head ++ tail ++ "e" ++ sign ++ padZeros style.exponentWidth (Nat.repr power.natAbs)

def FloatStyle.text (style : FloatStyle) (x : Finite64) : String :=
  (if x.negative then "-" else "") ++ style.magnitude x.shortest

/-- Numbers inside a text or message: `0.0001`, `1e-05`, `1e+16`. -/
def displayStyle : FloatStyle := ⟨-4, 16, 2⟩

/-- Numbers in a stored script: `0.00001`, `1e-6`, `1e+16`. -/
def storedStyle : FloatStyle := ⟨-5, 16, 1⟩

/-- The text of any number inside a text or message. -/
def Binary64.display : Binary64 → String
  | .nan => "nan"
  | .infinite negative => if negative then "-inf" else "inf"
  | .finite x => displayStyle.text x

end DocScript.Numeral
