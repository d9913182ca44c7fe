import DocScript.Numeral.Digits

/-!
# Double precision numbers

A finite number is a significand times a power of two, in the one canonical form that the format
has for it, so that equality is equality of data. `ofRatio` rounds a quotient to the nearest
number, a tie to the even significand; `ofDecimal` does so for a decimal numeral.
-/

namespace DocScript.Numeral

/-- The finite number `± significand * 2 ^ (scale - 1074)` in canonical form. -/
structure Finite64 where
  negative : Bool
  significand : Nat
  scale : Nat
  significand_lt : significand < Nat.pow 2 53
  normal : scale = 0 ∨ Nat.pow 2 52 ≤ significand
  scale_le : scale ≤ 2045
  deriving DecidableEq, Repr

inductive Binary64 where
  | nan
  | infinite (negative : Bool)
  | finite (x : Finite64)
  deriving DecidableEq, Repr

namespace Binary64

def zero (negative : Bool) : Binary64 :=
  .finite ⟨negative, 0, 0, by decide, .inl rfl, by omega⟩

/-- The number with this significand and scale, infinite where the format has none. -/
def ofParts (negative : Bool) (significand scale : Nat) : Binary64 :=
  if h : significand < Nat.pow 2 53 ∧ (scale = 0 ∨ Nat.pow 2 52 ≤ significand) ∧ scale ≤ 2045 then
    .finite ⟨negative, significand, scale, h.1, h.2.1, h.2.2⟩
  else
    .infinite negative

/-- The quotient to the nearest integer, a tie to the even one. -/
def roundDiv (num den : Nat) : Nat :=
  let q := num / den
  let r := num % den
  if 2 * r > den || (2 * r == den && q % 2 == 1) then q + 1 else q

def ofRatio (negative : Bool) (num den : Nat) : Binary64 :=
  let scaled := num * Nat.pow 2 1074
  let scale := Nat.log2 (scaled / den) - 52
  let significand := roundDiv scaled (den * Nat.pow 2 scale)
  if significand == Nat.pow 2 53 then ofParts negative (Nat.pow 2 52) (scale + 1)
  else ofParts negative significand scale

/-- The number nearest to `± coefficient * 10 ^ exponent`. Magnitudes far outside the format are
settled by their number of digits alone. -/
def ofDecimal (negative : Bool) (coefficient : Nat) (exponent : Int) : Binary64 :=
  let leading := (Nat.toDigits 10 coefficient).length + exponent
  if coefficient == 0 || leading < -330 then zero negative
  else if leading > 310 then .infinite negative
  else if 0 ≤ exponent then ofRatio negative (coefficient * Nat.pow 10 exponent.toNat) 1
  else ofRatio negative coefficient (Nat.pow 10 (-exponent).toNat)

/-- The number nearest to an integer, if it is finite. -/
def ofInt? (n : Int) : Option Binary64 :=
  match ofRatio (n < 0) n.natAbs 1 with
  | .infinite _ => none
  | x => some x

end Binary64

/-- The integer that a finite number is, if it is one. -/
def Finite64.toInt? (x : Finite64) : Option Int :=
  if 1074 ≤ x.scale then
    some (signed x.negative (x.significand * Nat.pow 2 (x.scale - 1074)))
  else if x.significand % Nat.pow 2 (1074 - x.scale) == 0 then
    some (signed x.negative (x.significand / Nat.pow 2 (1074 - x.scale)))
  else
    none

def Binary64.toInt? : Binary64 → Option Int
  | .finite x => x.toInt?
  | _ => none

def spells (word : String) (cs : List Char) : Bool :=
  cs.map Char.toLower == word.toList

/-- Splits at the first exponent letter, which must be followed by a signed exponent. -/
def splitExponent (cs : List Char) : Option (List Char × Int) :=
  match cs.span (fun c => c != 'e' && c != 'E') with
  | (body, []) => some (body, 0)
  | (body, _ :: power) =>
    let (negative, ds) := splitSign power
    (digits? ds).map fun ds => (body, signed negative (ofDigits ds))

/-- The digits before and after the point of a numeral, at least one in all. -/
def splitPoint (cs : List Char) : Option (List Nat × List Nat) :=
  match cs.span (· != '.') with
  | (whole, []) => (digits? whole).map (·, [])
  | (whole, _ :: fraction) =>
    match whole, fraction with
    | [], [] => none
    | [], _ => (digits? fraction).map ([], ·)
    | _, [] => (digits? whole).map (·, [])
    | _, _ => do return (← digits? whole, ← digits? fraction)

/-- Reads a number: an optional sign, then a numeral with optional point and exponent or one of
the words `inf`, `infinity` and `nan`. -/
def Binary64.read? (cs : List Char) : Option Binary64 :=
  let (negative, body) := splitSign cs
  if spells "inf" body || spells "infinity" body then some (.infinite negative)
  else if spells "nan" body then some .nan
  else do
    let (mantissa, exponent) ← splitExponent body
    let (whole, fraction) ← splitPoint mantissa
    return ofDecimal negative (ofDigits (whole ++ fraction)) (exponent - fraction.length)

end DocScript.Numeral
