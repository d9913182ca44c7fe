import DocScript.Numeral.Binary64

/-!
# Exact decimals

A decimal keeps its coefficient and exponent as written, so `1.50` and `1.5` differ. `read?`
accepts what a numeral may look like, `text` writes the canonical numeral.
-/

namespace DocScript.Numeral

structure Decimal where
  negative : Bool
  coefficient : Nat
  exponent : Int
  deriving DecidableEq, Repr

namespace Decimal

def maxPower : Int := 999999999999999999

def minExponent : Int := -1999999999999999997

/-- The number of digits of the coefficient; zero has one. -/
def digitCount (d : Decimal) : Nat := (Nat.toDigits 10 d.coefficient).length

def power (d : Decimal) : Int := d.exponent + d.digitCount - 1

/-- The exponents lie inside the limits of the format. -/
def inRange (d : Decimal) : Bool :=
  d.power ≤ maxPower && minExponent ≤ d.exponent

/-- The text: positional while no zeros have to be added at the end and at most five stand between
the point and the first digit, else with an exponent. -/
def text (d : Decimal) : String :=
  let ds := (Nat.repr d.coefficient).toList
  let sign := if d.negative then "-" else ""
  if d.exponent ≤ 0 && -6 ≤ d.power then
    if d.exponent == 0 then sign ++ String.ofList ds
    else if 0 ≤ d.power then
      let whole := d.power.toNat + 1
      sign ++ String.ofList (ds.take whole) ++ "." ++ String.ofList (ds.drop whole)
    else
      sign ++ "0." ++ String.ofList (List.replicate (-d.power - 1).toNat '0' ++ ds)
  else
    let tail := if ds.length ≤ 1 then "" else "." ++ String.ofList (ds.drop 1)
    let mark := if d.power < 0 then "-" else "+"
    sign ++ String.ofList (ds.take 1) ++ tail ++ "E" ++ mark ++ Nat.repr d.power.natAbs

/-- Reads a finite decimal. Low lines may stand anywhere and count for nothing. -/
def read? (cs : List Char) : Option Decimal := do
  let (negative, body) := splitSign (cs.filter (· != '_'))
  let (mantissa, exponent) ← splitExponent body
  let (whole, fraction) ← splitPoint mantissa
  let d : Decimal := ⟨negative, ofDigits (whole ++ fraction), exponent - fraction.length⟩
  if d.inRange then some d else none

end Decimal

end DocScript.Numeral
