import DocScript.Json.Token
import DocScript.Toml.Scan

/-!
# Numbers

An integer has a sign and no leading zeros, or a base of 16, 8 or 2 after a zero. A fraction or an
exponent makes a number real. A single low line may stand between two digits.
-/

namespace DocScript.Toml

open Numeral

def digitOf? (base : Nat) (c : Char) : Option Nat := (Json.hexValue? c).filter (· < base)

/-- Digits after a first one, each with an optional low line in front. -/
def moreDigits (base : Nat) : List Char → List Nat × List Char
  | [] => ([], [])
  | [c] =>
    match digitOf? base c with
    | some d => ([d], [])
    | none => ([], [c])
  | c :: c' :: rest =>
    match digitOf? base c with
    | some d =>
      let (ds, rest) := moreDigits base (c' :: rest)
      (d :: ds, rest)
    | none =>
      if c == '_' then
        match digitOf? base c' with
        | some d =>
          let (ds, rest) := moreDigits base rest
          (d :: ds, rest)
        | none => ([], c :: c' :: rest)
      else ([], c :: c' :: rest)

def someDigits? (base : Nat) : List Char → Option (List Nat × List Char)
  | [] => none
  | c :: rest => do
    let d ← digitOf? base c
    let (ds, rest) := moreDigits base rest
    return (d :: ds, rest)

/-- Bases other than ten with the letters that stand for them. -/
def bases : List (Char × Nat) := [('x', 16), ('o', 8), ('b', 2)]

def basedInteger? : List Char → Option (Int × List Char)
  | '0' :: letter :: rest => do
    let base ← bases.lookup letter
    let (ds, rest) ← someDigits? base rest
    return (Int.ofNat (ds.foldl (fun n d => base * n + d) 0), rest)
  | _ => none

/-- The digits in front of a point: a zero alone, or more without leading zeros. -/
def wholeDigits? : List Char → Option (List Nat × List Char)
  | '0' :: rest => some ([0], rest)
  | cs => someDigits? 10 cs

def fractionDigits : List Char → List Nat × List Char
  | '.' :: rest => (someDigits? 10 rest).getD ([], '.' :: rest)
  | cs => ([], cs)

def exponentOf : List Char → Option Int × List Char
  | [] => (none, [])
  | c :: rest =>
    if c == 'e' || c == 'E' then
      let (negative, ds) := splitSign rest
      match someDigits? 10 ds with
      | some (ds, rest) => (some (signed negative (ofDigits ds)), rest)
      | none => (none, c :: rest)
    else (none, c :: rest)

def realWord? (negative : Bool) (cs : List Char) : Option (Binary64 × List Char) :=
  if "inf".toList.isPrefixOf cs then some (.infinite negative, cs.drop 3)
  else if "nan".toList.isPrefixOf cs then some (.nan, cs.drop 3)
  else none

/-- Reads a number at the start of a text, if there is one. -/
def number? (cs : List Char) : Option (Except Cause Value × List Char) :=
  match basedInteger? cs with
  | some (n, rest) => some (.ok (.integer n), rest)
  | none =>
    let (negative, body) := splitSign cs
    match wholeDigits? body with
    | none => (realWord? negative body).map fun (x, rest) => (.ok (.real x), rest)
    | some (whole, rest) =>
      let (fraction, rest) := fractionDigits rest
      let (exponent, rest) := exponentOf rest
      if fraction.isEmpty && exponent.isNone then
        if whole.length ≤ maxDigits then
          some (.ok (.integer (signed negative (ofDigits whole))), rest)
        else some (.error (.tooManyDigits whole.length), rest)
      else
        some (.ok (.real (.ofDecimal negative (ofDigits (whole ++ fraction))
          (exponent.getD 0 - fraction.length))), rest)

end DocScript.Toml
