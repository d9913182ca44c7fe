import DocScript.Text.Digit

/-!
# Digit sequences

Decimal digits of any script, read as values, and their number. Inside a sequence a single low
line may stand between two digits.
-/

namespace DocScript.Numeral

open Text

/-- The number that digit values spell, most significant first. -/
def ofDigits (ds : List Nat) : Nat := ds.foldl (fun n d => 10 * n + d) 0

/-- The values of one or more digits, with single low lines between digits allowed. -/
def digits? : List Char → Option (List Nat)
  | [] => none
  | [c] => (decimalValue? c).map ([·])
  | c :: '_' :: rest => do
    let d ← decimalValue? c
    let ds ← digits? rest
    return d :: ds
  | c :: rest => do
    let d ← decimalValue? c
    let ds ← digits? rest
    return d :: ds

/-- An optional sign, `true` for minus, and what follows it. -/
def splitSign : List Char → Bool × List Char
  | '-' :: rest => (true, rest)
  | '+' :: rest => (false, rest)
  | cs => (false, cs)

def intText (n : Int) : String :=
  if n < 0 then "-" ++ Nat.repr n.natAbs else Nat.repr n.natAbs

/-- The longest digit sequence that is read or written as one integer. -/
def maxDigits : Nat := 4300

/-- The integer with the given sign and magnitude. -/
def signed (negative : Bool) (n : Nat) : Int := if negative then -(n : Int) else n

/-- Reads an integer: an optional sign and digits, at most `maxDigits` of them. -/
def readInt? (cs : List Char) : Option Int :=
  let (negative, body) := splitSign cs
  match digits? body with
  | some ds => if ds.length ≤ maxDigits then some (signed negative (ofDigits ds)) else none
  | none => none

end DocScript.Numeral
