/-!
# Runs of code points

Character classes are lists of runs. A run with a stride of two holds every second code point,
as where upper and lower case alternate.
-/

namespace DocScript.Text

/-- The code points `first`, `first + stride` and so on up to `last`. -/
structure CodeRun where
  first : Nat
  last : Nat
  stride : Nat
  deriving Repr, DecidableEq

def CodeRun.contains (r : CodeRun) (n : Nat) : Bool :=
  r.first ≤ n && n ≤ r.last && (n - r.first) % r.stride == 0

abbrev CodeSet := List CodeRun

def CodeSet.contains (s : CodeSet) (c : Char) : Bool :=
  s.any fun r => r.contains c.toNat

end DocScript.Text
