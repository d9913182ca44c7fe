import DocScript.Console.Line

/-!
# Widths of columns

A column is as wide as its widest cell, with a blank on either side. If the columns of a table do
not fit on the terminal, those that may wrap give way first, the widest before all others.
-/

namespace DocScript.Console

open Text

structure Column where
  title : String
  side : Side
  wraps : Bool
  deriving DecidableEq, Repr

/-- A character at which a text is divided into lines when it is measured. -/
def isLineEnd (c : Char) : Bool :=
  c == '\n' || (0x1C ≤ c.toNat && c.toNat ≤ 0x1E) || c.toNat == 0x85 || c.toNat == 0x2028
    || c.toNat == 0x2029

def Styled.widest (s : Styled) : Nat :=
  ((s.chars.splitOnP isLineEnd).map Text.columns).foldl max 0

def padding : Nat := 2

/-- The width of a column with some cells that may be `room` wide. -/
def measure (room : Nat) (cells : List Styled) : Nat :=
  if room ≤ padding then room
  else min room (padding + (cells.map Styled.widest).foldl max 0)

/-- A quotient rounded to the nearest number. A half goes to the even neighbor. -/
def roundedQuotient (n d : Nat) : Nat :=
  let q := n / d
  let twice := 2 * (n % d)
  if twice < d || (twice = d && q % 2 = 0) then q else q + 1

/-- Takes `excess` from the widths that take part, in equal parts, but from none more than its
limit. `shares` counts the widths that are left to take part. -/
def takeEqually : (excess shares : Nat) → List (Bool × Nat × Nat) → List Nat
  | _, _, [] => []
  | excess, shares, (takesPart, limit, width) :: ws =>
    if takesPart && 0 < shares then
      let taken := min limit (roundedQuotient excess shares)
      (width - taken) :: takeEqually (excess - taken) (shares - 1) ws
    else width :: takeEqually excess shares ws

/-- Takes `excess` from the widths that take part. A limit of nothing leaves its width out. -/
def reduce (excess : Nat) (ws : List (Bool × Nat × Nat)) : List Nat :=
  let ws := ws.map fun (takesPart, limit, width) => (takesPart && limit ≠ 0, limit, width)
  takeEqually excess (ws.countP (·.1)) ws

/-- Narrows the widest columns that may wrap to the next widest, until the widths fit into `room`
or nothing is left to take. Each of at most `steps` steps takes something. -/
def collapse (room : Nat) (wraps : List Bool) : (steps : Nat) → List Nat → List Nat
  | 0, widths => widths
  | steps + 1, widths =>
    let excess := total widths - room
    let flexible := ((widths.zip wraps).filter (·.2)).map (·.1)
    let widest := flexible.foldl max 0
    let second := (flexible.filter (· ≠ widest)).foldl max 0
    if excess = 0 || flexible.isEmpty || widest = second then widths
    else
      let limit := min excess (widest - second)
      collapse room wraps steps <| reduce excess <|
        (widths.zip wraps).map fun (w, wraps) => (wraps && w = widest, limit, w)

/-- The widths of columns with their cells that fit into `room`, as far as that can be. -/
def columnWidths (room : Nat) (columns : List Column) (cells : List (List Styled)) : List Nat :=
  let widths := cells.map (measure room)
  if total widths ≤ room then widths
  else
    let narrow := collapse room (columns.map (·.wraps)) (total widths) widths
    let narrow := if total narrow ≤ room then narrow
      else reduce (total narrow - room) (narrow.map fun w => (true, w, w))
    (narrow.zip cells).map fun (w, cells) => measure w cells

end DocScript.Console
