import DocScript.Text.Blank
import DocScript.Text.Width

/-!
# Styled text

Text with spans that have a style. A span that ends after the text ends with it. What is cut from
a text keeps the spans that reach into it.
-/

namespace DocScript.Console

open Text

/-- The characters from `start` up to `stop` have a style. -/
structure Span where
  start : Nat
  stop : Nat
  style : String
  deriving DecidableEq, Repr

structure Styled where
  chars : List Char
  spans : List Span
  deriving DecidableEq, Repr

def tabSize : Nat := 8

def isDropped (c : Char) : Bool :=
  c.toNat == 7 || c.toNat == 8 || c.toNat == 11 || c.toNat == 12 || c.toNat == 13

def shown (cs : List Char) : List Char := cs.filter fun c => !isDropped c

namespace Styled

def ofString (s : String) : Styled := ⟨shown s.toList, []⟩

def length (s : Styled) : Nat := s.chars.length

def columns (s : Styled) : Nat := Text.columns s.chars

/-- The characters from `start` up to `stop`, with the parts of spans that are not empty. -/
def slice (s : Styled) (start stop : Nat) : Styled :=
  ⟨(s.chars.drop start).take (stop - start), s.spans.filterMap fun x =>
    let first := x.start - start
    let last := min x.stop stop - start
    if first < last then some ⟨first, last, x.style⟩ else none⟩

/-- The parts between the cuts. Without a cut the text keeps its empty spans too. -/
def divide (s : Styled) (cuts : List Nat) : List Styled :=
  if cuts.isEmpty then [s]
  else ((0 :: cuts).zip (cuts ++ [s.length])).map fun (start, stop) => s.slice start stop

def lines (s : Styled) : List Styled :=
  let breaks := (s.chars.zipIdx.filter fun (c, _) => c == '\n').map (·.2)
  if breaks.isEmpty then [s]
  else ((0 :: breaks.map (· + 1)).zip (breaks ++ [s.length])).map fun (start, stop) =>
    s.slice start stop

def append (s t : Styled) : Styled :=
  ⟨s.chars ++ t.chars, s.spans ++ t.spans.map fun x =>
    ⟨x.start + s.length, x.stop + s.length, x.style⟩⟩

/-- The text with blanks at its end, which belong to the spans that reach there. -/
def extend (s : Styled) (blanks : Nat) : Styled :=
  ⟨s.chars ++ List.replicate blanks ' ', s.spans.map fun x =>
    if s.length ≤ x.stop then { x with stop := x.stop + blanks } else x⟩

/-- The text without the characters after the first `n`. -/
def keep (s : Styled) (n : Nat) : Styled :=
  ⟨s.chars.take n, (s.spans.filter (·.start < n)).map fun x => { x with stop := min n x.stop }⟩

/-- The text with other characters. Spans lose what the new characters are short of. -/
def withChars (s : Styled) (cs : List Char) : Styled :=
  if cs.length < s.length then ⟨cs, (s.keep cs.length).spans⟩ else ⟨cs, s.spans⟩

/-- Replaces the tab at the end of a part that starts at a column. -/
def expandTab (column : Nat) (part : Styled) : Nat × Styled :=
  if part.chars.getLast? == some '\t' then
    let blanked : Styled := { part with chars := part.chars.dropLast ++ [' '] }
    let column := column + blanked.columns
    let blanks := if column % tabSize = 0 then 0 else tabSize - column % tabSize
    (column + blanks, blanked.extend blanks)
  else (column + part.columns, part)

/-- Replaces the tabs of a line by blanks up to the next tab stop. -/
def expandTabs (s : Styled) : Styled :=
  let cuts := (s.chars.zipIdx.filter fun (c, _) => c == '\t').map (·.2 + 1)
  if cuts.isEmpty then s
  else
    ((s.divide cuts).foldl (fun (column, done) part =>
      let (column, part) := expandTab column part
      (column, append done part)) (0, (⟨[], []⟩ : Styled))).2

/-- A style starts or ends before the character with this index. -/
def isSeam (s : Styled) (i : Nat) : Bool :=
  s.spans.any fun x => x.start == i || x.stop == i

def stretches (s : Styled) : List (List Char) :=
  (s.chars.zipIdx.splitBy fun _ next => !s.isSeam next.2).map (·.map (·.1))

end Styled

def total (widths : List Nat) : Nat := widths.foldl (· + ·) 0

/-- The columns of stretches, each measured on its own. -/
def stretchColumns (parts : List (List Char)) : Nat := total (parts.map columns)

/-- The stretches that fit into some columns, the last one cropped. -/
def cropStretches (room : Nat) : List (List Char) → List (List Char)
  | [] => []
  | p :: ps =>
    if columns p < room then p :: cropStretches (room - columns p) ps else [fit room p]

def limitStretches (room : Nat) (parts : List (List Char)) : List (List Char) :=
  if room < stretchColumns parts then cropStretches room parts else parts

/-- The stretches cropped or with blanks at the end, so that they take some columns. -/
def fitStretches (room : Nat) (parts : List (List Char)) : List (List Char) :=
  if stretchColumns parts < room then
    parts ++ [List.replicate (room - stretchColumns parts) ' ']
  else limitStretches room parts

end DocScript.Console
